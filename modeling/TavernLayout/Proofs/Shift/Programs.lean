import TavernLayout.Layout.Plot
import TavernLayout.Proofs.Shift.Geometry
import TavernLayout.Proofs.Works

/-!
# Programs on a shifted building

A building is shifted by moving everything in it by one vector of the plan; kinds, layers, links and
counts stay. Two programs correspond if, started in corresponding states, they ask the same
questions and end in corresponding states, with results that correspond or with similar faults.

* `Works.shift`: the shifted building;
* `Source.Shifting`: sources whose answers move along with the bounds they are asked for;
* `Moves`: programs that correspond, with one rule for each way of building a program.
-/

namespace TavernLayout

/-! ## Shifted buildings -/

def Wall.shift (w : Wall) (t : Vec2) : Wall := { w with start := w.start + t, stop := w.stop + t }

def Stairs.shift (s : Stairs) (t : Vec2) : Stairs := { s with bounds := s.bounds.shift t }

def Roof.shift (r : Roof) (t : Vec2) : Roof :=
  { r with bounds := r.bounds.shift t, stairs := r.stairs.map (·.shift t) }

def Furniture.shift (f : Furniture) (t : Vec2) : Furniture :=
  match f with
  | bar area => bar (area.shift t)
  | stage area => stage (area.shift t)
  | table position chairs => table (position + t) chairs

def Room.shift (r : Room) (t : Vec2) : Room :=
  { r with
    bounds := r.bounds.shift t
    areas := r.areas.map (·.shift t)
    furniture := r.furniture.map (·.shift t) }

/-- Of all events only the last one tells a place. -/
def Event.shift (e : Event) (t : Vec2) : Event :=
  match e with
  | generated name door rooms walls roofs => generated name (door.shift t) rooms walls roofs
  | e => e

/-- Changing one entry, before every entry is changed or after. -/
theorem modify_map {α β : Type} {f : α → β} {h : α → α} {h' : β → β} (hh : ∀ a, h' (f a) = f (h a))
    (as : List α) (i : Nat) : (as.map f).modify i h' = (as.modify i h).map f := by
  induction as generalizing i with
  | nil => cases i <;> rfl
  | cons a as ih =>
    cases i with
    | zero => rw [List.map_cons, List.modify_zero_cons, List.modify_zero_cons, List.map_cons, hh]
    | succ i =>
      rw [List.map_cons, List.modify_succ_cons, List.modify_succ_cons, List.map_cons, ih]

namespace Store

variable {e : Entity} {α β : Type}

def map (f : α → β) (s : Store e α) : Store e β := { items := s.items.map f, frozen := s.frozen }

variable {f : α → β} {s : Store e α} {r : Ref e}

@[simp] theorem size_map : (s.map f).size = s.size := List.length_map _

@[simp] theorem refs_map : (s.map f).refs = s.refs := by
  rw [refs, size_map, refs]

theorem position?_map : (s.map f).position? r = s.position? r := by
  unfold position?
  rw [size_map]

theorem lookup_map : (s.map f).lookup r = f <$> s.lookup r := by
  unfold lookup get?
  rw [position?_map]
  cases s.position? r with
  | none => rfl
  | some i =>
    simp only [Option.bind_some, map, List.getElem?_map]
    cases s.items[i]? <;> rfl

theorem entries_map : (s.map f).entries = s.entries.map (Prod.map id f) := by
  unfold entries
  rw [refs_map]
  exact List.zip_map_right

theorem insert_map (a : α) : (s.map f).insert (f a) = Prod.map id (Store.map f) <$> s.insert a := by
  unfold insert
  rw [size_map, show (s.map f).frozen = s.frozen from rfl]
  split
  · rfl
  · simp [map, Functor.map, Except.map]

theorem modify_map {h : α → α} {h' : β → β} (hh : ∀ a, h' (f a) = f (h a)) :
    (s.map f).modify r h' = Store.map f <$> s.modify r h := by
  unfold modify
  rw [position?_map]
  cases s.position? r with
  | none => rfl
  | some i => simp [map, TavernLayout.modify_map hh, Functor.map, Except.map]

end Store

def Works.shift {σ : Type} (w : Works σ) (t : Vec2) : Works σ :=
  { w with
    rooms := w.rooms.map (·.shift t)
    walls := w.walls.map (·.shift t)
    journal := w.journal.map (·.shift t) }

@[simp] theorem Works.rooms_shift {σ : Type} {w : Works σ} {t : Vec2} :
    (w.shift t).rooms = w.rooms.map (·.shift t) := rfl

@[simp] theorem Works.frontier_shift {σ : Type} {w : Works σ} {t : Vec2} :
    (w.shift t).frontier = w.frontier := rfl

@[simp] theorem Works.walls_shift {σ : Type} {w : Works σ} {t : Vec2} :
    (w.shift t).walls = w.walls.map (·.shift t) := rfl

/-! ## Similar faults -/

/-- The two faults are of one kind; a plot that is too small may lie elsewhere. -/
def Fault.Similar : Fault → Fault → Prop
  | noInterior _, noInterior _ => True
  | noEntrance _, noEntrance _ => True
  | e, e' => e = e'

@[refl] theorem Fault.Similar.refl (e : Fault) : e.Similar e := by
  cases e <;> trivial

/-! ## Programs that correspond -/

section Moves

variable {σ α β α' β' : Type}

def Moved (g : σ → σ) (f : α → α') : EStateM.Result Fault σ α → EStateM.Result Fault σ α' → Prop
  | .ok a s, .ok a' s' => a' = f a ∧ s' = g s
  | .error e s, .error e' s' => e.Similar e' ∧ s' = g s
  | _, _ => False

/-- The second program does to `g s` what the first one does to `s`. -/
def Moves (g : σ → σ) (f : α → α') (x : EStateM Fault σ α) (y : EStateM Fault σ α') : Prop :=
  ∀ s, Moved g f (x s) (y (g s))

namespace Moves

variable {g : σ → σ} {f : α → α'} {f' : β → β'} {x : EStateM Fault σ α} {y : EStateM Fault σ α'}

/-- A sequence, where the second parts need to correspond after possible results only. -/
theorem bind_of_ok {k : α → EStateM Fault σ β} {l : α' → EStateM Fault σ β'} (h : Moves g f x y)
    (hk : ∀ a s u, x s = .ok a u → Moves g f' (k a) (l (f a))) :
    Moves g f' (x >>= k) (y >>= l) := by
  intro s
  have hs := h s
  simp only [Bind.bind, EStateM.bind]
  cases hx : x s with
  | ok a u =>
    cases hy : y (g s) with
    | ok a' u' =>
      rw [hx, hy] at hs
      obtain ⟨rfl, rfl⟩ := hs
      exact hk a s u hx u
    | error e' u' =>
      rw [hx, hy] at hs
      exact hs.elim
  | error e u =>
    cases hy : y (g s) with
    | ok a' u' =>
      rw [hx, hy] at hs
      exact hs.elim
    | error e' u' =>
      rw [hx, hy] at hs
      exact hs

theorem bind {k : α → EStateM Fault σ β} {l : α' → EStateM Fault σ β'} (h : Moves g f x y)
    (hk : ∀ a, Moves g f' (k a) (l (f a))) : Moves g f' (x >>= k) (y >>= l) :=
  h.bind_of_ok fun a _ _ _ => hk a

theorem pure {a : α} {a' : α'} (h : a' = f a) :
    Moves g f (Pure.pure a : EStateM Fault σ α) (Pure.pure a') :=
  fun _ => ⟨h, rfl⟩

theorem throw {e e' : Fault} (h : e.Similar e') :
    Moves g f (throw e : EStateM Fault σ α) (throw e') :=
  fun _ => ⟨h, rfl⟩

theorem ite {c c' : Prop} [Decidable c] [Decidable c'] (hc : c' ↔ c)
    {x₁ x₂ : EStateM Fault σ α} {y₁ y₂ : EStateM Fault σ α'} (h₁ : c → Moves g f x₁ y₁)
    (h₂ : ¬c → Moves g f x₂ y₂) : Moves g f (if c then x₁ else x₂) (if c' then y₁ else y₂) := by
  by_cases h : c
  · rw [if_pos h, if_pos (hc.2 h)]
    exact h₁ h
  · rw [if_neg h, if_neg (mt hc.1 h)]
    exact h₂ h

theorem get : Moves g g (get : EStateM Fault σ σ) get := fun _ => ⟨rfl, rfl⟩

theorem modify {h h' : σ → σ} (hg : ∀ s, h' (g s) = g (h s)) :
    Moves g id (modify h : EStateM Fault σ PUnit) (modify h') :=
  fun s => ⟨rfl, hg s⟩

theorem refl (x : EStateM Fault σ α) : Moves id id x x := by
  intro s
  show Moved id id (x s) (x s)
  cases x s with
  | ok a u => exact ⟨rfl, rfl⟩
  | error e u => exact ⟨.refl e, rfl⟩

theorem map {h : α → β} {h' : α' → β'} (hx : Moves g f x y) (hh : ∀ a, h' (f a) = f' (h a)) :
    Moves g f' (h <$> x) (h' <$> y) := by
  rw [map_eq_pure_bind, map_eq_pure_bind]
  exact hx.bind fun a => pure (hh a)

theorem discard (hx : Moves g f x y) : Moves g id (discard x) (discard y) := by
  show Moves g id (Function.const α PUnit.unit <$> x) (Function.const α' PUnit.unit <$> y)
  exact hx.map fun _ => rfl

/-- A computation without a state that corresponds to itself. -/
theorem lift (x : Except Fault α) :
    Moves g id (liftM x : EStateM Fault σ α) (liftM x : EStateM Fault σ α) := by
  cases x with
  | ok a => exact fun _ => ⟨rfl, rfl⟩
  | error e => exact fun _ => ⟨.refl e, rfl⟩

/-- A computation without a state whose result is changed. -/
theorem lift_map {x : Except Fault α} {y : Except Fault α'} (h : y = f <$> x) :
    Moves g f (liftM x : EStateM Fault σ α) (liftM y : EStateM Fault σ α') := by
  subst h
  cases x with
  | ok a => exact fun _ => ⟨rfl, rfl⟩
  | error e => exact fun _ => ⟨.refl e, rfl⟩

end Moves

end Moves

/-! ## Draws -/

namespace Source

variable {σ α β : Type} {src : Source σ}

/-- An answer moves along with the bounds that are asked for, and the source goes on in the same
way. -/
def Shifting (src : Source σ) : Prop :=
  ∀ s lo hi k, lo ≤ hi → src.nextBetween s (lo + k) (hi + k) =
    ((src.nextBetween s lo hi).1 + k, (src.nextBetween s lo hi).2)

theorem moves_between (hs : src.Shifting) (lo hi k : Int) :
    Moves id (· + k) (src.between lo hi) (src.between (lo + k) (hi + k)) := by
  intro st
  unfold between
  by_cases h : hi < lo
  · rw [if_pos h, if_pos (by omega)]
    exact ⟨.refl _, rfl⟩
  · rw [if_neg h, if_neg (by omega)]
    show Moved id (· + k) (ask (src.nextBetween · lo hi) st)
      (ask (src.nextBetween · (lo + k) (hi + k)) st)
    simp only [ask, hs st.state lo hi k (by omega)]
    exact ⟨rfl, rfl⟩

/-- A choice depends on the number of members only. -/
theorem moves_choose (f : α → β) (as : List α) :
    Moves id f (src.choose as) (src.choose (as.map f)) := by
  cases as with
  | nil => exact fun st => ⟨.refl _, rfl⟩
  | cons a as =>
    intro st
    simp only [List.map_cons, choose, List.length_map]
    refine ⟨?_, rfl⟩
    rw [← List.map_cons, List.getD_eq_getElem?_getD, List.getElem?_map, Option.getD_map,
      ← List.getD_eq_getElem?_getD]
    rfl

end Source

/-! ## Building programs -/

variable {σ α β : Type} {t : Vec2}

/-- The second program does to a shifted building what the first one does to the building. -/
abbrev Shifts (t : Vec2) (f : α → β) (x : Build σ α) (y : Build σ β) : Prop :=
  Moves (Works.shift · t) f x y

namespace Build

theorem shifts_draw {f : α → β} {d : Draw σ α} {d' : Draw σ β} (h : Moves id f d d') :
    Shifts t f (draw d) (draw d') := by
  intro w
  have hd : Moved id f (d w.stream) (d' w.stream) := h w.stream
  simp only [draw, show (w.shift t).stream = w.stream from rfl]
  cases hx : d w.stream with
  | ok a st =>
    cases hy : d' w.stream with
    | ok a' st' =>
      rw [hx, hy] at hd
      obtain ⟨rfl, rfl⟩ := hd
      exact ⟨rfl, rfl⟩
    | error e' st' =>
      rw [hx, hy] at hd
      exact hd.elim
  | error e st =>
    cases hy : d' w.stream with
    | ok a' st' =>
      rw [hx, hy] at hd
      exact hd.elim
    | error e' st' =>
      rw [hx, hy] at hd
      obtain ⟨hsim, rfl⟩ := hd
      exact ⟨hsim, rfl⟩

theorem shifts_note (e : Event) : Shifts t id (note e : Build σ Unit) (note (e.shift t)) := by
  apply Moves.modify
  intro w
  simp only [Works.shift, List.map_append, List.map_cons, List.map_nil]

theorem shifts_refuse {f : Option α → Option β} (hf : f none = none) {e : Event}
    (he : e.shift t = e) : Shifts t f (refuse e : Build σ (Option α)) (refuse e) := by
  have hnote := shifts_note (σ := σ) (t := t) e
  rw [he] at hnote
  exact hnote.bind fun _ => .pure hf.symm

theorem shifts_room (id : Ref .room) :
    Shifts t (Room.shift · t) (room id : Build σ Room) (room id) :=
  Moves.get.bind fun _ => .lift_map Store.lookup_map

theorem shifts_wall (id : Ref .wall) :
    Shifts t (Wall.shift · t) (wall id : Build σ Wall) (wall id) :=
  Moves.get.bind fun _ => .lift_map Store.lookup_map

theorem shifts_addRoom (r : Room) :
    Shifts t id (addRoom r : Build σ (Ref .room)) (addRoom (r.shift t)) := by
  refine Moves.get.bind fun w => (Moves.lift_map (Store.insert_map r)).bind fun p => ?_
  obtain ⟨i, rooms⟩ := p
  dsimp only [Prod.map]
  refine Moves.bind (Moves.modify fun w => rfl) fun _ => ?_
  exact .pure rfl

theorem shifts_addWall (wl : Wall) :
    Shifts t id (addWall wl : Build σ (Ref .wall)) (addWall (wl.shift t)) := by
  refine Moves.get.bind fun w => (Moves.lift_map (Store.insert_map wl)).bind fun p => ?_
  obtain ⟨i, walls⟩ := p
  dsimp only [Prod.map]
  refine Moves.bind (Moves.modify fun w => rfl) fun _ => ?_
  exact .pure rfl

theorem shifts_changeRoom (i : Ref .room) {f f' : Room → Room}
    (hf : ∀ r, f' (r.shift t) = (f r).shift t) :
    Shifts t id (changeRoom i f : Build σ Unit) (changeRoom i f') :=
  Moves.get.bind fun _ => (Moves.lift_map (Store.modify_map hf)).bind fun _ =>
    Moves.modify fun _ => rfl

theorem shifts_offer (p : Prospect) (k : Kind) :
    Shifts t id (offer p k : Build σ Unit) (offer p k) :=
  Moves.modify fun _ => rfl

end Build

/-! ## Rooms -/

namespace Room

variable {r : Room} {roofs : Store .roof Roof}

@[simp] theorem footprint_shift : (r.shift t).footprint = r.footprint.shift t := rfl

@[simp] theorem kind_shift : (r.shift t).kind = r.kind := rfl

@[simp] theorem top_shift : (r.shift t).top = r.top := rfl

@[simp] theorem bounds_shift : (r.shift t).bounds = r.bounds.shift t := rfl

theorem enclosedBy_map (space : Rect) (ids : List (Ref .roof)) :
    enclosedBy (roofs.map (·.shift t)) (space.shift t) ids = enclosedBy roofs space ids := by
  induction ids with
  | nil => rfl
  | cons id ids ih =>
    unfold enclosedBy
    rw [Store.lookup_map, ih]
    cases roofs.lookup id with
    | error e => rfl
    | ok roof =>
      show (if (roof.bounds.shift t).Encloses (space.shift t) then _ else _) = _
      simp only [Rect.encloses_shift]
      rfl

theorem coveredBy_map :
    (r.shift t).coveredBy (roofs.map (·.shift t)) = r.coveredBy roofs :=
  enclosedBy_map r.footprint r.roofs

end Room

end TavernLayout
