import TavernLayout.Layout.Basement
import TavernLayout.Proofs.Growth.Chances
import TavernLayout.Proofs.Placement

/-!
# What an attempt does

An attempt to add a room either gives up, and then only the random stream and the journal have
changed, or it adds one room, whose place and surroundings are known exactly.

* `SideRoom.Attempt`, `attempt_of_growSide`: the ways in which an attempt beside a room ends;
* `SideRoom.Found`, `Basement.Found`: what is known of a room that was added;
* `ends_growSide`, `ends_digBasement`: the two outcomes, and the faults.
-/

namespace TavernLayout

variable {σ : Type}

/-! ## Rooms beside rooms -/

namespace Works

/-- The building with one more room beside room `i` and the wall between them. -/
def addBeside (w : Works σ) (i : Nat) (parent room : Rect) (d : Dir) (layers : Span) (k : Kind)
    (offset : Int) : Works σ :=
  let id : Ref .room := ⟨(w.rooms.size : Int)⟩
  let wall : Ref .wall := ⟨(w.walls.size : Int)⟩
  let new : Room := { bounds := .ofRect room layers.lo layers.hi, kind := k }
  { w with
    rooms := { w.rooms with
      items := w.rooms.items.modify i (·.addWall d wall) ++ [new.addWall d.opposite wall] }
    walls := { w.walls with
      items := w.walls.items ++
        [SideRoom.sharedWall parent room d layers ⟨(i : Int)⟩ id offset] }
    frontier := w.frontier ++
      [⟨id, Dir.all.filter fun e => decide (e ≠ d.opposite), !k.basementKinds.isEmpty⟩]
    counts := w.counts.add k }

def addUnder (w : Works σ) (room : Rect) (layers : Span) (k : Kind) : Works σ :=
  let id : Ref .room := ⟨(w.rooms.size : Int)⟩
  let new : Room := { bounds := .ofRect room layers.lo layers.hi, kind := k }
  { w with
    rooms := { w.rooms with items := w.rooms.items ++ [new] }
    frontier := w.frontier ++ [⟨id, Dir.all, !k.basementKinds.isEmpty⟩]
    counts := w.counts.add k }

end Works

theorem modify_append_length {α : Type} (as : List α) (a : α) (f : α → α) :
    (as ++ [a]).modify as.length f = as ++ [f a] := by
  induction as with
  | nil => rfl
  | cons b bs ih =>
    rw [List.cons_append, List.length_cons, List.modify_succ_cons, ih]
    rfl

theorem modify_append_of_lt {α : Type} {as : List α} {i : Nat} (hi : i < as.length)
    (bs : List α) (f : α → α) : (as ++ bs).modify i f = as.modify i f ++ bs := by
  induction as generalizing i with
  | nil => exact absurd hi (Nat.not_lt_zero _)
  | cons a as ih =>
    cases i with
    | zero => rfl
    | succ i =>
      rw [List.cons_append, List.modify_succ_cons, List.modify_succ_cons,
        ih (Nat.lt_of_succ_lt_succ hi)]
      rfl

variable {src : Source σ} {plot : Plot} {w w' : Works σ} {i : Nat} {d : Dir} {parent : Room}
  {fitted room : Rect} {layers : Span} {k : Kind} {offset : Int} {P : Fault → Prop}

theorem ends_joinSideRoom {pr : Rect} (hi : i < w.rooms.size) (hr : w.rooms.frozen = false)
    (hw : w.walls.frozen = false) :
    Ends (fun id t => id = ⟨(w.rooms.size : Int)⟩ ∧
        t = (w.addBeside i pr room d layers k offset).noted (.grown id ⟨(i : Int)⟩ d k)) P
      (joinSideRoom ⟨(i : Int)⟩ pr room d layers k offset) w := by
  unfold joinSideRoom
  refine .bind_of_ok (Build.faultsIn_addRoom hr) fun r w1 h1 => ?_
  obtain ⟨-, rfl, rfl⟩ := Build.addRoom_eq_ok_iff.1 h1
  refine .bind_of_ok (Build.faultsIn_addWall (by exact hw)) fun wl w2 h2 => ?_
  obtain ⟨-, rfl, rfl⟩ := Build.addWall_eq_ok_iff.1 h2
  have hnew : ∀ r : Room, w.rooms.size < (w.rooms.items ++ [r]).length := by
    intro r
    rw [List.length_append]
    exact Nat.lt_succ_self _
  refine .bind_of_ok (Build.faultsIn_changeRoom (hnew _)) fun u w3 h3 => ?_
  rw [Build.changeRoom_eq_ok_iff (hnew _)] at h3
  subst h3
  have hold : ∀ (r : Room) (f : Room → Room),
      i < ((w.rooms.items ++ [r]).modify w.rooms.size f).length := by
    intro r f
    rw [List.length_modify]
    exact Nat.lt_trans hi (hnew r)
  refine .bind_of_ok (Build.faultsIn_changeRoom (hold _ _)) fun u w4 h4 => ?_
  rw [Build.changeRoom_eq_ok_iff (hold _ _)] at h4
  subst h4
  refine .bind_modify (.bind_modify (.pure ⟨rfl, ?_⟩))
  simp only [Works.noted, Works.addBeside, Store.size]
  rw [modify_append_length, modify_append_of_lt hi]

theorem Works.Idle.addBeside {u v : Works σ} (h : u.Idle v) (i : Nat) (parent room : Rect)
    (d : Dir) (layers : Span) (k : Kind) (offset : Int) :
    (u.addBeside i parent room d layers k offset).Idle
      (v.addBeside i parent room d layers k offset) := by
  obtain ⟨h1, h2, h3, h4⟩ := h
  constructor <;> simp only [Works.addBeside, h1, h2, h3, h4]

namespace SideRoom

/-- The place `c` of the door along the side of the parent is drawn, and what is found beyond it for
a room of kind `k`. -/
structure Sought (src : Source σ) (parent space : Rect) (d : Dir) (k : Kind) (st : Stream σ)
    (c : Int) (found : Option Rect) (st' : Stream σ) : Prop where
  inside : (facing parent space d).lo + 1 ≤ c ∧ c ≤ (facing parent space d).hi - 1
  drawn : ∃ s, src.between ((facing parent space d).lo + 1) ((facing parent space d).hi - 1) st =
    .ok c s ∧ placeBeside src k space d (wallPoint parent d c) s = .ok found st'

/-- How an attempt ends once there are a space and a kind for it. -/
inductive Course (src : Source σ) (i : Nat) (parent space : Rect) (d : Dir) (layers : Span)
    (k : Kind) (w : Works σ) : Option (Ref .room) → Works σ → Prop
  | noDoor : (facing parent space d).hi < (facing parent space d).lo + 2 →
      Course src i parent space d layers k w none
        (w.noted (.sideRefused ⟨(i : Int)⟩ d .noDoorSpace))
  | noRoom {c : Int} {st : Stream σ} : Sought src parent space d k w.stream c none st →
      Course src i parent space d layers k w none
        (Works.noted { w with stream := st } (.sideRefused ⟨(i : Int)⟩ d (.doesNotFit k)))
  | noWall {c : Int} {room : Rect} {st : Stream σ} :
      Sought src parent space d k w.stream c (some room) st → wallLength parent room d < 3 →
      Course src i parent space d layers k w none
        (Works.noted { w with stream := st } (.sideRefused ⟨(i : Int)⟩ d .noSharedWall))
  | joined {c : Int} {room : Rect} {st st' : Stream σ} {lower : Bool} :
      Sought src parent space d k w.stream c (some room) st → 3 ≤ wallLength parent room d →
      src.chance 0.5 st = .ok lower st' →
      Course src i parent space d layers k w (some ⟨(w.rooms.size : Int)⟩)
        ((Works.addBeside { w with stream := st' } i parent room d layers k
          (doorOffset parent room d (wallPoint parent d c) lower)).noted
            (.grown ⟨(w.rooms.size : Int)⟩ ⟨(i : Int)⟩ d k))

/-- An attempt with a space and a kind never fails. -/
theorem ends_growInto {pr space : Rect} (hs : src.Lawful) (hi : i < w.rooms.size)
    (hr : w.rooms.frozen = false) (hw : w.walls.frozen = false) :
    Ends (Course src i pr space d layers k w) P (growInto src ⟨(i : Int)⟩ pr space d layers k)
      w := by
  unfold growInto
  dsimp only
  split
  · next hshort =>
    refine (Build.ends_refuse _).mono ?_
    rintro r t ⟨rfl, rfl⟩
    exact .noDoor hshort
  · refine .bind_of_ok (Build.faultsIn_draw (Source.faultsIn_between (by omega)))
      fun c w1 h1 => ?_
    refine .bind_of_ok (Build.faultsIn_draw faultsIn_placeBeside) fun found w2 h2 => ?_
    obtain ⟨s1, hc, rfl⟩ := Build.draw_eq_ok_iff.1 h1
    obtain ⟨s2, hp, rfl⟩ := Build.draw_eq_ok_iff.1 h2
    have hsought : Sought src pr space d k w.stream c found s2 :=
      ⟨Source.mem_of_between hs hc, s1, hc, hp⟩
    cases found with
    | none =>
      refine (Build.ends_refuse _).mono ?_
      rintro r t ⟨rfl, rfl⟩
      exact .noRoom hsought
    | some room =>
      dsimp only
      split
      · next hshort =>
        refine (Build.ends_refuse _).mono ?_
        rintro r t ⟨rfl, rfl⟩
        exact .noWall hsought hshort
      · next hlong =>
        refine .bind_of_ok (Build.faultsIn_draw (Source.faultsIn_chance _)) fun lower w3 h3 => ?_
        obtain ⟨s3, hlower, rfl⟩ := Build.draw_eq_ok_iff.1 h3
        refine (ends_joinSideRoom (w := { w with stream := s3 }) hi hr hw).bind ?_
        rintro id t ⟨rfl, rfl⟩
        exact .pure (.joined hsought (by omega) hlower)

/-- A room of kind `k` finds a place from which a wall with a door leads back to `parent`. -/
def Placed (src : Source σ) (parent fitted : Rect) (d : Dir) (k : Kind) (room : Rect)
    (offset : Int) : Prop :=
  3 ≤ wallLength parent room d ∧
    ∃ c, ((facing parent fitted d).lo + 1 ≤ c ∧ c ≤ (facing parent fitted d).hi - 1) ∧
      (∃ lower, offset = doorOffset parent room d (wallPoint parent d c) lower) ∧
      ∃ st st', placeBeside src k fitted d (wallPoint parent d c) st = .ok (some room) st'

/-- What the ground and the other rooms leave of the space beside room `i`, if they leave any. -/
structure Left (plot : Plot) (w : Works σ) (i : Nat) (d : Dir) (parent : Room) (layers : Span)
    (left : Option Rect) : Prop where
  elder : w.rooms.items[i]? = some parent
  storey : ∃ height wanted, (3 ≤ height ∧ height ≤ 5) ∧
    plot.terrain.floorLevel (space plot.interior parent.footprint d).center = .ok wanted ∧
    layers = SideRoom.layers parent.bounds
      (floorLevel parent.bounds (space plot.interior parent.footprint d) d wanted) height
  cleared : clearSpace
    (limits parent.footprint (space plot.interior parent.footprint d) d) layers.lo layers.hi
    ((w.rooms.items.eraseIdx i).map Room.bounds) (space plot.interior parent.footprint d) = left

/-- What is known of a room that was added beside room `i`. -/
structure Found (src : Source σ) (plot : Plot) (w : Works σ) (i : Nat) (d : Dir) (parent : Room)
    (fitted room : Rect) (layers : Span) (k : Kind) (offset : Int) : Prop
    extends Left plot w i d parent layers (some fitted) where
  drawn : k ∈ parent.kind.sideKinds
  weight : Kind.Counting (k.sideWeight (w.counts k) plot.temperature)
  placed : Placed src parent.footprint fitted d k room offset

theorem Found.accepts (h : Found src plot w i d parent fitted room layers k offset) :
    fitted.Encloses room ∧ k.Accepts room := by
  obtain ⟨-, c, -, -, st, st', hp⟩ := h.placed
  exact accepts_of_placeBeside hp

inductive Attempt (src : Source σ) (plot : Plot) (i : Nat) (d : Dir) (w : Works σ) :
    Option (Ref .room) → Works σ → Prop
  | blocked {parent : Room} {layers : Span} {st : Stream σ} : Left plot w i d parent layers none →
      Attempt src plot i d w none
        (Works.noted { w with stream := st } (.sideRefused ⟨(i : Int)⟩ d .blocked))
  | barren {parent : Room} {layers : Span} {space : Rect} {st : Stream σ} :
      Left plot w i d parent layers (some space) →
      parent.kind.sideLottery? space w.counts plot.temperature = .ok none →
      Attempt src plot i d w none
        (Works.noted { w with stream := st } (.sideRefused ⟨(i : Int)⟩ d .nothingFits))
  | drawn {parent : Room} {layers : Span} {space : Rect} {k : Kind} {st : Stream σ}
      {r : Option (Ref .room)} {v : Works σ} : Left plot w i d parent layers (some space) →
      k ∈ parent.kind.sideKinds → k.Fits space →
      Kind.Counting (k.sideWeight (w.counts k) plot.temperature) →
      Course src i parent.footprint space d layers k { w with stream := st } r v →
      Attempt src plot i d w r v

end SideRoom

/-- An attempt beside a room fails only where the weight of a kind or the height of the ground
cannot be computed. -/
theorem attempt_of_growSide (hs : src.Lawful) (hi : i < w.rooms.size) (hr : w.rooms.frozen = false)
    (hw : w.walls.frozen = false) (hground : ∀ c e, plot.terrain.floorLevel c = .error e → P e)
    (hweight : ∀ l e, Kind.sideWeight l (w.counts l) plot.temperature = .error e → P e) :
    Ends (SideRoom.Attempt src plot i d w) P (growSide src plot ⟨(i : Int)⟩ d) w := by
  obtain ⟨parent, hparent⟩ : ∃ r, w.rooms.items[i]? = some r := ⟨_, List.getElem?_eq_getElem hi⟩
  unfold growSide
  refine (Build.ends_room hparent).bind ?_
  rintro parent w ⟨rfl, rfl⟩
  dsimp only
  refine .bind_of_ok (Build.faultsIn_draw (Source.faultsIn_between (by decide)))
    fun height w1 h1 => ?_
  obtain ⟨s1, hheight, rfl⟩ := Build.draw_eq_ok_iff.1 h1
  refine .bind_lift (hground _) fun wanted hwanted => .bind_get ?_
  rw [Works.others_eq]
  have hleft : SideRoom.Left plot w i d parent _ _ :=
    ⟨hparent, ⟨height, wanted, Source.mem_of_between hs hheight, hwanted, rfl⟩, rfl⟩
  generalize hcleared : clearSpace _ _ _ _ _ = fitted?
  rw [hcleared] at hleft
  cases fitted? with
  | none =>
    refine (Build.ends_refuse _).mono ?_
    rintro r t ⟨rfl, rfl⟩
    exact .blocked hleft
  | some fitted =>
    refine .bind_get (.bind_lift (fun e he => ?_) fun lottery? hlottery => ?_)
    · obtain ⟨l, hl⟩ := Kind.exists_of_sideLottery_error he
      exact hweight l e hl
    · cases lottery? with
      | none =>
        refine (Build.ends_refuse _).mono ?_
        rintro r t ⟨rfl, rfl⟩
        exact .barren hleft hlottery
      | some lottery =>
        refine .bind_of_ok (Build.faultsIn_draw (Lottery.faultsIn_draw _ _ _)) fun k w2 h2 => ?_
        obtain ⟨s2, hk, rfl⟩ := Build.draw_eq_ok_iff.1 h2
        obtain ⟨hmem, hfits, hcounting⟩ :=
          Kind.mem_of_sideLottery hlottery (Lottery.mem_of_draw hk)
        refine (SideRoom.ends_growInto (w := { w with stream := s2 }) hs hi hr hw).mono ?_
        exact fun r t h => .drawn hleft hmem hfits hcounting h

/-- An attempt beside a room gives up, or adds a room with a wall and a door between the two. -/
theorem ends_growSide (hs : src.Lawful) (hi : i < w.rooms.size) (hr : w.rooms.frozen = false)
    (hw : w.walls.frozen = false) (hground : ∀ c e, plot.terrain.floorLevel c = .error e → P e)
    (hweight : ∀ l e, Kind.sideWeight l (w.counts l) plot.temperature = .error e → P e) :
    Ends (fun _ t => w.Idle t ∨ ∃ parent fitted room layers k offset,
      SideRoom.Found src plot w i d parent fitted room layers k offset ∧
      (w.addBeside i parent.footprint room d layers k offset).Idle t) P
      (growSide src plot ⟨(i : Int)⟩ d) w := by
  refine (attempt_of_growSide hs hi hr hw hground hweight).mono fun r t h => ?_
  have hidle := Works.Idle.stream w
  cases h with
  | blocked => exact .inl ((hidle _).trans (.noted _ _))
  | barren => exact .inl ((hidle _).trans (.noted _ _))
  | drawn hleft hmem hfits hcounting hcourse =>
    cases hcourse with
    | noDoor => exact .inl ((hidle _).trans (.noted _ _))
    | noRoom => exact .inl ((hidle _).trans (.noted _ _))
    | noWall => exact .inl ((hidle _).trans (.noted _ _))
    | joined hsought hlong _ =>
      obtain ⟨hinside, s, -, hplace⟩ := hsought
      refine .inr ⟨_, _, _, _, _, _, ⟨hleft, hmem, hcounting, hlong, _, hinside, ⟨_, rfl⟩, s, _,
        hplace⟩, ((hidle _).addBeside ..).trans (.noted _ _)⟩

/-! ## Rooms under rooms -/

theorem Works.Idle.addUnder {u v : Works σ} (h : u.Idle v) (room : Rect) (layers : Span)
    (k : Kind) : (u.addUnder room layers k).Idle (v.addUnder room layers k) := by
  obtain ⟨h1, h2, h3, h4⟩ := h
  constructor <;> simp only [Works.addUnder, h1, h2, h3, h4]

theorem ends_joinBasement {parent : Ref .room} (hr : w.rooms.frozen = false) :
    Ends (fun _ t => (w.addUnder room layers k).Idle t) P
      (joinBasement parent room layers k) w := by
  unfold joinBasement
  refine .bind_of_ok (Build.faultsIn_addRoom hr) fun r w1 h1 => ?_
  obtain ⟨-, rfl, rfl⟩ := Build.addRoom_eq_ok_iff.1 h1
  exact .bind_modify (.bind_modify (.pure ⟨rfl, rfl, rfl, rfl⟩))

namespace Basement

/-- What is known of a room that was dug out under room `i`. -/
structure Found (src : Source σ) (plot : Plot) (w : Works σ) (i : Nat) (parent : Room)
    (fitted room : Rect) (layers : Span) (k : Kind) : Prop where
  elder : w.rooms.items[i]? = some parent
  storey : ∃ height, (3 ≤ height ∧ height ≤ 5) ∧ layers = Basement.layers parent.bounds height
  cleared : clearSpace (limits parent.footprint) layers.lo layers.hi
    ((w.rooms.items.eraseIdx i).map Room.bounds) plot.interior = some fitted
  drawn : k ∈ parent.kind.basementKinds
  placed : ∃ st st', placeUnder src k fitted parent.footprint st = .ok (some room) st'

theorem Found.accepts (h : Found src plot w i parent fitted room layers k) :
    fitted.Encloses room ∧ k.Accepts room := by
  obtain ⟨st, st', hp⟩ := h.placed
  exact accepts_of_placeUnder hp

end Basement

/-- An attempt under a room gives up, or adds a room, and never fails. -/
theorem ends_digBasement (hs : src.Lawful) (hi : i < w.rooms.size) (hr : w.rooms.frozen = false) :
    Ends (fun _ t => w.Idle t ∨ ∃ parent fitted room layers k,
      Basement.Found src plot w i parent fitted room layers k ∧
      (w.addUnder room layers k).Idle t) P (digBasement src plot ⟨(i : Int)⟩) w := by
  obtain ⟨parent, hparent⟩ : ∃ r, w.rooms.items[i]? = some r := ⟨_, List.getElem?_eq_getElem hi⟩
  unfold digBasement
  refine (Build.ends_room hparent).bind ?_
  rintro parent w ⟨rfl, rfl⟩
  refine .bind_of_ok (Build.faultsIn_draw (Source.faultsIn_between (by decide)))
    fun height w1 h1 => .bind_get ?_
  have hidle := Build.idle_of_draw h1
  obtain ⟨st, hheight, -⟩ := Build.draw_eq_ok_iff.1 h1
  have hothers : w1.others ⟨(i : Int)⟩ = (w.rooms.items.eraseIdx i).map Room.bounds := by
    rw [Works.others_eq, hidle.rooms]
  rw [hothers]
  generalize hcleared : clearSpace _ _ _ _ _ = fitted?
  cases fitted? with
  | none =>
    refine (Build.ends_refuse _).mono ?_
    rintro r t ⟨rfl, rfl⟩
    exact .inl (hidle.trans (.noted _ _))
  | some fitted =>
    refine .bind_get (.bind_lift (fun e he => ?_) fun lottery? hlottery => ?_)
    · obtain ⟨l?, hl⟩ := Kind.basementLottery_ok parent.kind fitted w1.counts
      rw [hl] at he
      cases he
    · cases lottery? with
      | none =>
        refine (Build.ends_refuse _).mono ?_
        rintro r t ⟨rfl, rfl⟩
        exact .inl (hidle.trans (.noted _ _))
      | some lottery =>
        refine .bind_of_ok (Build.faultsIn_draw (Lottery.faultsIn_draw _ _ _)) fun k w2 h2 => ?_
        refine .bind_of_ok (Build.faultsIn_draw faultsIn_placeUnder) fun found w3 h3 => ?_
        have hidle3 := (hidle.trans (Build.idle_of_draw h2)).trans (Build.idle_of_draw h3)
        obtain ⟨st', hk, -⟩ := Build.draw_eq_ok_iff.1 h2
        obtain ⟨st'', hp, -⟩ := Build.draw_eq_ok_iff.1 h3
        cases found with
        | none =>
          refine (Build.ends_refuse _).mono ?_
          rintro r t ⟨rfl, rfl⟩
          exact .inl (hidle3.trans (.noted _ _))
        | some room =>
          obtain ⟨hmem, -, -⟩ := Kind.mem_of_basementLottery hlottery (Lottery.mem_of_draw hk)
          refine (ends_joinBasement (by rw [hidle3.rooms]; exact hr)).bind fun id t ht =>
            .pure (.inr ?_)
          refine ⟨parent, fitted, room, _, k, ⟨hparent, ?_, hcleared, hmem, _, _, hp⟩,
            (hidle3.addUnder ..).trans ht⟩
          exact ⟨height, Source.mem_of_between hs hheight, rfl⟩

end TavernLayout
