import TavernLayout.Layout.Plot
import TavernLayout.Lottery
import TavernLayout.Random.Provider

/-!
# Programs that run alike

A program over a random source learns of its state only what the source answers. So if a source
answers as another one does, in states that a relation keeps together, then the program runs in the
same way over both. A domain of a provider answers as a generator of its own, whatever the states of
the other domains are.

* `Source.Follows`: two sources that give the same answers in related states;
* `Alike`: two programs that end in the same way; one rule for each way of building a program;
* `Provider.follows_stream`: a domain follows its own generator and leaves the other domains alone;
* `Works.Alike`, `Same`: buildings that differ in their streams only, and programs on them.
-/

namespace TavernLayout

/-! ## Programs -/

section Programs

variable {σ τ α β : Type} {R : σ → τ → Prop}

def SameEnd (R : σ → τ → Prop) : EStateM.Result Fault σ α → EStateM.Result Fault τ α → Prop
  | .ok a s, .ok b t => a = b ∧ R s t
  | .error e s, .error f t => e = f ∧ R s t
  | _, _ => False

theorem SameEnd.cases {x : EStateM.Result Fault σ α} {y : EStateM.Result Fault τ α}
    (h : SameEnd R x y) :
    (∃ a s t, x = .ok a s ∧ y = .ok a t ∧ R s t) ∨
      ∃ e s t, x = .error e s ∧ y = .error e t ∧ R s t := by
  cases x with
  | ok a s =>
    cases y with
    | ok b t =>
      obtain ⟨rfl, hst⟩ := h
      exact .inl ⟨a, s, t, rfl, rfl, hst⟩
    | error f t => exact h.elim
  | error e s =>
    cases y with
    | ok b t => exact h.elim
    | error f t =>
      obtain ⟨rfl, hst⟩ := h
      exact .inr ⟨e, s, t, rfl, rfl, hst⟩

/-- Started in related states, the two programs end in the same way. -/
def Alike (R : σ → τ → Prop) (x : EStateM Fault σ α) (y : EStateM Fault τ α) : Prop :=
  ∀ s t, R s t → SameEnd R (x s) (y t)

namespace Alike

variable {x : EStateM Fault σ α} {y : EStateM Fault τ α}

theorem bind {f : α → EStateM Fault σ β} {g : α → EStateM Fault τ β} (hx : Alike R x y)
    (hf : ∀ a, Alike R (f a) (g a)) : Alike R (x >>= f) (y >>= g) := by
  intro s t h
  simp only [Bind.bind, EStateM.bind]
  rcases (hx s t h).cases with ⟨a, u, v, hu, hv, huv⟩ | ⟨e, u, v, hu, hv, huv⟩
  · rw [hu, hv]
    exact hf a u v huv
  · rw [hu, hv]
    exact ⟨rfl, huv⟩

theorem pure (a : α) : Alike R (Pure.pure a : EStateM Fault σ α) (Pure.pure a) :=
  fun _ _ h => ⟨rfl, h⟩

theorem throw (e : Fault) : Alike R (throw e : EStateM Fault σ α) (throw e) :=
  fun _ _ h => ⟨rfl, h⟩

theorem ite {c : Prop} [Decidable c] {x₁ x₂ : EStateM Fault σ α} {y₁ y₂ : EStateM Fault τ α}
    (h₁ : Alike R x₁ y₁) (h₂ : Alike R x₂ y₂) :
    Alike R (if c then x₁ else x₂) (if c then y₁ else y₂) := by
  split
  · exact h₁
  · exact h₂

theorem lift (x : Except Fault α) :
    Alike R (liftM x : EStateM Fault σ α) (liftM x : EStateM Fault τ α) := by
  cases x with
  | ok a => exact pure a
  | error e => exact throw e

theorem modify {f : σ → σ} {g : τ → τ} (h : ∀ s t, R s t → R (f s) (g t)) :
    Alike R (modify f : EStateM Fault σ PUnit) (modify g) :=
  fun s t hst => ⟨rfl, h s t hst⟩

/-- What is read from the states may differ, as long as the programs go on alike. -/
theorem bind_get {f : σ → EStateM Fault σ β} {g : τ → EStateM Fault τ β}
    (h : ∀ s t, R s t → Alike R (f s) (g t)) : Alike R (get >>= f) (get >>= g) :=
  fun s t hst => h s t hst s t hst

theorem map (f : α → β) (hx : Alike R x y) : Alike R (f <$> x) (f <$> y) := by
  rw [map_eq_pure_bind, map_eq_pure_bind]
  exact hx.bind fun a => pure (f a)

theorem discard (hx : Alike R x y) : Alike R (discard x) (discard y) :=
  hx.map (Function.const α PUnit.unit)

end Alike

end Programs

/-! ## Sources -/

namespace Source

variable {σ τ α : Type} {R : σ → τ → Prop} {src : Source σ} {src' : Source τ}

def SameAnswer (R : σ → τ → Prop) (p : α × σ) (q : α × τ) : Prop := p.1 = q.1 ∧ R p.2 q.2

/-- In related states both sources give the same answers and refuse the same questions. -/
structure Follows (R : σ → τ → Prop) (src : Source σ) (src' : Source τ) : Prop where
  unit : ∀ s t, R s t → SameAnswer R (src.nextUnit s) (src'.nextUnit t)
  between : ∀ s t lo hi, R s t →
    SameAnswer R (src.nextBetween s lo hi) (src'.nextBetween t lo hi)
  index : ∀ s t n, R s t → SameAnswer R (src.nextIndex s n) (src'.nextIndex t n)
  bits : ∀ s t k, R s t → SameAnswer R (src.nextBits s k) (src'.nextBits t k)
  refused : ∀ s t k, R s t → Option.Rel (SameAnswer R) (src.refusedBits s k) (src'.refusedBits t k)

/-- The states of two streams are related; the numbers of draws do not matter. -/
def Kept (R : σ → τ → Prop) (st : Stream σ) (st' : Stream τ) : Prop := R st.state st'.state

theorem alike_ask {f : σ → α × σ} {g : τ → α × τ}
    (h : ∀ s t, R s t → SameAnswer R (f s) (g t)) : Alike (Kept R) (ask f) (ask g) :=
  fun st st' hst => h st.state st'.state hst

theorem alike_refuse (e : Fault) :
    Alike (Kept R) (refuse e : Draw σ α) (refuse e : Draw τ α) :=
  fun _ _ h => ⟨rfl, h⟩

variable (h : src.Follows R src')

include h

theorem alike_unit : Alike (Kept R) src.unit src'.unit := alike_ask h.unit

theorem alike_between (lo hi : Int) : Alike (Kept R) (src.between lo hi) (src'.between lo hi) :=
  .ite (alike_refuse _) (alike_ask fun s t => h.between s t lo hi)

theorem alike_choose (as : List α) : Alike (Kept R) (src.choose as) (src'.choose as) := by
  cases as with
  | nil => exact alike_refuse _
  | cons a as => exact (alike_ask fun s t => h.index s t _).bind fun i => .pure _

theorem alike_bits (k : Int) : Alike (Kept R) (src.bits k) (src'.bits k) := by
  intro st st' hst
  have hrefused := h.refused st.state st'.state k hst
  unfold bits
  cases hs : src.refusedBits st.state k with
  | none =>
    cases ht : src'.refusedBits st'.state k with
    | none => exact alike_ask (fun s t => h.bits s t _) st st' hst
    | some q =>
      rw [hs, ht] at hrefused
      cases hrefused
  | some p =>
    cases ht : src'.refusedBits st'.state k with
    | none =>
      rw [hs, ht] at hrefused
      cases hrefused
    | some q =>
      rw [hs, ht] at hrefused
      cases hrefused with
      | some hpq => exact hpq

theorem alike_chance (p : Float) : Alike (Kept R) (src.chance p) (src'.chance p) :=
  (alike_unit h).bind fun _ => .pure _

theorem alike_seed : Alike (Kept R) src.seed src'.seed := alike_ask fun s t => h.bits s t 32

theorem alike_lottery {w : Type} [Weight w] (l : Lottery w α) :
    Alike (Kept R) (l.draw src) (l.draw src') :=
  (alike_seed h).bind fun _ => .pure _

end Source

/-! ## Domains -/

namespace Provider

variable {γ : Type} {gen : Generator γ} {domain : String} {p p' : Provider γ}

/-- The provider `p` after some draws in a domain, whose generator is now in the state `g`. -/
structure Drawn (gen : Generator γ) (domain : String) (p p' : Provider γ) (g : γ) : Prop where
  state : p'.state gen domain = g
  others : ∀ d, d ≠ domain → p'.state gen d = p.state gen d
  handles : p'.handles = p.handles

theorem Drawn.refl (gen : Generator γ) (domain : String) (p : Provider γ) :
    Drawn gen domain p p (p.state gen domain) :=
  ⟨rfl, fun _ _ => rfl, rfl⟩

theorem Drawn.put {g : γ} (h : Drawn gen domain p p' g) (g' : γ) :
    Drawn gen domain p (p'.put domain g') g' :=
  ⟨state_put_self gen p' domain g',
    fun d hd => (state_put_of_ne gen p' hd g').trans (h.others d hd), h.handles⟩

/-- Asking a domain is asking its generator. -/
theorem Drawn.ask {α : Type} {g : γ} (h : Drawn gen domain p p' g) (f : γ → α × γ) :
    Source.SameAnswer (Drawn gen domain p) (p'.ask gen domain f) (f g) := by
  obtain rfl := h.state
  exact ⟨rfl, h.put _⟩

/-- A domain answers as its generator does, and draws in it leave the other domains alone. -/
theorem follows_stream (gen : Generator γ) (domain : String) (p : Provider γ) :
    (stream gen domain).Follows (Drawn gen domain p) gen.source where
  unit _ _ h := h.ask _
  between _ _ _ _ h := h.ask _
  index _ _ _ h := h.ask _
  bits _ _ _ h := h.ask _
  refused p' g k h := by
    obtain rfl := h.state
    simp only [stream]
    cases gen.source.refusedBits (p'.state gen domain) k with
    | none => exact .none
    | some q => exact .some ⟨rfl, h.put _⟩

end Provider

/-! ## Buildings -/

section Buildings

variable {σ τ α : Type} {R : σ → τ → Prop} {w : Works σ} {v : Works τ}

/-- Two buildings that differ in their streams only; the states of the streams are related. -/
structure Works.Alike (R : σ → τ → Prop) (w : Works σ) (v : Works τ) : Prop where
  rooms : w.rooms = v.rooms
  walls : w.walls = v.walls
  counts : w.counts = v.counts
  frontier : w.frontier = v.frontier
  journal : w.journal = v.journal
  stream : Source.Kept R w.stream v.stream

abbrev Same (R : σ → τ → Prop) (x : Build σ α) (y : Build τ α) : Prop := Alike (Works.Alike R) x y

namespace Build

theorem same_draw {d : Draw σ α} {d' : Draw τ α} (h : Alike (Source.Kept R) d d') :
    Same R (draw d) (draw d') := by
  intro w v hwv
  unfold draw
  rcases (h w.stream v.stream hwv.stream).cases with ⟨a, s, t, hs, ht, hst⟩ | ⟨e, s, t, hs, ht, hst⟩
  · rw [hs, ht]
    exact ⟨rfl, hwv.rooms, hwv.walls, hwv.counts, hwv.frontier, hwv.journal, hst⟩
  · rw [hs, ht]
    exact ⟨rfl, hwv.rooms, hwv.walls, hwv.counts, hwv.frontier, hwv.journal, hst⟩

theorem same_note (e : Event) : Same R (note e) (note e) :=
  .modify fun _ _ h => ⟨h.rooms, h.walls, h.counts, h.frontier, by simp [h.journal], h.stream⟩

theorem same_refuse (e : Event) :
    Same R (refuse e : Build σ (Option α)) (refuse e : Build τ (Option α)) :=
  (same_note e).bind fun _ => .pure none

theorem same_room (id : Ref .room) : Same R (room id) (room id) := by
  apply Alike.bind_get
  intro w v h
  rw [h.rooms]
  exact .lift _

theorem same_wall (id : Ref .wall) : Same R (wall id) (wall id) := by
  apply Alike.bind_get
  intro w v h
  rw [h.walls]
  exact .lift _

theorem same_setRooms (rooms : Store .room Room) :
    Same R (modify fun w => { w with rooms := rooms } : Build σ PUnit)
      (modify fun w => { w with rooms := rooms }) :=
  .modify fun _ _ h => ⟨rfl, h.walls, h.counts, h.frontier, h.journal, h.stream⟩

theorem same_addRoom (r : Room) : Same R (addRoom r) (addRoom r) := by
  apply Alike.bind_get
  intro w v h
  rw [h.rooms]
  apply (Alike.lift _).bind
  rintro ⟨id, rooms⟩
  exact (same_setRooms rooms).bind fun _ => .pure id

theorem same_addWall (wl : Wall) : Same R (addWall wl) (addWall wl) := by
  apply Alike.bind_get
  intro w v h
  rw [h.walls]
  apply (Alike.lift _).bind
  rintro ⟨id, walls⟩
  refine (Alike.modify fun _ _ h => ?_).bind fun _ => .pure id
  exact ⟨h.rooms, rfl, h.counts, h.frontier, h.journal, h.stream⟩

theorem same_changeRoom (id : Ref .room) (f : Room → Room) :
    Same R (changeRoom id f) (changeRoom id f) := by
  apply Alike.bind_get
  intro w v h
  rw [h.rooms]
  exact (Alike.lift _).bind fun rooms => same_setRooms rooms

theorem same_offer (p : Prospect) (k : Kind) : Same R (offer p k) (offer p k) :=
  .modify fun _ _ h =>
    ⟨h.rooms, h.walls, by simp [h.counts], by simp [h.frontier], h.journal, h.stream⟩

end Build

end Buildings

end TavernLayout
