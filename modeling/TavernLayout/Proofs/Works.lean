import TavernLayout.Layout.Plot

/-!
# What building programs do

A program succeeds with a value and a state, or it fails with a fault. For each of the small
programs of which the others are made, one statement says when it succeeds and with what, and one
says which faults it can end with.

* `mem_iff_of_mapM_ok`, `Lottery.build_ok`: lists of computations, and lotteries of them;
* `draw_eq_ok_iff` … `changeRoom_eq_ok_iff`: the programs that succeed;
* `FaultsIn`: every fault of a program satisfies a predicate; closed under sequences;
* `Ends`: how a program ends, with a result or with a fault;
* `others_eq`: the boxes around one room.
-/

namespace TavernLayout

/-! ## Lists and stores -/

/-- Changing one entry leaves alone what the change does not touch. -/
theorem map_modify_of_eq {α β : Type} {g : α → β} {f : α → α} (h : ∀ a, g (f a) = g a)
    (as : List α) (i : Nat) : (as.modify i f).map g = as.map g := by
  induction as generalizing i with
  | nil => cases i <;> rfl
  | cons a as ih =>
    cases i with
    | zero =>
      rw [List.modify_zero_cons, List.map_cons, List.map_cons, h]
    | succ i =>
      rw [List.modify_succ_cons, List.map_cons, List.map_cons, ih]

theorem getElem?_append_of_eq_some {α : Type} {as : List α} {a : α} {i : Nat}
    (h : as[i]? = some a) (bs : List α) : (as ++ bs)[i]? = some a := by
  rw [List.getElem?_append_left (List.getElem?_eq_some_iff.1 h).1, h]

theorem getElem?_append_singleton {α : Type} {as : List α} {a b : α} {i : Nat}
    (h : (as ++ [a])[i]? = some b) :
    (i < as.length ∧ as[i]? = some b) ∨ (i = as.length ∧ b = a) := by
  by_cases hi : i < as.length
  · rw [List.getElem?_append_left hi] at h
    exact .inl ⟨hi, h⟩
  · have hi : as.length ≤ i := Nat.le_of_not_lt hi
    rw [List.getElem?_append_right hi, List.getElem?_singleton] at h
    split at h
    · exact .inr ⟨by omega, (Option.some.inj h).symm⟩
    · cases h

theorem eq_or_mem_eraseIdx {α : Type} {as : List α} {i : Nat} {a b : α} (ha : as[i]? = some a)
    (hb : b ∈ as) : b = a ∨ b ∈ as.eraseIdx i := by
  obtain ⟨j, hj⟩ := List.mem_iff_getElem?.1 hb
  by_cases h : j = i
  · subst h
    rw [ha] at hj
    exact .inl (Option.some.inj hj).symm
  · exact .inr (List.mem_eraseIdx_iff_getElem?.2 ⟨j, h, hj⟩)

theorem Ref.natCast_inj {e : Entity} {i j : Nat} :
    (⟨(i : Int)⟩ : Ref e) = ⟨(j : Int)⟩ ↔ i = j := by
  rw [Ref.mk.injEq, Int.ofNat_inj]

namespace Store

variable {e : Entity} {α : Type} {s t : Store e α} {a : α} {i : Nat}

theorem position?_natCast (h : i < s.size) : s.position? ⟨(i : Int)⟩ = some i := by
  simp [position?, h]

theorem lookup_natCast_iff : s.lookup ⟨(i : Int)⟩ = .ok a ↔ s.items[i]? = some a := by
  constructor
  · intro h
    unfold lookup get? at h
    by_cases hi : i < s.size
    · rw [position?_natCast hi] at h
      simp only [Option.bind_some] at h
      split at h
      · next heq =>
        cases h
        exact heq
      · cases h
    · have hp : s.position? ⟨(i : Int)⟩ = none := by simp [position?, hi]
      rw [hp] at h
      cases h
  · exact lookup_natCast

theorem insert_eq_ok_iff {r : Ref e} :
    s.insert a = .ok (r, t) ↔
      s.frozen = false ∧ r = ⟨(s.size : Int)⟩ ∧ { s with items := s.items ++ [a] } = t := by
  unfold insert
  constructor
  · intro h
    split at h
    · cases h
    · next hf =>
      cases h
      exact ⟨by simpa using hf, rfl, rfl⟩
  · rintro ⟨hf, rfl, rfl⟩
    rw [hf]
    rfl

theorem modify_natCast {f : α → α} (h : i < s.size) :
    s.modify ⟨(i : Int)⟩ f = .ok { s with items := s.items.modify i f } := by
  simp [modify, position?_natCast h]

theorem mem_of_lookup {id : Ref e} (h : s.lookup id = .ok a) : a ∈ s.items := by
  unfold lookup get? at h
  cases hp : s.position? id with
  | none =>
    rw [hp] at h
    cases h
  | some i =>
    rw [hp] at h
    simp only [Option.bind_some] at h
    split at h
    · next heq =>
      cases h
      exact List.mem_of_getElem? heq
    · cases h

theorem mem_refs {id : Ref e} (h : id ∈ s.refs) : ∃ j : Nat, id = ⟨(j : Int)⟩ ∧ j < s.size := by
  obtain ⟨j, hj, rfl⟩ := List.mem_map.1 h
  exact ⟨j, rfl, List.mem_range.1 hj⟩

theorem mem_refs_iff : (⟨(i : Int)⟩ : Ref e) ∈ s.refs ↔ i < s.size := by
  constructor
  · intro h
    obtain ⟨k, hk, hlt⟩ := mem_refs h
    have := Ref.natCast_inj.1 hk
    omega
  · intro h
    exact List.mem_map.2 ⟨i, List.mem_range.2 h, rfl⟩

theorem nodup_refs (s : Store e α) : s.refs.Nodup := by
  refine List.Pairwise.map _ (fun i j hij h => hij ?_) List.nodup_range
  exact Ref.natCast_inj.1 h

theorem mem_entries {id : Ref e} (h : (id, a) ∈ s.entries) :
    ∃ j : Nat, id = ⟨(j : Int)⟩ ∧ s.items[j]? = some a := by
  obtain ⟨j, hj⟩ := List.mem_iff_getElem?.1 h
  obtain ⟨h1, h2⟩ := List.getElem?_zip_eq_some.1 hj
  rw [refs, List.getElem?_map, Option.map_eq_some_iff] at h1
  obtain ⟨k, hk, rfl⟩ := h1
  obtain ⟨hlt, hjk⟩ := List.getElem?_eq_some_iff.1 hk
  rw [List.getElem_range] at hjk
  exact ⟨j, by rw [hjk], h2⟩

theorem mem_entries_of_getElem? (h : s.items[i]? = some a) : (⟨(i : Int)⟩, a) ∈ s.entries := by
  have hlt : i < s.size := (List.getElem?_eq_some_iff.1 h).1
  refine List.mem_iff_getElem?.2 ⟨i, List.getElem?_zip_eq_some.2 ⟨?_, h⟩⟩
  rw [refs, List.getElem?_map, List.getElem?_range hlt]
  rfl

def Resolves (s : Store e α) (ids : List (Ref e)) : Prop := ∀ id ∈ ids, ∃ a, s.lookup id = .ok a

/-- The store issued the reference, for an entity that has the property. -/
def Names (s : Store e α) (P : α → Prop) (id : Ref e) : Prop :=
  ∃ (k : Nat) (a : α), id = ⟨(k : Int)⟩ ∧ s.items[k]? = some a ∧ P a

theorem names_iff {P : α → Prop} : s.Names P ⟨(i : Int)⟩ ↔ ∃ a, s.items[i]? = some a ∧ P a := by
  constructor
  · rintro ⟨k, a, hk, ha⟩
    obtain rfl : i = k := Ref.natCast_inj.1 hk
    exact ⟨a, ha⟩
  · rintro ⟨a, ha⟩
    exact ⟨i, a, rfl, ha⟩

theorem Names.mem_refs {P : α → Prop} {id : Ref e} (h : s.Names P id) : id ∈ s.refs := by
  obtain ⟨k, a, rfl, hk, -⟩ := h
  exact mem_refs_iff.2 (List.getElem?_eq_some_iff.1 hk).1

theorem resolves_of_names {P : α → Prop} {ids : List (Ref e)} (h : ∀ id ∈ ids, s.Names P id) :
    s.Resolves ids := by
  intro id hid
  obtain ⟨k, a, rfl, hk, -⟩ := h id hid
  exact ⟨a, lookup_natCast hk⟩

end Store

/-! ## Programs -/

section Programs

variable {σ α β : Type} {s t : σ}

theorem pure_eq_ok_iff {a b : α} : (pure a : EStateM Fault σ α) s = .ok b t ↔ a = b ∧ s = t := by
  simp only [pure, EStateM.pure, EStateM.Result.ok.injEq]

theorem get_eq_ok_iff {u : σ} : (get : EStateM Fault σ σ) s = .ok u t ↔ s = u ∧ s = t := by
  show EStateM.Result.ok s s = EStateM.Result.ok u t ↔ _
  rw [EStateM.Result.ok.injEq]

theorem modify_eq_ok_iff {f : σ → σ} {u : PUnit} :
    (modify f : EStateM Fault σ PUnit) s = .ok u t ↔ f s = t := by
  show EStateM.Result.ok ⟨⟩ (f s) = EStateM.Result.ok u t ↔ _
  rw [EStateM.Result.ok.injEq]
  exact and_iff_right rfl

/-- A sequence goes on from where its first part succeeds. -/
theorem bind_eq_of_ok {x : EStateM Fault σ α} {a : α} (h : x s = .ok a t)
    (f : α → EStateM Fault σ β) : (x >>= f) s = f a t := by
  simp only [bind, EStateM.bind, h]

theorem throw_eq_ok_iff {e : Fault} {a : α} :
    (throw e : EStateM Fault σ α) s = .ok a t ↔ False := by
  constructor
  · intro h
    cases h
  · exact False.elim

theorem lift_eq_ok_iff {x : Except Fault α} {a : α} :
    (liftM x : EStateM Fault σ α) s = .ok a t ↔ x = .ok a ∧ s = t := by
  cases x with
  | ok b =>
    show (pure b : EStateM Fault σ α) s = .ok a t ↔ _
    rw [pure_eq_ok_iff, Except.ok.injEq]
  | error e =>
    show (throw e : EStateM Fault σ α) s = .ok a t ↔ _
    rw [throw_eq_ok_iff]
    simp

theorem discard_eq_ok_iff {x : EStateM Fault σ α} {u : PUnit} :
    (discard x) s = .ok u t ↔ ∃ a, x s = .ok a t := by
  show (EStateM.map (Function.const α PUnit.unit) x) s = .ok u t ↔ _
  unfold EStateM.map
  cases x s with
  | ok a v =>
    constructor
    · intro h
      cases h
      exact ⟨a, rfl⟩
    · rintro ⟨b, h⟩
      cases h
      rfl
  | error e v =>
    constructor
    · intro h
      cases h
    · rintro ⟨b, h⟩
      cases h

/-! ## Faults -/

/-- Every fault that the program can end with satisfies `P`. -/
def FaultsIn (P : Fault → Prop) (x : EStateM Fault σ α) (s : σ) : Prop :=
  ∀ e t, x s = .error e t → P e

variable {P : Fault → Prop}

theorem FaultsIn.bind {x : EStateM Fault σ α} {f : α → EStateM Fault σ β} (hx : FaultsIn P x s)
    (hf : ∀ a u, x s = .ok a u → FaultsIn P (f a) u) : FaultsIn P (x >>= f) s := by
  intro e t h
  simp only [Bind.bind, EStateM.bind] at h
  cases hr : x s with
  | ok a u =>
    rw [hr] at h
    exact hf a u hr e t h
  | error e' u =>
    rw [hr] at h
    cases h
    exact hx _ _ hr

theorem FaultsIn.of_ok {x : EStateM Fault σ α} {a : α} (h : x s = .ok a t) : FaultsIn P x s := by
  intro e u he
  rw [h] at he
  cases he

theorem FaultsIn.pure (a : α) : FaultsIn P (pure a) s := by
  intro e t h
  cases h

theorem FaultsIn.throw {e : Fault} (h : P e) : FaultsIn P (throw e : EStateM Fault σ α) s := by
  intro e' t he
  cases he
  exact h

theorem FaultsIn.get : FaultsIn P (get : EStateM Fault σ σ) s := by
  intro e t h
  cases h

theorem FaultsIn.modify (f : σ → σ) : FaultsIn P (modify f : EStateM Fault σ PUnit) s := by
  intro e t h
  cases h

theorem FaultsIn.lift {x : Except Fault α} (hx : ∀ e, x = .error e → P e) :
    FaultsIn P (liftM x : EStateM Fault σ α) s := by
  intro e t h
  cases x with
  | ok a => cases h
  | error e' =>
    cases h
    exact hx _ rfl

theorem FaultsIn.discard {x : EStateM Fault σ α} (hx : FaultsIn P x s) :
    FaultsIn P (discard x) s := by
  intro e t h
  apply hx e t
  change (EStateM.map (Function.const α PUnit.unit) x) s = .error e t at h
  unfold EStateM.map at h
  cases hr : x s with
  | ok a u =>
    rw [hr] at h
    cases h
  | error e' u =>
    rw [hr] at h
    cases h
    rfl

/-- The program ends with a result that satisfies `Q`, or with a fault that satisfies `P`. -/
def Ends (Q : α → σ → Prop) (P : Fault → Prop) (x : EStateM Fault σ α) (s : σ) : Prop :=
  (∀ a t, x s = .ok a t → Q a t) ∧ FaultsIn P x s

variable {Q : α → σ → Prop}

namespace Ends

/-- A sequence ends as its second part does wherever the first part can lead. -/
theorem bind_of_ok {Q : β → σ → Prop} {x : EStateM Fault σ α} {f : α → EStateM Fault σ β}
    (hx : FaultsIn P x s) (hf : ∀ a t, x s = .ok a t → Ends Q P (f a) t) :
    Ends Q P (x >>= f) s := by
  constructor
  · intro b t h
    obtain ⟨a, u, hxa, hfa⟩ := bind_eq_ok_iff.1 h
    exact (hf a u hxa).1 b t hfa
  · exact hx.bind fun a u h => (hf a u h).2

theorem bind {R : α → σ → Prop} {Q : β → σ → Prop} {x : EStateM Fault σ α}
    {f : α → EStateM Fault σ β} (hx : Ends R P x s)
    (hf : ∀ a t, R a t → Ends Q P (f a) t) : Ends Q P (x >>= f) s :=
  bind_of_ok hx.2 fun a t h => hf a t (hx.1 a t h)

theorem bind_get {f : σ → EStateM Fault σ β} {Q : β → σ → Prop} (h : Ends Q P (f s) s) :
    Ends Q P (get >>= f) s := by
  refine bind_of_ok .get fun u t hg => ?_
  obtain ⟨rfl, rfl⟩ := get_eq_ok_iff.1 hg
  exact h

theorem bind_modify {f : σ → σ} {g : PUnit → EStateM Fault σ β} {Q : β → σ → Prop}
    (h : Ends Q P (g ⟨⟩) (f s)) : Ends Q P (modify f >>= g) s := by
  refine bind_of_ok (.modify f) fun u t hm => ?_
  obtain rfl := modify_eq_ok_iff.1 hm
  exact h

theorem bind_lift {x : Except Fault α} {f : α → EStateM Fault σ β} {Q : β → σ → Prop}
    (hx : ∀ e, x = .error e → P e) (hf : ∀ a, x = .ok a → Ends Q P (f a) s) :
    Ends Q P ((liftM x : EStateM Fault σ α) >>= f) s := by
  refine bind_of_ok (.lift hx) fun a t hl => ?_
  obtain ⟨ha, rfl⟩ := lift_eq_ok_iff.1 hl
  exact hf a ha

theorem pure {a : α} (h : Q a s) : Ends Q P (pure a) s := by
  refine ⟨fun b t hb => ?_, FaultsIn.pure a⟩
  obtain ⟨rfl, rfl⟩ := pure_eq_ok_iff.1 hb
  exact h

theorem discard {x : EStateM Fault σ α} (hx : Ends Q P x s) :
    Ends (fun _ t => ∃ a, Q a t) P (discard x) s := by
  refine ⟨fun u t h => ?_, hx.2.discard⟩
  obtain ⟨a, ha⟩ := discard_eq_ok_iff.1 h
  exact ⟨a, hx.1 a t ha⟩

theorem mono {R : α → σ → Prop} {x : EStateM Fault σ α} (hx : Ends R P x s)
    (h : ∀ a t, R a t → Q a t) : Ends Q P x s :=
  ⟨fun a t ha => h a t (hx.1 a t ha), hx.2⟩

/-- A program that cannot fail has no fault to tell of. -/
theorem of_safe {x : EStateM Fault σ α} (hx : Ends Q (fun _ => False) x s) : Ends Q P x s :=
  ⟨hx.1, fun e t h => (hx.2 e t h).elim⟩

/-- A program that cannot fail succeeds. -/
theorem exists_ok {x : EStateM Fault σ α} (hx : Ends Q (fun _ => False) x s) :
    ∃ a t, x s = .ok a t ∧ Q a t := by
  cases hr : x s with
  | ok a t => exact ⟨a, t, rfl, hx.1 a t hr⟩
  | error e t => exact absurd (hx.2 e t hr) id

end Ends

end Programs

/-! ## Lists of computations -/

theorem except_bind_eq_ok_iff {α β : Type} {x : Except Fault α} {f : α → Except Fault β} {b : β} :
    (x >>= f) = .ok b ↔ ∃ a, x = .ok a ∧ f a = .ok b := by
  cases x with
  | error e => simp [bind, Except.bind]
  | ok a => simp [bind, Except.bind]

theorem except_eq_ok_of_toOption {α : Type} {x : Except Fault α} {a : α}
    (h : x.toOption = some a) : x = .ok a := by
  cases x with
  | error e => cases h
  | ok b => rw [Option.some.inj h]

/-- The results of a list of computations that succeed are those of its members. -/
theorem mem_iff_of_mapM_ok {α β : Type} {f : α → Except Fault β} {as : List α} {bs : List β}
    (h : as.mapM f = .ok bs) {b : β} : b ∈ bs ↔ ∃ a ∈ as, f a = .ok b := by
  induction as generalizing bs with
  | nil =>
    cases h
    simp
  | cons a as ih =>
    rw [List.mapM_cons] at h
    cases ha : f a with
    | error e =>
      rw [ha] at h
      cases h
    | ok c =>
      cases has : as.mapM f with
      | error e =>
        rw [ha, has] at h
        cases h
      | ok cs =>
        rw [ha, has] at h
        cases h
        simp only [List.mem_cons, ih has, exists_eq_or_imp, ha, Except.ok.injEq]
        rw [eq_comm]

/-- Where a list of computations succeeds, so does each of its members. -/
theorem exists_of_mapM_ok {α β : Type} {f : α → Except Fault β} {as : List α} {bs : List β}
    (h : as.mapM f = .ok bs) {a : α} (ha : a ∈ as) : ∃ b ∈ bs, f a = .ok b := by
  induction as generalizing bs with
  | nil => cases ha
  | cons c as ih =>
    rw [List.mapM_cons] at h
    obtain ⟨b, hb, h⟩ := except_bind_eq_ok_iff.1 h
    obtain ⟨cs, hcs, h⟩ := except_bind_eq_ok_iff.1 h
    obtain rfl := Except.ok.inj h
    rcases List.mem_cons.1 ha with rfl | ha
    · exact ⟨b, List.mem_cons_self, hb⟩
    · obtain ⟨b', hb', hf⟩ := ih hcs ha
      exact ⟨b', List.mem_cons_of_mem _ hb', hf⟩

/-- A list of computations fails with the fault of one of them. -/
theorem exists_of_mapM_error {α β : Type} {f : α → Except Fault β} {as : List α} {e : Fault}
    (h : as.mapM f = .error e) : ∃ a ∈ as, f a = .error e := by
  induction as with
  | nil => cases h
  | cons a as ih =>
    rw [List.mapM_cons] at h
    cases ha : f a with
    | error e' =>
      rw [ha] at h
      cases h
      exact ⟨a, List.mem_cons_self, ha⟩
    | ok c =>
      cases has : as.mapM f with
      | error e' =>
        rw [ha, has] at h
        cases h
        obtain ⟨a', ha', hf⟩ := ih has
        exact ⟨a', List.mem_cons_of_mem _ ha', hf⟩
      | ok cs =>
        rw [ha, has] at h
        cases h

theorem mapM_ok {α β : Type} {f : α → Except Fault β} {as : List α}
    (h : ∀ a ∈ as, ∃ b, f a = .ok b) : ∃ bs, as.mapM f = .ok bs := by
  cases hr : as.mapM f with
  | ok bs => exact ⟨bs, rfl⟩
  | error e =>
    obtain ⟨a, ha, he⟩ := exists_of_mapM_error hr
    obtain ⟨b, hb⟩ := h a ha
    rw [he] at hb
    cases hb

/-! ## Draws -/

namespace Source

variable {σ α : Type} {src : Source σ} {st st' : Stream σ}

theorem mem_of_between (hs : src.Lawful) {lo hi n : Int} (h : src.between lo hi st = .ok n st') :
    lo ≤ n ∧ n ≤ hi := by
  unfold between at h
  split at h
  · cases h
  · next hle =>
    cases h
    exact ⟨hs.le_between _ _ _ (by omega), hs.between_le _ _ _ (by omega)⟩

theorem draws_of_between {lo hi n : Int} (h : src.between lo hi st = .ok n st') :
    st'.draws = st.draws + 1 := by
  unfold between at h
  split at h
  · cases h
  · cases h
    rfl

theorem mem_of_choose (hs : src.Lawful) {as : List α} {a : α} (h : src.choose as st = .ok a st') :
    a ∈ as := by
  cases as with
  | nil => cases h
  | cons b bs =>
    obtain ⟨c, st1, hc, hmem, _⟩ := choose_ok hs (List.cons_ne_nil b bs) st
    rw [hc] at h
    cases h
    exact hmem

variable {P : Fault → Prop}

theorem faultsIn_between {lo hi : Int} (h : lo ≤ hi) : FaultsIn P (src.between lo hi) st := by
  intro e t he
  have := between_error_iff.1 ⟨e, t, he⟩
  omega

theorem faultsIn_choose {as : List α} (h : as ≠ []) : FaultsIn P (src.choose as) st := by
  intro e t he
  cases as with
  | nil => exact absurd rfl h
  | cons a as => cases he

theorem faultsIn_chance (p : Float) : FaultsIn P (src.chance p) st := by
  intro e t he
  cases he

end Source

theorem Lottery.mem_of_build? {w α : Type} [Weight w] {es : List (w × α)} {l : Lottery w α}
    (h : build? es = some l) {a : α} (ha : a ∈ l.items) :
    ∃ x, (x, a) ∈ es ∧ counts (x, a) = true := by
  have hb : build es = .ok l := by
    unfold build? at h
    cases hr : build es with
    | error e =>
      rw [hr] at h
      cases h
    | ok m =>
      rw [hr] at h
      cases h
      rfl
  obtain ⟨⟨x, b⟩, he, rfl⟩ := List.mem_map.1 ha
  rw [entries_build hb] at he
  obtain ⟨hm, hc⟩ := List.mem_filter.1 he
  exact ⟨x, hm, hc⟩

theorem Lottery.build_ok {w α : Type} [Weight w] {es : List (w × α)} {e : w × α} (he : e ∈ es)
    (hc : counts e = true) : ∃ l, build es = .ok l := by
  unfold build
  split
  · next hnil =>
    have := List.mem_filter.2 ⟨he, hc⟩
    rw [hnil] at this
    cases this
  · exact ⟨_, rfl⟩

theorem Lottery.faultsIn_draw {σ w α : Type} [Weight w] {P : Fault → Prop} (l : Lottery w α)
    (src : Source σ) (st : Stream σ) : FaultsIn P (l.draw src) st := by
  intro e t he
  cases he

theorem Lottery.mem_of_draw {σ w α : Type} [Weight w] {l : Lottery w α} {src : Source σ}
    {st st' : Stream σ} {a : α} (h : l.draw src st = .ok a st') : a ∈ l.items := by
  cases h
  exact l.pick_mem _

/-! ## Building programs -/

def Works.noted {σ : Type} (w : Works σ) (e : Event) : Works σ :=
  { w with journal := w.journal ++ [e] }

/-- The same rooms, walls, counts and frontier; only the stream and the journal may differ. -/
structure Works.Idle {σ : Type} (w w' : Works σ) : Prop where
  rooms : w'.rooms = w.rooms
  walls : w'.walls = w.walls
  counts : w'.counts = w.counts
  frontier : w'.frontier = w.frontier

namespace Works.Idle

variable {σ : Type} {u v w : Works σ}

theorem refl (w : Works σ) : w.Idle w := ⟨rfl, rfl, rfl, rfl⟩

theorem noted (w : Works σ) (e : Event) : w.Idle (w.noted e) := ⟨rfl, rfl, rfl, rfl⟩

theorem stream (w : Works σ) (st : Stream σ) : w.Idle { w with stream := st } :=
  ⟨rfl, rfl, rfl, rfl⟩

theorem trans (h1 : u.Idle v) (h2 : v.Idle w) : u.Idle w :=
  ⟨h2.rooms.trans h1.rooms, h2.walls.trans h1.walls, h2.counts.trans h1.counts,
    h2.frontier.trans h1.frontier⟩

end Works.Idle

namespace Build

variable {σ α : Type} {w w' : Works σ}

theorem draw_eq_ok_iff {d : Draw σ α} {a : α} :
    draw d w = .ok a w' ↔ ∃ st, d w.stream = .ok a st ∧ { w with stream := st } = w' := by
  unfold draw
  cases d w.stream with
  | ok b st =>
    constructor
    · intro h
      cases h
      exact ⟨st, rfl, rfl⟩
    · rintro ⟨st', h, rfl⟩
      cases h
      rfl
  | error e st =>
    constructor
    · intro h
      cases h
    · rintro ⟨st', h, _⟩
      cases h

theorem idle_of_draw {d : Draw σ α} {a : α} (h : draw d w = .ok a w') : w.Idle w' := by
  obtain ⟨st, -, rfl⟩ := draw_eq_ok_iff.1 h
  exact .stream w st

theorem idle_of_note {e : Event} {u : Unit} (h : note e w = .ok u w') : w.Idle w' := by
  obtain rfl := modify_eq_ok_iff.1 h
  exact .noted w e

theorem refuse_eq_ok {e : Event} {r : Option α} (h : refuse e w = .ok r w') :
    r = none ∧ w' = w.noted e := by
  cases h
  exact ⟨rfl, rfl⟩

theorem room_eq_ok_iff {id : Ref .room} {r : Room} :
    room id w = .ok r w' ↔ w.rooms.lookup id = .ok r ∧ w = w' := by
  simp only [room, bind_eq_ok_iff, get_eq_ok_iff, lift_eq_ok_iff]
  constructor
  · rintro ⟨v, u, ⟨rfl, rfl⟩, h, rfl⟩
    exact ⟨h, rfl⟩
  · rintro ⟨h, rfl⟩
    exact ⟨w, w, ⟨rfl, rfl⟩, h, rfl⟩

theorem wall_eq_ok_iff {id : Ref .wall} {wl : Wall} :
    wall id w = .ok wl w' ↔ w.walls.lookup id = .ok wl ∧ w = w' := by
  simp only [wall, bind_eq_ok_iff, get_eq_ok_iff, lift_eq_ok_iff]
  constructor
  · rintro ⟨v, u, ⟨rfl, rfl⟩, h, rfl⟩
    exact ⟨h, rfl⟩
  · rintro ⟨h, rfl⟩
    exact ⟨w, w, ⟨rfl, rfl⟩, h, rfl⟩

theorem addRoom_eq_ok_iff {r : Room} {id : Ref .room} :
    addRoom r w = .ok id w' ↔
      w.rooms.frozen = false ∧ id = ⟨(w.rooms.size : Int)⟩ ∧
        { w with rooms := { w.rooms with items := w.rooms.items ++ [r] } } = w' := by
  simp only [addRoom, bind_eq_ok_iff, get_eq_ok_iff, lift_eq_ok_iff, modify_eq_ok_iff,
    pure_eq_ok_iff]
  constructor
  · rintro ⟨v, u, ⟨rfl, rfl⟩, ⟨i, s⟩, u, ⟨h, rfl⟩, p, u, rfl, rfl, rfl⟩
    obtain ⟨hf, hid, rfl⟩ := Store.insert_eq_ok_iff.1 h
    exact ⟨hf, hid, rfl⟩
  · rintro ⟨hf, hid, rfl⟩
    exact ⟨w, w, ⟨rfl, rfl⟩, ⟨_, _⟩, w, ⟨Store.insert_eq_ok_iff.2 ⟨hf, hid, rfl⟩, rfl⟩, ⟨⟩, _,
      rfl, rfl, rfl⟩

theorem addWall_eq_ok_iff {wl : Wall} {id : Ref .wall} :
    addWall wl w = .ok id w' ↔
      w.walls.frozen = false ∧ id = ⟨(w.walls.size : Int)⟩ ∧
        { w with walls := { w.walls with items := w.walls.items ++ [wl] } } = w' := by
  simp only [addWall, bind_eq_ok_iff, get_eq_ok_iff, lift_eq_ok_iff, modify_eq_ok_iff,
    pure_eq_ok_iff]
  constructor
  · rintro ⟨v, u, ⟨rfl, rfl⟩, ⟨i, s⟩, u, ⟨h, rfl⟩, p, u, rfl, rfl, rfl⟩
    obtain ⟨hf, hid, rfl⟩ := Store.insert_eq_ok_iff.1 h
    exact ⟨hf, hid, rfl⟩
  · rintro ⟨hf, hid, rfl⟩
    exact ⟨w, w, ⟨rfl, rfl⟩, ⟨_, _⟩, w, ⟨Store.insert_eq_ok_iff.2 ⟨hf, hid, rfl⟩, rfl⟩, ⟨⟩, _,
      rfl, rfl, rfl⟩

theorem changeRoom_eq_ok_iff {i : Nat} {f : Room → Room} {u : Unit} (hi : i < w.rooms.size) :
    changeRoom ⟨(i : Int)⟩ f w = .ok u w' ↔
      { w with rooms := { w.rooms with items := w.rooms.items.modify i f } } = w' := by
  simp only [changeRoom, bind_eq_ok_iff, get_eq_ok_iff, lift_eq_ok_iff, modify_eq_ok_iff]
  constructor
  · rintro ⟨v, x, ⟨rfl, rfl⟩, s, y, ⟨h, rfl⟩, rfl⟩
    rw [Store.modify_natCast hi] at h
    cases h
    rfl
  · rintro rfl
    exact ⟨w, w, ⟨rfl, rfl⟩, _, w, ⟨Store.modify_natCast hi, rfl⟩, rfl⟩

variable {P : Fault → Prop}

theorem faultsIn_draw {d : Draw σ α} (h : FaultsIn P d w.stream) : FaultsIn P (draw d) w := by
  intro e t he
  unfold draw at he
  cases hd : d w.stream with
  | ok a st =>
    rw [hd] at he
    cases he
  | error e' st =>
    rw [hd] at he
    cases he
    exact h _ _ hd

theorem ends_draw {Q : α → Stream σ → Prop} {d : Draw σ α} (h : Ends Q P d w.stream) :
    Ends (fun a t => w.Idle t ∧ ∃ st, Q a st) P (draw d) w := by
  refine ⟨fun a t ha => ⟨idle_of_draw ha, ?_⟩, faultsIn_draw h.2⟩
  obtain ⟨st, hd, -⟩ := draw_eq_ok_iff.1 ha
  exact ⟨st, h.1 a st hd⟩

theorem faultsIn_note (e : Event) : FaultsIn P (note e) w := FaultsIn.modify _

theorem faultsIn_refuse (e : Event) : FaultsIn P (refuse e : Build σ (Option α)) w :=
  (faultsIn_note e).bind fun _ _ _ => FaultsIn.pure _

theorem ends_refuse (e : Event) :
    Ends (fun r t => r = none ∧ t = w.noted e) P (refuse e : Build σ (Option α)) w :=
  ⟨fun _ _ h => refuse_eq_ok h, faultsIn_refuse e⟩

theorem ends_room {i : Nat} {r : Room} (hr : w.rooms.items[i]? = some r) :
    Ends (fun r' t => r = r' ∧ w = t) P (room ⟨(i : Int)⟩) w := by
  have hl := Store.lookup_natCast_iff.2 hr
  refine ⟨fun r' t h => ?_, .of_ok (room_eq_ok_iff.2 ⟨hl, rfl⟩)⟩
  obtain ⟨hl', rfl⟩ := room_eq_ok_iff.1 h
  exact ⟨Except.ok.inj (hl.symm.trans hl'), rfl⟩

theorem ends_wall {i : Nat} {wl : Wall} (hw : w.walls.items[i]? = some wl) :
    Ends (fun wl' t => wl = wl' ∧ w = t) P (wall ⟨(i : Int)⟩) w := by
  have hl := Store.lookup_natCast_iff.2 hw
  refine ⟨fun wl' t h => ?_, .of_ok (wall_eq_ok_iff.2 ⟨hl, rfl⟩)⟩
  obtain ⟨hl', rfl⟩ := wall_eq_ok_iff.1 h
  exact ⟨Except.ok.inj (hl.symm.trans hl'), rfl⟩

theorem faultsIn_addRoom {r : Room} (h : w.rooms.frozen = false) : FaultsIn P (addRoom r) w :=
  .of_ok (addRoom_eq_ok_iff.2 ⟨h, rfl, rfl⟩)

theorem faultsIn_addWall {wl : Wall} (h : w.walls.frozen = false) :
    FaultsIn P (addWall wl) w :=
  .of_ok (addWall_eq_ok_iff.2 ⟨h, rfl, rfl⟩)

theorem faultsIn_changeRoom {i : Nat} {f : Room → Room} (hi : i < w.rooms.size) :
    FaultsIn P (changeRoom ⟨(i : Int)⟩ f) w :=
  .of_ok ((changeRoom_eq_ok_iff (u := ()) hi).2 rfl)

end Build

/-! ## The rooms around a room -/

theorem filter_refs_zip {α : Type} (as : List α) (k i : Nat) (h : k ≤ i) :
    ((((List.range' k as.length).map fun j : Nat => (⟨(j : Int)⟩ : Ref .room)).zip as).filter
      fun e => decide (e.1 ≠ ⟨(i : Int)⟩)).map (·.2) = as.eraseIdx (i - k) := by
  induction as generalizing k with
  | nil => rfl
  | cons a as ih =>
    rw [List.length_cons, List.range'_succ, List.map_cons, List.zip_cons_cons, List.filter_cons]
    by_cases hk : k = i
    · subst hk
      have hall : ∀ e ∈ ((List.range' (k + 1) as.length).map
          fun j : Nat => (⟨(j : Int)⟩ : Ref .room)).zip as, decide (e.1 ≠ ⟨(k : Int)⟩) = true := by
        intro e he
        obtain ⟨j, hj, hje⟩ := List.mem_map.1 (List.of_mem_zip he).1
        have := (List.mem_range'_1.1 hj).1
        rw [← hje]
        simp only [ne_eq, Ref.mk.injEq, decide_eq_true_eq]
        omega
      rw [List.filter_eq_self.2 hall, Nat.sub_self, List.eraseIdx_zero]
      simp [List.map_snd_zip]
    · have hne : (decide ((⟨(k : Int)⟩ : Ref .room) ≠ ⟨(i : Int)⟩)) = true := by
        simp only [ne_eq, Ref.mk.injEq, decide_eq_true_eq]
        omega
      rw [if_pos hne, List.map_cons, ih (k + 1) (by omega), show i - k = i - (k + 1) + 1 by omega,
        List.eraseIdx_cons_succ]

/-- The boxes of all rooms but one, in the order of the store. -/
theorem Works.others_eq {σ : Type} (w : Works σ) (i : Nat) :
    w.others ⟨(i : Int)⟩ = (w.rooms.items.eraseIdx i).map Room.bounds := by
  have h := filter_refs_zip w.rooms.items 0 i (Nat.zero_le i)
  rw [Nat.sub_zero] at h
  rw [← h, List.map_map]
  unfold Works.others Store.entries Store.refs Store.size
  rw [List.range_eq_range']
  rfl

end TavernLayout
