import Mathlib.Data.List.Nodup
import TavernLayout.Proofs.Alike.Programs
import TavernLayout.Proofs.Works

/-!
# Sessions

A session is everything that is done with the random streams of a process: the shared provider is
seeded and reseeded, handles are asked for, and draws are made through any of them, in any order.
A provider of one's own is a session that starts with its seeding.

* `draws_run`: between two seedings every domain goes through the states of its own generator;
* `got_mem_iff`: a handle that was given out stays with its domain;
* `founded_run`: what it takes for a provider to exist;
* `streams_isolated`: a domain answers as a fresh generator of its own, whatever happens in between.
-/

namespace TavernLayout

/-! ## Calls -/

inductive Call (α : Type) where
  | unit
  | between (lo hi : Int)
  | choose (items : List α)
  | bits (count : Int)

inductive Answer (α : Type) where
  | fraction (x : Float)
  | integer (n : Int)
  | item (a : α)
  | bits (n : Nat)

namespace Call

variable {σ τ α : Type} {R : σ → τ → Prop}

def ask (src : Source σ) : Call α → Draw σ (Answer α)
  | unit => .fraction <$> src.unit
  | between lo hi => .integer <$> src.between lo hi
  | choose items => .item <$> src.choose items
  | bits count => .bits <$> src.bits count

/-- The answer or the refusal, and the state of the source after it. -/
def answer (src : Source σ) (c : Call α) (s : σ) : Except Fault (Answer α) × σ :=
  match c.ask src ⟨s, 0⟩ with
  | .ok a st => (.ok a, st.state)
  | .error e st => (.error e, st.state)

def answers (src : Source σ) : List (Call α) → σ → List (Except Fault (Answer α))
  | [], _ => []
  | c :: cs, s => (c.answer src s).1 :: answers src cs (c.answer src s).2

theorem alike_ask {src : Source σ} {src' : Source τ} (h : src.Follows R src') (c : Call α) :
    Alike (Source.Kept R) (c.ask src) (c.ask src') := by
  cases c with
  | unit => exact (Source.alike_unit h).map _
  | between lo hi => exact (Source.alike_between h lo hi).map _
  | choose items => exact (Source.alike_choose h items).map _
  | bits count => exact (Source.alike_bits h count).map _

theorem sameAnswer {src : Source σ} {src' : Source τ} (h : src.Follows R src') (c : Call α)
    {s : σ} {t : τ} (hst : R s t) : Source.SameAnswer R (c.answer src s) (c.answer src' t) := by
  unfold answer
  rcases (alike_ask h c ⟨s, 0⟩ ⟨t, 0⟩ hst).cases with
    ⟨a, u, v, hu, hv, huv⟩ | ⟨e, u, v, hu, hv, huv⟩
  · rw [hu, hv]
    exact ⟨rfl, huv⟩
  · rw [hu, hv]
    exact ⟨rfl, huv⟩

end Call

namespace Session

variable {γ α : Type}

/-! ## Steps -/

inductive Step (α : Type) where
  | init (master : Option Seed)
  | reset (master : Option Seed)
  | get (domain : String)
  | draw (handle : Nat) (call : Call α)

/-- A step after which a provider exists. -/
def Step.Founds : Step α → Prop
  | .init _ | .get _ => True
  | .reset _ | .draw _ _ => False

/-- What a step puts on record. -/
inductive Record (α : Type) where
  | seeded (master : Option Seed)
  | refused (e : Fault)
  | got (domain : String) (handle : Nat)
  | drawn (handle : Nat) (domain : String) (call : Call α) (answer : Except Fault (Answer α))
  /-- A draw through a handle that nobody has. -/
  | unknown (handle : Nat)

/-- The domains with a handle, in the order of their handles. -/
def held (shared : Option (Provider γ)) : List String := (Provider.ensured shared).handles

/-- Makes one step. A refused step leaves the provider as it is. -/
def perform (gen : Generator γ) (shared : Option (Provider γ)) :
    Step α → Record α × Option (Provider γ)
  | .init master => (.seeded master, some (Provider.init shared master))
  | .reset master =>
    match Provider.reset shared master with
    | .ok p => (.seeded master, some p)
    | .error e => (.refused e, shared)
  | .get domain =>
    let (k, p) := (Provider.ensured shared).handle domain
    (.got domain k, some p)
  | .draw k c =>
    match (held shared)[k]? with
    | none => (.unknown k, shared)
    | some domain =>
      let (a, p) := c.answer (Provider.stream gen domain) (Provider.ensured shared)
      (.drawn k domain c a, some p)

def run (gen : Generator γ) : Option (Provider γ) → List (Step α) →
    List (Record α) × Option (Provider γ)
  | shared, [] => ([], shared)
  | shared, step :: steps =>
    let rest := run gen (perform gen shared step).2 steps
    ((perform gen shared step).1 :: rest.1, rest.2)

/-- The call and the answer of a draw in a domain. -/
def Record.drawIn? (domain : String) : Record α → Option (Call α × Except Fault (Answer α))
  | .drawn _ d c a => if d = domain then some (c, a) else none
  | _ => none

def drawsIn (domain : String) (records : List (Record α)) :
    List (Call α × Except Fault (Answer α)) :=
  records.filterMap (Record.drawIn? domain)

variable {gen : Generator γ} {shared : Option (Provider γ)} {p : Provider γ} {step : Step α}
  {steps : List (Step α)} {d d' : String} {k k' : Nat} {m : Option Seed} {c : Call α}

theorem perform_draw (h : (held shared)[k]? = some d) :
    perform gen shared (.draw k c) =
      (.drawn k d c (c.answer (Provider.stream gen d) (Provider.ensured shared)).1,
        some (c.answer (Provider.stream gen d) (Provider.ensured shared)).2) := by
  simp only [perform, h]

theorem perform_unknown (h : (held shared)[k]? = none) :
    perform gen shared (.draw k c) = (.unknown k, shared) := by
  simp only [perform, h]

/-! ## States -/

/-- Every domain starts afresh when the provider is seeded. -/
theorem perform_seeded (h : (perform gen shared step).1 = .seeded m) :
    ∃ p, (perform gen shared step).2 = some p ∧ ∀ d, p.state gen d = Provider.start gen m d := by
  cases step with
  | init master =>
    cases h
    refine ⟨_, rfl, fun d => ?_⟩
    cases shared with
    | none => rfl
    | some p => exact Provider.state_reseed gen p m d
  | reset master =>
    cases shared with
    | none => cases h
    | some p =>
      cases h
      exact ⟨p.reseed m, rfl, Provider.state_reseed gen p m⟩
  | get domain => cases h
  | draw k c =>
    cases hk : (held shared)[k]? with
    | none =>
      rw [perform_unknown hk] at h
      cases h
    | some domain =>
      rw [perform_draw hk] at h
      cases h

/-- A step that seeds nothing moves the domain it draws in, as its generator moves, and no other. -/
theorem perform_drawIn? (h : ∀ m, (perform gen (some p) step).1 ≠ .seeded m) :
    ∃ p', (perform gen (some p) step).2 = some p' ∧ ∀ d,
      match (perform gen (some p) step).1.drawIn? d with
      | none => p'.state gen d = p.state gen d
      | some (c, a) => (a, p'.state gen d) = c.answer gen.source (p.state gen d) := by
  cases step with
  | init master => exact absurd rfl (h master)
  | reset master => exact absurd rfl (h master)
  | get domain =>
    refine ⟨_, rfl, fun d => ?_⟩
    simp only [perform, Record.drawIn?, Provider.ensured, Option.getD_some, Provider.handle]
    split <;> rfl
  | draw k c =>
    cases hk : (held (some p))[k]? with
    | none =>
      rw [perform_unknown hk]
      exact ⟨p, rfl, fun d => rfl⟩
    | some domain =>
      rw [perform_draw hk]
      obtain ⟨ha, hp⟩ := c.sameAnswer (Provider.follows_stream gen domain p) (.refl gen domain p)
      refine ⟨_, rfl, fun d => ?_⟩
      by_cases hd : domain = d
      · subst hd
        simp only [Record.drawIn?, if_pos]
        exact Prod.ext ha hp.state
      · simp only [Record.drawIn?, if_neg hd]
        exact hp.others d fun h => hd h.symm

/-- Between two seedings a domain answers as its generator does from the state it is in. -/
theorem draws_run (h : ∀ m, .seeded m ∉ (run gen (some p) steps).1) (d : String) :
    (drawsIn d (run gen (some p) steps).1).map Prod.snd =
      Call.answers gen.source ((drawsIn d (run gen (some p) steps).1).map Prod.fst)
        (p.state gen d) := by
  -- on the steps, for every provider: each step hands its state on to the rest of the run
  induction steps generalizing p with
  | nil => rfl
  | cons step steps ih =>
    simp only [run, List.mem_cons, not_or] at h
    obtain ⟨p', hp', hd⟩ := perform_drawIn? fun m hm => (h m).1 hm.symm
    specialize hd d
    rw [hp'] at h
    have ih := ih fun m => (h m).2
    simp only [run, hp', drawsIn, List.filterMap_cons] at ih ⊢
    cases hr : (perform gen (some p) step).1.drawIn? d with
    | none =>
      rw [hr] at hd
      rw [← hd]
      exact ih
    | some ca =>
      obtain ⟨c, a⟩ := ca
      rw [hr] at hd
      obtain ⟨ha, hs⟩ := Prod.ext_iff.1 hd
      dsimp only at ha hs
      simp only [List.map_cons, Call.answers, ← ha, ← hs, ih]

/-- What follows a record is the run from the state that its step leaves. -/
theorem run_split {before after : List (Record α)} {r : Record α}
    (h : (run gen shared steps).1 = before ++ r :: after) :
    ∃ shared' step later, (perform gen shared' step).1 = r ∧
      (run gen (perform gen shared' step).2 later).1 = after := by
  induction before generalizing shared steps with
  | nil =>
    cases steps with
    | nil => cases h
    | cons step steps =>
      obtain ⟨hr, hafter⟩ := List.cons_eq_cons.1 h
      exact ⟨shared, step, steps, hr, hafter⟩
  | cons b before ih =>
    cases steps with
    | nil => cases h
    | cons step steps => exact ih (List.cons_eq_cons.1 h).2

/-! ## Handles -/

/-- A step gives out at most one new handle, and takes none back. -/
theorem held_perform (gen : Generator γ) (shared : Option (Provider γ)) (step : Step α) :
    (held (perform gen shared step).2 = held shared ∧
        ∀ d k, (perform gen shared step).1 = .got d k → (held shared)[k]? = some d) ∨
      ∃ d, d ∉ held shared ∧ (perform gen shared step).1 = .got d (held shared).length ∧
        held (perform gen shared step).2 = held shared ++ [d] := by
  cases step with
  | init master =>
    left
    refine ⟨?_, fun d k h => by cases h⟩
    cases shared <;> rfl
  | reset master =>
    left
    cases shared <;> exact ⟨rfl, fun d k h => by cases h⟩
  | get domain =>
    simp only [perform, Provider.handle]
    cases hi : (Provider.ensured shared).handles.idxOf? domain with
    | none =>
      right
      exact ⟨domain, List.idxOf?_eq_none_iff.1 hi, rfl, rfl⟩
    | some i =>
      left
      refine ⟨rfl, fun d k h => ?_⟩
      cases h
      obtain ⟨hlt, heq, -⟩ := List.idxOf?_eq_some_iff.1 hi
      exact List.getElem?_eq_some_iff.2 ⟨hlt, heq⟩
  | draw k c =>
    left
    cases hk : (held shared)[k]? with
    | none =>
      rw [perform_unknown hk]
      exact ⟨rfl, fun d k h => by cases h⟩
    | some domain =>
      rw [perform_draw hk]
      obtain ⟨-, hp⟩ := c.sameAnswer (Provider.follows_stream gen domain (Provider.ensured shared))
        (.refl gen domain _)
      exact ⟨hp.handles, fun d k h => by cases h⟩

/-- The handles after a step are those before it and the one it gave out. -/
theorem held_perform_iff :
    (held (perform gen shared step).2)[k]? = some d ↔
      (held shared)[k]? = some d ∨ (perform gen shared step).1 = .got d k := by
  rcases held_perform gen shared step with ⟨heq, hgot⟩ | ⟨d', -, hgot, heq⟩
  · rw [heq]
    exact ⟨.inl, fun h => h.elim id (hgot d k)⟩
  · rw [heq, hgot]
    constructor
    · intro h
      rcases getElem?_append_singleton h with ⟨-, h⟩ | ⟨rfl, rfl⟩
      · exact .inl h
      · exact .inr rfl
    · rintro (h | h)
      · exact getElem?_append_of_eq_some h _
      · cases h
        exact List.getElem?_concat_length

theorem nodup_held_perform (h : (held shared).Nodup) :
    (held (perform gen shared step).2).Nodup := by
  rcases held_perform gen shared step with ⟨heq, -⟩ | ⟨d, hd, -, heq⟩
  · rw [heq]
    exact h
  · rw [heq, ← List.concat_eq_append]
    exact List.Nodup.concat hd h

theorem nodup_held_run (h : (held shared).Nodup) : (held (run gen shared steps).2).Nodup := by
  induction steps generalizing shared with
  | nil => exact h
  | cons step steps ih => exact ih (nodup_held_perform h)

/-- The handles at the end of a run are those of its beginning and those it gave out. -/
theorem held_run_iff :
    (held (run gen shared steps).2)[k]? = some d ↔
      (held shared)[k]? = some d ∨ .got d k ∈ (run gen shared steps).1 := by
  induction steps generalizing shared with
  | nil => simp [run]
  | cons step steps ih =>
    rw [run, ih, held_perform_iff, List.mem_cons, or_assoc, eq_comm (a := Record.got d k)]

/-- In a session, a domain has a handle exactly when it was given out. -/
theorem got_mem_iff :
    .got d k ∈ (run gen none steps).1 ↔ (held (run gen none steps).2)[k]? = some d := by
  rw [held_run_iff]
  simp [held, Provider.ensured]

/-- A draw goes to the domain that its handle was given out for. -/
theorem held_of_drawn {a : Except Fault (Answer α)}
    (h : .drawn k d c a ∈ (run gen shared steps).1) :
    (held (run gen shared steps).2)[k]? = some d := by
  induction steps generalizing shared with
  | nil => cases h
  | cons step steps ih =>
    rcases List.mem_cons.1 h with h | h
    · refine held_run_iff.2 (.inl ?_)
      cases step with
      | init master => cases h
      | reset master => cases shared <;> cases h
      | get domain => cases h
      | draw k' c' =>
        cases hk : (held shared)[k']? with
        | none =>
          rw [perform_unknown hk] at h
          cases h
        | some domain =>
          rw [perform_draw hk] at h
          cases h
          exact hk
    · exact ih h

/-! ## The shared provider -/

theorem perform_some (gen : Generator γ) (p : Provider γ) (step : Step α) :
    ∃ p', (perform gen (some p) step).2 = some p' := by
  cases step with
  | init master => exact ⟨_, rfl⟩
  | reset master => exact ⟨_, rfl⟩
  | get domain => exact ⟨_, rfl⟩
  | draw k c =>
    cases hk : (held (some p))[k]? with
    | none => exact ⟨p, by rw [perform_unknown hk]⟩
    | some domain => exact ⟨_, by rw [perform_draw hk]⟩

theorem perform_none_iff : (perform gen none step).2 = none ↔ ¬step.Founds := by
  cases step <;> simp [perform, Step.Founds, Provider.reset, held, Provider.ensured]

theorem run_some (gen : Generator γ) (p : Provider γ) (steps : List (Step α)) :
    ∃ p', (run gen (some p) steps).2 = some p' := by
  induction steps generalizing p with
  | nil => exact ⟨p, rfl⟩
  | cons step steps ih =>
    obtain ⟨p', hp'⟩ := perform_some gen p step
    simp only [run, hp']
    exact ih p'

/-- Without a seeding and without a handle there is no provider. -/
theorem founded_run : (run gen none steps).2 = none ↔ ∀ s ∈ steps, ¬s.Founds := by
  induction steps with
  | nil => simp [run]
  | cons step steps ih =>
    rw [List.forall_mem_cons]
    by_cases hs : step.Founds
    · have hfound : (perform gen none step).2 ≠ none := fun h => perform_none_iff.1 h hs
      obtain ⟨p, hp⟩ := Option.ne_none_iff_exists'.1 hfound
      obtain ⟨p', hp'⟩ := run_some gen p steps
      simp [run, hp, hp', hs]
    · simp only [run, perform_none_iff.2 hs, ih, hs, not_false_eq_true, true_and]

/-! ## Isolation -/

/-- What a session can rely on, whatever it has done so far. -/
structure Isolated (gen : Generator γ) (steps : List (Step α)) : Prop where
  /-- Draws can be made through every handle that was given out. -/
  drawable : ∀ d k, .got d k ∈ (run gen none steps).1 → ∀ c : Call α, ∃ a,
    (perform gen (run gen none steps).2 (.draw k c)).1 = .drawn k d c a
  /-- A draw is made in the domain that its handle was given out for. -/
  drawn : ∀ k d c a, .drawn k d c a ∈ (run gen none steps).1 → .got d k ∈ (run gen none steps).1
  /-- After a seeding every domain answers like a new generator with the seed of the domain. -/
  fresh : ∀ before seed after, (run gen none steps).1 = before ++ .seeded (some seed) :: after →
    (∀ m, .seeded m ∉ after) → ∀ d,
    (drawsIn d after).map Prod.snd =
      Call.answers gen.source ((drawsIn d after).map Prod.fst)
        (gen.seeded (checksumSeed (some seed) d))
  /-- A domain has one handle for good, and shares it with no other. -/
  handle : ∀ d d' k k', .got d k ∈ (run gen none steps).1 → .got d' k' ∈ (run gen none steps).1 →
    (k = k' ↔ d = d')
  /-- Without a provider a reset is refused and changes nothing. -/
  refused : (∀ s ∈ steps, ¬s.Founds) → ∀ m,
    perform gen (run gen none steps).2 (.reset m : Step α) =
      (.refused .streamsNotStarted, (run gen none steps).2)
  /-- With a provider a reset seeds it. -/
  reseeded : (∃ s ∈ steps, s.Founds) → ∀ m,
    (perform gen (run gen none steps).2 (.reset m : Step α)).1 = .seeded m

/-- Domains are isolated from each other in every session. -/
theorem streams_isolated (gen : Generator γ) (steps : List (Step α)) : Isolated gen steps where
  drawable d k h c := by
    rw [perform_draw (got_mem_iff.1 h)]
    exact ⟨_, rfl⟩
  drawn k d c a h := got_mem_iff.2 (held_of_drawn h)
  fresh before seed after h hafter d := by
    obtain ⟨shared, step, later, hstep, hlater⟩ := run_split h
    obtain ⟨p, hp, hstart⟩ := perform_seeded hstep
    rw [hp] at hlater
    subst hlater
    rw [draws_run hafter d, hstart d]
    rfl
  handle d d' k k' h h' := by
    have hk := got_mem_iff.1 h
    have hk' := got_mem_iff.1 h'
    have hnodup : (held (run gen none steps).2).Nodup := nodup_held_run (List.nodup_nil)
    constructor
    · rintro rfl
      exact Option.some.inj (hk.symm.trans hk')
    · rintro rfl
      obtain ⟨hlt, heq⟩ := List.getElem?_eq_some_iff.1 hk
      obtain ⟨hlt', heq'⟩ := List.getElem?_eq_some_iff.1 hk'
      exact hnodup.getElem_inj_iff.1 (heq.trans heq'.symm)
  refused h m := by
    rw [founded_run.2 h]
    rfl
  reseeded h m := by
    cases hs : (run gen none steps).2 with
    | none =>
      obtain ⟨s, hmem, hfounds⟩ := h
      exact absurd hfounds (founded_run.1 hs s hmem)
    | some p => rfl

/-- A generator that counts on from its seed. -/
def counting : Generator Nat where
  source := {
    nextUnit := fun n => (0.0, n + 1)
    nextBetween := fun n lo _ => (lo, n + 1)
    nextIndex := fun n _ => (0, n + 1)
    nextBits := fun n _ => (n, n + 1)
    refusedBits := fun _ _ => none }
  seeded := id
  unseeded := 0

/-- Draws in two domains by turns, after a reseeding. -/
def turns : List (Step Nat) :=
  [.init (some (.text "old")), .get "a", .draw 0 (.bits 32), .reset (some (.number 7)), .get "b",
   .draw 0 (.bits 32), .draw 1 (.bits 32), .get "a", .draw 0 (.bits 32)]

theorem records_turns :
    (run counting none turns).1 =
      [.seeded (some (.text "old")), .got "a" 0,
        .drawn 0 "a" (.bits 32) (.ok (.bits (checksumSeed (some (.text "old")) "a")))] ++
      .seeded (some (.number 7)) ::
      [.got "b" 1,
        .drawn 0 "a" (.bits 32) (.ok (.bits (checksumSeed (some (.number 7)) "a"))),
        .drawn 1 "b" (.bits 32) (.ok (.bits (checksumSeed (some (.number 7)) "b"))),
        .got "a" 0,
        .drawn 0 "a" (.bits 32) (.ok (.bits (checksumSeed (some (.number 7)) "a" + 1)))] := rfl

/-- Each domain counts on from a seed of its own, without regard to the other one. -/
theorem turns_isolated : ∃ before after : List (Record Nat),
    (run counting none turns).1 = before ++ .seeded (some (.number 7)) :: after ∧
    (drawsIn "a" after).map Prod.snd = [.ok (.bits 3245974960), .ok (.bits 3245974961)] ∧
    (drawsIn "b" after).map Prod.snd = [.ok (.bits 1483797514)] := by
  have hseedA : checksumSeed (some (.number 7)) "a" = 3245974960 := by decide +kernel
  have hseedB : checksumSeed (some (.number 7)) "b" = 1483797514 := by decide +kernel
  have hfresh := (streams_isolated counting turns).fresh _ _ _ records_turns (by simp)
  refine ⟨_, _, records_turns, ?_, ?_⟩
  · rw [hfresh "a", hseedA]
    rfl
  · rw [hfresh "b", hseedB]
    rfl

end Session

end TavernLayout
