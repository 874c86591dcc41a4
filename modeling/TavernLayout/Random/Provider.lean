import TavernLayout.Random.Source
import TavernLayout.Random.Checksum

/-!
# Providers

A provider fans one master seed out into any number of named domains. Each domain has a generator
of its own, started when the domain is first drawn from, so what is drawn in one domain never moves
another. A handle on a domain is a number; it stays valid when the provider is reseeded, and the
next draw through it comes from the new sequence.

* `lawful_stream`: the sources of the domains keep to the bounds that are asked for;
* `state_put_self`, `state_put_of_ne`: a draw moves its own domain only;
* `state_reseed`: reseeding starts every domain afresh;
* `handle_handle`, `handle_reseed`: a domain keeps its handle.
-/

namespace TavernLayout

inductive Seed where
  | number (n : Int)
  | text (s : String)
  deriving DecidableEq, Repr

/-- The written form of a master seed; a missing one is `None`. -/
def Seed.label : Option Seed → String
  | some (number n) => toString n
  | some (text s) => s
  | none => "None"

/-- The seed of a domain: the checksum of the master seed and the domain's name. -/
def checksumSeed (master : Option Seed) (domain : String) : Nat :=
  (checksum (Seed.label master ++ ":" ++ domain).toUTF8.toList).toNat

/-- A kind of generators: how they answer and how they start. -/
structure Generator (γ : Type) where
  source : Source γ
  seeded : Nat → γ
  unseeded : γ

structure Provider (γ : Type) where
  master : Option Seed
  started : List (String × γ) := []
  handles : List String := []

namespace Provider

variable {γ : Type}

def start (gen : Generator γ) (master : Option Seed) (domain : String) : γ :=
  match master with
  | some seed => gen.seeded (checksumSeed (some seed) domain)
  | none => gen.unseeded

def state (gen : Generator γ) (p : Provider γ) (domain : String) : γ :=
  (p.started.lookup domain).getD (start gen p.master domain)

def putIn (domain : String) (g : γ) : List (String × γ) → List (String × γ)
  | [] => [(domain, g)]
  | (d, h) :: rest => if d = domain then (domain, g) :: rest else (d, h) :: putIn domain g rest

def put (p : Provider γ) (domain : String) (g : γ) : Provider γ :=
  { p with started := putIn domain g p.started }

def ask {α : Type} (gen : Generator γ) (domain : String) (f : γ → α × γ) (p : Provider γ) :
    α × Provider γ :=
  let (a, g) := f (p.state gen domain)
  (a, p.put domain g)

def stream (gen : Generator γ) (domain : String) : Source (Provider γ) where
  nextUnit := ask gen domain gen.source.nextUnit
  nextBetween p lo hi := ask gen domain (gen.source.nextBetween · lo hi) p
  nextIndex p n := ask gen domain (gen.source.nextIndex · n) p
  nextBits p k := ask gen domain (gen.source.nextBits · k) p
  refusedBits p count :=
    (gen.source.refusedBits (p.state gen domain) count).map fun (e, g) => (e, p.put domain g)

/-- The handle of a domain, made when the domain has none yet. -/
def handle (p : Provider γ) (domain : String) : Nat × Provider γ :=
  match p.handles.idxOf? domain with
  | some i => (i, p)
  | none => (p.handles.length, { p with handles := p.handles ++ [domain] })

/-- Starts every domain afresh from a new master seed. -/
def reseed (p : Provider γ) (master : Option Seed) : Provider γ :=
  { p with master := master, started := [] }

/-! ## The shared provider -/

/-- Seeds the shared provider, reseeding it if there is one already. -/
def init (shared : Option (Provider γ)) (master : Option Seed) : Provider γ :=
  match shared with
  | none => { master := master }
  | some p => p.reseed master

/-- The shared provider, made without a seed if there is none. -/
def ensured (shared : Option (Provider γ)) : Provider γ := shared.getD { master := none }

def reset (shared : Option (Provider γ)) (master : Option Seed) : Except Fault (Provider γ) :=
  match shared with
  | none => .error .streamsNotStarted
  | some p => .ok (p.reseed master)

/-! ## Laws -/

theorem lawful_stream {gen : Generator γ} (h : gen.source.Lawful) (domain : String) :
    (stream gen domain).Lawful where
  le_between _ := h.le_between _
  between_le _ := h.between_le _
  index_lt _ := h.index_lt _
  bits_lt _ := h.bits_lt _

theorem lookup_putIn_self (domain : String) (g : γ) (ds : List (String × γ)) :
    (putIn domain g ds).lookup domain = some g := by
  induction ds with
  | nil => simp [putIn]
  | cons e ds ih =>
    obtain ⟨d, h⟩ := e
    by_cases hd : d = domain
    · simp [putIn, hd]
    · have hb : (domain == d) = false := by simpa using fun h' => hd h'.symm
      simp [putIn, hd, List.lookup_cons, hb, ih]

theorem lookup_putIn_of_ne {d domain : String} (hne : d ≠ domain) (g : γ) (ds : List (String × γ)) :
    (putIn domain g ds).lookup d = ds.lookup d := by
  induction ds with
  | nil =>
    have hb : (d == domain) = false := by simpa using hne
    simp [putIn, List.lookup_cons, hb]
  | cons e ds ih =>
    obtain ⟨d', h⟩ := e
    by_cases hd : d' = domain
    · have hb : (d == domain) = false := by simpa using hne
      simp [putIn, hd, List.lookup_cons, hb]
    · simp [putIn, hd, List.lookup_cons, ih]

theorem state_put_self (gen : Generator γ) (p : Provider γ) (domain : String) (g : γ) :
    (p.put domain g).state gen domain = g := by
  simp [state, put, lookup_putIn_self]

theorem state_put_of_ne (gen : Generator γ) (p : Provider γ) {d domain : String}
    (h : d ≠ domain) (g : γ) : (p.put domain g).state gen d = p.state gen d := by
  simp [state, put, lookup_putIn_of_ne h]

theorem state_reseed (gen : Generator γ) (p : Provider γ) (master : Option Seed) (d : String) :
    (p.reseed master).state gen d = start gen master d := by
  simp [state, reseed]

theorem handle_handle (p : Provider γ) (d : String) :
    ((p.handle d).2.handle d).1 = (p.handle d).1 := by
  unfold handle
  cases h : p.handles.idxOf? d with
  | some i => simp [h]
  | none =>
    have hn : d ∉ p.handles := List.idxOf?_eq_none_iff.1 h
    have : (p.handles ++ [d]).idxOf? d = some p.handles.length := by
      simp only [List.idxOf?, List.findIdx?_append]
      rw [show List.findIdx? (fun x => x == d) p.handles = none from h]
      simp
    simp [this]

theorem handle_reseed (p : Provider γ) (master : Option Seed) (d : String) :
    ((p.reseed master).handle d).1 = (p.handle d).1 := by
  unfold handle reseed
  dsimp only
  split <;> rfl

end Provider

end TavernLayout
