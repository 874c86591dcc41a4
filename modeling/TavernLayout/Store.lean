import TavernLayout.Fault

/-!
# Stores

Rooms, walls and roofs name each other by references into stores. A store is a list that only
grows, until it is frozen; a reference is a position in it. A reference below zero counts from the
end, so `-1` is the entity inserted last.

* `items_insert`, `lookup_insert_self`: what an insertion adds and how it is found again;
* `insert_frozen`: a frozen store takes nothing;
* `items_modify_length`: changing an entity keeps every reference valid.
-/

namespace TavernLayout

/-- The kinds of entities that are kept in stores. -/
inductive Entity where
  | room
  | wall
  | roof
  | item
  deriving DecidableEq, Repr

@[ext] structure Ref (e : Entity) where
  index : Int
  deriving DecidableEq, Repr

namespace Ref

def text {e : Entity} (r : Ref e) : String := "Id(" ++ toString r.index ++ ")"

end Ref

/-- A growing list of entities. -/
structure Store (e : Entity) (α : Type) where
  items : List α := []
  frozen : Bool := false
  deriving DecidableEq, Repr

namespace Store

variable {e : Entity} {α : Type}

def empty : Store e α := {}

def size (s : Store e α) : Nat := s.items.length

/-- The position a reference names, if it lies in the store. -/
def position? (s : Store e α) (r : Ref e) : Option Nat :=
  if 0 ≤ r.index then
    if r.index < s.size then some r.index.toNat else none
  else if 0 ≤ r.index + s.size then some (r.index + s.size).toNat else none

def get? (s : Store e α) (r : Ref e) : Option α := (s.position? r).bind (s.items[·]?)

/-- The entity a reference names, or a fault. -/
def lookup (s : Store e α) (r : Ref e) : Except Fault α :=
  match s.get? r with
  | some a => .ok a
  | none => .error .outOfRange

/-- Adds an entity at the end and returns its reference. -/
def insert (s : Store e α) (a : α) : Except Fault (Ref e × Store e α) :=
  if s.frozen then .error .storeFrozen
  else .ok (⟨s.size⟩, { s with items := s.items ++ [a] })

def modify (s : Store e α) (r : Ref e) (f : α → α) : Except Fault (Store e α) :=
  match s.position? r with
  | some i => .ok { s with items := s.items.modify i f }
  | none => .error .outOfRange

/-- The store that takes no more entities. -/
def freeze (s : Store e α) : Store e α := { s with frozen := true }

def refs (s : Store e α) : List (Ref e) := (List.range s.size).map fun i : Nat => ⟨(i : Int)⟩

def entries (s : Store e α) : List (Ref e × α) := s.refs.zip s.items

/-! ## Laws -/

theorem items_insert {s t : Store e α} {a : α} {r : Ref e} (h : s.insert a = .ok (r, t)) :
    t.items = s.items ++ [a] ∧ r.index = s.size := by
  unfold insert at h
  split at h
  · cases h
  · cases h
    exact ⟨rfl, rfl⟩

theorem insert_frozen {s : Store e α} (h : s.frozen = true) (a : α) :
    s.insert a = .error .storeFrozen := by
  simp [insert, h]

theorem lookup_natCast {s : Store e α} {i : Nat} {a : α} (h : s.items[i]? = some a) :
    s.lookup ⟨i⟩ = .ok a := by
  have hi : i < s.size := (List.getElem?_eq_some_iff.1 h).1
  have hp : s.position? ⟨i⟩ = some i := by
    simp [position?, hi]
  simp [lookup, get?, hp, h]

theorem lookup_insert_self {s t : Store e α} {a : α} {r : Ref e} (h : s.insert a = .ok (r, t)) :
    t.lookup r = .ok a := by
  obtain ⟨hi, hr⟩ := items_insert h
  have heq : r = ⟨(s.items.length : Nat)⟩ := by
    ext
    simp [hr, size]
  rw [heq]
  apply lookup_natCast
  simp [hi]

theorem items_modify_length {s t : Store e α} {r : Ref e} {f : α → α}
    (h : s.modify r f = .ok t) : t.size = s.size := by
  unfold modify at h
  split at h
  · cases h
    simp [size]
  · cases h

end Store

end TavernLayout
