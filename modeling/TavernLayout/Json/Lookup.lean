import TavernLayout.Json.Basic

/-!
# Looking into structured values

A value that has been read may have any form, so every look into it can fail. A name is looked for
among the fields of an object, the items of a list or the parts of a text; a field is taken out of
an object only.

* `Json.mentions`: a name occurs in a value;
* `Json.lookup`, `Json.lookupOr`: the field of a name, which must be there or may be missing;
* `occurs_iff`: the parts of a text are the runs of its characters.
-/

namespace TavernLayout.Json

def occurs (word : List Char) : List Char → Bool
  | [] => word.isEmpty
  | c :: cs => word.isPrefixOf (c :: cs) || occurs word cs

def isText (s : String) : Json → Bool
  | text t => t == s
  | _ => false

/-- The name is a field of an object, an item of a list or a part of a text. -/
def mentions (name : String) : Json → Except Fault Bool
  | object fs => .ok (fs.any fun f => f.1 == name)
  | list js => .ok (js.any (isText name))
  | text s => .ok (occurs name.toList s.toList)
  | _ => .error .noNames

def fields : Json → Except Fault (List (String × Json))
  | object fs => .ok fs
  | _ => .error .notAnObject

/-- The field of a name, which must be there. -/
def lookup (j : Json) (name : String) : Except Fault Json :=
  match j with
  | object _ =>
    match j.field? name with
    | some value => .ok value
    | none => .error .missingField
  | _ => .error .noNames

/-- The field of a name, or the given value for a missing one. -/
def lookupOr (j : Json) (name : String) (default : Json) : Except Fault Json :=
  match j with
  | object _ => .ok ((j.field? name).getD default)
  | _ => .error .notAnObject

theorem occurs_iff {word cs : List Char} :
    occurs word cs = true ↔ ∃ before after, cs = before ++ word ++ after := by
  induction cs with
  | nil =>
    simp only [occurs, List.isEmpty_iff]
    constructor
    · rintro rfl
      exact ⟨[], [], rfl⟩
    · rintro ⟨before, after, h⟩
      have hw := List.append_eq_nil_iff.1 (List.append_eq_nil_iff.1 h.symm).1
      exact hw.2
  | cons c cs ih =>
    simp only [occurs, Bool.or_eq_true, List.isPrefixOf_iff_prefix, ih]
    constructor
    · rintro (⟨after, h⟩ | ⟨before, after, h⟩)
      · exact ⟨[], after, h.symm⟩
      · exact ⟨c :: before, after, by simp [h]⟩
    · rintro ⟨before, after, h⟩
      cases before with
      | nil => exact .inl ⟨after, h.symm⟩
      | cons b before =>
        simp only [List.cons_append, List.cons.injEq] at h
        exact .inr ⟨before, after, h.2⟩

theorem lookup_object {fs : List (String × Json)} {name : String} {value : Json}
    (h : (object fs).field? name = some value) : (object fs).lookup name = .ok value := by
  simp [lookup, h]

end TavernLayout.Json
