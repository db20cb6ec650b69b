import Mathlib.Data.List.Basic

/-!
# JSON documents

The values SQLAlchemy's `JSON` columns hold, and the dictionary operations
the services use on them.  A document is kept as the list of its fields;
`set` replaces a field in place or appends it, as a Python `dict` does.
-/

namespace EidolonData

inductive Json where
  | null
  | bool (value : Bool)
  | int (value : Int)
  /-- A number with a fraction or an exponent, kept as its literal. -/
  | real (literal : String)
  | str (value : String)
  | arr (items : List Json)
  | obj (fields : List (String × Json))
  deriving Inhabited, Repr

/-- A JSON object: Python's `dict[str, Any]`. -/
abbrev JsonDict := List (String × Json)

mutual

def Json.decEq : (left right : Json) → Decidable (left = right)
  | .null, .null => isTrue rfl
  | .bool left, .bool right =>
      decidable_of_iff (left = right) (by simp)
  | .int left, .int right =>
      decidable_of_iff (left = right) (by simp)
  | .real left, .real right =>
      decidable_of_iff (left = right) (by simp)
  | .str left, .str right =>
      decidable_of_iff (left = right) (by simp)
  | .arr left, .arr right =>
      match Json.decEqItems left right with
      | isTrue same => isTrue (by rw [same])
      | isFalse different => isFalse (fun same => different (by simpa using same))
  | .obj left, .obj right =>
      match Json.decEqFields left right with
      | isTrue same => isTrue (by rw [same])
      | isFalse different => isFalse (fun same => different (by simpa using same))
  | .null, .bool _ | .null, .int _ | .null, .real _ | .null, .str _
  | .null, .arr _ | .null, .obj _
  | .bool _, .null | .bool _, .int _ | .bool _, .real _ | .bool _, .str _
  | .bool _, .arr _ | .bool _, .obj _
  | .int _, .null | .int _, .bool _ | .int _, .real _ | .int _, .str _
  | .int _, .arr _ | .int _, .obj _
  | .real _, .null | .real _, .bool _ | .real _, .int _ | .real _, .str _
  | .real _, .arr _ | .real _, .obj _
  | .str _, .null | .str _, .bool _ | .str _, .int _ | .str _, .real _
  | .str _, .arr _ | .str _, .obj _
  | .arr _, .null | .arr _, .bool _ | .arr _, .int _ | .arr _, .real _
  | .arr _, .str _ | .arr _, .obj _
  | .obj _, .null | .obj _, .bool _ | .obj _, .int _ | .obj _, .real _
  | .obj _, .str _ | .obj _, .arr _ => isFalse (fun same => by cases same)

def Json.decEqItems : (left right : List Json) → Decidable (left = right)
  | [], [] => isTrue rfl
  | [], _ :: _ | _ :: _, [] => isFalse (fun same => by cases same)
  | left :: lefts, right :: rights =>
      match Json.decEq left right, Json.decEqItems lefts rights with
      | isTrue head, isTrue tail => isTrue (by rw [head, tail])
      | isFalse head, _ => isFalse (fun same => head (List.cons.inj same).1)
      | _, isFalse tail => isFalse (fun same => tail (List.cons.inj same).2)

def Json.decEqFields : (left right : List (String × Json)) → Decidable (left = right)
  | [], [] => isTrue rfl
  | [], _ :: _ | _ :: _, [] => isFalse (fun same => by cases same)
  | (leftName, left) :: lefts, (rightName, right) :: rights =>
      match instDecidableEqString leftName rightName, Json.decEq left right,
          Json.decEqFields lefts rights with
      | isTrue name, isTrue head, isTrue tail => isTrue (by rw [name, head, tail])
      | isFalse name, _, _ =>
          isFalse (fun same => name (Prod.mk.inj (List.cons.inj same).1).1)
      | _, isFalse head, _ =>
          isFalse (fun same => head (Prod.mk.inj (List.cons.inj same).1).2)
      | _, _, isFalse tail => isFalse (fun same => tail (List.cons.inj same).2)

end

instance : DecidableEq Json := Json.decEq

namespace JsonDict

/-- `document.get(name)`. -/
def get? : JsonDict → String → Option Json
  | [], _ => none
  | (field, value) :: rest, name =>
      if field = name then some value else get? rest name

/-- `document[name] = value`. -/
def set : JsonDict → String → Json → JsonDict
  | [], name, value => [(name, value)]
  | (field, old) :: rest, name, value =>
      if field = name then (name, value) :: rest
      else (field, old) :: set rest name value

/-- `{**document, **other}`. -/
def merge (document other : JsonDict) : JsonDict :=
  other.foldl (fun merged field => set merged field.1 field.2) document

theorem mem_of_get? {document : JsonDict} {name : String} {value : Json}
    (found : document.get? name = some value) : (name, value) ∈ document := by
  induction document with
  | nil => cases found
  | cons field rest induction =>
      obtain ⟨other, first⟩ := field
      rw [get?] at found
      split at found
      · next same =>
        cases found
        subst same
        exact List.mem_cons_self
      · exact List.mem_cons_of_mem _ (induction found)

theorem get?_set (document : JsonDict) (name other : String) (value : Json) :
    (document.set name value).get? other =
      if name = other then some value else document.get? other := by
  induction document with
  | nil => simp [set, get?]
  | cons head rest induction =>
      obtain ⟨field, old⟩ := head
      by_cases same : field = name
      · subst field
        by_cases found : name = other
        · simp [set, get?, found]
        · simp [set, get?, found]
      · by_cases found : field = other
        · subst field
          have notName : ¬ name = other := fun equality => same equality.symm
          simp [set, get?, same, notName]
        · simp [set, get?, same, found, induction]

/-- Assigning one field leaves every other field as it was. -/
theorem get?_set_other {document : JsonDict} {name other : String} (value : Json)
    (different : name ≠ other) :
    (document.set name value).get? other = document.get? other := by
  rw [get?_set, if_neg different]

end JsonDict

/-- `value` as a dictionary; anything else is not one. -/
def Json.asDict? : Json → Option JsonDict
  | .obj fields => some fields
  | _ => none

/-- `value` as a string; anything else is not one. -/
def Json.asString? : Json → Option String
  | .str value => some value
  | _ => none

theorem Json.asDict?_eq_some_iff {value : Option Json} {fields : JsonDict} :
    value.bind Json.asDict? = some fields ↔ value = some (.obj fields) := by
  cases value with
  | none => simp
  | some value =>
      cases value with
      | obj other => simp [Json.asDict?]
      | _ => simp [Json.asDict?]

theorem Json.asString?_eq_some_iff {value : Option Json} {text : String} :
    value.bind Json.asString? = some text ↔ value = some (.str text) := by
  cases value with
  | none => simp
  | some value =>
      cases value with
      | str other => simp [Json.asString?]
      | _ => simp [Json.asString?]

/-- `bool(value)`. -/
def Json.truthy : Json → Bool
  | .null => false
  | .bool value => value
  | .int value => value ≠ 0
  | .real literal => literal ∉ ["0.0", "-0.0"]
  | .str value => value ≠ ""
  | .arr items => !items.isEmpty
  | .obj fields => !fields.isEmpty

/-- A nullable string. -/
def Json.ofString? : Option String → Json
  | some value => .str value
  | none => .null

end EidolonData
