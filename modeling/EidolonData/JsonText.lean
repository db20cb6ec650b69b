import EidolonData.Json
import EidolonData.Library.Ordering
import Mathlib.Data.String.Basic

/-!
# JSON text

`json.dumps(document, ensure_ascii=False, sort_keys=True)`.  Sorting the names
at every depth is a function of its own, so that what is written can be
compared before it is written.
-/

namespace EidolonData

open Relational

mutual

/-- `sort_keys=True`: the fields of every object in the order of their names. -/
def Json.sorted : Json → Json
  | .arr items => .arr (sortedItems items)
  | .obj fields => .obj (orderBy Prod.fst (sortedFields fields))
  | value => value

def sortedItems : List Json → List Json
  | [] => []
  | item :: rest => item.sorted :: sortedItems rest

def sortedFields : List (String × Json) → List (String × Json)
  | [] => []
  | (name, value) :: rest => (name, value.sorted) :: sortedFields rest

end

/-- The `separators` of `json.dumps`. -/
structure Separators where
  item : String
  key : String

/-- What `json.dumps` writes when it is given none. -/
def Separators.spaced : Separators := { item := ", ", key := ": " }

/-- `(",", ":")`. -/
def Separators.compact : Separators := { item := ",", key := ":" }

/-- `ESCAPE_DCT` of the encoder: quotes, backslashes and control characters. -/
def escape (c : Char) : List Char :=
  match c.toNat with
  | 34 => ['\\', Char.ofNat 34]
  | 92 => ['\\', '\\']
  | 8 => ['\\', 'b']
  | 9 => ['\\', 't']
  | 10 => ['\\', 'n']
  | 12 => ['\\', 'f']
  | 13 => ['\\', 'r']
  | code =>
      if code < 32 then
        ['\\', 'u', '0', '0', Nat.digitChar (code / 16), Nat.digitChar (code % 16)]
      else [c]

def writeString (text : String) : String :=
  "\"" ++ String.ofList (text.toList.flatMap escape) ++ "\""

mutual

def Json.write (separators : Separators) : Json → String
  | .null => "null"
  | .bool true => "true"
  | .bool false => "false"
  | .int value => toString value
  | .real literal => literal
  | .str value => writeString value
  | .arr items => "[" ++ separators.item.intercalate (writeItems separators items) ++ "]"
  | .obj fields => "\x7b" ++ separators.item.intercalate (writeFields separators fields) ++ "\x7d"

def writeItems (separators : Separators) : List Json → List String
  | [] => []
  | item :: rest => item.write separators :: writeItems separators rest

def writeFields (separators : Separators) : List (String × Json) → List String
  | [] => []
  | (name, value) :: rest =>
      (writeString name ++ separators.key ++ value.write separators) :: writeFields separators rest

end

/-- `json.dumps(document, ensure_ascii=False, sort_keys=True)`. -/
def jsonDumps (separators : Separators) (document : JsonDict) : String :=
  (Json.obj document).sorted.write separators

namespace JsonDict

/-- The fields of a document that `exclude` does not name. -/
def without (document : JsonDict) (excluded : List String) : JsonDict :=
  document.filter (fun field => field.1 ∉ excluded)

theorem get?_without (document : JsonDict) (excluded : List String) (name : String) :
    (document.without excluded).get? name =
      if name ∈ excluded then none else document.get? name := by
  induction document with
  | nil => simp [without, get?]
  | cons head rest induction =>
      obtain ⟨field, value⟩ := head
      have kept : without ((field, value) :: rest) excluded =
          if field ∈ excluded then without rest excluded
          else (field, value) :: without rest excluded := by
        by_cases dropped : field ∈ excluded
        · simp [without, dropped]
        · simp [without, dropped]
      rw [kept, get?]
      by_cases dropped : field ∈ excluded
      · rw [if_pos dropped, induction]
        by_cases same : field = name
        · subst same
          rw [if_pos dropped, if_pos dropped]
        · rw [if_neg same]
      · rw [if_neg dropped, get?, induction]
        by_cases same : field = name
        · subst same
          rw [if_pos rfl, if_pos rfl, if_neg dropped]
        · rw [if_neg same, if_neg same]

theorem get?_sortedFields (document : JsonDict) (name : String) :
    get? (sortedFields document) name = (document.get? name).map Json.sorted := by
  induction document with
  | nil => rfl
  | cons head rest induction =>
      obtain ⟨field, value⟩ := head
      by_cases same : field = name
      · simp [sortedFields, get?, same]
      · simp [sortedFields, get?, same, induction]

theorem get?_eq_some_iff {document : JsonDict} (distinct : (document.map Prod.fst).Nodup)
    {name : String} {value : Json} :
    document.get? name = some value ↔ (name, value) ∈ document := by
  induction document with
  | nil => simp [get?]
  | cons head rest induction =>
      obtain ⟨field, first⟩ := head
      obtain ⟨fresh, rest_distinct⟩ := List.nodup_cons.mp distinct
      by_cases same : field = name
      · subst same
        have absent : (field, value) ∉ rest :=
          fun member => fresh (List.mem_map.mpr ⟨_, member, rfl⟩)
        simp [get?, absent, eq_comm]
      · have other : ¬ name = field := fun equality => same equality.symm
        simp [get?, same, other, induction rest_distinct]

/-- Looking a name up does not depend on the order of the fields. -/
theorem get?_perm {document other : JsonDict} (same : document.Perm other)
    (distinct : (document.map Prod.fst).Nodup) (name : String) :
    document.get? name = other.get? name := by
  have otherDistinct : (other.map Prod.fst).Nodup := (same.map Prod.fst).nodup_iff.mp distinct
  apply Option.ext
  intro value
  rw [get?_eq_some_iff distinct, get?_eq_some_iff otherDistinct]
  exact same.mem_iff

end JsonDict

theorem map_fst_sortedFields (document : JsonDict) :
    (sortedFields document).map Prod.fst = document.map Prod.fst := by
  induction document with
  | nil => rfl
  | cons head rest induction => simp [sortedFields, induction]

/-- Documents that are the same once sorted have the same fields, each of them
sorted. -/
theorem get?_of_sorted {document other : JsonDict} (distinct : (document.map Prod.fst).Nodup)
    (same : (Json.obj document).sorted = (Json.obj other).sorted) (name : String) :
    (document.get? name).map Json.sorted = (other.get? name).map Json.sorted := by
  rw [← map_fst_sortedFields] at distinct
  simp only [Json.sorted, Json.obj.injEq] at same
  have permuted : (sortedFields document).Perm (sortedFields other) := by
    refine (orderBy_perm Prod.fst _).symm.trans ?_
    rw [same]
    exact orderBy_perm Prod.fst _
  rw [← JsonDict.get?_sortedFields, ← JsonDict.get?_sortedFields]
  exact JsonDict.get?_perm permuted distinct name

/-- A dictionary, its names in order at every depth: equal dictionaries are
equal values, whatever order their names were given in. -/
structure Document where
  fields : JsonDict
  ordered : (Json.obj fields).sorted = .obj fields

/-- An optional dictionary. -/
def Json.ofDocument? : Option Document → Json
  | some document => .obj document.fields
  | none => .null

theorem Json.sorted_ofDocument? (document : Option Document) :
    (Json.ofDocument? document).sorted = Json.ofDocument? document := by
  cases document with
  | none => simp [Json.ofDocument?, Json.sorted]
  | some document => exact document.ordered

theorem Json.ofDocument?_injective : Function.Injective Json.ofDocument? := by
  intro left right same
  cases left with
  | none =>
      cases right with
      | none => rfl
      | some right => cases same
  | some left =>
      cases right with
      | none => cases same
      | some right =>
          obtain ⟨leftFields, leftOrdered⟩ := left
          obtain ⟨rightFields, rightOrdered⟩ := right
          simp only [Json.ofDocument?, Json.obj.injEq] at same
          subst same
          rfl

example : jsonDumps .spaced [("b", .arr [.int (-1), .null]), ("a", .str "\"\n")] =
    "\x7b\"a\": \"\\\"\\n\", \"b\": [-1, null]\x7d" := by
  decide +kernel

end EidolonData
