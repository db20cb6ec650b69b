import EidolonData.Json
import EidolonData.Library.Table
import EidolonData.Python

/-!
# Migration 0005: conversation preferences

The retired voice selector leaves the preferences of a Companion where the voice
snapshot holds its value.  A stored document is anything JSON can say; `dict`
takes a sequence of pairs as well, and their keys need not be strings.
-/

namespace EidolonData

open Relational

/-- A key of a dictionary that is not a string. -/
inductive ScalarKey where
  | null
  | bool (value : Bool)
  | int (value : Int)
  | real (literal : String)
  deriving DecidableEq, Repr

inductive DictKey where
  | str (text : String)
  | scalar (key : ScalarKey)
  deriving DecidableEq, Repr

namespace DictKey

def isString : DictKey → Bool
  | .str _ => true
  | .scalar _ => false

/-- The name that `json.dumps` writes for a key. -/
def text : DictKey → String
  | .str text => text
  | .scalar .null => "null"
  | .scalar (.bool true) => "true"
  | .scalar (.bool false) => "false"
  | .scalar (.int value) => toString value
  | .scalar (.real literal) => literal

/-- A hashable value of JSON. -/
def ofJson? : Json → Option DictKey
  | .null => some (.scalar .null)
  | .bool value => some (.scalar (.bool value))
  | .int value => some (.scalar (.int value))
  | .real literal => some (.scalar (.real literal))
  | .str text => some (.str text)
  | .arr _ => none
  | .obj _ => none

/-- The keys that a dictionary takes for one; `same` compares those that are not
strings, as Python compares `1`, `1.0` and `True`. -/
def equal (same : ScalarKey → ScalarKey → Bool) : DictKey → DictKey → Bool
  | .str left, .str right => left = right
  | .scalar left, .scalar right => same left right
  | _, _ => false

end DictKey

/-- A dictionary of Python, in the order of its insertions. -/
abbrev PyDict := List (DictKey × Json)

namespace PyDict

/-- `dict[key] = value`. -/
def assign (same : ScalarKey → ScalarKey → Bool) : PyDict → DictKey → Json → PyDict
  | [], key, value => [(key, value)]
  | (stored, old) :: rest, key, value =>
      if stored.equal same key then (stored, value) :: rest
      else (stored, old) :: assign same rest key value

def ofPairs (same : ScalarKey → ScalarKey → Bool) (pairs : List (DictKey × Json)) : PyDict :=
  pairs.foldl (fun dict pair => assign same dict pair.1 pair.2) []

/-- `dict.get(name)`. -/
def get? (dict : PyDict) (name : String) : Option Json :=
  (dict.find? (fun entry => entry.1 = .str name)).map Prod.snd

/-- `del dict[name]`. -/
def erase (dict : PyDict) (name : String) : PyDict :=
  dict.filter (fun entry => entry.1 ≠ .str name)

/-- The document that is read back from `json.dumps(dict)`. -/
def written (dict : PyDict) : JsonDict :=
  dict.foldl (fun fields entry => JsonDict.set fields entry.1.text entry.2) []

end PyDict

/-- An element of a sequence that `dict` takes for a key and its value. -/
def Json.pair? : Json → Option (DictKey × Json)
  | .arr [key, value] => (DictKey.ofJson? key).map (fun key => (key, value))
  | .str text =>
      match text.toList with
      | [key, value] => some (.str (String.ofList [key]), .str (String.ofList [value]))
      | _ => none
  | .obj [(key, _), (value, _)] => some (.str key, .str value)
  | _ => none

inductive MigrationError where
  | valueError (message : String)
  | jsonDecodeError
  /-- The `TypeError` or `ValueError` of `dict`. -/
  | notADictionary
  deriving DecidableEq, Repr

/-- `dict(value)`. -/
def toDict (same : ScalarKey → ScalarKey → Bool) (value : Json) : Except MigrationError PyDict :=
  match value with
  | .obj fields => .ok (PyDict.ofPairs same (fields.map (fun field => (.str field.1, field.2))))
  | .arr items =>
      match items.mapM Json.pair? with
      | some pairs => .ok (PyDict.ofPairs same pairs)
      | none => .error .notADictionary
  | .str text => if text = "" then .ok [] else .error .notADictionary
  | _ => .error .notADictionary

/-- A row of `companions` as the migration selects it. -/
structure ConfigRow where
  companionId : String
  runtimeConfigJson : Json
  deriving DecidableEq, Repr

instance : HasKey ConfigRow String := ⟨ConfigRow.companionId⟩

/-- `allowed`, the vocabulary of this revision. -/
def allowedPreferences : List (String × List String) :=
  [("response_length", ["brief", "balanced", "detailed"]),
   ("advice", ["when_asked", "proactive"]),
   ("follow_up", ["when_needed", "conversational"])]

def isAllowedPreference : DictKey × Json → Bool
  | (.str name, value) =>
      match allowedPreferences.lookup name with
      | some values => value ∈ values.map Json.str
      | none => false
  | (.scalar _, _) => false

/-- The snapshot of the voice says what the selector says. -/
def hasSnapshot (config : PyDict) : Json → Bool
  | .str voiceId =>
      strip voiceId ≠ "" &&
        match config.get? "companion_voice" with
        | some (.obj voice) => JsonDict.get? voice "profile_id" = some (.str voiceId)
        | _ => false
  | _ => false

section Upgrade

variable (loads : String → Option Json) (same : ScalarKey → ScalarKey → Bool)

/-- The configuration of a row; a string is decoded once more. -/
def configOf (row : ConfigRow) : Except MigrationError PyDict :=
  match row.runtimeConfigJson with
  | .str text =>
      match loads text with
      | some value => toDict same value
      | none => .error .jsonDecodeError
  | value => toDict same value

def preferencesOf (config : PyDict) : Except MigrationError PyDict :=
  toDict same ((config.get? "conversation_preferences").getD (.obj []))

/-- The checks of a row, and its configuration where the selector leaves it. -/
def examine (row : ConfigRow) : Except MigrationError (Option PyDict) := do
  let config ← configOf loads same row
  let preferences ← preferencesOf same config
  let unsupported := MigrationError.valueError
    (row.companionId ++ ": unsupported conversation preferences")
  match preferences.get? "voice_profile_id" with
  | some voiceId =>
      if hasSnapshot config voiceId = false then
        .error (.valueError (row.companionId ++ ": voice selector has no matching snapshot"))
      else
        let preferences := preferences.erase "voice_profile_id"
        if preferences.all isAllowedPreference then
          .ok (some (config.assign same (.str "conversation_preferences")
            (.obj preferences.written)))
        else .error unsupported
  | none => if preferences.all isAllowedPreference then .ok none else .error unsupported

/-- The loop over the rows, before anything is written. -/
def planUpdates : List ConfigRow → Except MigrationError (List (String × JsonDict))
  | [] => .ok []
  | row :: rows => do
      let changed ← examine loads same row
      let updates ← planUpdates rows
      match changed with
      | some config => return (row.companionId, config.written) :: updates
      | none => return updates

def writeUpdates (updates : List (String × JsonDict)) (companions : Table ConfigRow) :
    Table ConfigRow :=
  updates.foldl (fun companions update =>
    companions.modify update.1 (fun row =>
      { row with runtimeConfigJson := .obj update.2 }) (fun _ => rfl)) companions

def upgrade (companions : Table ConfigRow) : Except MigrationError Unit × Table ConfigRow :=
  match planUpdates loads same companions.rows with
  | .error refusal => (.error refusal, companions)
  | .ok updates => (.ok (), writeUpdates updates companions)

end Upgrade

end EidolonData
