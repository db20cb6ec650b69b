import EidolonData.Migrations.ConversationPreferences

/-!
# What migration 0005 keeps

The migration refuses before its first write.  It loses nothing as long as the
configurations it rewrites have names for keys.
-/

namespace EidolonData

open Relational

namespace PyDict

variable {same : ScalarKey → ScalarKey → Bool} {dict : PyDict}

/-- No two keys that a dictionary takes for one. -/
def Distinct (same : ScalarKey → ScalarKey → Bool) (dict : PyDict) : Prop :=
  dict.Pairwise (fun earlier later => earlier.1.equal same later.1 = false)

def Named (dict : PyDict) : Prop := ∀ entry ∈ dict, entry.1.isString = true

theorem assign_keys (key : DictKey) (value : Json) :
    ∀ entry ∈ dict.assign same key value, entry.1 = key ∨ ∃ old ∈ dict, old.1 = entry.1 := by
  induction dict with
  | nil =>
      intro entry member
      rw [List.mem_singleton.mp member]
      exact .inl rfl
  | cons head rest induction =>
      intro entry member
      unfold assign at member
      split at member
      · rcases List.mem_cons.mp member with rfl | later
        · exact .inr ⟨head, List.mem_cons_self, rfl⟩
        · exact .inr ⟨entry, List.mem_cons_of_mem _ later, rfl⟩
      · rcases List.mem_cons.mp member with rfl | later
        · exact .inr ⟨_, List.mem_cons_self, rfl⟩
        · rcases induction entry later with last | ⟨old, held, named⟩
          · exact .inl last
          · exact .inr ⟨old, List.mem_cons_of_mem _ held, named⟩

theorem assign_fresh (key : DictKey) (value : Json)
    (fresh : ∀ entry ∈ dict, entry.1.equal same key = false) :
    dict.assign same key value = dict ++ [(key, value)] := by
  induction dict with
  | nil => rfl
  | cons head rest induction =>
      have first := fresh head List.mem_cons_self
      rw [assign, if_neg (by simp [first]), List.cons_append]
      rw [induction (fun entry member => fresh entry (List.mem_cons_of_mem _ member))]

theorem Distinct.assign (distinct : dict.Distinct same) (key : DictKey) (value : Json) :
    PyDict.Distinct same (dict.assign same key value) := by
  induction dict with
  | nil => exact List.pairwise_singleton _ _
  | cons head rest induction =>
      obtain ⟨apart, later⟩ := List.pairwise_cons.mp distinct
      unfold PyDict.assign
      split
      · exact List.pairwise_cons.mpr ⟨apart, later⟩
      · next other =>
          refine List.pairwise_cons.mpr ⟨?_, induction later⟩
          intro entry member
          rcases assign_keys key value entry member with last | ⟨old, held, named⟩
          · rw [last]
            simpa using other
          · rw [← named]
            exact apart old held

theorem foldl_assign_distinct (pairs : List (DictKey × Json)) (distinct : dict.Distinct same) :
    PyDict.Distinct same
      (pairs.foldl (fun dict pair => PyDict.assign same dict pair.1 pair.2) dict) := by
  induction pairs generalizing dict with
  | nil => exact distinct
  | cons pair pairs induction => exact induction (distinct.assign pair.1 pair.2)

theorem ofPairs_distinct (pairs : List (DictKey × Json)) :
    PyDict.Distinct same (ofPairs same pairs) :=
  foldl_assign_distinct pairs List.Pairwise.nil

theorem foldl_assign_fresh (pairs : List (DictKey × Json))
    (distinct : PyDict.Distinct same (dict ++ pairs)) :
    pairs.foldl (fun dict pair => PyDict.assign same dict pair.1 pair.2) dict = dict ++ pairs := by
  induction pairs generalizing dict with
  | nil => simp
  | cons pair pairs induction =>
      have fresh : ∀ entry ∈ dict, entry.1.equal same pair.1 = false := by
        intro entry member
        exact (List.pairwise_append.mp distinct).2.2 entry member pair List.mem_cons_self
      rw [List.foldl_cons, assign_fresh pair.1 pair.2 fresh]
      rw [induction (by simpa using distinct)]
      simp

/-- Pairs with different keys are a dictionary. -/
theorem ofPairs_of_distinct {pairs : PyDict} (distinct : pairs.Distinct same) :
    ofPairs same pairs = pairs :=
  foldl_assign_fresh pairs distinct

theorem foldl_assign_keys (pairs : List (DictKey × Json)) :
    ∀ entry ∈ pairs.foldl (fun dict pair => PyDict.assign same dict pair.1 pair.2) dict,
      (∃ old ∈ dict, old.1 = entry.1) ∨ ∃ pair ∈ pairs, pair.1 = entry.1 := by
  induction pairs generalizing dict with
  | nil =>
      intro entry member
      exact .inl ⟨entry, member, rfl⟩
  | cons pair pairs induction =>
      intro entry member
      rcases induction entry member with ⟨old, held, named⟩ | ⟨other, later, named⟩
      · rcases assign_keys pair.1 pair.2 old held with last | ⟨older, held, same⟩
        · exact .inr ⟨pair, List.mem_cons_self, last.symm.trans named⟩
        · exact .inl ⟨older, held, same.trans named⟩
      · exact .inr ⟨other, List.mem_cons_of_mem _ later, named⟩

theorem ofPairs_named {pairs : PyDict} (named : pairs.Named) : Named (ofPairs same pairs) := by
  intro entry member
  rcases foldl_assign_keys pairs entry member with ⟨_, held, _⟩ | ⟨pair, held, key⟩
  · cases held
  · rw [← key]
    exact named pair held

theorem Named.assign (named : dict.Named) (name : String) (value : Json) :
    Named (dict.assign same (.str name) value) := by
  intro entry member
  rcases assign_keys (.str name) value entry member with last | ⟨old, held, key⟩
  · rw [last]
    rfl
  · rw [← key]
    exact named old held

theorem mem_assign_other {name : String} {value other : Json} {key : DictKey}
    (different : key ≠ .str name) :
    (key, other) ∈ dict.assign same (.str name) value ↔ (key, other) ∈ dict := by
  induction dict with
  | nil => simp [assign, different]
  | cons head rest induction =>
      obtain ⟨stored, old⟩ := head
      unfold assign
      split
      · next taken =>
          have named : stored = .str name := by
            cases stored with
            | str text => simpa [DictKey.equal] using taken
            | scalar key => simp [DictKey.equal] at taken
          simp [named, different]
      · simp [induction]

theorem get?_assign (name : String) (value : Json) :
    (dict.assign same (.str name) value).get? name = some value := by
  induction dict with
  | nil => simp [assign, get?]
  | cons head rest induction =>
      obtain ⟨stored, old⟩ := head
      unfold assign
      split
      · next taken =>
          have named : stored = .str name := by
            cases stored with
            | str text => simpa [DictKey.equal] using taken
            | scalar key => simp [DictKey.equal] at taken
          simp [get?, named]
      · next other =>
          have different : stored ≠ .str name := by
            intro named
            simp [named, DictKey.equal] at other
          simpa [get?, different] using induction

theorem foldl_set_fresh (fields : JsonDict) (named : dict.Named)
    (apart : ∀ field ∈ fields, ∀ entry ∈ dict, entry.1 ≠ .str field.1)
    (distinct : dict.Distinct same) :
    dict.foldl (fun fields entry => JsonDict.set fields entry.1.text entry.2) fields =
      fields ++ dict.map (fun entry => (entry.1.text, entry.2)) := by
  induction dict generalizing fields with
  | nil => simp
  | cons head rest induction =>
      obtain ⟨key, value⟩ := head
      obtain ⟨first, later⟩ := List.pairwise_cons.mp distinct
      cases key with
      | scalar key => cases named _ List.mem_cons_self
      | str name =>
          have fresh : ∀ fields : JsonDict, (∀ field ∈ fields, field.1 ≠ name) →
              JsonDict.set fields name value = fields ++ [(name, value)] := by
            intro fields
            induction fields with
            | nil =>
                intro _
                rfl
            | cons field fields induction =>
                intro other
                rw [JsonDict.set, if_neg (other field List.mem_cons_self), List.cons_append]
                rw [induction (fun field member => other field (List.mem_cons_of_mem _ member))]
          have set : JsonDict.set fields name value = fields ++ [(name, value)] := by
            apply fresh
            intro field member same
            exact apart field member _ List.mem_cons_self (congrArg DictKey.str same.symm)
          rw [List.foldl_cons]
          show rest.foldl _ (JsonDict.set fields name value) = _
          rw [set, induction]
          · simp [DictKey.text]
          · intro entry member
            exact named entry (List.mem_cons_of_mem _ member)
          · intro field member entry held
            rcases List.mem_append.mp member with before | last
            · exact apart field before entry (List.mem_cons_of_mem _ held)
            · intro taken
              have distinctNames := first entry held
              rw [List.mem_singleton.mp last] at taken
              rw [taken] at distinctNames
              simp [DictKey.equal] at distinctNames
          · exact later

theorem toDict_written (named : dict.Named) (distinct : dict.Distinct same) :
    toDict same (.obj dict.written) = .ok dict := by
  have fields : dict.written = dict.map (fun entry => (entry.1.text, entry.2)) := by
    unfold written
    rw [foldl_set_fresh [] named _ distinct, List.nil_append]
    intro field member
    cases member
  have pairs : (dict.written).map (fun field => (DictKey.str field.1, field.2)) = dict := by
    rw [fields, List.map_map]
    refine (List.map_congr_left ?_).trans (List.map_id dict)
    intro entry member
    obtain ⟨key, value⟩ := entry
    cases key with
    | str name => rfl
    | scalar key => cases named _ member
  unfold toDict
  simp only
  rw [pairs, ofPairs_of_distinct distinct]

theorem mem_erase {name : String} {key : DictKey} {value : Json} :
    (key, value) ∈ dict.erase name ↔ (key, value) ∈ dict ∧ key ≠ .str name := by
  simp [erase]

theorem get?_eq_none {name : String} :
    dict.get? name = none ↔ ∀ entry ∈ dict, entry.1 ≠ .str name := by
  simp [get?]

theorem get?_erase (name : String) : (dict.erase name).get? name = none := by
  apply get?_eq_none.mpr
  intro entry member
  exact (mem_erase.mp member).2

end PyDict

theorem named_of_isAllowed {preferences : PyDict}
    (allowed : preferences.all isAllowedPreference = true) : preferences.Named := by
  intro entry member
  have valid := List.all_eq_true.mp allowed entry member
  obtain ⟨key, value⟩ := entry
  cases key with
  | str name => rfl
  | scalar key => cases valid

theorem toDict_distinct {same : ScalarKey → ScalarKey → Bool} {value : Json} {dict : PyDict}
    (decoded : toDict same value = .ok dict) : dict.Distinct same := by
  unfold toDict at decoded
  split at decoded
  · cases decoded
    exact PyDict.ofPairs_distinct _
  · split at decoded
    · cases decoded
      exact PyDict.ofPairs_distinct _
    · cases decoded
  · split at decoded
    · cases decoded
      exact List.Pairwise.nil
    · cases decoded
  · cases decoded

section Upgrade

variable {loads : String → Option Json} {same : ScalarKey → ScalarKey → Bool}

structure Decoded (loads : String → Option Json) (same : ScalarKey → ScalarKey → Bool)
    (row : ConfigRow) (config preferences : PyDict) : Prop where
  stored : configOf loads same row = .ok config
  chosen : preferencesOf same config = .ok preferences

theorem Decoded.unique {row : ConfigRow} {config config' preferences preferences' : PyDict}
    (decoded : Decoded loads same row config preferences)
    (decoded' : Decoded loads same row config' preferences') :
    config' = config ∧ preferences' = preferences := by
  have first : config' = config :=
    Except.ok.inj (decoded'.stored.symm.trans decoded.stored)
  subst first
  exact ⟨rfl, Except.ok.inj (decoded'.chosen.symm.trans decoded.chosen)⟩

/-- What becomes of a row: its configuration is as before, except that a selector
which the snapshot confirms has left the preferences; these are in the vocabulary. -/
structure KeepsConfig (loads : String → Option Json) (same : ScalarKey → ScalarKey → Bool)
    (old new : ConfigRow) : Prop where
  companion : new.companionId = old.companionId
  decoded : ∃ config preferences config' preferences',
    Decoded loads same old config preferences ∧ Decoded loads same new config' preferences' ∧
    (∀ key value, key ≠ .str "conversation_preferences" →
      ((key, value) ∈ config' ↔ (key, value) ∈ config)) ∧
    (∀ key value, (key, value) ∈ preferences' ↔
      (key, value) ∈ preferences ∧ key ≠ .str "voice_profile_id") ∧
    (preferences.get? "voice_profile_id" = none → new = old) ∧
    (∀ voiceId, preferences.get? "voice_profile_id" = some voiceId →
      hasSnapshot config voiceId = true) ∧
    preferences'.all isAllowedPreference = true

/-- The upgrade raises and changes no row, or keeps every configuration; then it
has nothing left to do. -/
def IsLossless (loads : String → Option Json) (same : ScalarKey → ScalarKey → Bool)
    (companions : Table ConfigRow) : Prop :=
  (∃ refusal, upgrade loads same companions = (.error refusal, companions)) ∨
  ∃ upgraded, upgrade loads same companions = (.ok (), upgraded) ∧
    (∀ id row, companions.get? id = some row →
      ∃ new, upgraded.get? id = some new ∧ KeepsConfig loads same row new) ∧
    (∀ id, companions.get? id = none → upgraded.get? id = none) ∧
    upgrade loads same upgraded = (.ok (), upgraded)

/-- A row does not pass the checks. -/
def IsRefused (loads : String → Option Json) (same : ScalarKey → ScalarKey → Bool)
    (row : ConfigRow) : Prop :=
  ∀ changed, examine loads same row ≠ .ok changed

theorem examine_none {row : ConfigRow} {config preferences : PyDict}
    (decoded : Decoded loads same row config preferences)
    (unselected : preferences.get? "voice_profile_id" = none)
    (allowed : preferences.all isAllowedPreference = true) :
    examine loads same row = .ok none := by
  simp only [examine, decoded.stored, decoded.chosen, bind, Except.bind, unselected, allowed,
    if_true]

theorem examine_ok {row : ConfigRow} {changed : Option PyDict}
    (passed : examine loads same row = .ok changed) :
    ∃ config preferences, Decoded loads same row config preferences ∧
      ((changed = none ∧ preferences.get? "voice_profile_id" = none ∧
        preferences.all isAllowedPreference = true) ∨
      ∃ voiceId, preferences.get? "voice_profile_id" = some voiceId ∧
        hasSnapshot config voiceId = true ∧
        (preferences.erase "voice_profile_id").all isAllowedPreference = true ∧
        changed = some (config.assign same (.str "conversation_preferences")
          (.obj (preferences.erase "voice_profile_id").written))) := by
  unfold examine at passed
  cases first : configOf loads same row with
  | error fault =>
      rw [first] at passed
      cases passed
  | ok config =>
      rw [first] at passed
      cases second : preferencesOf same config with
      | error fault =>
          simp only [bind, Except.bind, second] at passed
          cases passed
      | ok preferences =>
          simp only [bind, Except.bind, second] at passed
          refine ⟨config, preferences, ⟨first, second⟩, ?_⟩
          cases selected : preferences.get? "voice_profile_id" with
          | none =>
              simp only [selected] at passed
              split at passed
              · next allowed =>
                  cases passed
                  exact .inl ⟨rfl, rfl, allowed⟩
              · cases passed
          | some voiceId =>
              simp only [selected] at passed
              split at passed
              · cases passed
              · next snapshot =>
                  split at passed
                  · next allowed =>
                      cases passed
                      exact .inr ⟨voiceId, rfl, by simpa using snapshot, allowed, rfl⟩
                  · cases passed

def ConfigRow.migrated (loads : String → Option Json) (same : ScalarKey → ScalarKey → Bool)
    (row : ConfigRow) : ConfigRow :=
  match examine loads same row with
  | .ok (some config) => { row with runtimeConfigJson := .obj config.written }
  | _ => row

theorem plan_cons {row : ConfigRow} {rows : List ConfigRow} {updates : List (String × JsonDict)}
    (planned : planUpdates loads same (row :: rows) = .ok updates) :
    ∃ changed rest, examine loads same row = .ok changed ∧
      planUpdates loads same rows = .ok rest ∧
      ((changed = none ∧ updates = rest) ∨
        ∃ config, changed = some config ∧
          updates = (row.companionId, PyDict.written config) :: rest) := by
  rw [planUpdates] at planned
  cases first : examine loads same row with
  | error fault =>
      rw [first] at planned
      cases planned
  | ok changed =>
      cases second : planUpdates loads same rows with
      | error fault =>
          simp only [first, second, bind, Except.bind] at planned
          cases planned
      | ok rest =>
          simp only [first, second, bind, Except.bind, pure, Except.pure] at planned
          refine ⟨changed, rest, rfl, rfl, ?_⟩
          cases changed with
          | none =>
              cases planned
              exact .inl ⟨rfl, rfl⟩
          | some config =>
              cases planned
              exact .inr ⟨config, rfl, rfl⟩

theorem plan_error {rows : List ConfigRow} {refusal : MigrationError}
    (refused : planUpdates loads same rows = .error refusal) :
    ∃ row ∈ rows, IsRefused loads same row := by
  induction rows with
  | nil => cases refused
  | cons row rows induction =>
      cases first : examine loads same row with
      | error fault =>
          refine ⟨row, List.mem_cons_self, ?_⟩
          intro changed passed
          rw [first] at passed
          cases passed
      | ok changed =>
          cases second : planUpdates loads same rows with
          | error fault =>
              rw [second] at induction
              obtain ⟨other, member, held⟩ := induction (by
                simp only [planUpdates, first, second, bind, Except.bind] at refused
                exact refused)
              exact ⟨other, List.mem_cons_of_mem _ member, held⟩
          | ok rest =>
              simp only [planUpdates, first, second, bind, Except.bind, pure,
                Except.pure] at refused
              cases changed with
              | none => cases refused
              | some config => cases refused

theorem plan_passed {rows : List ConfigRow} {updates : List (String × JsonDict)}
    (planned : planUpdates loads same rows = .ok updates) :
    ∀ row ∈ rows, ∃ changed, examine loads same row = .ok changed := by
  induction rows generalizing updates with
  | nil =>
      intro row member
      cases member
  | cons head rows induction =>
      obtain ⟨changed, rest, first, second, -⟩ := plan_cons planned
      intro row member
      rcases List.mem_cons.mp member with rfl | later
      · exact ⟨changed, first⟩
      · exact induction second row later

theorem get?_write_other {rows : List ConfigRow} {updates : List (String × JsonDict)}
    (planned : planUpdates loads same rows = .ok updates) (companions : Table ConfigRow)
    {id : String}
    (other : id ∉ rows.map ConfigRow.companionId) :
    (writeUpdates updates companions).get? id = companions.get? id := by
  induction rows generalizing updates companions with
  | nil =>
      cases planned
      rfl
  | cons row rows induction =>
      rw [List.map_cons, List.mem_cons, not_or] at other
      obtain ⟨changed, rest, first, second, held⟩ := plan_cons planned
      rcases held with ⟨-, rfl⟩ | ⟨config, -, rfl⟩
      · exact induction second companions other.2
      · show (writeUpdates rest (companions.modify row.companionId _ _)).get? id = _
        rw [induction second _ other.2, Table.get?_modify, if_neg other.1]

theorem get?_write {rows : List ConfigRow} {updates : List (String × JsonDict)}
    (planned : planUpdates loads same rows = .ok updates)
    (distinct : (rows.map ConfigRow.companionId).Nodup) (companions : Table ConfigRow)
    {row : ConfigRow} (member : row ∈ rows)
    (stored : companions.get? row.companionId = some row) :
    (writeUpdates updates companions).get? row.companionId =
      some (row.migrated loads same) := by
  induction rows generalizing updates companions with
  | nil => cases member
  | cons head rows induction =>
      obtain ⟨apart, distinct⟩ := List.nodup_cons.mp distinct
      obtain ⟨changed, rest, first, second, held⟩ := plan_cons planned
      rcases List.mem_cons.mp member with rfl | later
      · rcases held with ⟨rfl, rfl⟩ | ⟨config, rfl, rfl⟩
        · rw [get?_write_other second companions apart, stored, ConfigRow.migrated, first]
        · show (writeUpdates rest (companions.modify row.companionId _ _)).get? _ = _
          rw [get?_write_other second _ apart, Table.get?_modify, if_pos rfl, stored,
            ConfigRow.migrated, first]
          rfl
      · have different : row.companionId ≠ head.companionId := by
          intro taken
          exact apart (taken ▸ List.mem_map.mpr ⟨row, later, rfl⟩)
        rcases held with ⟨-, rfl⟩ | ⟨config, -, rfl⟩
        · exact induction second distinct companions later stored
        · apply induction second distinct (companions.modify head.companionId _ _) later
          rw [Table.get?_modify, if_neg different]
          exact stored

/-- Nothing is planned for rows without a selector. -/
theorem plan_nil {rows : List ConfigRow}
    (unselected : ∀ row ∈ rows, examine loads same row = .ok none) :
    planUpdates loads same rows = .ok [] := by
  induction rows with
  | nil => rfl
  | cons row rows induction =>
      simp only [planUpdates, unselected row List.mem_cons_self,
        induction (fun other member => unselected other (List.mem_cons_of_mem _ member)), bind,
        Except.bind, pure, Except.pure]

theorem configOf_distinct {row : ConfigRow} {config : PyDict}
    (decoded : configOf loads same row = .ok config) : config.Distinct same := by
  unfold configOf at decoded
  split at decoded
  · split at decoded
    · exact toDict_distinct decoded
    · cases decoded
  · exact toDict_distinct decoded

theorem configOf_written {row : ConfigRow} {fields : JsonDict} {config : PyDict}
    (decoded : configOf loads same { row with runtimeConfigJson := .obj fields } = .ok config) :
    config.Named := by
  have pairs : PyDict.ofPairs same (fields.map (fun field => (.str field.1, field.2))) = config :=
    Except.ok.inj decoded
  rw [← pairs]
  apply PyDict.ofPairs_named
  intro entry member
  obtain ⟨field, held, rfl⟩ := List.mem_map.mp member
  rfl

theorem migrated_keeps {row : ConfigRow} {changed : Option PyDict}
    (passed : examine loads same row = .ok changed)
    (named : ∀ config preferences, Decoded loads same row config preferences →
      preferences.get? "voice_profile_id" ≠ none → config.Named) :
    KeepsConfig loads same row (row.migrated loads same) ∧
      examine loads same (row.migrated loads same) = .ok none := by
  obtain ⟨config, preferences, decoded, held⟩ := examine_ok passed
  rcases held with ⟨rfl, unselected, allowed⟩ | ⟨voiceId, selected, snapshot, allowed, rfl⟩
  · have stays : row.migrated loads same = row := by rw [ConfigRow.migrated, passed]
    rw [stays]
    refine ⟨⟨rfl, config, preferences, config, preferences, decoded, decoded, ?_, ?_, ?_, ?_, ?_⟩,
      passed⟩
    · intro key value _
      exact Iff.rfl
    · intro key value
      constructor
      · intro member
        exact ⟨member, PyDict.get?_eq_none.mp unselected _ member⟩
      · intro member
        exact member.1
    · intro _
      rfl
    · intro voiceId selected
      rw [unselected] at selected
      cases selected
    · exact allowed
  · have configNamed : config.Named := by
      apply named config preferences decoded
      rw [selected]
      exact Option.some_ne_none voiceId
    have keptDistinct : (preferences.erase "voice_profile_id").Distinct same :=
      (toDict_distinct decoded.chosen).sublist List.filter_sublist
    have rewritten : row.migrated loads same =
        let kept := PyDict.written (preferences.erase "voice_profile_id")
        let changed := config.assign same (.str "conversation_preferences") (.obj kept)
        { row with runtimeConfigJson := .obj (PyDict.written changed) } := by
      rw [ConfigRow.migrated, passed]
    have after : Decoded loads same (row.migrated loads same)
        (config.assign same (.str "conversation_preferences")
          (.obj (preferences.erase "voice_profile_id").written))
        (preferences.erase "voice_profile_id") := by
      rw [rewritten]
      refine ⟨?_, ?_⟩
      · exact PyDict.toDict_written (configNamed.assign _ _)
          ((configOf_distinct decoded.stored).assign _ _)
      · rw [preferencesOf, PyDict.get?_assign, Option.getD_some]
        exact PyDict.toDict_written (named_of_isAllowed allowed) keptDistinct
    refine ⟨⟨by rw [rewritten], config, preferences, _, _, decoded, after, ?_, ?_, ?_, ?_, ?_⟩,
      examine_none after (PyDict.get?_erase _) allowed⟩
    · intro key value different
      exact PyDict.mem_assign_other different
    · intro key value
      exact PyDict.mem_erase
    · intro unselected
      rw [selected] at unselected
      cases unselected
    · intro voiceId' selected'
      rw [selected] at selected'
      cases selected'
      exact snapshot
    · exact allowed

end Upgrade

/-- The upgrade loses nothing exactly when it refuses a row, or every
configuration it rewrites has only names for keys. -/
theorem preferences_upgrade_lossless (loads : String → Option Json)
    (same : ScalarKey → ScalarKey → Bool) (companions : Table ConfigRow) :
    IsLossless loads same companions ↔
      (∃ row ∈ companions.rows, IsRefused loads same row) ∨
      ∀ row ∈ companions.rows, ∀ config preferences, Decoded loads same row config preferences →
        preferences.get? "voice_profile_id" ≠ none → config.Named := by
  cases planned : planUpdates loads same companions.rows with
  | error refusal =>
      have raised : upgrade loads same companions = (.error refusal, companions) := by
        simp only [upgrade, planned]
      constructor
      · intro _
        exact .inl (plan_error planned)
      · intro _
        exact .inl ⟨refusal, raised⟩
  | ok updates =>
      have passed := plan_passed planned
      have upgraded : upgrade loads same companions =
          (.ok (), writeUpdates updates companions) := by
        simp only [upgrade, planned]
      have rewritten : ∀ row ∈ companions.rows,
          (writeUpdates updates companions).get? row.companionId =
            some (row.migrated loads same) := by
        intro row member
        exact get?_write planned companions.unique companions member
          ((Table.mem_rows_iff companions row).mp member)
      have absent : ∀ id, companions.get? id = none →
          (writeUpdates updates companions).get? id = none := by
        intro id missing
        rw [get?_write_other planned companions (Table.get?_eq_none_iff.mp missing)]
        exact missing
      constructor
      · intro lossless
        right
        intro row member config preferences decoded selected
        rcases lossless with ⟨refusal, raised⟩ | ⟨table, done, kept, -, -⟩
        · rw [upgraded] at raised
          cases raised
        · rw [upgraded] at done
          cases done
          have found := (Table.mem_rows_iff companions row).mp member
          obtain ⟨new, stored, keeps⟩ := kept row.companionId row found
          rw [rewritten row member] at stored
          cases stored
          obtain ⟨config₁, preferences₁, config', _, before, after, entries, -, -, -, -⟩ :=
            keeps.decoded
          obtain ⟨rfl, rfl⟩ := decoded.unique before
          obtain ⟨changed, checked⟩ := passed row member
          obtain ⟨_, _, again, held⟩ := examine_ok checked
          obtain ⟨rfl, rfl⟩ := decoded.unique again
          rcases held with ⟨-, unselected, -⟩ | ⟨voiceId, -, -, -, rfl⟩
          · exact absurd unselected selected
          · have names : config'.Named := by
              have stored := after.stored
              rw [ConfigRow.migrated, checked] at stored
              exact configOf_written stored
            intro entry held
            obtain ⟨key, value⟩ := entry
            by_cases here : key = .str "conversation_preferences"
            · rw [here]
              rfl
            · exact names _ ((entries key value here).mpr held)
      · intro condition
        have named : ∀ row ∈ companions.rows, ∀ config preferences,
            Decoded loads same row config preferences →
            preferences.get? "voice_profile_id" ≠ none → config.Named := by
          rcases condition with ⟨row, member, refused⟩ | named
          · obtain ⟨changed, checked⟩ := passed row member
            exact absurd checked (refused changed)
          · exact named
        refine .inr ⟨_, upgraded, ?_, absent, ?_⟩
        · intro id row found
          have member := Table.mem_of_get? found
          obtain ⟨changed, checked⟩ := passed row member
          have same : row.companionId = id := Table.key_of_get? found
          rw [← same]
          exact ⟨_, rewritten row member, (migrated_keeps checked (named row member)).1⟩
        · have idle : planUpdates loads same (writeUpdates updates companions).rows = .ok [] := by
            apply plan_nil
            intro new member
            have found := (Table.mem_rows_iff _ new).mp member
            cases stored : companions.get? new.companionId with
            | none =>
                have missing := absent new.companionId stored
                exact absurd (found.symm.trans missing) (Option.some_ne_none new)
            | some row =>
                have held := Table.mem_of_get? stored
                have same : row.companionId = new.companionId := Table.key_of_get? stored
                obtain ⟨changed, checked⟩ := passed row held
                have written := rewritten row held
                rw [same] at written
                have migrated : new = row.migrated _ _ :=
                  Option.some.inj (found.symm.trans written)
                rw [migrated]
                exact (migrated_keeps checked (named row held)).2
          simp only [upgrade, idle]
          rfl

/-- A number and its text are two keys before the upgrade, and one after it. -/
theorem preferences_upgrade_loses :
    let config := Json.arr [
      .arr [.str "conversation_preferences", .obj [("voice_profile_id", .str "warm")]],
      .arr [.str "companion_voice", .obj [("profile_id", .str "warm")]],
      .arr [.int 1, .str "x"], .arr [.str "1", .str "y"]]
    let companions : Table ConfigRow :=
      Table.insert ∅ { companionId := "c1", runtimeConfigJson := config }
    ¬ IsLossless (fun _ => none) (fun left right => left = right) companions := by
  intro config companions lossless
  rcases lossless with ⟨refusal, raised⟩ | ⟨upgraded, done, kept, -, -⟩
  · have outcome : (upgrade (fun _ => none) (fun left right => left = right) companions).1 =
        .ok () := by decide +kernel
    rw [raised] at outcome
    cases outcome
  · have found : companions.get? "c1" =
        some { companionId := "c1", runtimeConfigJson := config } := by decide +kernel
    obtain ⟨new, stored, keeps⟩ := kept "c1" _ found
    let fields := [("conversation_preferences", Json.obj []),
      ("companion_voice", .obj [("profile_id", .str "warm")]), ("1", .str "y")]
    have written : upgraded.get? "c1" =
        some { companionId := "c1", runtimeConfigJson := .obj fields } := by
      have result : upgraded =
          (upgrade (fun _ => none) (fun left right => left = right) companions).2 := by rw [done]
      rw [result]
      decide +kernel
    rw [written] at stored
    cases stored
    obtain ⟨before, _, after, _, decoded, decoded', entries, -⟩ := keeps.decoded
    have first := decoded.stored
    have second := decoded'.stored
    have old : (DictKey.scalar (.int 1), Json.str "x") ∈ before := by
      have held : (configOf (fun _ => none) (fun left right => left = right)
          { companionId := "c1", runtimeConfigJson := config }).toOption.any (fun dict =>
            (DictKey.scalar (.int 1), Json.str "x") ∈ dict) = true := by decide +kernel
      rw [first] at held
      exact of_decide_eq_true held
    have new : (DictKey.scalar (.int 1), Json.str "x") ∉ after := by
      have lost : (configOf (fun _ => none) (fun left right => left = right)
          { companionId := "c1", runtimeConfigJson := .obj fields }).toOption.any (fun dict =>
            (DictKey.scalar (.int 1), Json.str "x") ∈ dict) = false := by decide +kernel
      rw [second] at lost
      exact of_decide_eq_false lost
    exact new ((entries _ _ (by decide)).mpr old)

end EidolonData
