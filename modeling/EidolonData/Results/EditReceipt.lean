import EidolonData.Results.ProvisionReceipt
import EidolonData.Effects.Histories
import EidolonData.Invariants.Runtime
import EidolonData.JsonText

/-!
# An edit is answered as it was first

The receipt of an edit is looked up before anything a later command could
have moved, and the genome it refers to stays as long as its Companion does.
-/

namespace EidolonData

open Relational

/-- What the fingerprint of an edit is taken of, the dump of the request with
`exclude_unset`: which optional fields it sets, and their values with sorted
keys. -/
structure EditInput where
  operationId : String
  expectedBaseGenomeId : String
  expectedPreferenceRevision : Int
  action : Option PersonaEditAction
  displayName : Option (Option String)
  restoreGenomeId : Option (Option String)
  persona : Option (Option Json)
  preferences : Option (Option Json)
  deriving DecidableEq

namespace PersonaEditRequest

def whenSet {α : Type} (request : PersonaEditRequest) (field : String) (value : α) : Option α :=
  if field ∈ request.fieldsSet then some value else none

def input (request : PersonaEditRequest) : EditInput :=
  { operationId := request.operationId
    expectedBaseGenomeId := request.expectedBaseGenomeId
    expectedPreferenceRevision := request.expectedPreferenceRevision
    action := request.whenSet "action" request.action
    displayName := request.whenSet "display_name" request.displayName
    restoreGenomeId := request.whenSet "restore_genome_id" request.restoreGenomeId
    persona := request.whenSet "persona"
      (request.persona.map (fun document => (Json.obj document).sorted))
    preferences := request.whenSet "preferences"
      (request.preferences.map (fun document => (Json.obj document).sorted)) }

end PersonaEditRequest

structure JsonDict.Records (receipt : JsonDict) (sdk : Sdk) (fingerprint : String)
    (result : PersonaEditSnapshot) : Prop where
  fingerprint : receipt.get? "fingerprint" = some (.str fingerprint)
  genomeId : receipt.get? "genome_id" = some (.str result.genomeId)
  displayName : receipt.get? "display_name" = some (.str result.displayName)
  companionRevision : receipt.get? "companion_revision" = some (.int result.companionRevision)
  preferences : sdk.validateConversationPreferences ((receipt.get? "preferences").getD .null) =
    .ok result.preferences
  preferenceRevision : sdk.validatePreferenceRevision
    ((receipt.get? "preference_revision").getD .null) = .ok result.preferenceRevision

structure PersonaGenomeRow.Shows (genome : PersonaGenomeRow) (sdk : Sdk)
    (result : PersonaEditSnapshot) : Prop where
  genomeId : genome.genomeId = result.genomeId
  persona : ∃ content, sdk.normalizePersonaGenome genome.genomeJson = .ok content ∧
    result.persona = sdk.personaAuthoringOf content

/-- The receipt of an edit, and the genome its answer is rebuilt from. -/
structure Workspace.HasEdit (w : Workspace) (sdk : Sdk) (companionId operationId : String)
    (fingerprint : String) (result : PersonaEditSnapshot) : Prop where
  companion : ∃ companion receipt, w.companions.get? companionId = some companion ∧
    companion.receipt? operationId = some receipt ∧ receipt.Records sdk fingerprint result
  genome : ∃ genome, w.personaGenomes.get? result.genomeId = some genome ∧
    genome.companionId = companionId ∧ genome.Shows sdk result

/-- What the SDK validated, it validates again as it is. -/
structure Sdk.Revalidates (sdk : Sdk) : Prop where
  preferences : ∀ {value preferences},
    sdk.validateConversationPreferences value = .ok preferences →
      sdk.validateConversationPreferences (.obj preferences) = .ok preferences
  preferenceRevision : ∀ {value revision},
    sdk.validatePreferenceRevision value = .ok revision →
      sdk.validatePreferenceRevision (.int revision) = .ok revision

section Run

variable {sdk : Sdk} {companionId operationId fingerprint : String}
  {result : PersonaEditSnapshot} {calls : List Call} {db : Database}

theorem PersonaGenomeRow.Keeps.shows {old new : PersonaGenomeRow} (keeps : old.Keeps new)
    (sameId : new.genomeId = old.genomeId) (shows : old.Shows sdk result) :
    new.Shows sdk result := by
  obtain ⟨content, normalized, persona⟩ := shows.persona
  refine ⟨sameId.trans shows.genomeId, content, ?_, persona⟩
  rw [keeps.document]
  exact normalized

theorem Workspace.HasEdit.replay
    (has : db.tables.workspace.HasEdit sdk companionId operationId fingerprint result)
    (lasts : CompanionLasts sdk companionId calls db)
    (final : (replay sdk calls db).tables.workspace.companions.has companionId = true) :
    (replay sdk calls db).tables.workspace.HasEdit sdk companionId operationId fingerprint
      result := by
  obtain ⟨old, receipt, before, found, records⟩ := has.companion
  obtain ⟨new, after⟩ := Table.has_iff.mp final
  obtain ⟨genome, genomeFound, own, shows⟩ := has.genome
  obtain ⟨kept, keptFound, keeps⟩ := replay_genome_stays lasts final genomeFound own
  have sameId : kept.genomeId = genome.genomeId :=
    (Table.key_of_get? keptFound).trans (Table.key_of_get? genomeFound).symm
  have precedes := replay_companion_precedes lasts before after
  exact
    { companion := ⟨new, receipt, after, precedes.receipts found, records⟩
      genome := ⟨kept, keptFound, keeps.companionId.trans own, keeps.shows sameId shows⟩ }

end Run

section Commands

variable {sdk : Sdk} {t : Tables} {companionId : String} {request : PersonaEditRequest}
  {result : PersonaEditSnapshot}

theorem editReceipts_of_receipt? {companion : CompanionRow} {receipt : JsonDict}
    {operationId : String} (found : companion.receipt? operationId = some receipt) :
    ∃ receipts field rest, editReceipts companion.metadataJson = .ok receipts ∧
      receipt = field :: rest ∧ receipts.get? operationId = some (.obj (field :: rest)) := by
  unfold CompanionRow.receipt? at found
  unfold editReceipts
  split at found
  · next receipts stored =>
      split at found
      · next field rest listed =>
          cases found
          exact ⟨receipts, field, rest, by rw [stored], rfl, listed⟩
      · cases found
  · cases found

theorem editPersona_of_receipt (env : Env) (changeSummary : String) {companion : CompanionRow}
    {receipt : JsonDict} (found : t.workspace.companions.get? companionId = some companion)
    (stored : companion.receipt? request.operationId = some receipt) :
    (editPersona sdk env companionId request changeSummary).run t =
      (replayEdit sdk receipt (sdk.editFingerprint request)).run t := by
  obtain ⟨receipts, field, rest, read, rfl, listed⟩ := editReceipts_of_receipt? stored
  have companionRead : (companionForEdit companionId).run t = .ok (companion, t) := by
    simp [companionForEdit, getCompanion, found, Tx.require]
  have receiptsRead : (validated (editReceipts companion.metadataJson)).run t =
      .ok (receipts, t) := by
    simp [validated, read, Tx.lift]
  rw [editPersona, Tx.run_bind_ok companionRead, Tx.run_bind_ok receiptsRead]
  simp only [listed]

theorem replayEdit_effect (sdk : Sdk) (t : Tables) (receipt : JsonDict) (fingerprint : String) :
    (replayEdit sdk receipt fingerprint).Ensures t (fun result t' => t' = t ∧
      receipt.Records sdk fingerprint result ∧
        ∃ genome, t.workspace.personaGenomes.get? result.genomeId = some genome ∧
          genome.Shows sdk result) := by
  simp only [replayEdit, Tx.ensures_bind, Tx.ensures_require, Tx.ensures_refuseIf,
    ensures_getGenome, ensures_validated, Tx.pure_eq, Tx.ensures_done]
  intro stored fingerprintRead same genomeId genomeRead original genomeFound content normalized
    displayName nameRead companionRevision revisionRead preferences preferencesRead
    preferenceRevision preferenceRead
  have sameId : original.genomeId = genomeId := Table.key_of_get? genomeFound
  refine ⟨trivial, ?_, original, ?_, ?_⟩
  · refine
      { fingerprint := by rw [fingerprintRead, not_not.mp same]
        genomeId := ?_
        displayName := Json.asString?_eq_some_iff.mp nameRead
        companionRevision := ?_
        preferences := preferencesRead
        preferenceRevision := preferenceRead }
    · rw [sameId]
      exact Json.asString?_eq_some_iff.mp genomeRead
    · obtain ⟨value, valueRead, isInt⟩ := Option.bind_eq_some_iff.mp revisionRead
      cases value with
      | int revision =>
          cases isInt
          exact valueRead
      | _ => cases isInt
  · rw [sameId]
    exact genomeFound
  · exact ⟨rfl, content, normalized, rfl⟩

/-- The conflict of a request that is not the one the receipt is of. -/
def editConflict : Error :=
  .personaGenomeConflict "operation id reused with different input" .operationConflict none

/-- A receipt answers the request it is of, and refuses any other. -/
theorem editPersona_of_hasEdit (env : Env) (changeSummary : String) {fingerprint : String}
    (has : t.workspace.HasEdit sdk companionId request.operationId fingerprint result) :
    (editPersona sdk env companionId request changeSummary).run t =
      if sdk.editFingerprint request = fingerprint then .ok (result, t)
      else .error editConflict := by
  obtain ⟨companion, receipt, found, stored, records⟩ := has.companion
  obtain ⟨genome, genomeFound, -, shows⟩ := has.genome
  obtain ⟨content, normalized, persona⟩ := shows.persona
  rw [editPersona_of_receipt env changeSummary found stored]
  by_cases same : sdk.editFingerprint request = fingerprint
  · have rebuilt : result =
        { genomeId := genome.genomeId
          displayName := result.displayName
          companionRevision := result.companionRevision
          persona := sdk.personaAuthoringOf content
          preferences := result.preferences
          preferenceRevision := result.preferenceRevision } := by
      rw [shows.genomeId, ← persona]
    rw [if_pos same]
    simp [replayEdit, records.fingerprint, same, records.genomeId, Json.asString?, getGenome,
      genomeFound, validated, normalized, Tx.lift, records.displayName, records.companionRevision,
      records.preferences, records.preferenceRevision, ← rebuilt]
  · rw [if_neg same]
    simp [replayEdit, records.fingerprint, Ne.symm same, editConflict]

theorem EditCommitted.hasEdit {permits : Permits} {w w' : Workspace} {companion new : CompanionRow}
    {genome : PersonaGenomeRow} (revalidates : sdk.Revalidates)
    (committed : EditCommitted sdk permits w w' companion request result new genome)
    (own : genome.companionId = companion.companionId) :
    w'.HasEdit sdk companion.companionId request.operationId (sdk.editFingerprint request)
      result := by
  obtain ⟨content, normalized, preferences, preferenceRead, genomeId, -, -, persona⟩ :=
    editSnapshot_ok sdk committed.snapshot
  refine
    { companion := ⟨new, _, committed.stored, committed.receipt, ?_⟩
      genome := ⟨genome, ?_, own, genomeId.symm, content, normalized, persona⟩ }
  · exact
      { fingerprint := rfl
        genomeId := rfl
        displayName := rfl
        companionRevision := rfl
        preferences := revalidates.preferences preferences
        preferenceRevision := revalidates.preferenceRevision preferenceRead }
  · rw [genomeId]
    exact committed.genomeStored

theorem EditCommitted.own {permits : Permits} {w w' : Workspace} {companion new : CompanionRow}
    {genome : PersonaGenomeRow} (sound : w.RuntimeSound sdk permits)
    (committed : EditCommitted sdk permits w w' companion request result new genome) :
    genome.companionId = companion.companionId := by
  obtain ⟨current, found, pointed, owned, -⟩ :=
    (committed.change.runtimeSound sound).current committed.stored
  have sameId : current.genomeId = genome.genomeId := by
    have read := committed.pointed
    rw [pointed] at read
    exact read
  have same : current = genome := by
    rw [sameId, committed.genomeStored] at found
    exact (Option.some.inj found).symm
  subst same
  exact owned.trans (Table.key_of_get? committed.stored)

theorem editPersona_hasEdit {db db' : Database} {env : Env} {changeSummary : String}
    (revalidates : sdk.Revalidates) (sound : db.tables.workspace.RuntimeSound sdk .all)
    (edited : db.transact (editPersona sdk env companionId request changeSummary) =
      .ok (result, db'))
    (own : ∀ companion genome, db.tables.workspace.companions.get? companionId = some companion →
      companion.receipt? request.operationId ≠ none →
      db.tables.workspace.personaGenomes.get? result.genomeId = some genome →
      genome.companionId = companionId) :
    db'.tables.workspace.HasEdit sdk companionId request.operationId
      (sdk.editFingerprint request) result := by
  have ran := Database.transact_ok_iff.mp edited
  obtain ⟨companion, found, answered | ⟨-, new, genome, committed⟩⟩ :=
    editPersona_effect sdk .all env db.tables companionId request changeSummary (Or.inl trivial)
      result db'.tables ran
  · obtain ⟨receipted, -⟩ := answered
    obtain ⟨receipt, stored⟩ := Option.ne_none_iff_exists'.mp receipted
    rw [editPersona_of_receipt env changeSummary found stored] at ran
    obtain ⟨unchanged, records, genome, genomeFound, shows⟩ :=
      replayEdit_effect sdk db.tables receipt (sdk.editFingerprint request) result db'.tables ran
    rw [unchanged]
    exact
      { companion := ⟨companion, receipt, found, stored, records⟩
        genome := ⟨genome, genomeFound, own companion genome found receipted genomeFound, shows⟩ }
  · have named : companion.companionId = companionId := Table.key_of_get? found
    subst named
    exact committed.hasEdit revalidates (committed.own sound)

end Commands

/-- An edit that succeeded is answered the same ever after, as long as its
Companion stays stored: no later edit of its operation changes a row, the
same request gets the same snapshot, and one that sets other fields or values
is refused.  The hash is taken to tell the input of the request from every
other.  An answer that was itself replayed counts when its genome is its
Companion's own. -/
theorem edit_receipt_replays (sdk : Sdk) (calls between : List Call) (env : Env)
    (companionId changeSummary : String) (request : PersonaEditRequest)
    (result : PersonaEditSnapshot) (db' : Database) (revalidates : sdk.Revalidates)
    (injective : ∀ other, sdk.editFingerprint other = sdk.editFingerprint request →
      other.input = request.input)
    (edited : (replay sdk calls .empty).transact
      (editPersona sdk env companionId request changeSummary) = .ok (result, db'))
    (own : ∀ companion genome,
      (replay sdk calls .empty).tables.workspace.companions.get? companionId = some companion →
      companion.receipt? request.operationId ≠ none →
      (replay sdk calls .empty).tables.workspace.personaGenomes.get? result.genomeId =
        some genome → genome.companionId = companionId)
    (lasts : CompanionLasts sdk companionId between db')
    (final : (replay sdk between db').tables.workspace.companions.has companionId = true) :
    (∀ env' again, again.operationId = request.operationId →
      Call.step sdk (replay sdk between db')
        { env := env', command := .editPersona companionId again } = replay sdk between db') ∧
    (∀ env' summary, (replay sdk between db').transact
      (editPersona sdk env' companionId request summary) = .ok (result, replay sdk between db')) ∧
    (∀ env' summary again, again.operationId = request.operationId →
      again.input ≠ request.input →
      (replay sdk between db').transact (editPersona sdk env' companionId again summary) =
        .error editConflict) := by
  have sound : (replay sdk calls .empty).tables.workspace.RuntimeSound sdk .all :=
    runtimeSound_invariant.replay calls .empty (heeds_all sdk calls .empty) runtimeSound_empty
  have kept := (editPersona_hasEdit revalidates sound edited own).replay lasts final
  have answers : ∀ env' summary again, again.operationId = request.operationId →
      (editPersona sdk env' companionId again summary).run (replay sdk between db').tables =
        if sdk.editFingerprint again = sdk.editFingerprint request
        then .ok (result, (replay sdk between db').tables) else .error editConflict := by
    intro env' summary again operation
    rw [← operation] at kept
    exact editPersona_of_hasEdit env' summary kept
  refine ⟨?_, ?_, ?_⟩
  · intro env' again operation
    refine Call.step_unchanged { env := env', command := .editPersona companionId again } _ rfl ?_
    intro value t' ran
    rw [answers env' _ again operation] at ran
    split at ran
    · cases ran
      rfl
    · cases ran
  · intro env' summary
    apply Database.transact_ok_iff.mpr
    rw [answers env' summary request rfl, if_pos rfl]
  · intro env' summary again operation different
    apply Database.transact_of_error
    rw [answers env' summary again operation, if_neg (fun same => different (injective again same))]

def firstEdit : PersonaEditRequest :=
  { operationId := "edit"
    expectedBaseGenomeId := "g_31000000000000000000000000000000"
    expectedPreferenceRevision := 1
    persona := some [("constitution", .obj [("name", .str "Sunny")])]
    preferences := some [("pace", .str "slow")]
    fieldsSet := ["persona", "preferences"] }

/-- The same operation, the preferences left as they are. -/
def otherEdit : PersonaEditRequest :=
  { firstEdit with preferences := none, fieldsSet := ["persona"] }

/-- The first Companion gets another name between the two edits. -/
def renamesCompanion : Call :=
  { env := { uuid := fun site => .ofNat (1024 + site), now := 33 }
    command := .renameCompanion "c_owner" "Luna" }

def Sdk.telling (request : PersonaEditRequest) : Sdk :=
  { Sdk.plain with
    editFingerprint := fun other => if other.input = request.input then "same" else "other" }

theorem Sdk.telling_revalidates (request : PersonaEditRequest) :
    (Sdk.telling request).Revalidates := by
  constructor
  · intro value preferences validated
    rfl
  · intro value revision validated
    rfl

theorem Sdk.telling_injective {request other : PersonaEditRequest}
    (same : (Sdk.telling request).editFingerprint other =
      (Sdk.telling request).editFingerprint request) : other.input = request.input := by
  by_contra different
  simp [Sdk.telling, different] at same

theorem edit_receipt_replays_first :
    ∃ result db', (replay (.telling firstEdit) (numbered firstDefaultCommands) .empty).transact
        (editPersona (.telling firstEdit) secondEnv "c_owner" firstEdit "calmer") =
          .ok (result, db') ∧
      let later := replay (.telling firstEdit) [renamesCompanion] db'
      (later.tables.workspace.companions.get? "c_owner").map CompanionRow.displayName =
          some "Luna" ∧
        later.transact (editPersona (.telling firstEdit) secondEnv "c_owner" firstEdit "calmer") =
          .ok (result, later) ∧
        later.transact (editPersona (.telling firstEdit) secondEnv "c_owner" otherEdit "calmer") =
          .error editConflict := by
  have edits : ((replay (.telling firstEdit) (numbered firstDefaultCommands) .empty).transact
      (editPersona (.telling firstEdit) secondEnv "c_owner" firstEdit "calmer")).toOption.map
        (fun (_, db') =>
          (decide (CompanionLasts (.telling firstEdit) "c_owner" [renamesCompanion] db'),
            ((replay (.telling firstEdit) [renamesCompanion]
              db').tables.workspace.companions.get? "c_owner").map CompanionRow.displayName)) =
      some (true, some "Luna") := by
    decide +kernel
  have unedited : ((replay (.telling firstEdit) (numbered firstDefaultCommands)
      .empty).tables.workspace.companions.get? "c_owner").map
        (fun companion => companion.receipt? firstEdit.operationId) = some none := by
    decide +kernel
  obtain ⟨⟨result, db'⟩, transacted, facts⟩ := Option.map_eq_some_iff.mp edits
  obtain ⟨lasts, renamed⟩ := Prod.mk.inj facts
  have edited := Tx.ok_of_toOption transacted
  obtain ⟨companion, stored, -⟩ := Option.map_eq_some_iff.mp renamed
  obtain ⟨-, again, other⟩ := edit_receipt_replays (.telling firstEdit)
    (numbered firstDefaultCommands) [renamesCompanion] secondEnv "c_owner" "calmer" firstEdit
    result db' (Sdk.telling_revalidates firstEdit) (fun _ => Sdk.telling_injective) edited
    (by
      intro companion genome found receipted
      rw [found] at unedited
      exact absurd (Option.some.inj unedited) receipted)
    (of_decide_eq_true lasts) (Table.has_of_get? stored)
  exact ⟨result, db', edited, renamed, again secondEnv "calmer",
    other secondEnv "calmer" otherEdit rfl (by decide)⟩

end EidolonData
