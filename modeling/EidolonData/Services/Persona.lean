import EidolonData.Services.Workspace

/-!
# Personas

`PersonaService`: genome insertion, the current pointer and the governance
facts in one transaction.  The session's Companion row is carried as a value
and written back once, when the transaction commits: the service holds the
writer lock from the start, so no other row can have come in between.
-/

namespace EidolonData

open Relational

/-- `PersonaEditSnapshot`. -/
structure PersonaEditSnapshot where
  genomeId : String
  displayName : String
  companionRevision : Int
  persona : JsonDict
  preferences : JsonDict
  preferenceRevision : Int
  deriving DecidableEq, Repr

def personaOperationsKey : String := "persona_operations"

/-- `config.get("preference_revision", 1)`, as the snapshot validates it. -/
def preferenceRevision (sdk : Sdk) (config : JsonDict) : Except String Int :=
  sdk.validatePreferenceRevision ((config.get? "preference_revision").getD (.int 1))

/-- `_edit_snapshot`. -/
def editSnapshot (sdk : Sdk) (companion : CompanionRow) (current : PersonaGenomeRow) :
    Except String PersonaEditSnapshot := do
  let genome ← sdk.normalizePersonaGenome current.genomeJson
  let preferences ← validateRuntimeConfig sdk companion.runtimeConfigJson
  let preferenceRevision ← preferenceRevision sdk companion.runtimeConfigJson
  return {
    genomeId := current.genomeId
    displayName := companion.displayName
    companionRevision := companion.revision
    persona := sdk.personaAuthoringOf genome
    preferences := preferences
    preferenceRevision := preferenceRevision }

/-- `_companion_for_edit`. -/
def companionForEdit (companionId : String) : Session CompanionRow := do
  let stored ← getCompanion companionId
  Tx.require stored (.personaGenomeConflict "companion missing" .companionMissing none)

/-- `_current_for_edit`. -/
def currentForEdit (companion : CompanionRow) : Session PersonaGenomeRow := do
  let stored ← getGenome (companion.currentGenomeId.getD "")
  Tx.require (stored.filter (fun genome => genome.status = .committed))
    (.personaGenomeConflict "no committed persona" .stateNotEligible none)

/-- `_owned_companion` of the persona service. -/
def personaCompanion (ownerId companionId : String) : Session CompanionRow := do
  let stored ← getCompanion companionId
  Tx.require (stored.filter (fun row => row.ownerId = ownerId))
    (.keyError ("companion not found for owner: " ++ companionId))

/-- The commit's write of the Companion columns a persona command changes. -/
def writePersona (companion : CompanionRow) : Session Unit :=
  updateCompanionRow companion.companionId (fun row =>
    { row with
      displayName := companion.displayName
      revision := companion.revision
      currentGenomeId := companion.currentGenomeId
      runtimeConfigJson := companion.runtimeConfigJson
      metadataJson := companion.metadataJson })

/-- The arguments of `_genome_row`. -/
structure GenomeSeed where
  genomeId : String
  companionId : String
  ownerId : String
  version : Int
  status : GenomeStatus
  baseGenomeId : Option String
  sourceJson : Option JsonDict
  genomeJson : Option JsonDict
  appliedEventId : Option String := none
  changeSummary : String := ""
  deriving DecidableEq, Repr

/-- `_genome_row`. -/
def GenomeSeed.row (sdk : Sdk) (seed : GenomeSeed) : Except String PersonaGenomeRow := do
  let origin := sourceType sdk seed.sourceJson "template"
  let normalized ← match seed.genomeJson with
    | some document => sdk.normalizePersonaGenome document
    | none => sdk.buildDefaultPersonaGenome seed.companionId none origin seed.baseGenomeId
  let document := withOwnership (sdk.personaGenomeToJson normalized) seed.ownerId seed.companionId
  return {
    genomeId := seed.genomeId
    companionId := seed.companionId
    version := seed.version
    status := seed.status
    baseGenomeId := seed.baseGenomeId
    schemaVersion := personaGenomeSchema
    genomeHash := sdk.personaGenomeHash document
    realizerVersion := personaRealizer
    appliedEventId := seed.appliedEventId
    sourceJson := seed.sourceJson.getD []
    genomeJson := document
    changeSummary := seed.changeSummary }

/-- `_event`. -/
def personaEvent (env : Env) (uuid : Nat) (ownerId companionId genomeId action : String)
    (payload : JsonDict) (eventId : Option String := none) (outcome : AuditOutcome := .success) :
    AuditFact :=
  governanceFact (env.uuid uuid) env.now ownerId "persona_genome" genomeId action
    (JsonDict.merge [("companion_id", .str companionId)] payload) eventId outcome

/-- `(highest or 0)` of the versions of one Companion. -/
def highestVersion (genomes : Table PersonaGenomeRow) (companionId : String) : Int :=
  (genomes.select (fun row => row.companionId = companionId)).foldl
    (fun highest row => max highest row.version) 0

/-- `candidate` as `_append_persona` records where it came from. -/
def Genome.withProvenance (candidate : Genome) (source baseGenomeId : String) : Genome :=
  (candidate.assign "provenance" "origin" (.str source)).assign "provenance" "base_genome_id"
    (.str baseGenomeId)

/-- The `source_json` of an appended persona. -/
def appendedSource (source currentGenomeId : String) (restoredFrom : Option PersonaGenomeRow) :
    JsonDict :=
  [("source_type", .str source), ("previous_genome_id", .str currentGenomeId)] ++
    match restoredFrom with
    | some target =>
        [("restored_from", .str target.genomeId), ("restored_version", .int target.version)]
    | none => []

/-- `_append_persona`: the new genome, and the Companion pointing at it. -/
def appendPersona (sdk : Sdk) (env : Env) (companion : CompanionRow) (current : PersonaGenomeRow)
    (candidate : Genome) (source summary : String) (restoredFrom : Option PersonaGenomeRow) :
    Session (PersonaGenomeRow × CompanionRow) := do
  let highest ← Tx.read (fun t => highestVersion t.workspace.personaGenomes companion.companionId)
  let event := personaEvent env 1 companion.ownerId companion.companionId
    ("g_" ++ (env.uuid 0).hex) "persona.genome.committed"
    [("genome_id", .str ("g_" ++ (env.uuid 0).hex)),
     ("previous_genome_id", .str current.genomeId), ("source", .str source)]
  let row ← validated (GenomeSeed.row sdk
    { genomeId := "g_" ++ (env.uuid 0).hex
      companionId := companion.companionId
      ownerId := companion.ownerId
      version := highest + 1
      status := .committed
      baseGenomeId := some current.genomeId
      sourceJson := some (appendedSource source current.genomeId restoredFrom)
      genomeJson := some (sdk.personaGenomeToJson
        (candidate.withProvenance source current.genomeId))
      appliedEventId := some event.eventId
      changeSummary := summary })
  insertGenome row
  addFact env event
  match restoredFrom with
  | some target =>
      addFact env (personaEvent env 2 companion.ownerId companion.companionId row.genomeId
        "persona.genome.rolled_back"
        [("genome_id", .str row.genomeId), ("restored_from", .str target.genomeId)])
  | none => Tx.done ()
  return (row, { companion with
    currentGenomeId := some row.genomeId
    revision := companion.revision + 1 })

/-- `dict(metadata.get("persona_operations") or {})`. -/
def editReceipts (metadata : JsonDict) : Except String JsonDict :=
  match metadata.get? personaOperationsKey with
  | none => .ok []
  | some (.obj receipts) => .ok receipts
  | some value => if value.truthy then .error "persona_operations is not a mapping" else .ok []

/-- The receipt of an operation; an empty one is none. -/
def CompanionRow.receipt? (companion : CompanionRow) (operationId : String) : Option JsonDict :=
  match companion.metadataJson.get? personaOperationsKey with
  | some (.obj receipts) =>
      match JsonDict.get? receipts operationId with
      | some (.obj (field :: rest)) => some (field :: rest)
      | _ => none
  | _ => none

/-- What an earlier edit under the same operation answered. -/
def replayEdit (sdk : Sdk) (receipt : JsonDict) (fingerprint : String) :
    Session PersonaEditSnapshot := do
  let stored ← Tx.require (receipt.get? "fingerprint") (.keyError "fingerprint")
  Tx.refuseIf (stored ≠ .str fingerprint)
    (.personaGenomeConflict "operation id reused with different input" .operationConflict none)
  let genomeId ← Tx.require ((receipt.get? "genome_id").bind Json.asString?) (.keyError "genome_id")
  let row ← getGenome genomeId
  let original ← Tx.require row (.validationError "genome")
  let genome ← validated (sdk.normalizePersonaGenome original.genomeJson)
  let displayName ← Tx.require ((receipt.get? "display_name").bind Json.asString?)
    (.keyError "display_name")
  let companionRevision ← Tx.require
    ((receipt.get? "companion_revision").bind fun
      | .int value => some value
      | _ => none)
    (.keyError "companion_revision")
  let preferences ← validated (sdk.validateConversationPreferences
    ((receipt.get? "preferences").getD .null))
  let preferenceRevision ← validated (sdk.validatePreferenceRevision
    ((receipt.get? "preference_revision").getD .null))
  return {
    genomeId := original.genomeId
    displayName := displayName
    companionRevision := companionRevision
    persona := sdk.personaAuthoringOf genome
    preferences := preferences
    preferenceRevision := preferenceRevision }

/-- The target of a restore: a committed genome of the same Companion. -/
def restorable (companionId : String) (stored : Option PersonaGenomeRow) :
    Except Error PersonaGenomeRow :=
  match stored.filter (fun target => target.companionId = companionId) with
  | none => .error
      (.personaGenomeConflict "persona does not belong to companion" .notThisCompanion none)
  | some target =>
      if target.status ≠ .committed then
        .error
          (.personaGenomeConflict "only committed personas can be restored" .stateNotEligible none)
      else
        .ok target

/-- What an edit's action makes of the current persona. -/
structure EditDraft where
  candidate : Genome
  companion : CompanionRow
  target : Option PersonaGenomeRow := none
  source : String
  summary : String

def draftEdit (sdk : Sdk) (request : PersonaEditRequest) (companion : CompanionRow)
    (current : PersonaGenomeRow) (base : Genome) (changeSummary : String) :
    Session EditDraft := do
  match request.action with
  | .rename => do
      let displayName ← Tx.require request.displayName (.validationError "display_name")
      return {
        candidate := base.withName (strip displayName)
        companion := { companion with displayName := strip displayName }
        source := "owner_rename"
        summary := "更新伙伴名字" }
  | .restore => do
      let stored ← getGenome (request.restoreGenomeId.getD "")
      let target ← check (restorable companion.companionId stored)
      let genome ← validated (sdk.normalizePersonaGenome target.genomeJson)
      return {
        candidate :=
          if target.genomeId = current.genomeId then base
          else genome.withName companion.displayName
        companion := companion
        target := some target
        source := "owner_restore"
        summary := "恢复性格设定" }
  | .author => do
      let candidate ← validated
        (sdk.applyPersonaAuthoring base request.persona current.genomeId)
      return {
        candidate := candidate
        companion := companion
        source := "owner_authored"
        summary := changeSummary }

/-- The persona half of an edit: a new chapter where the draft changes the
content, or restores another genome. -/
def draftChapter (sdk : Sdk) (env : Env) (draft : EditDraft) (current : PersonaGenomeRow)
    (base : Genome) : Session (PersonaGenomeRow × CompanionRow) :=
  if draft.candidate.content ≠ base.content ∨
      draft.target.any (fun target => target.genomeId ≠ current.genomeId) then
    appendPersona sdk env draft.companion current draft.candidate draft.source draft.summary
      draft.target
  else
    Tx.done (current, draft.companion)

/-- The preference half of an edit. -/
def draftPreferences (sdk : Sdk) (request : PersonaEditRequest) (before : PersonaEditSnapshot)
    (companion : CompanionRow) : Except String CompanionRow :=
  match request.preferences with
  | none => .ok companion
  | some preferences =>
      if preferences = before.preferences then .ok companion
      else do
        let config := (companion.runtimeConfigJson.set "conversation_preferences"
          (.obj preferences)).set "preference_revision" (.int (before.preferenceRevision + 1))
        let _ ← validateRuntimeConfig sdk config
        return { companion with
          runtimeConfigJson := config
          revision := companion.revision + 1 }

/-- The receipt an edit leaves under its operation id. -/
def editReceipt (fingerprint : String) (result : PersonaEditSnapshot) : JsonDict :=
  [("fingerprint", .str fingerprint), ("genome_id", .str result.genomeId),
   ("display_name", .str result.displayName),
   ("companion_revision", .int result.companionRevision),
   ("preferences", .obj result.preferences),
   ("preference_revision", .int result.preferenceRevision)]

/-- The branch of `edit` for an operation without a receipt. -/
def commitEdit (sdk : Sdk) (env : Env) (companion : CompanionRow) (receipts : JsonDict)
    (request : PersonaEditRequest) (changeSummary : String) : Session PersonaEditSnapshot := do
  let current ← currentForEdit companion
  let before ← validated (editSnapshot sdk companion current)
  Tx.refuseIf (current.genomeId ≠ request.expectedBaseGenomeId)
    (.personaGenomeConflict "persona changed; reload before saving" .baseNotCurrent
      (some current.genomeId))
  Tx.refuseIf (before.preferenceRevision ≠ request.expectedPreferenceRevision)
    (.personaGenomeConflict "conversation preferences changed; reload before saving"
      .preferencesChanged (some current.genomeId))
  let base ← validated (sdk.normalizePersonaGenome current.genomeJson)
  let draft ← draftEdit sdk request companion current base changeSummary
  let (current, companion) ← draftChapter sdk env draft current base
  let companion ← validated (draftPreferences sdk request before companion)
  let result ← validated (editSnapshot sdk companion current)
  writePersona { companion with
    metadataJson := companion.metadataJson.set personaOperationsKey
      (.obj (receipts.set request.operationId
        (.obj (editReceipt (sdk.editFingerprint request) result)))) }
  addFact env (governanceFact (env.uuid 3) env.now companion.ownerId "companion"
    companion.companionId "persona.settings.saved"
    [("genome_id", .str result.genomeId), ("previous_genome_id", .str before.genomeId),
     ("preference_revision", .int result.preferenceRevision),
     ("operation_id", .str request.operationId)])
  return result

/-- `PersonaService.edit`. -/
def editPersona (sdk : Sdk) (env : Env) (companionId : String) (request : PersonaEditRequest)
    (changeSummary : String := "更新性格与说话方式") : Session PersonaEditSnapshot := do
  let companion ← companionForEdit companionId
  let receipts ← validated (editReceipts companion.metadataJson)
  match receipts.get? request.operationId with
  | some (.obj (field :: rest)) =>
      replayEdit sdk (field :: rest) (sdk.editFingerprint request)
  | some other =>
      if other.truthy then Tx.refuse (.validationError "receipt")
      else commitEdit sdk env companion receipts request changeSummary
  | none => commitEdit sdk env companion receipts request changeSummary

/-- `PersonaService.rename`. -/
def renameCompanion (sdk : Sdk) (env : Env) (companionId displayName : String) :
    Session (Option CompanionRow) := do
  let name := strip displayName
  Tx.refuseIf (name = "" ∨ 128 < name.length)
    (.valueError "companion name must contain 1-128 characters")
  let stored ← getCompanion companionId
  match stored with
  | none => return none
  | some companion => do
      let current ← currentForEdit companion
      let base ← validated (sdk.normalizePersonaGenome current.genomeJson)
      if companion.displayName = name ∧ base.name = some name then
        return some companion
      else
        let (_, companion) ← appendPersona sdk env { companion with displayName := name } current
          (base.withName name) "owner_rename" "更新伙伴名字" none
        writePersona companion
        return some companion

/-- The tail the restoring commands share: the target's content as a new
chapter, unless it is already the current one. -/
def appendRestored (sdk : Sdk) (env : Env) (companion : CompanionRow)
    (current target : PersonaGenomeRow) (summary : String) : Session PersonaGenomeRow := do
  if current.genomeId = target.genomeId ∨
      current.sourceJson.get? "restored_from" = some (.str target.genomeId) then
    return current
  else
    let genome ← validated (sdk.normalizePersonaGenome target.genomeJson)
    let (row, companion) ← appendPersona sdk env companion current
      (genome.withName companion.displayName) "owner_restore" summary (some target)
    writePersona companion
    return row

/-- `PersonaService.restore_chapter`. -/
def restoreChapter (sdk : Sdk) (env : Env) (companionId genomeId : String)
    (changeSummary : String := "恢复性格设定") (ownerId : Option String := none) :
    Session PersonaGenomeRow := do
  let companion ← companionForEdit companionId
  Tx.refuseIf (ownerId.any (fun owner => companion.ownerId ≠ owner))
    (.keyError "companion not found for owner")
  let current ← currentForEdit companion
  let stored ← getGenome genomeId
  let target ← check (restorable companionId stored)
  appendRestored sdk env companion current target changeSummary

/-- `PersonaService.rollback_to_genome`. -/
def rollbackToGenome (sdk : Sdk) (env : Env) (ownerId companionId genomeId : String) :
    Session PersonaGenomeRow :=
  restoreChapter sdk env companionId genomeId "恢复历史人格" (some ownerId)

/-- The walk of `reset_to_origin` along the bases of one Companion's genomes. -/
def originOf (genomes : Table PersonaGenomeRow) (companionId : String) :
    Nat → List String → PersonaGenomeRow → PersonaGenomeRow
  | 0, _, genome => genome
  | steps + 1, visited, genome =>
      match genome.baseGenomeId with
      | none => genome
      | some base =>
          if base = "" ∨ base ∈ visited then genome
          else
            match (genomes.get? base).filter (fun parent => parent.companionId = companionId) with
            | none => genome
            | some parent => originOf genomes companionId steps (genome.genomeId :: visited) parent

/-- `PersonaService.reset_to_origin`. -/
def resetToOrigin (sdk : Sdk) (env : Env) (ownerId companionId : String) :
    Session PersonaGenomeRow := do
  let companion ← personaCompanion ownerId companionId
  let stored ← getGenome (companion.currentGenomeId.getD "")
  -- an empty id is no id
  let start ← Tx.require (stored.filter (fun genome => genome.genomeId ≠ ""))
    (.keyError ("no genome for companion: " ++ companionId))
  let origin ← Tx.read (fun t => originOf t.workspace.personaGenomes companionId
    (t.workspace.personaGenomes.rows.length + 1) [] start)
  let current ← currentForEdit companion
  appendRestored sdk env companion current origin "恢复初始性格设定"

structure GenomeRequest where
  genomeId : String
  companionId : String
  ownerId : String
  eventId : String
  version : Int := 1
  genomeJson : Option JsonDict := none
  sourceJson : Option JsonDict := none
  status : String := "committed"
  baseGenomeId : Option String := none
  changeSummary : String := ""
  deriving DecidableEq, Repr

/-- The base a new genome names belongs to the same Companion. -/
def checkBase (companionId : String) : Option String → Session Unit
  | none => Tx.done ()
  | some baseGenomeId => do
      let base ← getGenome baseGenomeId
      Tx.refuseIf (base.all (fun row => row.companionId ≠ companionId))
        (.valueError "base genome must belong to the same companion")

/-- `PersonaService.create_genome`. -/
def createGenome (sdk : Sdk) (env : Env) (request : GenomeRequest) :
    Session PersonaGenomeRow := do
  let companion ← personaCompanion request.ownerId request.companionId
  checkBase request.companionId request.baseGenomeId
  -- a status outside the enumeration is refused by the column's CHECK
  let status ← Tx.require (GenomeStatus.ofText? request.status) .integrityError
  let genome ← validated (GenomeSeed.row sdk
    { genomeId := request.genomeId
      companionId := request.companionId
      ownerId := request.ownerId
      version := request.version
      status := status
      baseGenomeId := request.baseGenomeId
      sourceJson := request.sourceJson
      genomeJson := request.genomeJson
      appliedEventId := if status = .committed then some request.eventId else none
      changeSummary := request.changeSummary })
  insertGenome genome
  if status = .committed then
    writePersona { companion with currentGenomeId := some request.genomeId }
  else
    Tx.done ()
  addFact env (personaEvent env 0 request.ownerId request.companionId request.genomeId
    (if status = .committed then "persona.genome.committed" else "persona.evolution.proposed")
    [("companion_id", .str request.companionId), ("genome_id", .str request.genomeId),
     ("genome_hash", .str genome.genomeHash), ("schema_version", .str genome.schemaVersion),
     ("realizer_version", .str genome.realizerVersion), ("version", .int request.version),
     ("status", .str status.text), ("source", .obj (request.sourceJson.getD []))]
    (some request.eventId))
  return genome

/-- `PersonaService.record_observation`. -/
def recordObservation (env : Env) (event : ObservationEvent) : Session Unit := do
  let _ ← personaCompanion event.ownerId event.companionId
  addFact env (governanceFact (env.uuid 0) env.now event.ownerId "persona_observation"
    event.observationId "persona.observation.created" event.document (some event.observationId))

/-- `PersonaService.create_evolution_proposal`. -/
def createEvolutionProposal (sdk : Sdk) (env : Env) (proposal : EvolutionProposal) :
    Session PersonaGenomeRow := do
  let companion ← personaCompanion proposal.ownerId proposal.companionId
  Tx.refuseIf (companion.currentGenomeId ≠ some proposal.baseGenomeId)
    (.personaGenomeConflict "proposal base is not the current genome" .baseNotCurrent
      (some proposal.baseGenomeId))
  let stored ← getGenome proposal.baseGenomeId
  let base ← Tx.require stored
    (.personaGenomeConflict "proposal base genome is missing" .baseNotCurrent
      (some proposal.baseGenomeId))
  let normalized ← validated (sdk.normalizePersonaGenome base.genomeJson)
  validated (sdk.validatePersonaEvolution normalized proposal)
  let highest ← Tx.read (fun t => highestVersion t.workspace.personaGenomes proposal.companionId)
  let genome ← validated (GenomeSeed.row sdk
    { genomeId := proposal.proposedGenomeId
      companionId := proposal.companionId
      ownerId := proposal.ownerId
      version := highest + 1
      status := .proposed
      baseGenomeId := some proposal.baseGenomeId
      sourceJson := some
        [("source_type", .str "memory_reflection"), ("proposal_id", .str proposal.proposalId),
         ("base_genome_id", .str proposal.baseGenomeId),
         ("base_genome_hash", .str proposal.baseGenomeHash),
         ("evidence_refs", .arr proposal.evidenceRefs)]
      genomeJson := some (sdk.personaGenomeToJson proposal.proposedGenome)
      changeSummary := proposal.rationale })
  insertGenome genome
  addFact env (personaEvent env 0 proposal.ownerId proposal.companionId genome.genomeId
    "persona.evolution.proposed" (sdk.dumpProposal proposal))
  return genome

/-- The write of an evolution's new status. -/
def writeGenome (genome : PersonaGenomeRow) : Session Unit :=
  updateGenomeRow genome.genomeId (fun row =>
    { row with
      status := genome.status
      changeSummary := genome.changeSummary
      appliedEventId := genome.appliedEventId })

/-- The proposal a stored genome was, for the second validation. -/
def storedProposal (ownerId : String) (genome base : PersonaGenomeRow) (candidate : Genome) :
    EvolutionProposal :=
  { proposalId :=
      ((genome.sourceJson.get? "proposal_id").bind Json.asString?).getD genome.genomeId
    ownerId := ownerId
    companionId := genome.companionId
    baseGenomeId := base.genomeId
    baseGenomeHash := base.genomeHash
    proposedGenomeId := genome.genomeId
    proposedGenome := candidate
    rationale := genome.changeSummary
    evidenceRefs :=
      match genome.sourceJson.get? "evidence_refs" with
      | some (.arr items) => items
      | _ => [] }

/-- `PersonaService.approve_evolution`; a conflict is raised after the commit
that marks the proposal stale. -/
def approveEvolution (sdk : Sdk) (env : Env) (companionId ownerId proposedGenomeId : String)
    (expectedBaseGenomeId : Option String) : Session (Except Error PersonaGenomeRow) := do
  let companion ← personaCompanion ownerId companionId
  let stored ← getGenome proposedGenomeId
  let genome ← Tx.require (stored.filter (fun row => row.companionId = companionId))
    (.keyError ("genome not found: " ++ proposedGenomeId))
  Tx.refuseIf (genome.status ≠ .proposed)
    (.personaGenomeConflict "only proposed genomes can be approved" .stateNotEligible none)
  if companion.currentGenomeId ≠ genome.baseGenomeId ∨
      expectedBaseGenomeId.any (fun expected => some expected ≠ genome.baseGenomeId) then
    writeGenome { genome with status := .stale }
    addFact env (personaEvent env 0 ownerId companionId proposedGenomeId
      "persona.evolution.rejected"
      [("companion_id", .str companionId), ("genome_id", .str proposedGenomeId),
       ("expected_base_genome_id", Json.ofString? expectedBaseGenomeId),
       ("reason", .str "current genome changed before activation")] none .denied)
    return .error (.personaGenomeConflict "current genome changed before activation"
      .currentChanged (some proposedGenomeId))
  else
    let storedBase ← getGenome (genome.baseGenomeId.getD "")
    let candidate ← validated (sdk.normalizePersonaGenome genome.genomeJson)
    let base ← Tx.require storedBase (.validationError "base genome")
    let normalized ← validated (sdk.normalizePersonaGenome base.genomeJson)
    validated (sdk.validatePersonaEvolution normalized
      (storedProposal ownerId genome base candidate))
    addFact env (personaEvent env 0 ownerId companionId proposedGenomeId
      "persona.evolution.approved"
      [("companion_id", .str companionId), ("genome_id", .str proposedGenomeId),
       ("base_genome_id", Json.ofString? genome.baseGenomeId),
       ("proposal_id", (genome.sourceJson.get? "proposal_id").getD .null)])
    let committed := personaEvent env 1 ownerId companionId proposedGenomeId
      "persona.genome.committed"
      [("companion_id", .str companionId), ("genome_id", .str proposedGenomeId),
       ("genome_hash", .str genome.genomeHash), ("schema_version", .str genome.schemaVersion),
       ("realizer_version", .str genome.realizerVersion),
       ("expected_base_genome_id", Json.ofString? expectedBaseGenomeId)]
    let approved : PersonaGenomeRow :=
      { genome with
        status := .committed
        appliedEventId := some committed.eventId }
    writeGenome approved
    writePersona { companion with
      currentGenomeId := some proposedGenomeId
      revision := companion.revision + 1 }
    addFact env committed
    return .ok approved

/-- `PersonaService.reject_evolution`. -/
def rejectEvolution (env : Env) (ownerId genomeId : String) (companionId : Option String)
    (reason : String) : Session PersonaGenomeRow := do
  let stored ← getGenome genomeId
  let genome ← Tx.require stored (.keyError ("genome not found: " ++ genomeId))
  Tx.refuseIf (companionId.any (fun companion => genome.companionId ≠ companion))
    (.keyError ("genome not found for companion: " ++ genomeId))
  let _ ← personaCompanion ownerId genome.companionId
  Tx.refuseIf (genome.status ≠ .proposed)
    (.personaGenomeConflict "only proposed genomes can be rejected" .stateNotEligible none)
  let rejected : PersonaGenomeRow :=
    { genome with
      status := .rejected
      changeSummary := strip (genome.changeSummary ++ "\n\n" ++ reason) }
  writeGenome rejected
  addFact env (personaEvent env 0 ownerId genome.companionId genome.genomeId
    "persona.evolution.rejected"
    [("companion_id", .str genome.companionId), ("genome_id", .str genome.genomeId),
     ("genome_hash", .str genome.genomeHash), ("reason", .str reason)] none .denied)
  return rejected

end EidolonData
