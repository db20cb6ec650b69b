import Mathlib.Data.List.MinMax
import EidolonData.Services.Owners

/-!
# Provisioning

`CompanionWorkspaceService` without the lifecycle of a Companion: the memory
realm every Companion of an Owner shares, the provisioning of a Companion
with its persona, and the onboarding that creates an Owner with both.
-/

namespace EidolonData

open Relational

def onboardingMetadataKey : String := "_eidolon_onboarding"

def provisionMetadataKey : String := "_eidolon_companion_provision"

def personaGenomeSchema : String := "eidolon.persona_genome"

def personaRealizer : String := "eidolon.persona_realizer"

def validateOperationId (operationId : String) : Except Error String :=
  if isCanonicalUuid operationId then .ok operationId
  else if parsesAsUuid operationId then
    .error (.ownerWorkspaceError "operation_id must use canonical UUID encoding")
  else
    .error (.ownerWorkspaceError "operation_id must be a UUID")

def validateGeneratedId (label value : String) : Except Error Unit :=
  if matchesGeneratedId value then .ok ()
  else
    .error (.ownerWorkspaceError
      (label ++ " must be 1-64 chars and contain only letters, numbers, _, ., or -"))

/-- The identifiers an operation addresses. -/
structure WorkspaceIds where
  ownerId : String
  companionId : String
  genomeId : String
  realmId : String
  deriving DecidableEq, Repr

def onboardingIds (operationId : String) : WorkspaceIds :=
  { ownerId := "owner_" ++ uuidHex operationId
    companionId := "c_" ++ uuidHex operationId
    genomeId := "g_" ++ uuidHex operationId ++ "_origin"
    realmId := "r_" ++ uuidHex operationId }

/-- `_provision_ids`, for the Owner the provision names. -/
def provisionIds (ownerId operationId : String) : WorkspaceIds :=
  { ownerId := ownerId
    companionId := "cp_" ++ uuidHex operationId
    genomeId := "gp_" ++ uuidHex operationId ++ "_origin"
    realmId := "rp_" ++ uuidHex operationId }

/-- `initial_companion_artwork`. -/
def initialCompanionArtwork (presetId revision : Option String) : JsonDict :=
  match revision, presetId with
  | some "1", some preset =>
      if preset ∈ ["metal", "wood", "water", "fire", "earth"] then
        [("artwork_id", .str ("five-elements/1/" ++ preset))]
      else []
  | _, _ => []

/-- Moments are compared as the integers they are. -/
instance : Preorder Timestamp := Int.instLinearOrder.toPreorder

/-- The Owner's active realm of no Person, the oldest first. -/
def oldestSharedRealm (realms : Table MemoryRealmRow) (ownerId : String) :
    Option MemoryRealmRow :=
  (realms.select (fun row => row.isShared ownerId)).argmin (fun row => row.createdAt)

/-- `_active_realm_for_owner`. -/
def activeRealmForOwner (ownerId : String) : Session (Option MemoryRealmRow) :=
  Tx.read (fun t =>
    (t.workspace.memoryRealms.select (fun row => row.isShared ownerId)).head?)

structure RealmRequest where
  realmId : Option String := none
  engine : String := "mempalace"
  engineConfigJson : Option JsonDict := none
  policyJson : Option JsonDict := none
  deriving DecidableEq, Repr

/-- The realm `_ensure_memory_realm_in_session` creates. -/
def RealmRequest.row (request : RealmRequest) (now : Timestamp) (ownerId realmId : String) :
    MemoryRealmRow :=
  { realmId := realmId
    ownerId := ownerId
    engine := orDefault (some (strip request.engine)) "mempalace"
    engineConfigJson := request.engineConfigJson.getD []
    policyJson :=
      match request.policyJson with
      | some (field :: rest) => field :: rest
      | _ => [("scope", .str "owner"), ("recall", .str "companion_default")]
    status := .active
    createdAt := now }

def pointAtRealm (companionId realmId : String) : Session Unit :=
  updateCompanionRow companionId (fun row => { row with defaultMemoryRealmId := some realmId })

/-- The branch of `_ensure_memory_realm_in_session` for an Owner without a
shared realm. -/
def createMemoryRealm (env : Env) (companion : CompanionRow) (request : RealmRequest) :
    Session (MemoryRealmRow × Bool) := do
  let realmId := orDefault request.realmId ("r_" ++ (env.uuid 0).hex)
  check (validateGeneratedId "realm_id" realmId)
  let taken ← getRealm realmId
  Tx.refuseIf taken.isSome
    (.ownerWorkspaceError ("realm_id '" ++ realmId ++ "' already exists"))
  let realm := request.row env.now companion.ownerId realmId
  insertRealm realm
  pointAtRealm companion.companionId realmId
  return (realm, true)

/-- `_ensure_memory_realm_in_session`: point this Companion at its Owner's
memory, creating it only once. -/
def ensureMemoryRealmInSession (env : Env) (companion : CompanionRow) (request : RealmRequest) :
    Session (MemoryRealmRow × Bool) := do
  let existing ← Tx.read (fun t => oldestSharedRealm t.workspace.memoryRealms companion.ownerId)
  match existing with
  | some realm => do
      pointAtRealm companion.companionId realm.realmId
      return (realm, false)
  | none => createMemoryRealm env companion request

/-- `_owned_active_companion`. -/
def ownedActiveCompanion (ownerId companionId : String) : Session CompanionRow := do
  let stored ← getCompanion companionId
  let companion ← Tx.require (stored.filter (fun row => row.ownerId = ownerId))
    (.ownerWorkspaceNotFound "companion not found for owner")
  Tx.refuseIf (companion.lifecycleState ≠ .active)
    (.ownerWorkspaceError "companion is not active")
  return companion

/-- The fact of a realm that was just catalogued. -/
def realmCataloged (env : Env) (ownerId companionId : String) (realm : MemoryRealmRow) :
    Session Unit :=
  addFact env (governanceFact (env.uuid 1) env.now ownerId "memory_realm" realm.realmId
    "memory_realm.cataloged"
    [("companion_id", .str companionId), ("engine", .str realm.engine)])

def ensureMemoryRealm (env : Env) (ownerId companionId : String) (request : RealmRequest) :
    Session MemoryRealmRow := do
  let companion ← ownedActiveCompanion ownerId companionId
  let (realm, created) ← ensureMemoryRealmInSession env companion request
  if created then
    realmCataloged env ownerId companionId realm
    return realm
  else
    return realm

/-- The arguments of `_provision_workspace_in_session`. -/
structure WorkspaceSeed where
  ownerId : String
  companionId : String
  companionDisplayName : String := ""
  kind : CompanionKind := .conversational
  profileJson : Option JsonDict := none
  runtimeConfigJson : Option JsonDict := none
  metadataJson : Option JsonDict := none
  genomeId : String
  genomeSourceJson : Option JsonDict := none
  genomeJson : Option JsonDict := none
  realmId : String
  memoryEngine : String := "mempalace"
  memoryEngineConfigJson : Option JsonDict := none
  memoryPolicyJson : Option JsonDict := none
  traceId : Option String := none
  deriving DecidableEq, Repr

structure CompanionWorkspaceResult where
  companion : CompanionRow
  personaGenome : PersonaGenomeRow
  memoryRealm : MemoryRealmRow
  deriving DecidableEq, Repr

/-- `str(source.get("source_type") or default)`. -/
def sourceType (sdk : Sdk) (source : Option JsonDict) (default : String) : String :=
  match (source.getD []).get? "source_type" with
  | some (.str value) => if value = "" then default else value
  | some value => if value.truthy then sdk.str value else default
  | none => default

/-- `{**provenance, "owner_id": ..., "companion_id": ...}` in a genome's document. -/
def withOwnership (document : JsonDict) (ownerId companionId : String) : JsonDict :=
  let provenance := ((document.get? "provenance").bind Json.asDict?).getD []
  document.set "provenance" (.obj (provenance.merge
    [("owner_id", .str ownerId), ("companion_id", .str companionId)]))

/-- `_normalize_genome`. -/
def normalizeGenome (sdk : Sdk) (genomeJson : Option JsonDict) (displayName sourceType : String) :
    Except String Genome :=
  match genomeJson with
  | some document => sdk.normalizePersonaGenome document
  | none => sdk.buildDefaultPersonaGenome displayName (some "companion") sourceType none

/-- The check of the `runtime_config_json` column, made at each assignment. -/
def validateRuntimeConfig (sdk : Sdk) (config : JsonDict) : Except String JsonDict :=
  sdk.validateConversationPreferences
    ((config.get? "conversation_preferences").getD (.obj []))

namespace WorkspaceSeed

variable (seed : WorkspaceSeed)

def realm : RealmRequest :=
  { realmId := some seed.realmId
    engine := seed.memoryEngine
    engineConfigJson := seed.memoryEngineConfigJson
    policyJson := seed.memoryPolicyJson }

/-- The Companion as it is first inserted. -/
def companion (now : Timestamp) (owner : OwnerRow) : CompanionRow :=
  { companionId := seed.companionId
    ownerId := seed.ownerId
    displayName := orDefault (some (strip seed.companionDisplayName))
      (orDefault (some owner.displayName) seed.ownerId ++ " Companion")
    kind := seed.kind
    lifecycleState := .active
    profileJson := seed.profileJson.getD []
    runtimeConfigJson := seed.runtimeConfigJson.getD []
    metadataJson := seed.metadataJson.getD []
    createdAt := now }

/-- The first genome of the Companion. -/
def genome (sdk : Sdk) (normalized : Genome) : PersonaGenomeRow :=
  let document := withOwnership (sdk.personaGenomeToJson normalized) seed.ownerId seed.companionId
  { genomeId := seed.genomeId
    companionId := seed.companionId
    version := 1
    status := .committed
    baseGenomeId := none
    schemaVersion := personaGenomeSchema
    genomeHash := sdk.personaGenomeHash document
    realizerVersion := personaRealizer
    sourceJson :=
      match seed.genomeSourceJson with
      | some (field :: rest) => field :: rest
      | _ => [("source_type", .str "workspace_initialize"), ("owner_id", .str seed.ownerId)]
    genomeJson := document
    changeSummary := "Initial persona genome" }

end WorkspaceSeed

/-- The Owner's first default-eligible Companion becomes the default. -/
def claimDefault (owner : OwnerRow) (companion : CompanionRow) : Session Unit :=
  if owner.defaultCompanionId = none ∧ companion.kind ≠ .guard then
    updateOwnerRow owner.ownerId (fun row =>
      { row with
        defaultCompanionId := some companion.companionId
        revision := owner.revision + 1 })
  else
    Tx.done ()

def provisionWorkspaceInSession (sdk : Sdk) (env : Env) (seed : WorkspaceSeed) :
    Session CompanionWorkspaceResult := do
  let stored ← getOwner seed.ownerId
  let owner ← Tx.require stored (.ownerWorkspaceError "owner not found")
  Tx.refuseIf (owner.status ≠ .active) (.ownerWorkspaceError "owner is not active")
  let sameCompanion ← getCompanion seed.companionId
  let sameGenome ← getGenome seed.genomeId
  let sameRealm ← getRealm seed.realmId
  Tx.refuseIf (sameCompanion.isSome ∨ sameGenome.isSome ∨ sameRealm.isSome)
    (.ownerWorkspaceError "workspace identifier already exists")
  let companion := seed.companion env.now owner
  let _ ← validated (validateRuntimeConfig sdk companion.runtimeConfigJson)
  insertCompanion companion
  claimDefault owner companion
  let normalized ← validated (normalizeGenome sdk seed.genomeJson companion.displayName
    (sourceType sdk seed.genomeSourceJson "workspace_initialize"))
  let genome := seed.genome sdk normalized
  insertGenome genome
  updateCompanionRow companion.companionId (fun row =>
    { row with currentGenomeId := some genome.genomeId })
  let (realm, _) ← ensureMemoryRealmInSession env companion seed.realm
  let fact := governanceFact (env.uuid 2) env.now seed.ownerId "companion" seed.companionId
    "companion.workspace.initialized"
    [("kind", .str seed.kind.text), ("genome_id", .str genome.genomeId),
     ("realm_id", .str realm.realmId)]
    none .success seed.traceId
  updateGenomeRow genome.genomeId (fun row => { row with appliedEventId := some fact.eventId })
  addFact env fact
  return {
    companion := { companion with
      currentGenomeId := some genome.genomeId
      defaultMemoryRealmId := some realm.realmId }
    personaGenome := { genome with appliedEventId := some fact.eventId }
    memoryRealm := realm }

def validateCompanionKind (kind : String) : Except Error CompanionKind :=
  match CompanionKind.ofText? kind with
  | some kind => .ok kind
  | none => .error (.ownerWorkspaceError
      "kind must be conversational, guard, specialist, or system")

/-- The arguments of `provision_workspace`. -/
structure ProvisionWorkspaceRequest where
  ownerId : String
  companionId : Option String := none
  companionDisplayName : String := ""
  kind : String := "conversational"
  profileJson : Option JsonDict := none
  runtimeConfigJson : Option JsonDict := none
  metadataJson : Option JsonDict := none
  genomeId : Option String := none
  genomeSourceJson : Option JsonDict := none
  genomeJson : Option JsonDict := none
  realmId : Option String := none
  memoryEngine : String := "mempalace"
  memoryEngineConfigJson : Option JsonDict := none
  memoryPolicyJson : Option JsonDict := none
  deriving DecidableEq, Repr

/-- The checks of `provision_workspace` before its session. -/
def ProvisionWorkspaceRequest.seed (request : ProvisionWorkspaceRequest) (env : Env) :
    Except Error WorkspaceSeed := do
  let ownerId ← validateOwnerId request.ownerId
  let kind ← validateCompanionKind request.kind
  let companionId := orDefault request.companionId ("c_" ++ ownerId)
  let genomeId := orDefault request.genomeId ("g_" ++ (env.uuid 3).hex)
  let realmId := orDefault request.realmId ("r_" ++ (env.uuid 4).hex)
  validateGeneratedId "companion_id" companionId
  validateGeneratedId "genome_id" genomeId
  validateGeneratedId "realm_id" realmId
  return {
    ownerId := ownerId
    companionId := companionId
    companionDisplayName := request.companionDisplayName
    kind := kind
    profileJson := request.profileJson
    runtimeConfigJson := request.runtimeConfigJson
    metadataJson := request.metadataJson
    genomeId := genomeId
    genomeSourceJson := request.genomeSourceJson
    genomeJson := request.genomeJson
    realmId := realmId
    memoryEngine := request.memoryEngine
    memoryEngineConfigJson := request.memoryEngineConfigJson
    memoryPolicyJson := request.memoryPolicyJson }

def provisionWorkspace (sdk : Sdk) (env : Env) (request : ProvisionWorkspaceRequest) :
    Session CompanionWorkspaceResult := do
  let seed ← check (request.seed env)
  provisionWorkspaceInSession sdk env seed

/-- What a Companion may start from, checked before it is built. -/
structure Authoring where
  persona : Option JsonDict := none
  preferences : Option JsonDict := none
  sourcePresetId : Option String := none
  sourcePresetRevision : Option String := none
  deriving DecidableEq, Repr

/-- A preset claim is recorded, never re-derived; this refuses one that could
not be true. -/
def Authoring.validate (authoring : Authoring) : Except Error Unit :=
  if authoring.sourcePresetRevision.isSome ∧ authoring.sourcePresetId = none then
    .error (.ownerWorkspaceError "source_preset_revision requires source_preset_id")
  else if authoring.sourcePresetId.isSome ∧ authoring.persona = none then
    .error (.ownerWorkspaceError "a source preset claim requires the persona it claims")
  else
    .ok ()

/-- The runtime configuration that carries the preferences, at revision 1. -/
def Authoring.runtimeConfig (authoring : Authoring) : Option JsonDict :=
  authoring.preferences.map (fun preferences =>
    [("conversation_preferences", .obj preferences), ("preference_revision", .int 1)])

/-- `source_type` of the first genome: a preset, the Owner's own words, or the
default of the event. -/
def Authoring.sourceType (authoring : Authoring) (default : String) : String :=
  if authoring.sourcePresetId.isSome then "companion_preset"
  else if authoring.persona.isSome then "owner_authored"
  else default

def Authoring.genomeSource (authoring : Authoring) (default ownerId operationId : String) :
    JsonDict :=
  [("source_type", .str (authoring.sourceType default)), ("owner_id", .str ownerId),
   ("operation_id", .str operationId)]

/-- The receipt an operation leaves on the Companion it created. -/
def operationReceipt (operationId requestFingerprint : String) : JsonDict :=
  [("operation_id", .str operationId), ("request_fingerprint", .str requestFingerprint)]

structure ProvisionRequest where
  ownerId : String
  operationId : String
  requestFingerprint : String
  replayFingerprints : List String := []
  companionDisplayName : String
  kind : String := "conversational"
  authoring : Authoring := {}
  deriving DecidableEq, Repr

structure ProvisionResult where
  operationId : String
  requestFingerprint : String
  companion : CompanionRow
  personaGenome : PersonaGenomeRow
  memoryRealm : MemoryRealmRow
  memoryRealmCreated : Bool
  replayed : Bool
  deriving DecidableEq, Repr

/-- The checks of `provision_companion` before its session: the kind and the
stripped name. -/
def ProvisionRequest.validate (request : ProvisionRequest) :
    Except Error (CompanionKind × String) := do
  let _ ← validateOwnerId request.ownerId
  let _ ← validateOperationId request.operationId
  if matchesRequestFingerprint request.requestFingerprint = false then
    throw (.ownerWorkspaceError "request_fingerprint must be a sha256 digest")
  if request.replayFingerprints.all matchesRequestFingerprint = false then
    throw (.ownerWorkspaceError "replay fingerprints must be sha256 digests")
  let kind ← validateCompanionKind request.kind
  request.authoring.validate
  if strip request.companionDisplayName = "" then
    throw (.ownerWorkspaceError "companion_display_name cannot be blank")
  return (kind, strip request.companionDisplayName)

/-- `_load_provision_result`; the Companion is the one the caller already read
in this session. -/
def loadProvisionResult (request : ProvisionRequest) (companion : CompanionRow) :
    Session ProvisionResult := do
  let ids := provisionIds request.ownerId request.operationId
  let stored ← getGenome ids.genomeId
  let genome ← Tx.require stored
    (.ownerWorkspaceError "companion provision resources are incomplete")
  Tx.refuseIf (companion.ownerId ≠ request.ownerId)
    (.ownerWorkspaceNotFound "companion provision not found for owner")
  let metadata ← Tx.require
    (((companion.metadataJson.get? provisionMetadataKey).bind Json.asDict?).filter
      (fun metadata => metadata.get? "operation_id" = some (.str request.operationId)))
    (.ownerWorkspaceConflict "operation_id belongs to another operation")
  let storedFingerprint ← Tx.require
    (((metadata.get? "request_fingerprint").bind Json.asString?).filter
      (fun stored => stored ∈ request.requestFingerprint :: request.replayFingerprints))
    (.ownerWorkspaceConflict "operation_id is already in use for another request")
  let active ← activeRealmForOwner request.ownerId
  let realm ← Tx.require active
    (.ownerWorkspaceError "companion provision resources are incomplete")
  return {
    operationId := request.operationId
    requestFingerprint := storedFingerprint
    companion := companion
    personaGenome := genome
    memoryRealm := realm
    memoryRealmCreated := false
    replayed := true }

/-- The branch of `provision_companion` that creates the Companion. -/
def createProvision (sdk : Sdk) (env : Env) (request : ProvisionRequest) (kind : CompanionKind)
    (displayName : String) : Session ProvisionResult := do
  let ids := provisionIds request.ownerId request.operationId
  let realmBefore ← activeRealmForOwner request.ownerId
  let authoring := request.authoring
  let genome ← validated (sdk.buildPersonaGenomeFromDraft authoring.persona displayName
    (if authoring.sourcePresetId.isSome ∨ authoring.persona = none then "template"
      else "owner_authored")
    authoring.sourcePresetId authoring.sourcePresetRevision)
  let result ← provisionWorkspaceInSession sdk env
    { ownerId := request.ownerId
      companionId := ids.companionId
      companionDisplayName := displayName
      kind := kind
      profileJson := some (initialCompanionArtwork authoring.sourcePresetId
        authoring.sourcePresetRevision)
      runtimeConfigJson := authoring.runtimeConfig
      metadataJson := some
        [("source", .str "companion_provision"),
         (provisionMetadataKey,
          .obj (operationReceipt request.operationId request.requestFingerprint))]
      genomeId := ids.genomeId
      genomeSourceJson := some (authoring.genomeSource "companion_provision" request.ownerId
        request.operationId)
      genomeJson := some (sdk.personaGenomeToJson genome)
      realmId := ids.realmId }
  return {
    operationId := request.operationId
    requestFingerprint := request.requestFingerprint
    companion := result.companion
    personaGenome := result.personaGenome
    memoryRealm := result.memoryRealm
    memoryRealmCreated := realmBefore.isNone
    replayed := false }

def provisionCompanion (sdk : Sdk) (env : Env) (request : ProvisionRequest) :
    Session ProvisionResult := do
  let (kind, displayName) ← check request.validate
  let existing ← getCompanion (provisionIds request.ownerId request.operationId).companionId
  match existing with
  | some companion => loadProvisionResult request companion
  | none => createProvision sdk env request kind displayName

end EidolonData
