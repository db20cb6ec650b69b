import EidolonData.Services.SmartHome
import EidolonData.Services.Workspace

/-!
# Onboarding

`initialize_owner_workspace`: the Owner, the packaged home and the first
Companion in one transaction, and the reconstruction of that result from the
rows it created.
-/

namespace EidolonData

open Relational

structure InitializationRequest where
  operationId : String
  requestFingerprint : String
  ownerDisplayName : String
  companionDisplayName : String
  authoring : Authoring := {}
  deriving DecidableEq, Repr

structure InitializationResult where
  operationId : String
  requestFingerprint : String
  owner : OwnerRow
  workspace : CompanionWorkspaceResult
  deriving DecidableEq, Repr

/-- The checks of `initialize_owner_workspace` before its session: the two
stripped names. -/
def InitializationRequest.validate (request : InitializationRequest) :
    Except Error (String × String) := do
  let _ ← validateOperationId request.operationId
  if matchesRequestFingerprint request.requestFingerprint = false then
    throw (.ownerWorkspaceError "request_fingerprint must be a sha256 digest")
  if strip request.ownerDisplayName = "" then
    throw (.ownerWorkspaceError "owner_display_name cannot be blank")
  if strip request.companionDisplayName = "" then
    throw (.ownerWorkspaceError "companion_display_name cannot be blank")
  request.authoring.validate
  return (strip request.ownerDisplayName, strip request.companionDisplayName)

/-- `_load_onboarding_result`; the Owner is the one the caller already read in
this session. -/
def loadOnboardingResult (operationId : String) (requestFingerprint : Option String)
    (owner : OwnerRow) : Session InitializationResult := do
  let ids := onboardingIds operationId
  let incomplete := Error.ownerWorkspaceError "workspace initialization resources are incomplete"
  let foreign := Error.ownerWorkspaceError "workspace identifiers belong to another operation"
  let storedCompanion ← getCompanion ids.companionId
  let storedGenome ← getGenome ids.genomeId
  let storedRealm ← getRealm ids.realmId
  let companion ← Tx.require storedCompanion incomplete
  let genome ← Tx.require storedGenome incomplete
  let realm ← Tx.require storedRealm incomplete
  let metadata ← Tx.require
    ((companion.metadataJson.get? onboardingMetadataKey).bind Json.asDict?) foreign
  Tx.refuseIf (metadata.get? "operation_id" ≠ some (.str operationId)) foreign
  let storedFingerprint ← Tx.require
    ((metadata.get? "request_fingerprint").bind Json.asString?) foreign
  Tx.refuseIf (requestFingerprint.any (fun requested => storedFingerprint ≠ requested))
    (.ownerWorkspaceError "operation_id is already in use for another request")
  Tx.refuseIf (companion.ownerId ≠ owner.ownerId ∨ genome.companionId ≠ companion.companionId ∨
      realm.ownerId ≠ owner.ownerId)
    (.ownerWorkspaceError "workspace initialization resources are inconsistent")
  return {
    operationId := operationId
    requestFingerprint := storedFingerprint
    owner := owner
    workspace :=
      { companion := companion
        personaGenome := genome
        memoryRealm := realm } }

/-- The genome of an onboarding with a persona; without one it is left to the
default. -/
def Authoring.genomeJson (sdk : Sdk) (authoring : Authoring) (companionName : String) :
    Except String (Option JsonDict) :=
  match authoring.persona with
  | none => .ok none
  | some persona => do
      let genome ← sdk.buildPersonaGenomeFromDraft (some persona) companionName
        (if authoring.sourcePresetId.isSome then "template" else "owner_authored")
        authoring.sourcePresetId authoring.sourcePresetRevision
      return some (sdk.personaGenomeToJson genome)

/-- The branch of `initialize_owner_workspace` that creates the workspace. -/
def createOnboarding (sdk : Sdk) (env : Env) (request : InitializationRequest)
    (ownerName companionName : String) : Session InitializationResult := do
  let ids := onboardingIds request.operationId
  let owner : OwnerRow :=
    { ownerId := ids.ownerId
      displayName := ownerName
      kind := .person
      status := .active
      profileJson := []
      settingsJson := [] }
  insertOwner owner
  addFact env (governanceFact (env.uuid 5) env.now owner.ownerId "owner" owner.ownerId
    "owner.created"
    [("kind", .str owner.kind.text), ("display_name", .str owner.displayName)]
    none .success (some request.operationId))
  initializeOwnerHome sdk env owner.ownerId request.operationId
  let authoring := request.authoring
  let genomeJson ← validated (authoring.genomeJson sdk companionName)
  let workspace ← provisionWorkspaceInSession sdk env
    { ownerId := owner.ownerId
      companionId := ids.companionId
      companionDisplayName := companionName
      kind := .conversational
      profileJson := some (initialCompanionArtwork authoring.sourcePresetId
        authoring.sourcePresetRevision)
      runtimeConfigJson := authoring.runtimeConfig
      metadataJson := some
        [("source", .str "owner_onboarding"),
         (onboardingMetadataKey,
          .obj (operationReceipt request.operationId request.requestFingerprint))]
      genomeId := ids.genomeId
      genomeSourceJson := some (authoring.genomeSource "owner_onboarding" owner.ownerId
        request.operationId)
      genomeJson := genomeJson
      realmId := ids.realmId
      memoryEngineConfigJson := some []
      traceId := some request.operationId }
  let stored ← getOwner ids.ownerId
  return {
    operationId := request.operationId
    requestFingerprint := request.requestFingerprint
    owner := stored.getD owner
    workspace := workspace }

def initializeOwnerWorkspace (sdk : Sdk) (env : Env) (request : InitializationRequest) :
    Session InitializationResult := do
  let (ownerName, companionName) ← check request.validate
  let existing ← getOwner (onboardingIds request.operationId).ownerId
  match existing with
  | some owner => loadOnboardingResult request.operationId (some request.requestFingerprint) owner
  | none => createOnboarding sdk env request ownerName companionName

def getOwnerWorkspaceInitialization (operationId : String) :
    Session (Option InitializationResult) := do
  let operationId ← check (validateOperationId operationId)
  let existing ← getOwner (onboardingIds operationId).ownerId
  match existing with
  | none => return none
  | some owner => do
      let result ← loadOnboardingResult operationId none owner
      return some result

end EidolonData
