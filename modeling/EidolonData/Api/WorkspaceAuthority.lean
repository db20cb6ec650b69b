import EidolonData.JsonText
import EidolonData.Services.AuditOutbox
import EidolonData.Services.Onboarding
import EidolonData.Services.RuntimeSnapshot

/-!
# Requests of the workspace authority

The bodies of the two creating endpoints, the canonical documents they are
fingerprinted by, and the service calls the endpoints make of them; and the
history an Owner can read.  `sha256` stands for the hexadecimal digest of a
text.
-/

namespace EidolonData

open Relational

/-- A persona and preferences are the documents the SDK dumps them as. -/
structure CompanionProvisionRequest where
  companionDisplayName : String
  kind : String := "conversational"
  persona : Option Document := none
  preferences : Option Document := none
  sourcePresetId : Option String := none
  sourcePresetRevision : Option String := none

/-- First-use input with the same full persona snapshot as later companions. -/
structure WorkspaceInitializeRequest where
  ownerDisplayName : String
  companionDisplayName : String := "Eidolon"
  persona : Option Document := none
  preferences : Option Document := none
  sourcePresetId : Option String := none
  sourcePresetRevision : Option String := none

/-- `payload.model_dump(mode="json")`. -/
def CompanionProvisionRequest.modelDump (payload : CompanionProvisionRequest) : JsonDict :=
  [("companion_display_name", .str payload.companionDisplayName),
   ("kind", .str payload.kind),
   ("persona", Json.ofDocument? payload.persona),
   ("preferences", Json.ofDocument? payload.preferences),
   ("source_preset_id", Json.ofString? payload.sourcePresetId),
   ("source_preset_revision", Json.ofString? payload.sourcePresetRevision)]

/-- The names `_provision_fingerprint` leaves out. -/
def CompanionProvisionRequest.excluded (payload : CompanionProvisionRequest)
    (includeNullSource : Bool) : List String :=
  (if payload.preferences.isNone then ["preferences"] else []) ++
    -- The null-inclusive form is of receipts written before provenance.
    (if includeNullSource then []
     else
      (if payload.sourcePresetId.isNone then ["source_preset_id"] else []) ++
        (if payload.sourcePresetRevision.isNone then ["source_preset_revision"] else []))

/-- The document `_provision_fingerprint` hashes. -/
def CompanionProvisionRequest.document (payload : CompanionProvisionRequest)
    (includeNullSource : Bool) : JsonDict :=
  payload.modelDump.without (payload.excluded includeNullSource)

/-- `_provision_fingerprint`. -/
def provisionFingerprint (sha256 : String → String) (payload : CompanionProvisionRequest)
    (includeNullSource : Bool) : String :=
  "sha256:" ++ sha256 (jsonDumps .spaced (payload.document includeNullSource))

/-- The call `provision_companion` of the authority makes. -/
def CompanionProvisionRequest.provision (sha256 : String → String) (ownerId operationId : String)
    (payload : CompanionProvisionRequest) : ProvisionRequest :=
  { ownerId := ownerId
    operationId := operationId
    requestFingerprint := provisionFingerprint sha256 payload false
    replayFingerprints := [provisionFingerprint sha256 payload true]
    companionDisplayName := payload.companionDisplayName
    kind := payload.kind
    authoring :=
      { persona := payload.persona.map Document.fields
        preferences := payload.preferences.map Document.fields
        sourcePresetId := payload.sourcePresetId
        sourcePresetRevision := payload.sourcePresetRevision } }

def WorkspaceInitializeRequest.modelDump (payload : WorkspaceInitializeRequest) : JsonDict :=
  [("owner_display_name", .str payload.ownerDisplayName),
   ("companion_display_name", .str payload.companionDisplayName),
   ("persona", Json.ofDocument? payload.persona),
   ("preferences", Json.ofDocument? payload.preferences),
   ("source_preset_id", Json.ofString? payload.sourcePresetId),
   ("source_preset_revision", Json.ofString? payload.sourcePresetRevision)]

/-- The optional fields `_request_fingerprint` drops when they are null. -/
def optionalAuthoring : List String :=
  ["persona", "preferences", "source_preset_id", "source_preset_revision"]

def WorkspaceInitializeRequest.excluded (payload : WorkspaceInitializeRequest) : List String :=
  optionalAuthoring.filter (fun key => payload.modelDump.get? key = some .null)

/-- The document `_request_fingerprint` hashes. -/
def WorkspaceInitializeRequest.document (payload : WorkspaceInitializeRequest) : JsonDict :=
  payload.modelDump.without payload.excluded

/-- `_request_fingerprint`. -/
def requestFingerprint (sha256 : String → String) (payload : WorkspaceInitializeRequest) :
    String :=
  "sha256:" ++ sha256 (jsonDumps .compact payload.document)

/-- The call `initialize_workspace` of the authority makes. -/
def WorkspaceInitializeRequest.initialization (sha256 : String → String) (operationId : String)
    (payload : WorkspaceInitializeRequest) : InitializationRequest :=
  { operationId := operationId
    requestFingerprint := requestFingerprint sha256 payload
    ownerDisplayName := payload.ownerDisplayName
    companionDisplayName := payload.companionDisplayName
    authoring :=
      { persona := payload.persona.map Document.fields
        preferences := payload.preferences.map Document.fields
        sourcePresetId := payload.sourcePresetId
        sourcePresetRevision := payload.sourcePresetRevision } }

/-- Receipts of older Hosts are those of the requests without authoring. -/
example (owner companion : String) :
    (WorkspaceInitializeRequest.mk owner companion none none none none).document =
      [("owner_display_name", .str owner), ("companion_display_name", .str companion)] := by
  rfl

section Governance

/-- `GovernanceEventResponse`. -/
structure GovernanceEventResponse where
  eventId : String
  action : String
  subjectType : String
  subjectId : String
  outcome : AuditOutcome
  severity : AuditSeverity
  occurredAt : String
  payload : JsonDict
  deriving DecidableEq, Repr

/-- The constraints of the response model. -/
def GovernanceEventResponse.fits (event : GovernanceEventResponse) : Bool :=
  fieldFits event.eventId 64 && fieldFits event.action 128 && fieldFits event.subjectType 64 &&
    fieldFits event.subjectId 128 && fieldFits event.occurredAt 64

/-- The `GovernanceEventResponse` of an event, if the model accepts its fields;
`isoformat` is the text of a point in time with its offset. -/
def governanceEvent (isoformat : Timestamp → String) (event : AuditEnvelope) :
    Option GovernanceEventResponse :=
  let response : GovernanceEventResponse :=
    { eventId := event.eventId
      action := event.action
      subjectType := event.subjectType
      subjectId := event.subjectId
      outcome := event.outcome
      severity := event.severity
      occurredAt := isoformat event.occurredAt
      payload := if event.dataClassification = "safe" then event.payloadJson else [] }
  if response.fits then some response else none

/-- `OwnerGovernanceEventsResponse`. -/
structure OwnerGovernanceEventsResponse where
  ownerId : String
  events : List GovernanceEventResponse
  nextCursor : Option Int
  deriving DecidableEq, Repr

def OwnerGovernanceEventsResponse.fits (response : OwnerGovernanceEventsResponse) : Bool :=
  fieldFits response.ownerId 64 && response.nextCursor.all (fun cursor => 1 ≤ cursor)

/-- `list_owner_governance_events`, of an authorized caller.  The Owner is read
in a session of its own. -/
def listOwnerGovernanceEvents (isoformat : Timestamp → String) (owners : Workspace)
    (outbox : Table AuditOutboxRow) (ownerId : String) (limit : Nat) (before : Option Int) :
    Except HttpRefusal OwnerGovernanceEventsResponse :=
  if ¬ 1 ≤ limit ∨ ¬ before.all (fun before => 1 ≤ before) then
    refuse 422 "Input should be greater than or equal to 1"
  else if ¬ limit ≤ 100 then refuse 422 "Input should be less than or equal to 100"
  else if owners.owners.has ownerId = false then refuse 404 "owner not found"
  else
    let page := listForOwner outbox ownerId limit before
    match page.events.mapM (governanceEvent isoformat) with
    | none => refuse 500 "Internal Server Error"
    | some events =>
        let response : OwnerGovernanceEventsResponse :=
          { ownerId := ownerId
            events := events
            nextCursor := page.nextSequence }
        if response.fits then .ok response else refuse 500 "Internal Server Error"

end Governance

end EidolonData
