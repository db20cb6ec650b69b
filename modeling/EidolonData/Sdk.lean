import EidolonData.Schema.People

/-!
# The SDK

What the services take from `eidolon_sdk`, as a parameter: the lifecycle
contract of a Companion, the persona functions, and the validation of stored
documents.  A pydantic model of the SDK is kept as its JSON document, and a
validator answers the validated document or the text of its refusal.
-/

namespace EidolonData

/-- A validated persona genome, as its document. -/
abbrev Genome := JsonDict

/-- `CompanionLifecycleConflictCode`. -/
inductive LifecycleConflictCode where
  | notFound
  | transitionNotAllowed
  | revisionStale
  | lastActiveCompanion
  | defaultReplacementRequired
  | defaultReplacementIneligible
  deriving DecidableEq, Repr

/-- `PersonaConflictCode`. -/
inductive PersonaConflictCode where
  | operationConflict
  | baseNotCurrent
  | preferencesChanged
  | notThisCompanion
  | stateNotEligible
  | companionMissing
  | currentChanged
  deriving DecidableEq, Repr

inductive PersonaEditAction where
  | author
  | rename
  | restore
  deriving DecidableEq, Repr

/-- `PersonaEditRequest`, with the fields of the other actions absent. -/
structure PersonaEditRequest where
  operationId : String
  expectedBaseGenomeId : String
  expectedPreferenceRevision : Int
  action : PersonaEditAction := .author
  displayName : Option String := none
  restoreGenomeId : Option String := none
  persona : Option JsonDict := none
  preferences : Option JsonDict := none
  /-- `model_fields_set`: the optional fields the request names. -/
  fieldsSet : List String := []
  deriving DecidableEq, Repr

/-- `PersonaEvolutionProposalEvent`. -/
structure EvolutionProposal where
  proposalId : String
  ownerId : String
  companionId : String
  baseGenomeId : String
  baseGenomeHash : String
  proposedGenomeId : String
  proposedGenome : Genome
  rationale : String
  evidenceRefs : List Json := []
  deriving DecidableEq, Repr

/-- `PersonaObservationEvent`. -/
structure ObservationEvent where
  observationId : String
  ownerId : String
  companionId : String
  document : JsonDict := []
  deriving DecidableEq, Repr

/-- `PersonMemoryDefaults`: the policy of a new candidate, and whether a
promotion prepares the memory. -/
structure PersonMemoryDefaults where
  candidate : JsonDict
  prepareOnPromotion : Bool
  document : JsonDict
  deriving DecidableEq, Repr

/-- `ProvisionalMemoryPolicy`. -/
structure ProvisionalMemoryPolicy where
  saveAllowed : Bool := false
  sessionRecallAllowed : Bool := false
  document : JsonDict := []
  deriving DecidableEq, Repr

/-- `ExtractedSample`: an embedding with the model it comes from. -/
structure ExtractedSample where
  modelId : String
  weightsHash : String
  preprocessingVersion : String
  vector : List Rat := []
  speechMs : Int := 0
  document : JsonDict := []
  deriving DecidableEq, Repr

/-- `RecognitionPolicy`, as far as a discovery is held to it. -/
structure RecognitionPolicy where
  version : String
  modelId : String
  weightsHash : String
  preprocessingVersion : String
  minUnknownSpeechMs : Int
  deriving DecidableEq, Repr

/-- `CandidateDiscoveryPolicy`. -/
structure CandidateDiscoveryPolicy where
  version : String
  recognition : RecognitionPolicy
  maxExistingSimilarity : Rat
  deriving DecidableEq, Repr

/-- `CandidatePromotionPolicy`. -/
structure CandidatePromotionPolicy where
  version : String
  decisionVersion : String
  scoringVersion : String
  modelId : String
  weightsHash : String
  preprocessingVersion : String
  minSimilarity : Rat
  maxEvidenceAge : Timestamp
  minTurns : Nat
  minTotalSpeechMs : Int
  deriving DecidableEq, Repr

/-- `CandidateDiscovery`. -/
structure CandidateDiscovery where
  policyVersion : String
  snapshotRevision : String
  audioSha256 : String
  sample : ExtractedSample
  observation : SpeakerObservation
  deriving DecidableEq, Repr

/-- `CandidateEvidence`. -/
structure CandidateEvidence where
  snapshotRevision : String
  audioSha256 : String
  observation : SpeakerObservation
  deriving DecidableEq, Repr

/-- `SpeakerCandidate`, with its one template. -/
structure SpeakerCandidate where
  personId : String
  personRevision : Int
  maturity : Maturity
  isNamed : Bool
  displayName : String
  profile : JsonDict
  profileId : String
  profileRevision : Int
  sample : ExtractedSample
  deriving DecidableEq, Repr

/-- `Area` of the smart-home contract. -/
structure Area where
  areaId : String
  name : String
  order : Int := 0
  deriving DecidableEq, Repr

/-- `Device` of the smart-home contract. -/
structure Device where
  deviceId : String
  name : String
  aliases : List String := []
  type : String
  areaId : Option String := none
  provider : String := "virtual"
  providerRef : Option String := none
  traits : Option (List String) := none
  /-- `DeviceLimits`, as its document. -/
  limits : Option JsonDict := none
  source : String := "manual"
  overrides : List String := []
  syncedAtMs : Option Int := none
  orphaned : Bool := false
  deriving DecidableEq, Repr

/-- `Command` of the smart-home contract: one step of a scene. -/
structure SceneAction where
  deviceId : String
  trait : String
  command : String
  params : JsonDict := []
  deriving DecidableEq, Repr

/-- `Scene` of the smart-home contract. -/
structure Scene where
  sceneId : String
  name : String
  provider : Option String := none
  providerRef : Option String := none
  actions : List SceneAction := []
  deriving DecidableEq, Repr

/-- `Placement` of the smart-home contract. -/
structure Placement where
  deviceRef : String
  areaId : String
  deriving DecidableEq, Repr

/-- `Registry`: one Owner's home. -/
structure Registry where
  revision : Int
  areas : List Area := []
  devices : List Device := []
  scenes : List Scene := []
  placements : List Placement := []
  deriving DecidableEq, Repr

/-- The first error of a pydantic refusal, as far as the services read it. -/
inductive FirstError where
  /-- Raised by the SDK, with its code and its words. -/
  | sdk (code message : String)
  /-- `too_long` at a field of the registry itself. -/
  | tooLong (field message : String)
  | other
  deriving DecidableEq, Repr

/-- A `ValidationError` of `Registry`. -/
structure RegistryFault where
  first : FirstError
  detail : String
  deriving DecidableEq, Repr

/-- `TeamConfiguration`: the Companions of its members, and its document. -/
structure TeamConfiguration where
  memberCompanionIds : List String
  document : JsonDict
  deriving DecidableEq, Repr

/-- `DeviceRef`: the device it stands for, and its document. -/
structure DeviceRef where
  deviceInstanceId : String
  document : JsonDict := []
  deriving DecidableEq, Repr

/-- A member of a selection: a Companion on its output device. -/
structure SelectionMember where
  companionId : String
  outputDevice : DeviceRef
  deriving DecidableEq, Repr

/-- `CoordinationSelection`. -/
structure CoordinationSelection where
  sessionId : String
  devices : List DeviceRef := []
  members : List SelectionMember := []
  document : JsonDict := []
  deriving DecidableEq, Repr

/-- `RoleGroupStatus`. -/
structure RoleGroupStatus where
  sessionId : String
  state : String
  document : JsonDict := []
  deriving DecidableEq, Repr

structure Sdk where
  /-- `COMPANION_LIFECYCLE_TRANSITIONS.get(state, ())` -/
  lifecycleTransitions : LifecycleState → List LifecycleState
  /-- `DEFAULT_ELIGIBLE_LIFECYCLE_STATES` -/
  defaultEligibleLifecycleStates : List LifecycleState
  normalizePersonaGenome : JsonDict → Except String Genome
  personaGenomeToJson : Genome → JsonDict
  personaGenomeHash : JsonDict → String
  /-- `build_default_persona_genome` of a name, an archetype, an origin and a base. -/
  buildDefaultPersonaGenome : String → Option String → String → Option String →
    Except String Genome
  /-- `build_persona_genome_from_draft` of the draft for a Companion of that
  name, with the origin and the preset it claims. -/
  buildPersonaGenomeFromDraft : Option JsonDict → String → String → Option String →
    Option String → Except String Genome
  /-- `apply_persona_authoring` of a base, a persona and the base's genome id. -/
  applyPersonaAuthoring : Genome → Option JsonDict → String → Except String Genome
  personaAuthoringOf : Genome → JsonDict
  validatePersonaEvolution : Genome → EvolutionProposal → Except String Unit
  /-- `ConversationPreferences.model_validate` -/
  validateConversationPreferences : Json → Except String JsonDict
  /-- The validation of `PersonaEditSnapshot.preference_revision`. -/
  validatePreferenceRevision : Json → Except String Int
  /-- The SHA-256 hex digest of the canonical JSON of an edit request. -/
  editFingerprint : PersonaEditRequest → String
  /-- `proposal.model_dump(mode="json", exclude_none=True)` -/
  dumpProposal : EvolutionProposal → JsonDict
  validatePersonMemoryDefaults : Json → Except String PersonMemoryDefaults
  validateProvisionalMemoryPolicy : Json → Except String ProvisionalMemoryPolicy
  /-- `ProvisionalMemoryPolicy()` -/
  defaultProvisionalMemoryPolicy : ProvisionalMemoryPolicy
  /-- `MAX_CANDIDATE_PERSONS` -/
  maxCandidatePersons : Nat
  /-- `MAX_RECOGNITION_PERSONS` -/
  maxRecognitionPersons : Nat
  /-- `CANDIDATE_EVIDENCE_LIMIT` -/
  candidateEvidenceLimit : Nat
  /-- `PersonProfile().model_dump()` -/
  defaultPersonProfile : JsonDict
  /-- The part of a stored `PersonProfile` a recognition snapshot shows. -/
  recognitionProfile : JsonDict → Except String JsonDict
  validateExtractedSample : Json → Except String ExtractedSample
  /-- The SHA-256 hex digest of the JSON of a recognition snapshot. -/
  snapshotRevision : List SpeakerCandidate → Option CandidateDiscoveryPolicy → String
  /-- The SHA-256 hex digest of the JSON of a discovery. -/
  discoveryDigest : CandidateDiscovery → String
  /-- The SHA-256 hex digest of the JSON of a piece of evidence. -/
  evidenceDigest : CandidateEvidence → String
  /-- The SHA-256 hex digest of the JSON of an Owner, a session and a turn, cut to 32. -/
  discoveryPersonId : String → String → String → String
  /-- The SHA-256 hex digest of an Owner and an operation, cut to 40. -/
  enrollmentDigest : String → String → String
  enrollmentEvidenceDigest : List (String × ExtractedSample) → String
  /-- `base64.b64decode` with validation. -/
  decodeBase64 : String → Option (List UInt8)
  /-- The SHA-256 hex digest of bytes. -/
  sha256 : List UInt8 → String
  /-- `normalize_image` -/
  normalizeImage : String → Except String (List UInt8)
  /-- `SAMPLES["apartment"]()` -/
  apartmentSample : Registry
  /-- The other entries of `SAMPLES`. -/
  otherSamples : List (String × Registry)
  /-- The validation of `Registry` with its parts. -/
  validateRegistry : Registry → Except RegistryFault Unit
  validateTeamConfiguration : JsonDict → Except String TeamConfiguration
  /-- The validation of `TeamRevision` of a team id and a revision. -/
  validateTeamRevision : String → Int → Except String Unit
  /-- `TypeAdapter(Identifier).validate_python` -/
  validateIdentifier : String → Except String Unit
  /-- `TeamConfiguration.resolve` of a session, its devices by instance id and
  the Companions attached to them. -/
  resolveTeam : TeamConfiguration → String → List (String × DeviceRef) → List (String × String) →
    Except String CoordinationSelection
  /-- The validation of `TeamStartSnapshot` of a stored selection and status. -/
  validateTeamStartSnapshot : Option JsonDict → Option JsonDict → Except String Unit
  /-- `str(value)` of a value that is not a string. -/
  str : Json → String
  /-- `repr(text)` -/
  repr : String → String

namespace Sdk

/-- The lifecycle contract: an active Companion retires, a retiring one is
archived, an archived one may come back. -/
def plainTransitions : LifecycleState → List LifecycleState
  | .active => [.retiring]
  | .retiring => [.archived]
  | .archived => [.active]
  | .deleting => []

/-- A document taken as it is. -/
def plainDocument : Json → Except String JsonDict
  | .obj fields => .ok fields
  | _ => .error "a mapping is expected"

def plainGenome (name : String) : Genome :=
  [("constitution", .obj [("name", .str name)])]

/-- Every device of the session with the Companion attached to it. -/
def plainResolve (configuration : TeamConfiguration) (sessionId : String)
    (devices : List (String × DeviceRef)) (attachments : List (String × String)) :
    Except String CoordinationSelection :=
  .ok
    { sessionId := sessionId
      devices := devices.map Prod.snd
      members := devices.filterMap (fun (instanceId, device) =>
        (attachments.lookup instanceId).map (fun companionId =>
          { companionId := companionId, outputDevice := device }))
      document := configuration.document }

/-- An SDK with the lifecycle contract, and documents taken as they are. -/
def plain : Sdk :=
  { lifecycleTransitions := plainTransitions
    defaultEligibleLifecycleStates := [.active]
    normalizePersonaGenome := .ok
    personaGenomeToJson := id
    personaGenomeHash := fun _ =>
      "sha256:e3b0c44298fc1c149afbf4c8996fb92427ae41e4649b934ca495991b7852b855"
    buildDefaultPersonaGenome := fun name _ _ _ => .ok (plainGenome name)
    buildPersonaGenomeFromDraft := fun draft name _ _ _ => .ok (draft.getD (plainGenome name))
    applyPersonaAuthoring := fun base persona _ => .ok (persona.getD base)
    personaAuthoringOf := id
    validatePersonaEvolution := fun _ _ => .ok ()
    validateConversationPreferences := plainDocument
    validatePreferenceRevision := fun
      | .int revision => .ok revision
      | _ => .error "an integer is expected"
    editFingerprint := fun request => request.operationId
    dumpProposal := fun proposal => proposal.proposedGenome
    validatePersonMemoryDefaults := fun document => do
      let fields ← plainDocument document
      return { candidate := [], prepareOnPromotion := false, document := fields }
    validateProvisionalMemoryPolicy := fun document => do
      let fields ← plainDocument document
      return { document := fields }
    defaultProvisionalMemoryPolicy := {}
    maxCandidatePersons := 32
    maxRecognitionPersons := 64
    candidateEvidenceLimit := 64
    defaultPersonProfile := []
    recognitionProfile := .ok
    validateExtractedSample := fun document => do
      let fields ← plainDocument document
      return { modelId := "", weightsHash := "", preprocessingVersion := "", document := fields }
    snapshotRevision := fun _ _ => ""
    discoveryDigest := fun request => request.audioSha256
    evidenceDigest := fun request => request.audioSha256
    discoveryPersonId := fun ownerId sessionId turnId => ownerId ++ sessionId ++ turnId
    enrollmentDigest := fun ownerId operationId => ownerId ++ operationId
    enrollmentEvidenceDigest := fun _ => ""
    decodeBase64 := fun _ => some []
    sha256 := fun _ => ""
    normalizeImage := fun _ => .ok []
    apartmentSample := { revision := 0 }
    otherSamples := []
    validateRegistry := fun _ => .ok ()
    validateTeamConfiguration := fun document =>
      .ok { memberCompanionIds := [], document := document }
    validateTeamRevision := fun _ _ => .ok ()
    validateIdentifier := fun _ => .ok ()
    resolveTeam := plainResolve
    validateTeamStartSnapshot := fun _ _ => .ok ()
    str := fun _ => ""
    repr := fun text => "'" ++ text ++ "'" }

instance : Inhabited Sdk := ⟨plain⟩

/-- `SAMPLES.get(name)` -/
def sample? (sdk : Sdk) (name : String) : Option Registry :=
  if name = "apartment" then some sdk.apartmentSample else sdk.otherSamples.lookup name

end Sdk

namespace Genome

/-- `genome.<part>.<field> = value`. -/
def assign (genome : Genome) (part field : String) (value : Json) : Genome :=
  let inner := ((genome.get? part).bind Json.asDict?).getD []
  genome.set part (.obj (inner.set field value))

/-- `genome.constitution.name`. -/
def name (genome : Genome) : Option String :=
  (((genome.get? "constitution").bind Json.asDict?).getD []).get? "name" |>.bind Json.asString?

/-- `genome.constitution.name = name`. -/
def withName (genome : Genome) (name : String) : Genome :=
  genome.assign "constitution" "name" (.str name)

/-- `genome.model_dump(exclude={"provenance"})`. -/
def content (genome : Genome) : JsonDict :=
  genome.filter (fun field => field.1 ≠ "provenance")

end Genome

end EidolonData
