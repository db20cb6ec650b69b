import EidolonData.Schema.Workspace

/-!
# Persons and their voiceprints

The rows of the real people within an Owner's namespace, with the photo and
the voice evidence that belong to them.  The document of an observation is
kept as the observation it is the dump of.
-/

namespace EidolonData

open Relational

inductive PersonStatus where
  | active
  | inactive
  deriving DecidableEq, Repr

inductive Maturity where
  | candidate
  | established
  deriving DecidableEq, Repr

inductive RecognitionState where
  | active
  | retained
  deriving DecidableEq, Repr

structure PersonRow where
  personId : String
  ownerId : String
  displayName : String
  status : PersonStatus
  deleted : Bool := false
  identityState : String := "known"
  maturity : Maturity := .established
  recognitionState : RecognitionState := .active
  candidateActivityAt : Option Timestamp := none
  isNamed : Bool := true
  archivedAt : Option Timestamp := none
  revision : Int
  profileJson : JsonDict
  deriving DecidableEq, Repr

/-- Minimal idempotency receipt; no name, biography or biometric data. -/
structure PersonDeletionRow where
  personId : String
  ownerId : String
  revision : Int
  realmId : String
  state : String
  deriving DecidableEq, Repr

/-- One versioned photo slot per Person. -/
structure PersonFaceRow where
  personId : String
  ownerId : String
  revision : Int
  storageKey : Option String := none
  sha256 : Option String := none
  deriving DecidableEq, Repr

inductive ProfileOrigin where
  | enrollment
  | observation
  deriving DecidableEq, Repr

structure SpeakerProfileRow where
  profileId : String
  ownerId : String
  personId : String
  displayName : String
  revision : Int
  enrollmentId : Option String := none
  origin : ProfileOrigin := .enrollment
  sourceObservationId : Option String := none
  templateJson : JsonDict := []
  deriving DecidableEq, Repr

structure SpeakerRecordingRow where
  profileId : String
  pcm : List UInt8 := []
  deriving DecidableEq, Repr

structure VoiceEnrollmentRow where
  enrollmentId : String
  ownerId : String
  personId : String
  profileId : String
  requestJson : JsonDict
  samplesJson : JsonDict
  state : String := "collecting"
  expiresAt : Timestamp
  deriving DecidableEq, Repr

/-- Where in a capture an observation was made. -/
structure CaptureSource where
  inputId : String
  generation : Int
  startSample : Int
  endSample : Int
  deriving DecidableEq, Repr

structure AudioQuality where
  overlapDetected : Option Int := none
  speechMs : Int := 0
  deriving DecidableEq, Repr

/-- `SpeakerObservation`: how one turn was recognised. -/
structure SpeakerObservation where
  ownerId : String
  personId : Option String := none
  personRevision : Option Int := none
  sessionId : String
  turnId : String
  source : CaptureSource
  profileId : Option String := none
  profileRevision : Option Int := none
  decisionVersion : String
  scoringVersion : String
  modelId : String
  weightsHash : String
  preprocessingVersion : String
  cosineSimilarity : Option Rat := none
  audioQuality : Option AudioQuality := none
  issuedAt : Timestamp
  expiresAt : Timestamp
  deriving DecidableEq, Repr

structure CandidateVoiceObservationRow where
  observationId : String
  ownerId : String
  personId : String
  sessionId : String
  turnId : String
  audioSha256 : String
  profileId : String
  profileRevision : Int
  requestDigest : String
  observationJson : SpeakerObservation
  deriving DecidableEq, Repr

instance : HasKey PersonRow String := ⟨PersonRow.personId⟩
instance : HasKey PersonDeletionRow String := ⟨PersonDeletionRow.personId⟩
instance : HasKey PersonFaceRow String := ⟨PersonFaceRow.personId⟩
instance : HasKey SpeakerProfileRow String := ⟨SpeakerProfileRow.profileId⟩
instance : HasKey SpeakerRecordingRow String := ⟨SpeakerRecordingRow.profileId⟩
instance : HasKey VoiceEnrollmentRow String := ⟨VoiceEnrollmentRow.enrollmentId⟩
instance : HasKey CandidateVoiceObservationRow String :=
  ⟨CandidateVoiceObservationRow.observationId⟩

structure People where
  persons : Table PersonRow := ∅
  personDeletions : Table PersonDeletionRow := ∅
  personFaces : Table PersonFaceRow := ∅
  speakerProfiles : Table SpeakerProfileRow := ∅
  speakerRecordings : Table SpeakerRecordingRow := ∅
  voiceEnrollments : Table VoiceEnrollmentRow := ∅
  candidateVoiceObservations : Table CandidateVoiceObservationRow := ∅

end EidolonData
