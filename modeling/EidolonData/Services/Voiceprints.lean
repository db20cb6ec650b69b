import Mathlib.Algebra.Ring.Int.Defs
import Mathlib.Data.String.Basic
import EidolonData.Library.Ordering
import EidolonData.Services.Persons

/-!
# Voiceprints

The voice evidence of an Owner's Persons: the recognition snapshot, the
discovery of an unknown speaker as a candidate, the evidence that promotes a
candidate, and the enrollments a profile is recorded in.
-/

namespace EidolonData

open Relational

/-- What a `Voiceprints` service is built with. -/
structure VoicePolicies where
  discovery : Option CandidateDiscoveryPolicy := none
  promotion : Option CandidatePromotionPolicy := none
  candidatePoolTtl : Timestamp := 604800000000
  deriving DecidableEq, Repr

/-- `CandidateEvidenceReceipt`. -/
structure CandidateEvidenceReceipt where
  personId : String
  personRevision : Int
  maturity : Maturity
  accepted : Bool
  independentTurns : Nat
  deriving DecidableEq, Repr

/-- `EnrollmentCreate`. -/
structure EnrollmentCreate where
  operationId : String
  personId : String
  profileId : Option String := none
  document : JsonDict := []
  deriving DecidableEq, Repr

/-- The evaluation within `EnrollmentCompletion`. -/
structure EnrollmentEvaluation where
  recordingSha256 : String
  evidenceDigest : String
  template : ExtractedSample
  trial : ExtractedSample
  document : JsonDict := []
  deriving DecidableEq, Repr

/-- `EnrollmentCompletion`. -/
structure EnrollmentCompletion where
  pcmBase64 : String
  evaluation : EnrollmentEvaluation
  deriving DecidableEq, Repr

section Rows

def getProfile (profileId : String) : Session (Option SpeakerProfileRow) :=
  Tx.read (fun t => t.people.speakerProfiles.get? profileId)

def getEnrollment (enrollmentId : String) : Session (Option VoiceEnrollmentRow) :=
  Tx.read (fun t => t.people.voiceEnrollments.get? enrollmentId)

/-- `SELECT` of the one profile of a Person within its Owner. -/
def profileOfPerson (ownerId personId : String) : Session (Option SpeakerProfileRow) :=
  Tx.read (fun t => (t.people.speakerProfiles.select (fun row =>
    row.ownerId = ownerId && row.personId = personId)).head?)

/-- `SELECT` of the observations that meet a condition. -/
def selectObservations (wanted : CandidateVoiceObservationRow → Bool) :
    Session (List CandidateVoiceObservationRow) :=
  Tx.read (fun t => t.people.candidateVoiceObservations.select wanted)

def insertObservation (row : CandidateVoiceObservationRow) : Session Unit :=
  Tx.attempt (fun t =>
    if t.people.candidateVoiceObservations.has row.observationId then .error .integrityError
    else .ok (t.mapPeople (fun p =>
      { p with candidateVoiceObservations := p.candidateVoiceObservations.insert row })))

def insertProfile (row : SpeakerProfileRow) : Session Unit :=
  Tx.attempt (fun t =>
    if t.people.speakerProfiles.has row.profileId then .error .integrityError
    else .ok (t.mapPeople (fun p =>
      { p with speakerProfiles := p.speakerProfiles.insert row })))

def insertEnrollment (row : VoiceEnrollmentRow) : Session Unit :=
  Tx.attempt (fun t =>
    if t.people.voiceEnrollments.has row.enrollmentId then .error .integrityError
    else .ok (t.mapPeople (fun p =>
      { p with voiceEnrollments := p.voiceEnrollments.insert row })))

/-- `UPDATE voice_enrollments SET ... WHERE enrollment_id = ...`. -/
def updateEnrollmentRow (enrollmentId : String)
    (change : VoiceEnrollmentRow → VoiceEnrollmentRow)
    (keeps : ∀ row, key (change row) = key row := by intro _; rfl) : Session Unit :=
  Tx.modify (fun t => t.mapPeople (fun p =>
    { p with voiceEnrollments := p.voiceEnrollments.modify enrollmentId change keeps }))

end Rows

/-- `_audit`. -/
def auditVoiceprint (env : Env) (ownerId profileId action : String) : Session Unit :=
  addFact env (governanceFact (env.uuid 0) env.now ownerId "voiceprint" profileId action
    [("profile_id", .str profileId)])

/-- `_person`: not deleted is not asked. -/
def requireVoicePerson (ownerId personId : String) : Session PersonRow := do
  let _ ← requireActiveOwner ownerId
  let stored ← getPerson personId
  let row ← Tx.require
    (stored.filter (fun row => !personId.isEmpty && row.ownerId = ownerId))
    (.lookupError "person not found for owner")
  Tx.refuseIf (row.status ≠ .active) (.voiceprintConflict "person is inactive")
  return row

section Snapshot

/-- A Person recognition may name. -/
def PersonRow.isRecognizable (person : PersonRow) (now ttl : Timestamp) : Bool :=
  person.status = .active && !person.deleted && person.recognitionState = .active &&
    (person.maturity ≠ .candidate ||
      person.candidateActivityAt.any (fun activity => now - ttl < activity))

/-- The Persons with their profiles a snapshot is made of. -/
def People.recognizable (p : People) (ownerId : String) (now ttl : Timestamp) :
    List (PersonRow × SpeakerProfileRow) :=
  (orderBy (fun person => person.personId) (p.persons.select (fun person =>
    person.ownerId = ownerId && person.isRecognizable now ttl))).flatMap (fun person =>
      (p.speakerProfiles.select (fun profile =>
        profile.personId = person.personId && profile.ownerId = person.ownerId)).map
          (fun profile => (person, profile)))

def speakerCandidate (sdk : Sdk) (person : PersonRow) (profile : SpeakerProfileRow) :
    Except String SpeakerCandidate := do
  let supplied ← sdk.recognitionProfile person.profileJson
  let sample ← sdk.validateExtractedSample (.obj profile.templateJson)
  return {
    personId := person.personId
    personRevision := person.revision
    maturity := person.maturity
    isNamed := person.isNamed
    displayName := person.displayName
    profile := supplied
    profileId := profile.profileId
    profileRevision := profile.revision
    sample := sample }

/-- `_recognition_snapshot`: its revision and its candidates. -/
def recognitionSnapshot (sdk : Sdk) (env : Env) (policies : VoicePolicies) (ownerId : String) :
    Session (String × List SpeakerCandidate) := do
  let rows ← Tx.read (fun t => (t.people.recognizable ownerId env.now
    policies.candidatePoolTtl).take (sdk.maxRecognitionPersons + 1))
  Tx.refuseIf (sdk.maxRecognitionPersons < rows.length)
    (.voiceprintConflict "recognition candidate capacity exceeded")
  let candidates ← validated (rows.mapM (fun (person, profile) =>
    speakerCandidate sdk person profile))
  return (sdk.snapshotRevision candidates policies.discovery, candidates)

/-- `_expired_candidates`. -/
def PersonRow.isExpiredCandidate (person : PersonRow) (now ttl : Timestamp) : Bool :=
  person.maturity = .candidate && person.recognitionState = .active && !person.deleted &&
    person.candidateActivityAt.any (fun activity => activity ≤ now - ttl)

/-- The loop of `recognition_candidates` over the expired candidates. -/
def retainAll (env : Env) : Nat → List PersonRow → Session Unit
  | _, [] => return ()
  | uuid, row :: rows => do
      let retained : PersonRow :=
        { row with
          recognitionState := .retained
          revision := row.revision + 1 }
      writePerson retained
      auditPerson env uuid retained "person.candidate_retained"
      retainAll env (uuid + 1) rows

/-- The transaction of `recognition_candidates` that takes expired candidates
out of the pool. -/
def retainExpiredCandidates (env : Env) (policies : VoicePolicies) (ownerId : String) :
    Session Unit := do
  let _ ← requireActiveOwner ownerId
  let rows ← Tx.read (fun t => (t.people.persons.select (fun row =>
    row.ownerId = ownerId && row.isExpiredCandidate env.now policies.candidatePoolTtl)).take 100)
  retainAll env 0 rows

end Snapshot

section Evidence

/-- Two captures of one input share an interval. -/
def CaptureSource.overlaps (source other : CaptureSource) : Bool :=
  other.inputId = source.inputId && other.generation = source.generation &&
    other.startSample < source.endSample && source.startSample < other.endSample

/-- A policy the observation of a discovery has to match. -/
def RecognitionPolicy.admits (policy : RecognitionPolicy) (ownerId : String)
    (request : CandidateDiscovery) : Bool :=
  let value := request.observation
  value.ownerId = ownerId && value.decisionVersion = policy.version &&
    value.scoringVersion = "normalized-template-cosine-v1" && value.modelId = policy.modelId &&
    value.weightsHash = policy.weightsHash &&
    value.preprocessingVersion = policy.preprocessingVersion &&
    policy.minUnknownSpeechMs ≤ request.sample.speechMs

/-- The candidate a discovery creates, with its first observation and the
profile taken from it. -/
def insertDiscovered (sdk : Sdk) (env : Env) (owner : OwnerRow) (request : CandidateDiscovery)
    (personId : String) : Session PersonRow := do
  let value := request.observation
  let person ← insertNewPerson sdk env owner
    { personId := personId
      displayName := "未命名用户 " ++ (personId.take 6).toString
      maturity := .candidate
      isNamed := false
      profile := sdk.defaultPersonProfile }
  let profileId := "sp_" ++ (env.uuid 4).hex
  insertObservation
    { observationId := (env.uuid 3).hex
      ownerId := owner.ownerId
      personId := personId
      sessionId := value.sessionId
      turnId := value.turnId
      audioSha256 := request.audioSha256
      profileId := profileId
      profileRevision := 1
      requestDigest := sdk.discoveryDigest request
      observationJson := value }
  insertProfile
    { profileId := profileId
      ownerId := owner.ownerId
      personId := personId
      displayName := person.displayName
      revision := 1
      enrollmentId := none
      origin := .observation
      sourceObservationId := some (env.uuid 3).hex
      templateJson := request.sample.document }
  return person

/-- The branch of `discover_candidate` for a turn it has not seen. -/
def discoverNew (sdk : Sdk) (env : Env) (policies : VoicePolicies)
    (policy : CandidateDiscoveryPolicy) (owner : OwnerRow) (request : CandidateDiscovery) :
    Session PersonRow := do
  let value := request.observation
  Tx.refuseIf (env.now + 1000000 < value.issuedAt ∨ value.expiresAt ≤ env.now)
    (.voiceprintConflict "expired discovery evidence")
  let (revision, persons) ← recognitionSnapshot sdk env policies owner.ownerId
  Tx.refuseIf (revision ≠ request.snapshotRevision)
    (.voiceprintConflict "recognition snapshot changed")
  Tx.refuseIf (sdk.maxRecognitionPersons ≤ persons.length)
    (.voiceprintConflict "recognition candidate capacity reached")
  Tx.refuseIf (persons ≠ [] ∧ value.cosineSimilarity.all (fun similarity =>
      policy.maxExistingSimilarity < similarity) = true)
    (.voiceprintConflict "insufficient exclusion of existing identities")
  let replay ← selectObservations (fun row =>
    row.ownerId = owner.ownerId && row.audioSha256 = request.audioSha256)
  Tx.refuseIf (replay ≠ []) (.voiceprintConflict "discovery audio already used")
  let rows ← selectObservations (fun row =>
    row.ownerId = owner.ownerId && row.sessionId = value.sessionId)
  Tx.refuseIf (rows.any (fun row => value.source.overlaps row.observationJson.source) = true)
    (.voiceprintConflict "discovery capture overlaps accepted evidence")
  let personId := sdk.discoveryPersonId owner.ownerId value.sessionId value.turnId
  let taken ← getPerson personId
  let receipt ← getPersonDeletion personId
  Tx.refuseIf (taken.isSome ∨ receipt.isSome)
    (.voiceprintConflict "discovery identity already used or deleted")
  let realms ← Tx.read (fun t => t.workspace.memoryRealms.select (fun row =>
    row.personId = some personId))
  Tx.refuseIf (realms ≠ []) (.voiceprintConflict "discovery identity has retained memory")
  (candidateCapacity sdk env policies.candidatePoolTtl owner.ownerId).mapError (fun _ =>
    .voiceprintConflict "candidate pool capacity reached")
  insertDiscovered sdk env owner request personId

/-- `Voiceprints.discover_candidate`. -/
def discoverCandidate (sdk : Sdk) (env : Env) (policies : VoicePolicies) (ownerId : String)
    (request : CandidateDiscovery) : Session PersonRow := do
  let policy ← Tx.require
    (policies.discovery.filter (fun policy => request.policyVersion = policy.version))
    (.voiceprintConflict "candidate discovery policy unavailable")
  Tx.refuseIf (policy.recognition.admits ownerId request = false)
    (.voiceprintConflict "discovery policy or owner mismatch")
  let owner ← requireActiveOwner ownerId
  let prior ← selectObservations (fun row =>
    row.ownerId = ownerId && row.sessionId = request.observation.sessionId &&
      row.turnId = request.observation.turnId)
  match prior with
  | prior :: _ => do
      Tx.refuseIf (prior.requestDigest ≠ sdk.discoveryDigest request)
        (.voiceprintConflict "discovery source already used")
      let person ← requireVoicePerson ownerId prior.personId
      let profile ← getProfile prior.profileId
      Tx.refuseIf (person.deleted = true ∨ person.recognitionState ≠ .active ∨ profile = none)
        (.voiceprintConflict "discovered candidate was revoked")
      return person
  | [] => discoverNew sdk env policies policy owner request

/-- The flush of what evidence changes of a Person. -/
def writeEvidence (person : PersonRow) : Session Unit :=
  Tx.modify (fun t => t.mapPeople (fun p =>
    { p with
      persons := p.persons.modify person.personId (fun row =>
        { row with
          maturity := person.maturity
          candidateActivityAt := person.candidateActivityAt
          revision := person.revision }) }))

/-- A realm that a promotion may prepare. -/
def MemoryRealmRow.isPreparable (realm : MemoryRealmRow) : Bool :=
  realm.status = .inactive && (realm.policyJson.get? "defaults_owner_revision").isSome &&
    !(realm.policyJson.get? "automatic_preparation_blocked").any Json.truthy

/-- `Persons.prepare_promoted_memory`. -/
def preparePromotedMemory (sdk : Sdk) (env : Env) (person : PersonRow) : Session Unit := do
  let stored ← getOwner person.ownerId
  let owner ← Tx.require stored (.validationError "settings_json")
  let defaults ← validated (storedMemoryDefaults sdk owner)
  if defaults.prepareOnPromotion then
    let realm ← personRealm person.ownerId person.personId
    match realm.filter MemoryRealmRow.isPreparable with
    | some realm => do
        writeRealm { realm with status := .active }
        auditPerson env 2 person "person.memory_prepared_on_promotion"
    | none => Tx.done ()
  else
    Tx.done ()

/-- An observation that counts towards a promotion along with the latest one. -/
def CandidatePromotionPolicy.counts (policy : CandidatePromotionPolicy) (now : Timestamp)
    (latest observation : SpeakerObservation) : Bool :=
  observation.audioQuality.any (fun quality => quality.overlapDetected = some 0) &&
    observation.profileId = latest.profileId &&
    observation.profileRevision = latest.profileRevision &&
    observation.decisionVersion = policy.decisionVersion &&
    observation.scoringVersion = policy.scoringVersion &&
    observation.modelId = policy.modelId && observation.weightsHash = policy.weightsHash &&
    observation.preprocessingVersion = policy.preprocessingVersion &&
    observation.cosineSimilarity.any (fun similarity => policy.minSimilarity ≤ similarity) &&
    now - policy.maxEvidenceAge ≤ observation.issuedAt && observation.issuedAt ≤ now + 1000000

/-- The evidence a promotion rests on, if there is enough of it. -/
def CandidatePromotionPolicy.evidence (policy : CandidatePromotionPolicy) (now : Timestamp)
    (rows : List CandidateVoiceObservationRow) (latest : SpeakerObservation) :
    Option (List SpeakerObservation) :=
  let observations := (rows.map (fun row => row.observationJson)).filter
    (policy.counts now latest) ++ [latest]
  if policy.counts now latest latest &&
      policy.minTurns ≤ observations.length &&
      policy.minTotalSpeechMs ≤ (observations.map (fun observation =>
        (observation.audioQuality.map (fun quality => quality.speechMs)).getD 0)).sum then
    some observations
  else none

/-- `_promote_candidate`, of a Person whose activity has been noted. -/
def promoteCandidate (sdk : Sdk) (env : Env) (policies : VoicePolicies) (person : PersonRow)
    (rows : List CandidateVoiceObservationRow) (value : SpeakerObservation) :
    Session PersonRow := do
  match policies.promotion.bind (fun policy =>
      (policy.evidence env.now rows value).map (fun observations => (policy, observations))) with
  | none => do
      writeEvidence person
      return person
  | some (policy, observations) => do
      let promoted : PersonRow :=
        { person with
          maturity := .established
          revision := person.revision + 1 }
      writeEvidence promoted
      preparePromotedMemory sdk env promoted
      addFact env (governanceFact (env.uuid 3) env.now promoted.ownerId "person"
        promoted.personId "person.candidate_promoted"
        [("revision", .int promoted.revision), ("policy_version", .str policy.version),
         ("independent_turns", .int observations.length)])
      return promoted

/-- The turns of a Person that agree with an observation. -/
def independentTurns (rows : List CandidateVoiceObservationRow) (value : SpeakerObservation) :
    Nat :=
  (rows.filter (fun row =>
    some row.profileId = value.profileId && some row.profileRevision = value.profileRevision &&
      row.observationJson.decisionVersion = value.decisionVersion &&
      row.observationJson.scoringVersion = value.scoringVersion)).length

/-- The checks of new evidence against what is stored. -/
def checkEvidence (sdk : Sdk) (env : Env) (policies : VoicePolicies) (ownerId : String)
    (person : PersonRow) (rows : List CandidateVoiceObservationRow)
    (request : CandidateEvidence) : Session SpeakerCandidate := do
  let value := request.observation
  Tx.refuseIf (person.maturity ≠ .candidate)
    (.voiceprintConflict "candidate is already established")
  Tx.refuseIf (env.now + 1000000 < value.issuedAt ∨ value.expiresAt ≤ env.now)
    (.voiceprintConflict "expired candidate evidence")
  let (revision, persons) ← recognitionSnapshot sdk env policies ownerId
  Tx.refuseIf (revision ≠ request.snapshotRevision ∨ some person.revision ≠ value.personRevision)
    (.voiceprintConflict "recognition snapshot changed")
  let candidate ← Tx.require
    ((persons.find? (fun candidate => candidate.personId = person.personId)).filter
      (fun candidate => some candidate.profileId = value.profileId &&
        some candidate.profileRevision = value.profileRevision &&
        candidate.sample.modelId = value.modelId &&
        candidate.sample.weightsHash = value.weightsHash &&
        candidate.sample.preprocessingVersion = value.preprocessingVersion))
    (.voiceprintConflict "candidate template changed")
  let replay ← selectObservations (fun row =>
    row.ownerId = ownerId && row.audioSha256 = request.audioSha256)
  Tx.refuseIf (replay ≠ []) (.voiceprintConflict "audio evidence already counted")
  let sessionRows ← selectObservations (fun row =>
    row.ownerId = ownerId && row.sessionId = value.sessionId)
  Tx.refuseIf (sessionRows.any (fun row =>
      value.source.overlaps row.observationJson.source) = true)
    (.voiceprintConflict "overlapping capture already counted")
  Tx.refuseIf (sdk.candidateEvidenceLimit ≤ rows.length)
    (.voiceprintConflict "candidate evidence capacity reached")
  return candidate

/-- `Voiceprints.record_candidate_evidence`. -/
def recordCandidateEvidence (sdk : Sdk) (env : Env) (policies : VoicePolicies) (ownerId : String)
    (request : CandidateEvidence) : Session CandidateEvidenceReceipt := do
  let value := request.observation
  Tx.refuseIf (value.ownerId ≠ ownerId) (.voiceprintConflict "evidence owner mismatch")
  let person ← requireVoicePerson ownerId (value.personId.getD "")
  Tx.refuseIf (person.deleted = true ∨ person.recognitionState ≠ .active)
    (.voiceprintConflict "candidate is not accepting evidence")
  let rows ← selectObservations (fun row =>
    row.ownerId = ownerId && row.personId = person.personId)
  let count := independentTurns rows value
  let previous ← selectObservations (fun row =>
    row.ownerId = ownerId && row.sessionId = value.sessionId && row.turnId = value.turnId)
  match previous with
  | previous :: _ => do
      Tx.refuseIf (previous.requestDigest ≠ sdk.evidenceDigest request)
        (.voiceprintConflict "turn already has different evidence")
      return {
        personId := person.personId
        personRevision := person.revision
        maturity := person.maturity
        accepted := false
        independentTurns := count }
  | [] => do
      let candidate ← checkEvidence sdk env policies ownerId person rows request
      insertObservation
        { observationId := (env.uuid 1).hex
          ownerId := ownerId
          personId := person.personId
          sessionId := value.sessionId
          turnId := value.turnId
          audioSha256 := request.audioSha256
          profileId := candidate.profileId
          profileRevision := candidate.profileRevision
          requestDigest := sdk.evidenceDigest request
          observationJson := value }
      addFact env (governanceFact (env.uuid 0) env.now ownerId "person" person.personId
        "person.candidate_evidence_recorded" [("independent_turns", .int (count + 1 : Nat))])
      let updated ← promoteCandidate sdk env policies
        { person with
          candidateActivityAt := some (max (person.candidateActivityAt.getD 0) value.issuedAt) }
        rows value
      return {
        personId := updated.personId
        personRevision := updated.revision
        maturity := updated.maturity
        accepted := true
        independentTurns := count + 1 }

end Evidence

section Profiles

/-- `Voiceprints.delete_profile`: the profile with its recording, and its
enrollments. -/
def deleteProfile (env : Env) (ownerId profileId : String) : Session Unit := do
  let _ ← requireActiveOwner ownerId
  let stored ← getProfile profileId
  Tx.refuseIf (stored.any (fun row => row.ownerId ≠ ownerId) = true)
    (.lookupError "speaker not found for owner")
  match stored with
  | none => Tx.done ()
  | some _ => do
      Tx.modify (fun t => t.mapPeople (fun p =>
        { p with
          speakerProfiles := p.speakerProfiles.retain (fun row => row.profileId ≠ profileId)
          speakerRecordings := p.speakerRecordings.retain (fun row => row.profileId ≠ profileId)
          voiceEnrollments :=
            p.voiceEnrollments.retain (fun row => row.profileId ≠ profileId) }))
      auditVoiceprint env ownerId profileId "voice_speaker.deleted"

/-- `Voiceprints.expire_enrollments`. -/
def expireEnrollments (env : Env) : Session Unit :=
  Tx.modify (fun t => t.mapPeople (fun p =>
    { p with
      voiceEnrollments := p.voiceEnrollments.update (fun row =>
        if row.state = "collecting" ∧ row.expiresAt < env.now then
          { row with state := "expired", samplesJson := [] }
        else row) (by intro row; split <;> rfl) }))

/-- `Voiceprints.create_enrollment`. -/
def createEnrollment (sdk : Sdk) (env : Env) (ownerId : String) (request : EnrollmentCreate) :
    Session VoiceEnrollmentRow := do
  let _ ← requireActiveOwner ownerId
  let _ ← requireVoicePerson ownerId request.personId
  let enrollmentId := "ve_" ++ sdk.enrollmentDigest ownerId request.operationId
  let existing ← getEnrollment enrollmentId
  match existing with
  | some row => do
      Tx.refuseIf (row.requestJson.filter (fun field => field.1 ≠ "_target_revision") ≠
          request.document)
        (.voiceprintConflict "operation id reused with different request")
      return row
  | none => do
      let original ← profileOfPerson ownerId request.personId
      Tx.refuseIf (request.profileId.any (fun profileId => !profileId.isEmpty &&
          original.all (fun row => row.profileId ≠ profileId)) = true)
        (.voiceprintConflict "profile is not this person's current voice")
      let row : VoiceEnrollmentRow :=
        { enrollmentId := enrollmentId
          ownerId := ownerId
          personId := request.personId
          profileId := (original.map (fun row => row.profileId)).getD
            ("sp_" ++ (env.uuid 0).hex)
          requestJson := request.document.set "_target_revision"
            (.int ((original.map (fun row => row.revision)).getD 0))
          samplesJson := []
          state := "collecting"
          expiresAt := env.now + 1800000000 }
      insertEnrollment row
      return row

/-- `_enrollment_owned`. -/
def ownedEnrollment (ownerId enrollmentId : String) : Session VoiceEnrollmentRow := do
  let _ ← requireActiveOwner ownerId
  let stored ← getEnrollment enrollmentId
  Tx.require (stored.filter (fun row => row.ownerId = ownerId))
    (.lookupError "enrollment not found")

/-- `_collecting`. -/
def checkCollecting (env : Env) (row : VoiceEnrollmentRow) : Session Unit :=
  Tx.refuseIf (row.state ≠ "collecting" ∨ row.expiresAt < env.now)
    (.voiceprintConflict "enrollment is not collecting or has expired")

/-- `_compatible`. -/
def ExtractedSample.isCompatible (sample other : ExtractedSample) : Bool :=
  sample.modelId = other.modelId && sample.weightsHash = other.weightsHash &&
    sample.preprocessingVersion = other.preprocessingVersion &&
    sample.vector.length = other.vector.length

/-- `Voiceprints.enrollment`, which expires what it finds abandoned. -/
def readEnrollment (env : Env) (ownerId enrollmentId : String) : Session VoiceEnrollmentRow := do
  let row ← ownedEnrollment ownerId enrollmentId
  if row.state = "collecting" ∧ row.expiresAt < env.now then
    updateEnrollmentRow enrollmentId (fun row =>
      { row with state := "expired", samplesJson := [] })
    return { row with state := "expired", samplesJson := [] }
  else
    return row

/-- `Voiceprints.cancel`. -/
def cancelEnrollment (ownerId enrollmentId : String) : Session VoiceEnrollmentRow := do
  let row ← ownedEnrollment ownerId enrollmentId
  if row.state = "ready" then
    return row
  else
    updateEnrollmentRow enrollmentId (fun row =>
      { row with state := "cancelled", samplesJson := [] })
    return { row with state := "cancelled", samplesJson := [] }

/-- The stored samples of an enrollment, validated. -/
def storedSamples (sdk : Sdk) (row : VoiceEnrollmentRow) :
    Except String (List (String × ExtractedSample)) :=
  row.samplesJson.mapM (fun (sampleId, document) => do
    let sample ← sdk.validateExtractedSample document
    return (sampleId, sample))

/-- `Voiceprints.add_sample`. -/
def addSample (sdk : Sdk) (env : Env) (ownerId enrollmentId sampleId : String)
    (sample : ExtractedSample) : Session VoiceEnrollmentRow := do
  let row ← ownedEnrollment ownerId enrollmentId
  checkCollecting env row
  match row.samplesJson.get? sampleId with
  | some stored => do
      Tx.refuseIf (stored ≠ .obj sample.document)
        (.voiceprintConflict "sample id reused with different audio")
      return row
  | none => do
      Tx.refuseIf (3 ≤ row.samplesJson.length)
        (.voiceprintConflict "three registration samples already received")
      let others ← validated (storedSamples sdk row)
      Tx.refuseIf (others.all (fun other => other.2.isCompatible sample) = false)
        (.voiceprintConflict "incompatible embedding model")
      let samples := row.samplesJson.set sampleId (.obj sample.document)
      updateEnrollmentRow enrollmentId (fun row => { row with samplesJson := samples })
      return { row with samplesJson := samples }

/-- The samples of an enrollment as `complete` checks them. -/
def checkSamples (sdk : Sdk) (row : VoiceEnrollmentRow) (evaluation : EnrollmentEvaluation) :
    Session Unit := do
  let samples ← validated (storedSamples sdk row)
  Tx.refuseIf (samples.length ≠ 3)
    (.voiceprintConflict "three registration samples are required")
  Tx.refuseIf (sdk.enrollmentEvidenceDigest samples ≠ evaluation.evidenceDigest)
    (.voiceprintConflict "registration evidence changed; evaluate again")
  Tx.refuseIf (samples.all (fun sample => sample.2.isCompatible evaluation.template &&
      sample.2.isCompatible evaluation.trial) = false)
    (.voiceprintConflict "incompatible embedding model")

/-- The profile an enrollment leads to, stored or new. -/
def storeEnrolled (row : VoiceEnrollmentRow) (stored : Option SpeakerProfileRow)
    (displayName : String) (template : ExtractedSample) : Session SpeakerProfileRow := do
  let enrolled (profile : SpeakerProfileRow) : SpeakerProfileRow :=
    { profile with
      displayName := displayName
      templateJson := template.document
      revision := profile.revision + 1
      enrollmentId := some row.enrollmentId
      origin := .enrollment
      sourceObservationId := none }
  match stored with
  | some profile => do
      Tx.modify (fun t => t.mapPeople (fun p =>
        { p with speakerProfiles := p.speakerProfiles.modify row.profileId enrolled }))
      return enrolled profile
  | none => do
      let profile := enrolled
        { profileId := row.profileId
          ownerId := row.ownerId
          personId := row.personId
          displayName := displayName
          revision := 0 }
      insertProfile profile
      return profile

/-- The recording of a profile, replaced or added. -/
def storeRecording (profileId : String) (pcm : List UInt8) : Session Unit :=
  Tx.modify (fun t => t.mapPeople (fun p =>
    { p with
      speakerRecordings :=
        if p.speakerRecordings.has profileId then
          p.speakerRecordings.modify profileId (fun row => { row with pcm := pcm })
        else p.speakerRecordings.insert { profileId := profileId, pcm := pcm } }))

/-- The evidence of the enrollments a profile had before is erased, and this one
is closed with its own. -/
def closeEnrollments (row : VoiceEnrollmentRow) (evaluation : EnrollmentEvaluation) :
    Session Unit := do
  Tx.modify (fun t => t.mapPeople (fun p =>
    { p with
      voiceEnrollments := p.voiceEnrollments.update (fun other =>
        if other.profileId = row.profileId ∧ other.enrollmentId ≠ row.enrollmentId ∧
            other.state = "ready" then { other with samplesJson := [] }
        else other) (by intro other; split <;> rfl) }))
  updateEnrollmentRow row.enrollmentId (fun row =>
    { row with
      state := "ready"
      samplesJson :=
        [("registration", .obj row.samplesJson), ("evaluation", .obj evaluation.document)] })

/-- `Voiceprints.complete`. -/
def completeEnrollment (sdk : Sdk) (env : Env) (ownerId enrollmentId : String)
    (request : EnrollmentCompletion) : Session SpeakerProfileRow := do
  let evaluation := request.evaluation
  let pcm ← Tx.require (sdk.decodeBase64 request.pcmBase64)
    (.voiceprintConflict "invalid reference recording")
  Tx.refuseIf (pcm.length % 2 ≠ 0 ∨ ¬ (48000 ≤ pcm.length ∧ pcm.length ≤ 960000))
    (.voiceprintConflict "reference recording must be 1.5–30 seconds mono PCM16")
  Tx.refuseIf (sdk.sha256 pcm ≠ evaluation.recordingSha256)
    (.voiceprintConflict "evaluation does not match reference recording")
  let row ← ownedEnrollment ownerId enrollmentId
  if row.state = "ready" then
    let stored ← getProfile row.profileId
    let current ← Tx.require (stored.filter (fun profile => profile.ownerId = ownerId))
      (.lookupError "speaker not found for owner")
    Tx.refuseIf (current.enrollmentId ≠ some enrollmentId)
      (.voiceprintConflict "enrollment was replaced; refresh profiles")
    return current
  else
    checkCollecting env row
    let _ ← requireVoicePerson ownerId row.personId
    checkSamples sdk row evaluation
    let stored ← getProfile row.profileId
    let current ← profileOfPerson ownerId row.personId
    let target ← Tx.require (row.requestJson.get? "_target_revision")
      (.keyError "_target_revision")
    Tx.refuseIf (current.any (fun profile => profile.profileId ≠ row.profileId) = true ∨
        Json.int ((stored.map (fun profile => profile.revision)).getD 0) ≠ target)
      (.voiceprintConflict "profile changed while recording; refresh and start again")
    let displayName ← Tx.require ((row.requestJson.get? "display_name").bind Json.asString?)
      (.keyError "display_name")
    let profile ← storeEnrolled row stored displayName evaluation.template
    storeRecording profile.profileId pcm
    closeEnrollments row evaluation
    auditVoiceprint env ownerId profile.profileId "voice_speaker.enrolled"
    return profile

end Profiles

/-- The voiceprint commands on one Owner, and the maintenance of all. -/
inductive VoiceprintCommand where
  | retainExpiredCandidates
  | discoverCandidate (request : CandidateDiscovery)
  | recordCandidateEvidence (request : CandidateEvidence)
  | createEnrollment (request : EnrollmentCreate)
  | readEnrollment (enrollmentId : String)
  | cancelEnrollment (enrollmentId : String)
  | addSample (enrollmentId sampleId : String) (sample : ExtractedSample)
  | completeEnrollment (enrollmentId : String) (request : EnrollmentCompletion)
  | deleteProfile (profileId : String)
  | expireEnrollments
  deriving DecidableEq, Repr

def VoiceprintCommand.session (sdk : Sdk) (env : Env) (policies : VoicePolicies)
    (ownerId : String) : VoiceprintCommand → Session Unit
  | retainExpiredCandidates => EidolonData.retainExpiredCandidates env policies ownerId
  | discoverCandidate request =>
      effect (EidolonData.discoverCandidate sdk env policies ownerId request)
  | recordCandidateEvidence request =>
      effect (EidolonData.recordCandidateEvidence sdk env policies ownerId request)
  | createEnrollment request => effect (EidolonData.createEnrollment sdk env ownerId request)
  | readEnrollment enrollmentId => effect (EidolonData.readEnrollment env ownerId enrollmentId)
  | cancelEnrollment enrollmentId => effect (EidolonData.cancelEnrollment ownerId enrollmentId)
  | addSample enrollmentId sampleId sample =>
      effect (EidolonData.addSample sdk env ownerId enrollmentId sampleId sample)
  | completeEnrollment enrollmentId request =>
      effect (EidolonData.completeEnrollment sdk env ownerId enrollmentId request)
  | deleteProfile profileId => EidolonData.deleteProfile env ownerId profileId
  | expireEnrollments => EidolonData.expireEnrollments env

end EidolonData
