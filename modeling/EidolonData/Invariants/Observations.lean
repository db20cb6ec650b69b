import EidolonData.Effects.PeopleRuns

/-!
# The stored observations

An observation is stored by the discovery of its Person or by evidence for
it, apart from all the others of its Owner, and goes with its Person only.
-/

namespace EidolonData

open Relational

section Sources

variable {sdk : Sdk} {env : Env} {t t' : Tables} {command : Command}

inductive ObservationAdded (sdk : Sdk) (env : Env) (t : Tables)
    (row : CandidateVoiceObservationRow) : Command → Prop where
  | discovered {policies : VoicePolicies} {ownerId : String} {request : CandidateDiscovery}
      (unturned : t.Unturned ownerId request.observation)
      (unheard : t.Unheard ownerId request.audioSha256 request.observation)
      (absent : t.file (sdk.discoveryPersonId ownerId request.observation.sessionId
        request.observation.turnId) = .absent)
      (added : row = discoveredObservation sdk env ownerId request (sdk.discoveryPersonId ownerId
        request.observation.sessionId request.observation.turnId)) :
      ObservationAdded sdk env t row
        (.runVoiceprint policies ownerId (.discoverCandidate request))
  | recorded {policies : VoicePolicies} {ownerId : String} {request : CandidateEvidence}
      {person : PersonRow} {candidate : SpeakerCandidate}
      (named : person.personId = request.observation.personId.getD "")
      (unturned : t.Unturned ownerId request.observation)
      (checked : EvidenceChecked env policies ownerId t person
        (t.people.observationsOf ownerId person.personId) request candidate)
      (added : row = evidenceObservation sdk env ownerId request person candidate) :
      ObservationAdded sdk env t row
        (.runVoiceprint policies ownerId (.recordCandidateEvidence request))

theorem ObservationAdded.unturned {row other : CandidateVoiceObservationRow}
    (added : ObservationAdded sdk env t row command)
    (member : other ∈ t.people.candidateVoiceObservations.rows)
    (sameOwner : other.ownerId = row.ownerId) (sameSession : other.sessionId = row.sessionId) :
    other.turnId ≠ row.turnId ∧
      row.observationJson.source.overlaps other.observationJson.source = false := by
  cases added with
  | discovered unturned unheard _ added =>
      subst added
      exact ⟨unturned other member sameOwner sameSession,
        unheard.apart other member sameOwner sameSession⟩
  | recorded _ unturned checked added =>
      subst added
      exact ⟨unturned other member sameOwner sameSession,
        checked.unheard.apart other member sameOwner sameSession⟩

theorem VoicesMoved.observations (moved : VoicesMoved sdk env t t' command) :
    (∀ row ∈ t'.people.candidateVoiceObservations.rows,
      row ∈ t.people.candidateVoiceObservations.rows) ∨
    ∃ row, t.people.candidateVoiceObservations.get? row.observationId = none ∧
      ObservationAdded sdk env t row command ∧
        t'.people.candidateVoiceObservations = t.people.candidateVoiceObservations.insert row := by
  have same : ∀ {voices : Voices}, t'.voices = voices →
      t'.people.candidateVoiceObservations = voices.observations := congrArg Voices.observations
  cases moved with
  | kept _ voices | erased voices | faced _ voices =>
      refine Or.inl (fun row member => ?_)
      rw [same voices] at member
      exact member
  | made aside =>
      refine Or.inl (fun row member => ?_)
      rw [aside.observations] at member
      exact member
  | discovered discovered =>
      obtain ⟨displayName, voices⟩ := discovered.voices
      exact Or.inr ⟨_, discovered.unobserved,
        .discovered discovered.unturned discovered.unheard discovered.absent rfl, same voices⟩
  | recorded recorded =>
      exact Or.inr ⟨_, recorded.unobserved,
        .recorded recorded.named recorded.unturned recorded.checked rfl, same recorded.voices⟩
  | pruned _ pruned =>
      refine Or.inl (fun row member => ?_)
      rw [pruned.observations] at member
      exact (Table.mem_retain.mp member).1

theorem VoicesMoved.observation_stays (moved : VoicesMoved sdk env t t' command)
    {row : CandidateVoiceObservationRow}
    (member : row ∈ t.people.candidateVoiceObservations.rows)
    (personStays : t'.people.persons.has row.personId = true) :
    row ∈ t'.people.candidateVoiceObservations.rows := by
  have same : ∀ {voices : Voices}, t'.voices = voices →
      t'.people.candidateVoiceObservations = voices.observations := congrArg Voices.observations
  cases moved with
  | kept _ voices | erased voices | faced _ voices =>
      rw [same voices]
      exact member
  | made aside =>
      rw [aside.observations]
      exact member
  | discovered discovered =>
      obtain ⟨displayName, voices⟩ := discovered.voices
      rw [same voices]
      exact Table.mem_insert_of_mem _ member
  | recorded recorded =>
      rw [same recorded.voices]
      exact Table.mem_insert_of_mem _ member
  | pruned _ pruned =>
      rw [pruned.observations]
      exact Table.mem_retain.mpr ⟨member, personStays⟩

end Sources

section Observed

variable {sdk : Sdk} {env : Env} {t t' : Tables} {command : Command}

/-- The observation of a discovery, or of evidence. -/
inductive ObservationAccepted (sdk : Sdk) (row : CandidateVoiceObservationRow) : Prop where
  | discovery (request : CandidateDiscovery)
      (digest : row.requestDigest = sdk.discoveryDigest request)
      (audio : row.audioSha256 = request.audioSha256)
      (document : row.observationJson = request.observation)
      (person : row.personId = sdk.discoveryPersonId row.ownerId row.sessionId row.turnId)
  | evidence (request : CandidateEvidence) (digest : row.requestDigest = sdk.evidenceDigest request)
      (audio : row.audioSha256 = request.audioSha256)
      (document : row.observationJson = request.observation)
      (person : row.personId = request.observation.personId.getD "")
      (profile : request.observation.profileId = some row.profileId)
      (profileRevision : request.observation.profileRevision = some row.profileRevision)

/-- The observations are of requests that were accepted, for the turns and the
audio these name, and share no captured interval. -/
structure People.Observed (sdk : Sdk) (p : People) : Prop where
  accepted : ∀ row ∈ p.candidateVoiceObservations.rows, ObservationAccepted sdk row
  session : ∀ row ∈ p.candidateVoiceObservations.rows,
    row.sessionId = row.observationJson.sessionId ∧ row.turnId = row.observationJson.turnId
  apart : ∀ row ∈ p.candidateVoiceObservations.rows,
    ∀ other ∈ p.candidateVoiceObservations.rows, other ≠ row → other.ownerId = row.ownerId →
      other.sessionId = row.sessionId →
        row.observationJson.source.overlaps other.observationJson.source = false

theorem CaptureSource.overlaps_comm (source other : CaptureSource) :
    source.overlaps other = other.overlaps source := by
  rw [Bool.eq_iff_iff]
  simp only [CaptureSource.overlaps, Bool.and_eq_true, decide_eq_true_eq]
  constructor
  · rintro ⟨⟨⟨input, generation⟩, starts⟩, ends⟩
    exact ⟨⟨⟨input.symm, generation.symm⟩, ends⟩, starts⟩
  · rintro ⟨⟨⟨input, generation⟩, starts⟩, ends⟩
    exact ⟨⟨⟨input.symm, generation.symm⟩, ends⟩, starts⟩

theorem ObservationAdded.accepted {row : CandidateVoiceObservationRow}
    (added : ObservationAdded sdk env t row command) :
    ObservationAccepted sdk row ∧ row.sessionId = row.observationJson.sessionId ∧
      row.turnId = row.observationJson.turnId := by
  cases added with
  | @discovered policies ownerId request _ _ _ added =>
      subst added
      exact ⟨.discovery request rfl rfl rfl rfl, rfl, rfl⟩
  | @recorded policies ownerId request person candidate named _ checked added =>
      subst added
      exact ⟨.evidence request rfl rfl rfl named checked.profile.symm
        checked.profileRevision.symm, rfl, rfl⟩

theorem VoicesMoved.observed (moved : VoicesMoved sdk env t t' command)
    (observed : t.people.Observed sdk) : t'.people.Observed sdk := by
  rcases moved.observations with fewer | ⟨added, fresh, adds, rows⟩
  · exact
      { accepted := fun row member => observed.accepted row (fewer row member)
        session := fun row member => observed.session row (fewer row member)
        apart := fun row member other otherMember =>
          observed.apart row (fewer row member) other (fewer other otherMember) }
  · have among : ∀ {row}, row ∈ t'.people.candidateVoiceObservations.rows →
        row = added ∨ row ∈ t.people.candidateVoiceObservations.rows := by
      intro row member
      rw [rows] at member
      exact Table.mem_insert member
    refine { accepted := ?_, session := ?_, apart := ?_ }
    · intro row member
      rcases among member with rfl | before
      · exact adds.accepted.1
      · exact observed.accepted row before
    · intro row member
      rcases among member with rfl | before
      · exact adds.accepted.2
      · exact observed.session row before
    · intro row member other otherMember different sameOwner sameSession
      rcases among member with rfl | before
      · rcases among otherMember with rfl | otherBefore
        · exact absurd rfl different
        · exact (adds.unturned otherBefore sameOwner sameSession).2
      · rcases among otherMember with rfl | otherBefore
        · rw [CaptureSource.overlaps_comm]
          exact (adds.unturned before sameOwner.symm sameSession.symm).2
        · exact observed.apart row before other otherBefore different sameOwner sameSession

theorem observed_empty (sdk : Sdk) : Database.empty.tables.people.Observed sdk := by
  refine { accepted := ?_, session := ?_, apart := ?_ }
  · intro row member
    cases member
  · intro row member
    cases member
  · intro row member
    cases member

end Observed

end EidolonData
