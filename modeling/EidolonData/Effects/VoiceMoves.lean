import EidolonData.Effects.Enrollments
import EidolonData.Effects.PersonFiles
import EidolonData.Effects.VoiceFrames

/-!
# The discovery of a candidate and the evidence for it

The two commands that store observations, with what each has checked and what
it leaves.
-/

namespace EidolonData

open Relational

section Discovery

variable (sdk : Sdk) (env : Env) (policies : VoicePolicies) (ownerId : String)

def discoveredObservation (request : CandidateDiscovery) (personId : String) :
    CandidateVoiceObservationRow :=
  { observationId := (env.uuid 3).hex
    ownerId := ownerId
    personId := personId
    sessionId := request.observation.sessionId
    turnId := request.observation.turnId
    audioSha256 := request.audioSha256
    profileId := "sp_" ++ (env.uuid 4).hex
    profileRevision := 1
    requestDigest := sdk.discoveryDigest request
    observationJson := request.observation }

def discoveredProfile (request : CandidateDiscovery) (personId displayName : String) :
    SpeakerProfileRow :=
  { profileId := "sp_" ++ (env.uuid 4).hex
    ownerId := ownerId
    personId := personId
    displayName := displayName
    revision := 1
    enrollmentId := none
    origin := .observation
    sourceObservationId := some (env.uuid 3).hex
    templateJson := request.sample.document }

def Tables.Unturned (t : Tables) (ownerId : String) (value : SpeakerObservation) : Prop :=
  ∀ row ∈ t.people.candidateVoiceObservations.rows, row.ownerId = ownerId →
    row.sessionId = value.sessionId → row.turnId ≠ value.turnId

structure Discovered (request : CandidateDiscovery) (personId : String) (t t' : Tables) :
    Prop where
  unturned : t.Unturned ownerId request.observation
  unheard : t.Unheard ownerId request.audioSha256 request.observation
  capacity : (t.people.pool ownerId env.now policies.candidatePoolTtl).length <
    sdk.maxCandidatePersons
  absent : t.file personId = .absent
  filed : ∃ draft person realm, draft.personId = personId ∧ draft.maturity = .candidate ∧
    PersonInserted sdk env ownerId draft person realm ∧
      t.Refiles t' personId (.bound person realm none)
  unobserved : t.people.candidateVoiceObservations.get? (env.uuid 3).hex = none
  unprofiled : t.people.speakerProfiles.get? ("sp_" ++ (env.uuid 4).hex) = none
  voices : ∃ displayName, t'.voices = { t.voices with
    observations := t.people.candidateVoiceObservations.insert
      (discoveredObservation sdk env ownerId request personId)
    profiles := t.people.speakerProfiles.insert
      (discoveredProfile env ownerId request personId displayName) }

theorem unturned_of_empty (t : Tables) {value : SpeakerObservation}
    (none : t.people.candidateVoiceObservations.select (fun row =>
      row.ownerId = ownerId && row.sessionId = value.sessionId && row.turnId = value.turnId) = []) :
    t.Unturned ownerId value := by
  intro row member owned session turn
  have selected : row ∈ t.people.candidateVoiceObservations.select (fun row =>
      row.ownerId = ownerId && row.sessionId = value.sessionId && row.turnId = value.turnId) :=
    List.mem_filter.mpr ⟨member, by simp [owned, session, turn]⟩
  rw [none] at selected
  cases selected

structure Tables.Turned (t : Tables) (ownerId : String) (value : SpeakerObservation)
    (row : CandidateVoiceObservationRow) : Prop where
  stored : row ∈ t.people.candidateVoiceObservations.rows
  ownerId : row.ownerId = ownerId
  sessionId : row.sessionId = value.sessionId
  turnId : row.turnId = value.turnId

theorem turned_of_selected (t : Tables) {value : SpeakerObservation}
    {row : CandidateVoiceObservationRow}
    (selected : row ∈ t.people.candidateVoiceObservations.select (fun row =>
      row.ownerId = ownerId && row.sessionId = value.sessionId && row.turnId = value.turnId)) :
    t.Turned ownerId value row := by
  obtain ⟨stored, wanted⟩ := Table.mem_select.mp selected
  simp only [Bool.and_eq_true, decide_eq_true_eq] at wanted
  exact ⟨Table.mem_of_get? stored, wanted.1.1, wanted.1.2, wanted.2⟩

theorem discoverCandidate_effect (t : Tables) (filed : t.Filed) (request : CandidateDiscovery) :
    (discoverCandidate sdk env policies ownerId request).Ensures t (fun _ t' =>
      (t' = t ∧ ∃ row, t.Turned ownerId request.observation row ∧
        row.requestDigest = sdk.discoveryDigest request) ∨
      Discovered sdk env policies ownerId request
        (sdk.discoveryPersonId ownerId request.observation.sessionId request.observation.turnId)
        t t') := by
  simp only [discoverCandidate, selectObservations, Tx.ensures_bind, Tx.ensures_require,
    Tx.ensures_refuseIf]
  intro policy _ _
  refine (requireActiveOwner_effect t ownerId).mono ?_
  rintro owner t₁ ⟨unchanged, -, -, rfl⟩
  rw [unchanged, Tx.ensures_read]
  split
  · next prior earlier selected =>
    simp only [Tx.ensures_bind, Tx.ensures_refuseIf]
    intro same
    refine (requireVoicePerson_effect t _ _).mono ?_
    rintro person t₂ ⟨unchanged, -⟩
    rw [unchanged]
    simp only [getProfile, Tx.ensures_read, Tx.pure_eq, Tx.ensures_done]
    intro _
    have turned : t.Turned owner.ownerId request.observation prior := by
      refine turned_of_selected owner.ownerId t ?_
      rw [selected]
      exact List.mem_cons_self
    exact Or.inl ⟨trivial, prior, turned, not_not.mp same⟩
  · next unturned =>
    simp only [discoverNew, selectObservations, getPerson, getPersonDeletion, Tx.ensures_bind,
      Tx.ensures_refuseIf]
    intro _
    refine (recognitionSnapshot_readOnly sdk env t policies _).mono ?_
    rintro ⟨revision, persons⟩ t₂ unchanged
    rw [unchanged]
    simp only [Tx.ensures_read, Tx.ensures_mapError, not_not]
    intro _ _ _ audio apart free _
    refine (candidateCapacity_effect sdk env t _ _).mono ?_
    rintro _ t₃ ⟨unchanged, capacity⟩
    rw [unchanged]
    rw [not_or, Bool.not_eq_true, Bool.not_eq_true, Option.isSome_eq_false_iff,
      Option.isSome_eq_false_iff, Option.isNone_iff_eq_none, Option.isNone_iff_eq_none] at free
    have absent := file_absent t filed free.1 free.2
    simp only [insertDiscovered, insertObservation, insertProfile, Tx.ensures_bind, Tx.pure_eq,
      Tx.ensures_done]
    refine ((insertNewPerson_inserted sdk env t owner _ absent).and
      ((insertNewPerson_voices sdk env owner _).ensures t)).mono ?_
    rintro person t₄ ⟨⟨realm, inserted, refiles⟩, sameVoices⟩
    rw [ensures_insert]
    intro unobserved
    rw [ensures_insert]
    intro unprofiled
    have observations : t₄.people.candidateVoiceObservations =
        t.people.candidateVoiceObservations := congrArg Voices.observations sameVoices
    have profiles : t₄.people.speakerProfiles = t.people.speakerProfiles :=
      congrArg Voices.profiles sameVoices
    rw [observations] at unobserved
    refine Or.inr
      { unturned := unturned_of_empty _ t unturned
        unheard := unheard_of_empty t _ audio apart
        capacity := capacity
        absent := absent
        filed := ⟨_, person, realm, rfl, rfl, inserted, ?_⟩
        unobserved := unobserved
        unprofiled := ?_
        voices := ⟨person.displayName, ?_⟩ }
    · exact fun other => (file_of_tables rfl rfl rfl).trans (refiles other)
    · rw [← profiles]
      exact unprofiled
    · show Voices.mk _ _ _ _ _ = _
      simp only [Tables.mapPeople, observations, profiles]
      rw [← sameVoices]
      rfl

theorem discoverCandidate_moves (t : Tables) (filed : t.Filed) (request : CandidateDiscovery) :
    (discoverCandidate sdk env policies ownerId request).Ensures t (fun _ t' => t.Moves sdk env
      (.runVoiceprint policies ownerId (.discoverCandidate request)) t') := by
  refine (discoverCandidate_effect sdk env policies ownerId t filed request).mono ?_
  rintro _ t' (⟨unchanged, -⟩ | discovered)
  · rw [unchanged]
    exact .refl
  · obtain ⟨draft, person, realm, named, candidate, inserted, refiles⟩ := discovered.filed
    exact refiles.moves discovered.absent (.discovered inserted named candidate)

end Discovery

section Evidence

variable (sdk : Sdk) (env : Env) (policies : VoicePolicies) (ownerId : String)

def evidenceObservation (request : CandidateEvidence) (person : PersonRow)
    (candidate : SpeakerCandidate) : CandidateVoiceObservationRow :=
  { observationId := (env.uuid 1).hex
    ownerId := ownerId
    personId := person.personId
    sessionId := request.observation.sessionId
    turnId := request.observation.turnId
    audioSha256 := request.audioSha256
    profileId := candidate.profileId
    profileRevision := candidate.profileRevision
    requestDigest := sdk.evidenceDigest request
    observationJson := request.observation }

def People.observationsOf (p : People) (ownerId personId : String) :
    List CandidateVoiceObservationRow :=
  p.candidateVoiceObservations.select (fun row =>
    row.ownerId = ownerId && row.personId = personId)

structure EvidenceRecorded (request : CandidateEvidence) (person : PersonRow)
    (candidate : SpeakerCandidate) (t t' : Tables) : Prop where
  personStored : t.people.persons.get? person.personId = some person
  named : person.personId = request.observation.personId.getD ""
  owned : person.ownerId = ownerId
  unturned : t.Unturned ownerId request.observation
  checked : EvidenceChecked env policies ownerId t person
    (t.people.observationsOf ownerId person.personId) request candidate
  unobserved : t.people.candidateVoiceObservations.get? (env.uuid 1).hex = none
  voices : t'.voices = { t.voices with
    observations := t.people.candidateVoiceObservations.insert
      (evidenceObservation sdk env ownerId request person candidate) }
  moves : t.Moves sdk env (.runVoiceprint policies ownerId (.recordCandidateEvidence request)) t'
  others : ∀ other, other ≠ person.personId → t'.file other = t.file other
  granted : ∀ after, t'.people.persons.get? person.personId = some after →
    after.maturity = .established →
      policies.Grants env.now (t.people.observationsOf ownerId person.personId) request.observation

theorem recordCandidateEvidence_effect (t : Tables) (filed : t.Filed)
    (request : CandidateEvidence) :
    (recordCandidateEvidence sdk env policies ownerId request).Ensures t (fun receipt t' =>
      (t' = t ∧ receipt.accepted = false) ∨ ∃ person candidate, receipt.accepted = true ∧
        EvidenceRecorded sdk env policies ownerId request person candidate t t') := by
  simp only [recordCandidateEvidence, selectObservations, Tx.ensures_bind, Tx.ensures_refuseIf]
  intro _
  refine (requireVoicePerson_effect t ownerId _).mono ?_
  rintro person t₁ ⟨unchanged, stored, owned, active, -⟩
  rw [unchanged]
  have named : person.personId = request.observation.personId.getD "" := Table.key_of_get? stored
  rw [← named] at stored
  simp only [Tx.ensures_read]
  rw [not_or, not_not, Bool.not_eq_true]
  rintro ⟨alive, recognised⟩
  split
  · simp only [Tx.ensures_bind, Tx.ensures_refuseIf, Tx.pure_eq, Tx.ensures_done]
    intro _
    exact Or.inl ⟨trivial, trivial⟩
  · next unturned =>
    simp only [Tx.ensures_bind]
    refine (checkEvidence_checked sdk env t policies ownerId person _ request stored).mono ?_
    rintro candidate t₂ ⟨unchanged, checked⟩
    rw [unchanged]
    obtain ⟨realm, held, realmOwned, -⟩ := (filed person.personId).of_person stored
    obtain ⟨profile, shown⟩ := checked.shown
    have pooled : person.isPooled env.now policies.candidatePoolTtl = true := by
      have recognizable := shown.recognizable
      simp only [PersonRow.isRecognizable, checked.maturity] at recognizable
      simpa [PersonRow.isPooled, checked.maturity] using recognizable
    simp only [insertObservation, ensures_insert, ensures_addFact, Tx.pure_eq, Tx.ensures_done]
    intro unobserved
    let observed (fact : AuditFact) : Tables :=
      (t.mapPeople (fun p => { p with
        candidateVoiceObservations := p.candidateVoiceObservations.insert
          (evidenceObservation sdk env ownerId request person candidate) })).addFact env.now fact
    have aside : ∀ fact other, (observed fact).file other = t.file other :=
      fun _ _ => file_of_tables rfl rfl rfl
    refine ((promoteCandidate_file sdk env (observed _) policies request ((aside _ _).trans held)
      owned (realmOwned.trans owned) pooled rfl _ _).and
        ((promoteCandidate_voices sdk env policies _ _ _).ensures _)).mono ?_
    rintro updated t' ⟨⟨file, refiles, moved, granted⟩, sameVoices⟩
    have written : t.Refiles t' person.personId file := by
      intro other
      rw [refiles, aside]
    refine Or.inr ⟨person, candidate, trivial,
      { personStored := stored
        named := named
        owned := owned
        unturned := unturned_of_empty ownerId t unturned
        checked := checked
        unobserved := unobserved
        voices := sameVoices
        moves := written.moves held moved
        others := ?_
        granted := ?_ }⟩
    · intro other different
      rw [written, if_neg different]
    · intro after stored established
      have final : file.person = some after := by
        rw [← stored, ← written.self]
        rfl
      rcases granted with noted | grants
      · rw [final] at noted
        cases noted
        rw [checked.maturity] at established
        cases established
      · exact grants

theorem recordCandidateEvidence_moves (t : Tables) (filed : t.Filed)
    (request : CandidateEvidence) :
    (recordCandidateEvidence sdk env policies ownerId request).Ensures t (fun _ t' =>
      t.Moves sdk env (.runVoiceprint policies ownerId (.recordCandidateEvidence request)) t') := by
  refine (recordCandidateEvidence_effect sdk env policies ownerId t filed request).mono ?_
  rintro _ t' (⟨unchanged, -⟩ | ⟨person, candidate, -, recorded⟩)
  · rw [unchanged]
    exact .refl
  · exact recorded.moves

end Evidence

end EidolonData
