import EidolonData.Effects.Voiceprints

/-!
# What the voice evidence is checked against

A recognition snapshot shows the stored profiles of the Persons that may be
recognised, and new evidence is admitted only for one of them, from audio and
an interval that no stored observation has.
-/

namespace EidolonData

open Relational

section Snapshot

variable (sdk : Sdk) (env : Env) (t : Tables) (policies : VoicePolicies)

structure SpeakerCandidate.Shows (candidate : SpeakerCandidate) (t : Tables) (ownerId : String)
    (now ttl : Timestamp) (person : PersonRow) (profile : SpeakerProfileRow) : Prop where
  personStored : t.people.persons.get? candidate.personId = some person
  owned : person.ownerId = ownerId
  recognizable : person.isRecognizable now ttl = true
  profileStored : t.people.speakerProfiles.get? candidate.profileId = some profile
  profilePerson : profile.personId = candidate.personId
  profileOwner : profile.ownerId = ownerId
  revision : candidate.profileRevision = profile.revision

theorem People.mem_recognizable {p : People} {ownerId : String} {now ttl : Timestamp}
    {person : PersonRow} {profile : SpeakerProfileRow} :
    (person, profile) ∈ p.recognizable ownerId now ttl ↔
      (p.persons.get? person.personId = some person ∧ person.ownerId = ownerId ∧
        person.isRecognizable now ttl = true) ∧
      p.speakerProfiles.get? profile.profileId = some profile ∧
        profile.personId = person.personId ∧ profile.ownerId = person.ownerId := by
  have persons : ∀ person : PersonRow, person ∈ p.persons.select (fun person =>
      person.ownerId = ownerId && person.isRecognizable now ttl) ↔
        p.persons.get? person.personId = some person ∧ person.ownerId = ownerId ∧
          person.isRecognizable now ttl = true := by
    intro person
    rw [Table.mem_select, Bool.and_eq_true, decide_eq_true_eq]
    rfl
  have profiles : ∀ (person : PersonRow) (profile : SpeakerProfileRow),
      profile ∈ p.speakerProfiles.select (fun profile =>
          profile.personId = person.personId && profile.ownerId = person.ownerId) ↔
        p.speakerProfiles.get? profile.profileId = some profile ∧
          profile.personId = person.personId ∧ profile.ownerId = person.ownerId := by
    intro person profile
    rw [Table.mem_select, Bool.and_eq_true, decide_eq_true_eq, decide_eq_true_eq]
    rfl
  simp only [People.recognizable, List.mem_flatMap, mem_orderBy, persons, List.mem_map, profiles,
    Prod.mk.injEq]
  constructor
  · rintro ⟨_, recognized, _, stored, rfl, rfl⟩
    exact ⟨recognized, stored⟩
  · rintro ⟨recognized, stored⟩
    exact ⟨person, recognized, profile, stored, rfl, rfl⟩

theorem recognitionSnapshot_shows (ownerId : String) :
    (recognitionSnapshot sdk env policies ownerId).Ensures t (fun snapshot t' => t' = t ∧
      ∀ candidate ∈ snapshot.2, ∃ person profile,
        candidate.Shows t ownerId env.now policies.candidatePoolTtl person profile) := by
  simp only [recognitionSnapshot, Tx.ensures_bind, Tx.ensures_read, Tx.ensures_refuseIf,
    ensures_validated, Tx.pure_eq, Tx.ensures_done]
  intro _ candidates loaded
  refine ⟨trivial, ?_⟩
  intro candidate member
  obtain ⟨⟨person, profile⟩, among, made⟩ := Tx.mem_of_mapM_ok loaded member
  obtain ⟨⟨stored, owned, recognized⟩, profileStored, ofPerson, ofOwner⟩ :=
    People.mem_recognizable.mp (List.mem_of_mem_take among)
  simp only [speakerCandidate, Tx.checks_bind_iff] at made
  obtain ⟨supplied, -, sample, -, made⟩ := made
  cases made
  exact ⟨person, profile,
    { personStored := stored
      owned := owned
      recognizable := recognized
      profileStored := profileStored
      profilePerson := ofPerson
      profileOwner := ofOwner.trans owned
      revision := rfl }⟩

end Snapshot

section Checks

variable (sdk : Sdk) (env : Env) (t : Tables) (policies : VoicePolicies) (ownerId : String)

structure Tables.Unheard (t : Tables) (ownerId audioSha256 : String) (value : SpeakerObservation) :
    Prop where
  audio : ∀ row ∈ t.people.candidateVoiceObservations.rows, row.ownerId = ownerId →
    row.audioSha256 ≠ audioSha256
  apart : ∀ row ∈ t.people.candidateVoiceObservations.rows, row.ownerId = ownerId →
    row.sessionId = value.sessionId → value.source.overlaps row.observationJson.source = false

structure EvidenceChecked (t : Tables) (person : PersonRow)
    (rows : List CandidateVoiceObservationRow) (request : CandidateEvidence)
    (candidate : SpeakerCandidate) : Prop where
  maturity : person.maturity = .candidate
  revision : some person.revision = request.observation.personRevision
  shown : ∃ profile,
    candidate.Shows t ownerId env.now policies.candidatePoolTtl person profile
  profile : some candidate.profileId = request.observation.profileId
  profileRevision : some candidate.profileRevision = request.observation.profileRevision
  unheard : t.Unheard ownerId request.audioSha256 request.observation

def VoicePolicies.Grants (policies : VoicePolicies) (now : Timestamp)
    (rows : List CandidateVoiceObservationRow) (latest : SpeakerObservation) : Prop :=
  ∃ policy observations, policies.promotion = some policy ∧
    policy.evidence now rows latest = some observations

theorem unheard_of_empty {audioSha256 : String} {value : SpeakerObservation}
    (audio : t.people.candidateVoiceObservations.select (fun row =>
      row.ownerId = ownerId && row.audioSha256 = audioSha256) = [])
    (apart : ¬ (t.people.candidateVoiceObservations.select (fun row =>
      row.ownerId = ownerId && row.sessionId = value.sessionId)).any (fun row =>
        value.source.overlaps row.observationJson.source) = true) :
    t.Unheard ownerId audioSha256 value := by
  constructor
  · intro row member owned same
    have selected : row ∈ t.people.candidateVoiceObservations.select (fun row =>
        row.ownerId = ownerId && row.audioSha256 = audioSha256) :=
      List.mem_filter.mpr ⟨member, by simp [owned, same]⟩
    rw [audio] at selected
    cases selected
  · intro row member owned session
    by_contra shared
    rw [Bool.not_eq_false] at shared
    exact apart (List.any_eq_true.mpr
      ⟨row, List.mem_filter.mpr ⟨member, by simp [owned, session]⟩, shared⟩)

theorem checkEvidence_checked (person : PersonRow) (rows : List CandidateVoiceObservationRow)
    (request : CandidateEvidence) {personId : String}
    (stored : t.people.persons.get? personId = some person) :
    (checkEvidence sdk env policies ownerId person rows request).Ensures t (fun candidate t' =>
      t' = t ∧ EvidenceChecked env policies ownerId t person rows request candidate) := by
  have named : person.personId = personId := Table.key_of_get? stored
  simp only [checkEvidence, selectObservations, Tx.ensures_bind, Tx.ensures_refuseIf, not_not]
  intro maturity _
  refine (recognitionSnapshot_shows sdk env t policies ownerId).mono ?_
  rintro ⟨revision, persons⟩ t₁ ⟨unchanged, shows⟩
  rw [unchanged]
  simp only [Tx.ensures_require, Tx.ensures_read, Tx.pure_eq, Tx.ensures_done]
  intro current candidate found audio apart _
  obtain ⟨first, matching⟩ := Option.filter_eq_some_iff.mp found
  have ofPerson : candidate.personId = person.personId := by
    simpa using List.find?_some first
  obtain ⟨shownPerson, profile, shown⟩ := shows candidate (List.mem_of_find?_eq_some first)
  have same : shownPerson = person := by
    have again := shown.personStored
    rw [ofPerson, named, stored] at again
    exact (Option.some.inj again).symm
  subst same
  simp only [Bool.and_eq_true, decide_eq_true_eq] at matching
  rw [not_or, not_not, not_not] at current
  exact ⟨trivial,
    { maturity := maturity
      revision := current.2
      shown := ⟨profile, shown⟩
      profile := matching.1.1.1.1
      profileRevision := matching.1.1.1.2
      unheard := unheard_of_empty t ownerId audio apart }⟩

end Checks

end EidolonData
