import EidolonData.Results.Promotion
import EidolonData.Invariants.Shared

/-!
# The independence of the observations

No turn, no audio and no captured interval of an Owner is stored twice.  A
request that is made again is answered from what is stored, and another one
for the same turn is refused.
-/

namespace EidolonData

open Relational

section Independent

/-- Captures of one input that share no interval. -/
def CaptureSource.Apart (source other : CaptureSource) : Prop :=
  source.inputId = other.inputId → source.generation = other.generation →
    other.endSample ≤ source.startSample ∨ source.endSample ≤ other.startSample

theorem CaptureSource.apart_of_overlaps {source other : CaptureSource}
    (apart : source.overlaps other = false) : source.Apart other := by
  intro input generation
  by_contra shared
  rw [not_or, not_le, not_le] at shared
  simp [CaptureSource.overlaps, input, generation, shared.1, shared.2] at apart

/-- The observations of each Owner are of different turns, of different audio
and of different intervals. -/
structure People.Independent (p : People) : Prop where
  turns : ∀ row ∈ p.candidateVoiceObservations.rows, ∀ other ∈ p.candidateVoiceObservations.rows,
    other ≠ row → other.ownerId = row.ownerId →
      (other.sessionId, other.turnId) ≠ (row.sessionId, row.turnId)
  audio : ∀ row ∈ p.candidateVoiceObservations.rows, ∀ other ∈ p.candidateVoiceObservations.rows,
    other ≠ row → other.ownerId = row.ownerId → other.audioSha256 ≠ row.audioSha256
  intervals : ∀ row ∈ p.candidateVoiceObservations.rows,
    ∀ other ∈ p.candidateVoiceObservations.rows, other ≠ row → other.ownerId = row.ownerId →
      other.sessionId = row.sessionId →
        row.observationJson.source.Apart other.observationJson.source

theorem independent_of_sound {sdk : Sdk} {t : Tables} (sound : t.PeopleSound sdk)
    (integrity : t.Integrity) : t.people.Independent where
  turns := by
    intro row member other otherMember different sameOwner sameTurn
    rw [Prod.mk.injEq] at sameTurn
    refine different (integrity.people.observationTurns.eq_of_mem otherMember member rfl ?_)
    rw [sameOwner, sameTurn.1, sameTurn.2]
  audio := by
    intro row member other otherMember different sameOwner sameAudio
    refine different (integrity.people.observationAudio.eq_of_mem otherMember member rfl ?_)
    rw [sameOwner, sameAudio]
  intervals := fun row member other otherMember different sameOwner sameSession =>
    CaptureSource.apart_of_overlaps
      (sound.observed.apart row member other otherMember different sameOwner sameSession)

end Independent

section Requests

variable {sdk : Sdk} {t : Tables}

/-- A request that stores an observation. -/
inductive Observing where
  | discovery (request : CandidateDiscovery)
  | evidence (request : CandidateEvidence)
  deriving DecidableEq

namespace Observing

def observation : Observing → SpeakerObservation
  | discovery request => request.observation
  | evidence request => request.observation

def digest (sdk : Sdk) : Observing → String
  | discovery request => sdk.discoveryDigest request
  | evidence request => sdk.evidenceDigest request

def command : Observing → VoiceprintCommand
  | discovery request => .discoverCandidate request
  | evidence request => .recordCandidateEvidence request

end Observing

/-- The observation was stored for this request. -/
structure CandidateVoiceObservationRow.AcceptedFor (sdk : Sdk) (calls : List Call)
    (row : CandidateVoiceObservationRow) (made : Observing) : Prop where
  call : ∃ first call rest policies, calls = first ++ call :: rest ∧
    row.AddedAt sdk first call ∧ call.command = .runVoiceprint policies row.ownerId made.command
  digest : row.requestDigest = made.digest sdk
  document : row.observationJson = made.observation

theorem Tables.Turned.eq_of_integrity {ownerId : String} {value : SpeakerObservation}
    {row other : CandidateVoiceObservationRow} (turned : t.Turned ownerId value row)
    (again : t.Turned ownerId value other) (integrity : t.Integrity) : other = row := by
  refine integrity.people.observationTurns.eq_of_mem again.stored turned.stored rfl ?_
  rw [turned.ownerId, turned.sessionId, turned.turnId, again.ownerId, again.sessionId,
    again.turnId]

theorem Tables.Turned.selected {ownerId : String} {value : SpeakerObservation}
    {row : CandidateVoiceObservationRow} (turned : t.Turned ownerId value row)
    (integrity : t.Integrity) :
    ∃ others, t.people.candidateVoiceObservations.select (fun row => row.ownerId = ownerId &&
      row.sessionId = value.sessionId && row.turnId = value.turnId) = row :: others := by
  have member : row ∈ t.people.candidateVoiceObservations.select (fun row =>
      row.ownerId = ownerId && row.sessionId = value.sessionId && row.turnId = value.turnId) :=
    List.mem_filter.mpr ⟨turned.stored, by
      simp [turned.ownerId, turned.sessionId, turned.turnId]⟩
  cases selected : t.people.candidateVoiceObservations.select (fun row =>
      row.ownerId = ownerId && row.sessionId = value.sessionId && row.turnId = value.turnId) with
  | nil =>
      rw [selected] at member
      cases member
  | cons first others =>
      have firstTurned : t.Turned ownerId value first := by
        refine turned_of_selected ownerId t ?_
        rw [selected]
        exact List.mem_cons_self
      rw [turned.eq_of_integrity firstTurned integrity]
      exact ⟨others, rfl⟩

/-- The Person is one of this Owner that a voice may be recognised as. -/
structure Tables.Accepting (t : Tables) (ownerId : String) (person : PersonRow) : Prop where
  owner : t.workspace.OwnerActive ownerId
  stored : t.people.persons.get? person.personId = some person
  owned : person.ownerId = ownerId
  active : person.status = .active
  alive : person.deleted = false
  recognised : person.recognitionState = .active
  named : person.personId ≠ ""

theorem requireVoicePerson_run {ownerId : String} {person : PersonRow}
    (accepting : t.Accepting ownerId person) :
    (requireVoicePerson ownerId person.personId).run t = .ok (person, t) := by
  obtain ⟨owner, ownerStored, ownerActive⟩ := accepting.owner
  have found : (some person).filter (fun row =>
      !person.personId.isEmpty && row.ownerId = ownerId) = some person := by
    refine Option.filter_some_pos ?_
    simp [accepting.owned, accepting.named]
  rw [requireVoicePerson, Tx.run_bind_ok (requireActiveOwner_run ownerStored ownerActive)]
  simp only [getPerson, Tx.run_read_bind, accepting.stored]
  rw [found]
  show (Tx.refuseIf _ _ >>= _).run t = _
  rw [Tx.run_refuseIf_bind, if_neg (by simp [accepting.active])]
  rfl

/-- The answer to evidence that is stored already. -/
def knownReceipt (t : Tables) (ownerId : String) (person : PersonRow)
    (request : CandidateEvidence) : CandidateEvidenceReceipt :=
  { personId := person.personId
    personRevision := person.revision
    maturity := person.maturity
    accepted := false
    independentTurns := independentTurns (t.people.observationsOf ownerId person.personId)
      request.observation }

theorem recordCandidateEvidence_again {ownerId : String} {request : CandidateEvidence}
    {row : CandidateVoiceObservationRow} {person : PersonRow} (env : Env)
    (policies : VoicePolicies) (owner : request.observation.ownerId = ownerId)
    (turned : t.Turned ownerId request.observation row) (integrity : t.Integrity)
    (digest : row.requestDigest = sdk.evidenceDigest request)
    (accepting : t.Accepting ownerId person)
    (recognisedAs : request.observation.personId.getD "" = person.personId) :
    (recordCandidateEvidence sdk env policies ownerId request).run t =
      .ok (knownReceipt t ownerId person request, t) := by
  obtain ⟨others, selected⟩ := turned.selected integrity
  rw [recordCandidateEvidence, Tx.run_refuseIf_bind, if_neg (not_not.mpr owner), recognisedAs,
    Tx.run_bind_ok (requireVoicePerson_run accepting), Tx.run_refuseIf_bind,
    if_neg (by simp [accepting.alive, accepting.recognised])]
  simp only [selectObservations, Tx.run_read_bind, selected, Tx.run_refuseIf_bind, digest]
  rw [if_neg (by simp)]
  rfl

theorem discoverCandidate_again {ownerId : String} {request : CandidateDiscovery}
    {row : CandidateVoiceObservationRow} {person : PersonRow} {policy : CandidateDiscoveryPolicy}
    (env : Env) (policies : VoicePolicies) (configured : policies.discovery = some policy)
    (version : request.policyVersion = policy.version)
    (admitted : policy.recognition.admits ownerId request = true)
    (turned : t.Turned ownerId request.observation row) (integrity : t.Integrity)
    (digest : row.requestDigest = sdk.discoveryDigest request)
    (accepting : t.Accepting ownerId person)
    (recognisedAs : row.personId = person.personId)
    (profile : t.people.speakerProfiles.has row.profileId = true) :
    (discoverCandidate sdk env policies ownerId request).run t = .ok (person, t) := by
  obtain ⟨others, selected⟩ := turned.selected integrity
  obtain ⟨owner, ownerStored, ownerActive⟩ := accepting.owner
  obtain ⟨stored, found⟩ := Table.has_iff.mp profile
  have inForce : policies.discovery.filter (fun policy =>
      request.policyVersion = policy.version) = some policy := by
    rw [configured]
    exact Option.filter_some_pos (by simpa using version)
  rw [discoverCandidate, inForce]
  show (Tx.refuseIf _ _ >>= _).run t = _
  rw [Tx.run_refuseIf_bind, if_neg (by simp [admitted]),
    Tx.run_bind_ok (requireActiveOwner_run ownerStored ownerActive)]
  simp only [selectObservations, Tx.run_read_bind, selected, Tx.run_refuseIf_bind, digest]
  rw [if_neg (by simp), recognisedAs, Tx.run_bind_ok (requireVoicePerson_run accepting)]
  simp only [getProfile, Tx.run_read_bind, found, Tx.run_refuseIf_bind]
  rw [if_neg (by simp [accepting.alive, accepting.recognised])]
  rfl

theorem Observing.refused {asked : Observing} {env : Env} {policies : VoicePolicies}
    {ownerId : String} {row : CandidateVoiceObservationRow} (filed : t.Filed)
    (turned : t.Turned ownerId asked.observation row) (integrity : t.Integrity)
    (different : row.requestDigest ≠ asked.digest sdk) :
    (asked.command.session sdk env policies ownerId).Ensures t (fun _ _ => False) := by
  obtain ⟨others, selected⟩ := turned.selected integrity
  cases asked with
  | discovery request =>
      refine (ensures_effect t _ _).mpr
        ((discoverCandidate_effect sdk env policies ownerId t filed request).mono ?_)
      rintro _ t' (⟨-, other, otherTurned, same⟩ | discovered)
      · rw [turned.eq_of_integrity otherTurned integrity] at same
        exact different same
      · exact discovered.unturned row turned.stored turned.ownerId turned.sessionId turned.turnId
  | evidence request =>
      have refused : (recordCandidateEvidence sdk env policies ownerId request).Ensures t
          (fun _ _ => False) := by
        simp only [recordCandidateEvidence, selectObservations, Tx.ensures_bind,
          Tx.ensures_refuseIf]
        intro _
        refine (requireVoicePerson_effect t ownerId _).mono ?_
        rintro person t₁ ⟨unchanged, -⟩
        rw [unchanged]
        simp only [Tx.ensures_read]
        intro _
        split
        · next previous earlier found =>
          cases selected.symm.trans found
          simp only [Tx.ensures_bind, Tx.ensures_refuseIf]
          intro same
          exact absurd (not_not.mp same) different
        · next none => cases selected.symm.trans none
      exact (ensures_effect t _ _).mpr refused

end Requests

section Results

variable {sdk : Sdk}

theorem CandidateVoiceObservationRow.AddedAt.accepted {calls first rest : List Call} {call : Call}
    {row : CandidateVoiceObservationRow} (added : row.AddedAt sdk first call)
    (split : calls = first ++ call :: rest) : ∃ made, row.AcceptedFor sdk calls made := by
  have adds := added.added
  generalize commanded : call.command = command at adds
  cases adds with
  | @discovered policies ownerId request _ _ _ made =>
      have owned : row.ownerId = ownerId := by
        rw [made]
        rfl
      refine ⟨.discovery request, ⟨first, call, rest, policies, split, added, ?_⟩, ?_, ?_⟩
      · rw [commanded, owned]
        rfl
      · rw [made]
        rfl
      · rw [made]
        rfl
  | @recorded policies ownerId request _ _ _ _ _ made =>
      have owned : row.ownerId = ownerId := by
        rw [made]
        rfl
      refine ⟨.evidence request, ⟨first, call, rest, policies, split, added, ?_⟩, ?_, ?_⟩
      · rw [commanded, owned]
        rfl
      · rw [made]
        rfl
      · rw [made]
        rfl

/-- No request of the run has the digest of another one that is asked. -/
def Sdk.TellsApart (sdk : Sdk) (calls : List Call) (asked : Observing) : Prop :=
  ∀ call ∈ calls, ∀ made policies ownerId,
    call.command = .runVoiceprint policies ownerId (Observing.command made) →
      made.digest sdk = asked.digest sdk → made = asked

/-- The observation of a request that is accepted. -/
structure Tables.Observes (t : Tables) (sdk : Sdk) (ownerId : String) (made : Observing)
    (row : CandidateVoiceObservationRow) : Prop where
  turned : t.Turned ownerId made.observation row
  digest : row.requestDigest = made.digest sdk

theorem recordCandidateEvidence_owner {env : Env} {policies : VoicePolicies} {ownerId : String}
    {request : CandidateEvidence} (t : Tables) :
    (recordCandidateEvidence sdk env policies ownerId request).Ensures t (fun _ _ =>
      request.observation.ownerId = ownerId) := by
  rw [recordCandidateEvidence, Tx.ensures_bind, Tx.ensures_refuseIf, not_not]
  intro owner _ _ _
  exact owner

theorem recordCandidateEvidence_observes {env : Env} {policies : VoicePolicies} {ownerId : String}
    {request : CandidateEvidence} (t : Tables) (filed : t.Filed) :
    (recordCandidateEvidence sdk env policies ownerId request).Ensures t (fun receipt t' =>
      receipt.accepted = true → ∃ row, t'.Observes sdk ownerId (.evidence request) row ∧
        row.personId = request.observation.personId.getD "") := by
  refine (recordCandidateEvidence_effect sdk env policies ownerId t filed request).mono ?_
  rintro receipt t' (⟨-, known⟩ | ⟨person, candidate, -, recorded⟩) accepted
  · rw [known] at accepted
    cases accepted
  · have rows : t'.people.candidateVoiceObservations = _ :=
      congrArg Voices.observations recorded.voices
    refine ⟨evidenceObservation sdk env ownerId request person candidate,
      ⟨⟨?_, rfl, rfl, rfl⟩, rfl⟩, recorded.named⟩
    rw [rows]
    exact Table.mem_insert_self recorded.unobserved

theorem discoverCandidate_observes {env : Env} {policies : VoicePolicies} {ownerId : String}
    {request : CandidateDiscovery} (t : Tables) (filed : t.Filed) :
    (discoverCandidate sdk env policies ownerId request).Ensures t (fun _ t' =>
      ∃ row, t'.Observes sdk ownerId (.discovery request) row) := by
  refine (discoverCandidate_effect sdk env policies ownerId t filed request).mono ?_
  rintro _ t' (⟨unchanged, row, turned, digest⟩ | discovered)
  · rw [unchanged]
    exact ⟨row, turned, digest⟩
  · obtain ⟨displayName, voices⟩ := discovered.voices
    have rows : t'.people.candidateVoiceObservations = _ := congrArg Voices.observations voices
    let row := discoveredObservation sdk env ownerId request (sdk.discoveryPersonId ownerId
      request.observation.sessionId request.observation.turnId)
    have stored : row ∈ t'.people.candidateVoiceObservations.rows := by
      rw [rows]
      exact Table.mem_insert_self discovered.unobserved
    exact ⟨row, ⟨stored, rfl, rfl, rfl⟩, rfl⟩

theorem Tables.Observes.later {ownerId : String} {made : Observing} {db : Database}
    {row : CandidateVoiceObservationRow} (observes : db.tables.Observes sdk ownerId made row)
    (sound : db.tables.PeopleSound sdk) (calls : List Call)
    (lasts : PersonLasts sdk row.personId calls db) :
    (replay sdk calls db).tables.Observes sdk ownerId made row := by
  obtain ⟨⟨stored, owned, session, turn⟩, digest⟩ := observes
  exact ⟨⟨replay_observation_stays calls db sound lasts stored, owned, session, turn⟩, digest⟩

/-- The answers to a request that is made again, the Person having lasted. -/
structure EvidenceKnown (sdk : Sdk) (ownerId : String) (request : CandidateEvidence)
    (row : CandidateVoiceObservationRow) (db : Database) : Prop where
  answered : ∀ person, db.tables.Accepting ownerId person → person.personId = row.personId →
    ∀ env policies, db.transact (recordCandidateEvidence sdk env policies ownerId request) =
      .ok (knownReceipt db.tables ownerId person request, db)

structure DiscoveryKnown (sdk : Sdk) (ownerId : String) (request : CandidateDiscovery)
    (row : CandidateVoiceObservationRow) (db : Database) : Prop where
  answered : ∀ person, db.tables.Accepting ownerId person → person.personId = row.personId →
    db.tables.people.speakerProfiles.has row.profileId = true →
    ∀ env policies policy, policies.discovery = some policy →
      request.policyVersion = policy.version → policy.recognition.admits ownerId request = true →
        db.transact (discoverCandidate sdk env policies ownerId request) = .ok (person, db)

/-- The observations of an Owner are independent, a request that was accepted
is answered from what is stored while its Owner and its Person are active, and
any other request for its turn is refused. -/
theorem observations_independent (sdk : Sdk) :
    (∀ calls, (replay sdk calls .empty).tables.people.Independent) ∧
    (∀ before env policies ownerId request receipt db,
      (replay sdk before .empty).transact
        (recordCandidateEvidence sdk env policies ownerId request) = .ok (receipt, db) →
      receipt.accepted = true →
      ∃ row, db.tables.Observes sdk ownerId (.evidence request) row ∧
        ∀ later, PersonLasts sdk row.personId later db →
          EvidenceKnown sdk ownerId request row (replay sdk later db)) ∧
    (∀ before env policies ownerId request answer db,
      (replay sdk before .empty).transact
        (discoverCandidate sdk env policies ownerId request) = .ok (answer, db) →
      ∃ row, db.tables.Observes sdk ownerId (.discovery request) row ∧
        ∀ later, PersonLasts sdk row.personId later db →
          DiscoveryKnown sdk ownerId request row (replay sdk later db)) ∧
    ∀ calls, ∀ row ∈ (replay sdk calls .empty).tables.people.candidateVoiceObservations.rows,
      ∃ made, row.AcceptedFor sdk calls made ∧ ∀ asked env policies ownerId,
        (replay sdk calls .empty).tables.Turned ownerId asked.observation row → asked ≠ made →
        sdk.TellsApart calls asked → (replay sdk calls .empty).Refuses
          ((Command.runVoiceprint policies ownerId asked.command).session sdk env) := by
  refine ⟨?_, ?_, ?_, ?_⟩
  · intro calls
    exact independent_of_sound (peopleSound_replay sdk calls) (replay sdk calls .empty).property
  · intro before env policies ownerId request receipt db ran accepted
    have sound := peopleSound_replay sdk before
    have runs := Database.transact_ok_iff.mp ran
    have owner := recordCandidateEvidence_owner _ receipt db.tables runs
    obtain ⟨row, observes, person⟩ :=
      recordCandidateEvidence_observes _ sound.filed receipt db.tables runs accepted
    let call : Call :=
      { env := env, command := .runVoiceprint policies ownerId (.recordCandidateEvidence request) }
    have committed : (replay sdk before .empty).transact (call.command.session sdk env) =
        .ok ((), db) := Database.transact_ok_iff.mpr (Tx.run_bind_ok runs _)
    have reached : call.step sdk (replay sdk before .empty) = db := Database.after_of_ok committed
    have soundAfter : db.tables.PeopleSound sdk := reached ▸ call.step_sound _ sound
    refine ⟨row, observes, fun later lasts => ⟨?_⟩⟩
    intro again accepting named env' policies'
    have still := observes.later soundAfter later lasts
    exact Database.transact_ok_iff.mpr (recordCandidateEvidence_again env' policies' owner
      still.turned (replay sdk later db).property still.digest accepting
      (person.symm.trans named.symm))
  · intro before env policies ownerId request answer db ran
    have sound := peopleSound_replay sdk before
    have runs := Database.transact_ok_iff.mp ran
    obtain ⟨row, observes⟩ := discoverCandidate_observes _ sound.filed answer db.tables runs
    let call : Call :=
      { env := env, command := .runVoiceprint policies ownerId (.discoverCandidate request) }
    have committed : (replay sdk before .empty).transact (call.command.session sdk env) =
        .ok ((), db) := Database.transact_ok_iff.mpr (Tx.run_bind_ok runs _)
    have reached : call.step sdk (replay sdk before .empty) = db := Database.after_of_ok committed
    have soundAfter : db.tables.PeopleSound sdk := reached ▸ call.step_sound _ sound
    refine ⟨row, observes, fun later lasts => ⟨?_⟩⟩
    intro person accepting named profile env' policies' policy configured version admitted
    have still := observes.later soundAfter later lasts
    exact Database.transact_ok_iff.mpr (discoverCandidate_again env' policies' configured version
      admitted still.turned (replay sdk later db).property still.digest accepting named.symm
      profile)
  · intro calls row stored
    obtain ⟨first, call, rest, split, added⟩ := observation_added sdk calls row stored
    obtain ⟨made, accepted⟩ := added.accepted split
    refine ⟨made, accepted, ?_⟩
    intro asked env policies ownerId turned different apart
    refine Database.refuses_of_ensures (asked.refused (peopleSound_replay sdk calls).filed turned
      (replay sdk calls .empty).property ?_)
    intro same
    obtain ⟨adding, addingCall, others, addedUnder, splits, -, commanded⟩ := accepted.call
    refine different (apart addingCall ?_ made addedUnder row.ownerId commanded
      (accepted.digest.symm.trans same)).symm
    rw [splits]
    exact List.mem_append_right _ List.mem_cons_self

/-- What the discovery of `heardDiscovery` draws. -/
def discoveryEnv : Env :=
  { uuid := fun site => .ofNat (16 + site), now := 1 }

def retryEnv : Env :=
  { uuid := fun site => .ofNat (48 + site), now := 3 }

def archivesOwner : Call :=
  { env := { uuid := fun site => .ofNat (32 + site), now := 2 }, command := .archiveOwner "owner" }

/-- The Person of the discovery is active, recognisable and has its profile. -/
def Database.heard (db : Database) : Bool :=
  (db.tables.people.persons.get? "ownersessionfirst").any (fun person =>
    person.status = .active && !person.deleted && person.recognitionState = .active) &&
  db.tables.people.speakerProfiles.has "sp_41000000000000000000000000000000"

/-- A discovery that is made again is refused once the Owner is archived, or
under another policy. -/
theorem discovery_retry_refused : ∃ answer db,
    (replay .plain (numbered [.createOwner "owner" "" "person" none none]) .empty).transact
      (discoverCandidate .plain discoveryEnv heardPolicies "owner" heardDiscovery) =
        .ok (answer, db) ∧
    ((replay .plain [archivesOwner] db).heard = true ∧
      ∃ error, (replay .plain [archivesOwner] db).transact
        (discoverCandidate .plain retryEnv heardPolicies "owner" heardDiscovery) = .error error) ∧
    (db.heard = true ∧ ∃ error, db.transact
      (discoverCandidate .plain retryEnv {} "owner" heardDiscovery) = .error error) := by
  have runs : ((replay .plain (numbered [.createOwner "owner" "" "person" none none])
      .empty).transact (discoverCandidate .plain discoveryEnv heardPolicies "owner"
        heardDiscovery)).toOption.map (fun ran =>
          ((replay .plain [archivesOwner] ran.2).heard,
            ((replay .plain [archivesOwner] ran.2).transact (discoverCandidate .plain retryEnv
              heardPolicies "owner" heardDiscovery)).toOption.isSome,
            ran.2.heard, (ran.2.transact (discoverCandidate .plain retryEnv {} "owner"
              heardDiscovery)).toOption.isSome)) = some (true, false, true, false) := by
    decide +kernel
  obtain ⟨⟨answer, db⟩, transacted, shown⟩ := Option.map_eq_some_iff.mp runs
  simp only [Prod.mk.injEq] at shown
  obtain ⟨heardThen, archived, heard, unconfigured⟩ := shown
  exact ⟨answer, db, Tx.ok_of_toOption transacted, ⟨heardThen, Tx.error_of_toOption archived⟩,
    heard, Tx.error_of_toOption unconfigured⟩

/-- The Person of the discovery gets a name before the retry. -/
def namesPerson : Call :=
  { env := { uuid := fun site => .ofNat (32 + site), now := 2 }
    command := .updatePerson 10 "owner" "ownersessionfirst"
      { expectedRevision := 1, displayName := "Nia", status := .active } }

theorem observations_independent_retry : ∃ answer db,
    (replay .plain (numbered [.createOwner "owner" "" "person" none none]) .empty).transact
      (discoverCandidate .plain discoveryEnv heardPolicies "owner" heardDiscovery) =
        .ok (answer, db) ∧
    let later := replay .plain [namesPerson] db
    ∃ person, person.displayName = "Nia" ∧
      later.transact (discoverCandidate .plain retryEnv heardPolicies "owner" heardDiscovery) =
        .ok (person, later) := by
  have runs : ((replay .plain (numbered [.createOwner "owner" "" "person" none none])
      .empty).transact (discoverCandidate .plain discoveryEnv heardPolicies "owner"
        heardDiscovery)).toOption.map (fun ran =>
          (((replay .plain [namesPerson] ran.2).tables.people.persons.get?
            "ownersessionfirst").map (fun person =>
              decide (person.personId = "ownersessionfirst" ∧ person.ownerId = "owner" ∧
                person.status = .active ∧ person.deleted = false ∧
                person.recognitionState = .active ∧ person.displayName = "Nia")),
            decide ((replay .plain [namesPerson] ran.2).tables.workspace.OwnerActive "owner"),
            decide (PersonLasts .plain "ownersessionfirst" [namesPerson] ran.2),
            ran.2.tables.people.candidateVoiceObservations.rows.map (fun row =>
              (row.personId, (replay .plain [namesPerson]
                ran.2).tables.people.speakerProfiles.has row.profileId)))) =
      some (some true, true, true, [("ownersessionfirst", true)]) := by
    decide +kernel
  obtain ⟨⟨answer, db⟩, transacted, shown⟩ := Option.map_eq_some_iff.mp runs
  simp only [Prod.mk.injEq] at shown
  obtain ⟨personShown, ownerActive, lasts, rowsShown⟩ := shown
  obtain ⟨person, stored, shown⟩ := Option.map_eq_some_iff.mp personShown
  obtain ⟨named, owned, active, alive, recognised, renamed⟩ := of_decide_eq_true shown
  have discovered := Tx.ok_of_toOption transacted
  obtain ⟨row, observes, known⟩ := (observations_independent .plain).2.2.1
    (numbered [.createOwner "owner" "" "person" none none]) discoveryEnv heardPolicies "owner"
    heardDiscovery answer db discovered
  have shown : (row.personId, (replay .plain [namesPerson]
      db).tables.people.speakerProfiles.has row.profileId) = ("ownersessionfirst", true) := by
    refine List.mem_singleton.mp ?_
    rw [← rowsShown]
    exact List.mem_map_of_mem observes.turned.stored
  obtain ⟨rowPerson, profile⟩ := Prod.mk.inj shown
  have lasting : PersonLasts .plain row.personId [namesPerson] db := by
    rw [rowPerson]
    exact of_decide_eq_true lasts
  have accepting : (replay .plain [namesPerson] db).tables.Accepting "owner" person :=
    { owner := of_decide_eq_true ownerActive
      stored := named ▸ stored
      owned := owned
      active := active
      alive := alive
      recognised := recognised
      named := by
        rw [named]
        decide }
  exact ⟨answer, db, discovered, person, renamed, (known [namesPerson] lasting).answered person
    accepting (named.trans rowPerson.symm) profile retryEnv heardPolicies _ rfl rfl
    (by decide +kernel)⟩

end Results

end EidolonData
