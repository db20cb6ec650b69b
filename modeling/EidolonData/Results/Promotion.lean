import EidolonData.Invariants.VoiceRuns

/-!
# The promotion of a candidate

A candidate is established by evidence alone, and only by as much of it as the
policy asks for.  A discovery is stored beside the evidence but names no
profile its Person has, so it does not count.
-/

namespace EidolonData

open Relational

section Evidence

variable {sdk : Sdk} {calls : List Call} {call : Call} {row : CandidateVoiceObservationRow}

def Command.discoveredAs : Command → Option String
  | .runVoiceprint _ _ (.discoverCandidate request) => request.observation.profileId
  | _ => none

/-- The call names the profile id the other one draws. -/
def Call.foresees (call other : Call) : Bool :=
  call.command.discoveredAs.any (fun profileId =>
    other.command.drawnProfile other.env = some profileId)

/-- No discovery names a profile id that it draws itself or that is drawn
after it. -/
abbrev Unforeseen (calls : List Call) : Prop :=
  calls.Pairwise (fun call later => call.foresees later = false) ∧
    ∀ call ∈ calls, call.foresees call = false

theorem not_drawn_of_foresees {profileId : String} {other : Call}
    (apart : call.foresees other = false)
    (named : call.command.discoveredAs = some profileId) :
    other.command.drawnProfile other.env ≠ some profileId := by
  intro drawn
  simp [Call.foresees, named, drawn] at apart

structure CandidateVoiceObservationRow.RecordedAt (sdk : Sdk) (first : List Call) (call : Call)
    (row : CandidateVoiceObservationRow) : Prop where
  command : ∃ policies ownerId request,
    call.command = .runVoiceprint policies ownerId (.recordCandidateEvidence request) ∧
      row.observationJson = request.observation
  profile : row.observationJson.profileId = some row.profileId
  profileRevision : row.observationJson.profileRevision = some row.profileRevision
  unstored : row ∉ (replay sdk first .empty).tables.people.candidateVoiceObservations.rows
  stored : row ∈
    (replay sdk (first ++ [call]) .empty).tables.people.candidateVoiceObservations.rows

/-- The observation was stored as evidence in the run. -/
def CandidateVoiceObservationRow.RecordedIn (sdk : Sdk) (calls : List Call)
    (row : CandidateVoiceObservationRow) : Prop :=
  ∃ first call rest, calls = first ++ call :: rest ∧ row.RecordedAt sdk first call

theorem CandidateVoiceObservationRow.AddedAt.recordedAt {first : List Call}
    (added : row.AddedAt sdk first call) {policies : VoicePolicies} {ownerId : String}
    {request : CandidateEvidence} (commanded : call.command =
      .runVoiceprint policies ownerId (.recordCandidateEvidence request)) :
    row.RecordedAt sdk first call := by
  have adds := added.added
  rw [commanded] at adds
  cases adds with
  | recorded named unturned checked made =>
      refine
        { command := ⟨policies, ownerId, request, commanded, by rw [made]; rfl⟩
          profile := ?_
          profileRevision := ?_
          unstored := added.unstored
          stored := added.stored }
      · rw [made]
        exact checked.profile.symm
      · rw [made]
        exact checked.profileRevision.symm

theorem discovered_unused (unforeseen : Unforeseen calls) {first rest : List Call}
    (split : calls = first ++ call :: rest) (added : row.AddedAt sdk first call)
    {profileId : String} (named : call.command.discoveredAs = some profileId) (ownerId : String) :
    ¬ (replay sdk calls .empty).tables.people.Uses profileId ownerId row.personId := by
  have undrawn : ∀ later ∈ call :: rest,
      later.command.drawnProfile later.env ≠ some profileId := by
    intro later member
    rw [split] at unforeseen
    have apart : call.foresees later = false := by
      rcases List.mem_cons.mp member with rfl | after
      · exact unforeseen.2 later (List.mem_append_right _ List.mem_cons_self)
      · exact (List.pairwise_cons.mp (List.pairwise_append.mp unforeseen.1).2.1).1 later after
    exact not_drawn_of_foresees apart named
  have unused : ¬ (replay sdk first .empty).tables.people.Uses profileId ownerId row.personId := by
    intro uses
    obtain ⟨person, stored⟩ := uses.personStored (replay sdk first .empty).property.people
    have adds := added.added
    generalize commanded : call.command = command at adds
    cases adds with
    | discovered unturned unheard absent made =>
        subst made
        have unknown : (replay sdk first .empty).tables.people.persons.get? _ = none :=
          congrArg PersonFile.person absent
        exact absurd (unknown.symm.trans stored) (by simp)
    | recorded =>
        rw [commanded] at named
        cases named
  rw [split, replay_append]
  exact replay_unused (call :: rest) _ (peopleSound_replay sdk first) undrawn unused

theorem observations_sifted (unforeseen : Unforeseen calls)
    (stored : row ∈ (replay sdk calls .empty).tables.people.candidateVoiceObservations.rows) :
    row.RecordedIn sdk calls ∨
      ∀ profileId ownerId, row.observationJson.profileId = some profileId →
        ¬ (replay sdk calls .empty).tables.people.Uses profileId ownerId row.personId := by
  obtain ⟨first, call, rest, split, added⟩ := observation_added sdk calls row stored
  have adds := added.added
  generalize commanded : call.command = command at adds
  cases adds with
  | @discovered policies ownerId request unturned unheard absent made =>
      refine Or.inr (fun profileId otherOwner named => ?_)
      refine discovered_unused unforeseen split added ?_ otherOwner
      rw [commanded, ← named, made]
      rfl
  | recorded => exact Or.inl ⟨first, call, rest, split, added.recordedAt commanded⟩

end Evidence

section Policy

/-- An observation that counts for a promotion under the policy, together with
the latest one. -/
structure CandidatePromotionPolicy.Eligible (policy : CandidatePromotionPolicy) (now : Timestamp)
    (latest observation : SpeakerObservation) : Prop where
  profile : observation.profileId = latest.profileId
  profileRevision : observation.profileRevision = latest.profileRevision
  decision : observation.decisionVersion = policy.decisionVersion
  scoring : observation.scoringVersion = policy.scoringVersion
  model : observation.modelId = policy.modelId ∧ observation.weightsHash = policy.weightsHash ∧
    observation.preprocessingVersion = policy.preprocessingVersion
  similar : ∃ similarity, observation.cosineSimilarity = some similarity ∧
    policy.minSimilarity ≤ similarity
  recent : now - policy.maxEvidenceAge ≤ observation.issuedAt ∧
    observation.issuedAt ≤ now + 1000000
  single : ∃ quality, observation.audioQuality = some quality ∧ quality.overlapDetected = some 0

theorem CandidatePromotionPolicy.eligible_of_counts {policy : CandidatePromotionPolicy}
    {now : Timestamp} {latest observation : SpeakerObservation}
    (counts : policy.counts now latest observation = true) :
    policy.Eligible now latest observation := by
  simp only [CandidatePromotionPolicy.counts, Bool.and_eq_true, decide_eq_true_eq] at counts
  obtain ⟨⟨⟨⟨⟨⟨⟨⟨⟨⟨single, profile⟩, profileRevision⟩, decision⟩, scoring⟩, model⟩, weights⟩,
    preprocessing⟩, similar⟩, recent⟩, issued⟩ := counts
  refine ⟨profile, profileRevision, decision, scoring, ⟨model, weights, preprocessing⟩, ?_,
    ⟨recent, issued⟩, ?_⟩
  · cases found : observation.cosineSimilarity with
    | none => simp [found] at similar
    | some similarity => exact ⟨similarity, rfl, by simpa [found] using similar⟩
  · cases found : observation.audioQuality with
    | none => simp [found] at single
    | some quality => exact ⟨quality, rfl, by simpa [found] using single⟩

def SpeakerObservation.speechMs (observation : SpeakerObservation) : Int :=
  (observation.audioQuality.map (fun quality => quality.speechMs)).getD 0

theorem CandidatePromotionPolicy.evidence_rows {policy : CandidatePromotionPolicy}
    {now : Timestamp} {rows : List CandidateVoiceObservationRow} {latest : SpeakerObservation}
    {observations : List SpeakerObservation} (row : CandidateVoiceObservationRow)
    (document : row.observationJson = latest)
    (granted : policy.evidence now rows latest = some observations) :
    let counted := rows.filter (fun row => policy.counts now latest row.observationJson) ++ [row]
    (∀ row ∈ counted, policy.Eligible now latest row.observationJson) ∧
      policy.minTurns ≤ counted.length ∧
      policy.minTotalSpeechMs ≤ (counted.map (fun row => row.observationJson.speechMs)).sum := by
  intro counted
  have documents : (rows.map (fun row => row.observationJson)).filter (policy.counts now latest) ++
      [latest] = counted.map (fun row => row.observationJson) := by
    simp only [counted, List.map_append, List.filter_map, List.map_cons, List.map_nil, document]
    rfl
  unfold CandidatePromotionPolicy.evidence at granted
  simp only [documents] at granted
  split at granted
  · next enough =>
    simp only [Bool.and_eq_true, decide_eq_true_eq] at enough
    obtain ⟨⟨latestCounts, turns⟩, speech⟩ := enough
    refine ⟨?_, ?_, ?_⟩
    · intro other member
      rcases List.mem_append.mp member with before | last
      · exact eligible_of_counts (List.mem_filter.mp before).2
      · cases List.mem_singleton.mp last
        rw [document]
        exact eligible_of_counts latestCounts
    · simpa using turns
    · rw [List.map_map] at speech
      exact speech
  · cases granted

end Policy

section Promotion

variable {sdk : Sdk} {env : Env} {personId : String} {command : Command} {file file' : PersonFile}

theorem PersonMoved.promotes {person person' : PersonRow}
    (moved : PersonMoved sdk env personId command file file') (before : file.person = some person)
    (candidate : person.maturity = .candidate) (after : file'.person = some person')
    (established : person'.maturity = .established) :
    ∃ policies request,
      command = .runVoiceprint policies person.ownerId (.recordCandidateEvidence request) := by
  cases moved with
  | @promoted policies ownerId request _ _ _ _ activity owned =>
      cases before
      exact ⟨policies, request, by rw [owned]⟩
  | created | discovered => cases before
  | deletionCompleted | ownerDeleted => cases after
  | kept =>
      rw [before] at after
      cases after
      rw [candidate] at established
      cases established
  | updated | retired | expired | archived | restored | deletionRequested | policyWritten
  | memorySuspended | memoryRestored | evidenceRecorded | ownerArchived =>
      cases before
      cases after
      exact absurd (candidate.symm.trans established) (by decide)

theorem PersonMoved.established {person person' : PersonRow}
    (moved : PersonMoved sdk env personId command file file') (before : file.person = some person)
    (established : person.maturity = .established) (after : file'.person = some person') :
    person'.maturity = .established := by
  cases moved with
  | promoted =>
      cases after
      rfl
  | created | discovered => cases before
  | deletionCompleted | ownerDeleted => cases after
  | kept =>
      rw [before] at after
      cases after
      exact established
  | updated | retired | expired | archived | restored | deletionRequested | policyWritten
  | memorySuspended | memoryRestored | evidenceRecorded | ownerArchived =>
      cases before
      cases after
      exact established

def PersonFile.Established (file : PersonFile) : Prop :=
  ∃ person, file.person = some person ∧ person.maturity = .established

/-- What a promotion rests on: stored evidence of the Person, as much as the
policy asks for. -/
structure Promoted (sdk : Sdk) (calls : List Call) (call : Call) (person : PersonRow)
    (request : CandidateEvidence) (policy : CandidatePromotionPolicy)
    (rows : List CandidateVoiceObservationRow) : Prop where
  distinct : rows.Nodup
  stored : ∀ row ∈ rows,
    row ∈ (replay sdk (calls ++ [call]) .empty).tables.people.candidateVoiceObservations.rows ∧
      row.ownerId = person.ownerId ∧ row.personId = person.personId
  recorded : ∀ row ∈ rows, row.RecordedIn sdk (calls ++ [call])
  eligible : ∀ row ∈ rows,
    policy.Eligible call.env.now request.observation row.observationJson
  enough : policy.minTurns ≤ rows.length
  speech : policy.minTotalSpeechMs ≤ (rows.map (fun row => row.observationJson.speechMs)).sum

theorem EvidenceRecorded.promoted {policies : VoicePolicies} {ownerId : String}
    {request : CandidateEvidence} {person person' : PersonRow} {candidate : SpeakerCandidate}
    {calls : List Call} {call : Call} (unforeseen : Unforeseen (calls ++ [call]))
    (evidence : EvidenceRecorded sdk call.env policies ownerId request person candidate
      (replay sdk calls .empty).tables (replay sdk (calls ++ [call]) .empty).tables)
    (commanded : call.command =
      .runVoiceprint policies ownerId (.recordCandidateEvidence request))
    (after : (replay sdk (calls ++ [call]) .empty).tables.people.persons.get? person.personId =
      some person') (established : person'.maturity = .established) :
    ∃ policy rows, policies.promotion = some policy ∧
      Promoted sdk calls call person request policy rows := by
  obtain ⟨policy, observations, configured, granted⟩ := evidence.granted person' after established
  let latest := evidenceObservation sdk call.env ownerId request person candidate
  let t := (replay sdk calls .empty).tables
  let counted := (t.people.observationsOf ownerId person.personId).filter (fun row =>
    policy.counts call.env.now request.observation row.observationJson)
  obtain ⟨eligible, enough, speech⟩ := policy.evidence_rows latest rfl granted
  have inserted : (replay sdk (calls ++ [call]) .empty).tables.people.candidateVoiceObservations =
      t.people.candidateVoiceObservations.insert latest :=
    congrArg Voices.observations evidence.voices
  have unstored : latest ∉ t.people.candidateVoiceObservations.rows := by
    intro stored
    have found := (Table.mem_rows_iff _ _).mp stored
    exact absurd (evidence.unobserved.symm.trans found) (by simp)
  have old : ∀ row ∈ counted, row ∈ t.people.candidateVoiceObservations.rows ∧
      row.ownerId = ownerId ∧ row.personId = person.personId := by
    intro row member
    obtain ⟨stored, wanted⟩ := Table.mem_select.mp (List.mem_filter.mp member).1
    simp only [Bool.and_eq_true, decide_eq_true_eq] at wanted
    exact ⟨Table.mem_of_get? stored, wanted⟩
  have latestStored : latest ∈
      (replay sdk (calls ++ [call]) .empty).tables.people.candidateVoiceObservations.rows := by
    rw [inserted]
    exact Table.mem_insert_self evidence.unobserved
  refine ⟨policy, counted ++ [latest], configured,
    { distinct := ?_
      stored := ?_
      recorded := ?_
      eligible := eligible
      enough := enough
      speech := speech }⟩
  · have rows : t.people.candidateVoiceObservations.rows.Nodup :=
      t.people.candidateVoiceObservations.unique.of_map
    refine List.nodup_append.mpr ⟨?_, List.nodup_singleton _, ?_⟩
    · exact (rows.filter _).filter _
    · rintro row member _ last rfl
      cases List.mem_singleton.mp last
      exact unstored (old _ member).1
  · intro row member
    rcases List.mem_append.mp member with before | last
    · obtain ⟨stored, owned, named⟩ := old row before
      rw [inserted, evidence.owned]
      exact ⟨Table.mem_insert_of_mem _ stored, owned, named⟩
    · cases List.mem_singleton.mp last
      exact ⟨latestStored, evidence.owned.symm, rfl⟩
  · intro row member
    rcases List.mem_append.mp member with before | last
    · obtain ⟨stored, owned, named⟩ := old row before
      have storedAfter : row ∈
          (replay sdk (calls ++ [call]) .empty).tables.people.candidateVoiceObservations.rows := by
        rw [inserted]
        exact Table.mem_insert_of_mem _ stored
      rcases observations_sifted unforeseen storedAfter with recorded | unused
      · exact recorded
      · -- The row is of a discovery, so it names no profile of the Person.
        have same := (eligible row member).profile
        obtain ⟨profile, shown⟩ := evidence.checked.shown
        have profiles : (replay sdk (calls ++ [call]) .empty).tables.people.speakerProfiles =
            t.people.speakerProfiles := congrArg Voices.profiles evidence.voices
        exfalso
        refine unused candidate.profileId ownerId (same.trans evidence.checked.profile.symm)
          (Or.inl ⟨profile, profiles ▸ shown.profileStored, shown.profileOwner, ?_⟩)
        rw [shown.profilePerson, named]
        exact (Table.key_of_get? shown.personStored).symm
    · cases List.mem_singleton.mp last
      exact ⟨calls, call, [], rfl,
        { command := ⟨policies, ownerId, request, commanded, rfl⟩
          profile := evidence.checked.profile.symm
          profileRevision := evidence.checked.profileRevision.symm
          unstored := unstored
          stored := latestStored }⟩

variable (sdk personId)

/-- A candidate is established by the evidence its promotion rests on and by
nothing else, and an established Person is never a candidate again.  The ids
drawn for profiles are not known before they are drawn. -/
theorem promotion_sound :
    (∀ calls call, Unforeseen (calls ++ [call]) → ∀ person person',
      (replay sdk calls .empty).tables.people.persons.get? personId = some person →
      person.maturity = .candidate →
      (replay sdk (calls ++ [call]) .empty).tables.people.persons.get? personId = some person' →
      person'.maturity = .established →
      ∃ policies request policy rows,
        call.command = .runVoiceprint policies person.ownerId (.recordCandidateEvidence request) ∧
        policies.promotion = some policy ∧ Promoted sdk calls call person request policy rows) ∧
    ∀ calls later person person',
      (replay sdk calls .empty).tables.people.persons.get? personId = some person →
      person.maturity = .established →
      PersonLasts sdk personId later (replay sdk calls .empty) →
      (replay sdk (calls ++ later) .empty).tables.people.persons.get? personId = some person' →
      person'.maturity = .established := by
  refine ⟨?_, ?_⟩
  · intro calls call unforeseen person person' before candidate after established
    have sound := peopleSound_replay sdk calls
    have ends := replay_snoc sdk calls call .empty
    have changed : call.step sdk (replay sdk calls .empty) ≠ replay sdk calls .empty := by
      intro same
      rw [ends, same, before] at after
      cases after
      exact absurd (candidate.symm.trans established) (by decide)
    obtain ⟨policies, request, commanded⟩ :
        ∃ policies request, call.command =
          .runVoiceprint policies person.ownerId (.recordCandidateEvidence request) := by
      rcases call.step_people _ sound with same | stepped
      · exact absurd same changed
      · rw [← ends] at stepped
        exact (stepped.moved.files personId).promotes before candidate after established
    have effect : (call.command.session sdk call.env).Ensures (replay sdk calls .empty).tables
        (fun _ t' => t' = (replay sdk calls .empty).tables ∨ ∃ recordedFor candidate,
          EvidenceRecorded sdk call.env policies person.ownerId request recordedFor candidate
            (replay sdk calls .empty).tables t') := by
      rw [commanded]
      refine (ensures_effect _ _ _).mpr ((recordCandidateEvidence_effect sdk call.env policies
        person.ownerId _ sound.filed request).mono ?_)
      rintro receipt t' (⟨unchanged, -⟩ | ⟨recordedFor, candidate, -, evidence⟩)
      · exact Or.inl unchanged
      · exact Or.inr ⟨recordedFor, candidate, evidence⟩
    rcases call.step_post _ effect with same | unchanged | ⟨recordedFor, candidateShown, evidence⟩
    · exact absurd same changed
    · exact absurd (Subtype.ext unchanged) changed
    · rw [← ends] at evidence
      have sameId : recordedFor.personId = personId := by
        by_contra different
        have aside := congrArg PersonFile.person (evidence.others personId (Ne.symm different))
        have kept : some person' = some person := after.symm.trans (aside.trans before)
        cases kept
        exact absurd (candidate.symm.trans established) (by decide)
      have stored := evidence.personStored
      rw [sameId, before] at stored
      cases stored
      rw [← sameId] at after
      obtain ⟨policy, rows, configured, promoted⟩ :=
        evidence.promoted unforeseen commanded after established
      exact ⟨policies, request, policy, rows, commanded, configured, promoted⟩
  · intro calls later person person' before established lasts after
    have still : ((replay sdk later (replay sdk calls .empty)).tables.file
        personId).Established := by
      refine replay_lasting (fun _ => True) personId ?_ later _ (peopleSound_replay sdk calls)
        (fun _ _ => trivial) lasts ⟨person, before, established⟩
      rintro env command file file' moved - - remains ⟨other, stored, was⟩
      obtain ⟨other', stored'⟩ := Option.isSome_iff_exists.mp remains
      exact ⟨other', stored', moved.established stored was stored'⟩
    obtain ⟨other, stored, still⟩ := still
    rw [replay_append] at after
    cases after.symm.trans stored
    exact still

end Promotion

section Heard

/-- One turn of one session, as it may be discovered or recognised. -/
def heardTurn (turnId : String) (personId profileId : Option String) (startSample : Int) :
    SpeakerObservation :=
  { ownerId := "owner"
    personId := personId
    personRevision := personId.map (fun _ => 1)
    sessionId := "session"
    turnId := turnId
    source := { inputId := "", generation := 0, startSample := startSample,
                endSample := startSample + 1 }
    profileId := profileId
    profileRevision := profileId.map (fun _ => 1)
    decisionVersion := ""
    scoringVersion := "normalized-template-cosine-v1"
    modelId := ""
    weightsHash := ""
    preprocessingVersion := ""
    cosineSimilarity := some 1
    audioQuality := some { overlapDetected := some 0 }
    issuedAt := 0
    expiresAt := 10 }

def heardPolicies : VoicePolicies :=
  { discovery := some
      { version := ""
        recognition :=
          { version := "", modelId := "", weightsHash := "", preprocessingVersion := ""
            minUnknownSpeechMs := 0 }
        maxExistingSimilarity := 0 }
    promotion := some
      { version := "", decisionVersion := "", scoringVersion := "normalized-template-cosine-v1"
        modelId := "", weightsHash := "", preprocessingVersion := "", minSimilarity := 1
        maxEvidenceAge := 10, minTurns := 2, minTotalSpeechMs := 0 } }

def heardDiscovery : CandidateDiscovery :=
  { policyVersion := "", snapshotRevision := "", audioSha256 := "first"
    sample := { modelId := "", weightsHash := "", preprocessingVersion := "" }
    observation := heardTurn "first" none none 0 }

def heardEvidence (turnId : String) (startSample : Int) : CandidateEvidence :=
  { snapshotRevision := "", audioSha256 := turnId
    observation := heardTurn turnId (some "ownersessionfirst")
      (some "sp_41000000000000000000000000000000") startSample }

def heardCommands : List Command :=
  [.createOwner "owner" "" "person" none none,
    .runVoiceprint heardPolicies "owner" (.discoverCandidate heardDiscovery),
    .runVoiceprint heardPolicies "owner" (.recordCandidateEvidence (heardEvidence "second" 1))]

/-- The second evidence, which promotes. -/
def heardAgain : Call :=
  { env := { uuid := fun site => .ofNat (48 + site), now := 3 }
    command := .runVoiceprint heardPolicies "owner"
      (.recordCandidateEvidence (heardEvidence "third" 2)) }

theorem promotion_sound_heard : ∃ person request policy rows,
    (replay .plain (numbered heardCommands) .empty).tables.people.persons.get?
      "ownersessionfirst" = some person ∧ heardPolicies.promotion = some policy ∧
    Promoted .plain (numbered heardCommands) heardAgain person request policy rows := by
  have unforeseen : Unforeseen (numbered heardCommands ++ [heardAgain]) := by
    decide +kernel
  have before : ((replay .plain (numbered heardCommands) .empty).tables.people.persons.get?
      "ownersessionfirst").map (fun person => person.maturity) = some .candidate := by
    decide +kernel
  have after : ((replay .plain (numbered heardCommands ++ [heardAgain])
      .empty).tables.people.persons.get? "ownersessionfirst").map
        (fun person => person.maturity) = some .established := by
    decide +kernel
  obtain ⟨person, stored, candidate⟩ := Option.map_eq_some_iff.mp before
  obtain ⟨person', stored', established⟩ := Option.map_eq_some_iff.mp after
  obtain ⟨policies, request, policy, rows, commanded, configured, promoted⟩ :=
    (promotion_sound .plain "ownersessionfirst").1 (numbered heardCommands) heardAgain unforeseen
      person person' stored candidate stored' established
  have samePolicies : heardPolicies = policies := (Command.runVoiceprint.inj commanded).1
  rw [← samePolicies] at configured
  exact ⟨person, request, policy, rows, stored, configured, promoted⟩

end Heard

end EidolonData
