import EidolonData.Results.IndependentObservations
import Mathlib.Data.Set.Card

/-!
# The turns an evidence receipt reports

A receipt counts the stored rows of its profile, revision and versions.  The
row of the discovery has them too unless the versions or the profile have
changed since, and is counted then.
-/

namespace EidolonData

open Relational

section Rows

variable {sdk : Sdk} {calls : List Call} {row : CandidateVoiceObservationRow}

/-- A row that `record_candidate_evidence` counts. -/
def CandidateVoiceObservationRow.agrees (row : CandidateVoiceObservationRow)
    (value : SpeakerObservation) : Bool :=
  some row.profileId = value.profileId && some row.profileRevision = value.profileRevision &&
    row.observationJson.decisionVersion = value.decisionVersion &&
    row.observationJson.scoringVersion = value.scoringVersion

def CandidateVoiceObservationRow.DiscoveredIn (sdk : Sdk) (calls : List Call)
    (row : CandidateVoiceObservationRow) : Prop :=
  ∃ first call rest, calls = first ++ call :: rest ∧ row.AddedAt sdk first call ∧
    ∃ policies ownerId request,
      call.command = .runVoiceprint policies ownerId (.discoverCandidate request)

theorem recorded_or_discovered
    (stored : row ∈ (replay sdk calls .empty).tables.people.candidateVoiceObservations.rows) :
    row.RecordedIn sdk calls ∨ row.DiscoveredIn sdk calls := by
  obtain ⟨first, call, rest, split, added⟩ := observation_added sdk calls row stored
  have adds := added.added
  generalize commanded : call.command = command at adds
  cases adds with
  | @discovered policies ownerId request =>
      exact Or.inr ⟨first, call, rest, split, added, policies, ownerId, request, commanded⟩
  | recorded => exact Or.inl ⟨first, call, rest, split, added.recordedAt commanded⟩

theorem CandidateVoiceObservationRow.DiscoveredIn.unnamed (discovered : row.DiscoveredIn sdk calls)
    (unforeseen : Unforeseen calls) : row.observationJson.profileId ≠ some row.profileId := by
  obtain ⟨first, call, rest, split, added, policies, ownerId, request, commanded⟩ := discovered
  have member : call ∈ calls := by
    rw [split]
    exact List.mem_append_right _ List.mem_cons_self
  have unnamed : ∀ profileId, call.command.discoveredAs = some profileId →
      call.command.drawnProfile call.env ≠ some profileId :=
    fun profileId named => not_drawn_of_foresees (unforeseen.2 call member) named
  have adds := added.added
  rw [commanded] at adds unnamed
  cases adds with
  | discovered unturned unheard absent made =>
      subst made
      intro named
      exact unnamed _ named rfl

end Rows

section Count

variable {sdk : Sdk} {calls : List Call} {env : Env} {policies : VoicePolicies} {ownerId : String}
  {request : CandidateEvidence}

/-- The call of `record_candidate_evidence`. -/
def Call.evidence (env : Env) (policies : VoicePolicies) (ownerId : String)
    (request : CandidateEvidence) : Call :=
  { env := env, command := .runVoiceprint policies ownerId (.recordCandidateEvidence request) }

/-- A stored observation of the Person a request is about, which agrees with it. -/
structure Tables.Agreeing (t : Tables) (ownerId : String) (request : CandidateEvidence)
    (row : CandidateVoiceObservationRow) : Prop where
  stored : row ∈ t.people.candidateVoiceObservations.rows
  owned : row.ownerId = ownerId
  person : row.personId = request.observation.personId.getD ""
  agrees : row.agrees request.observation = true

theorem recordCandidateEvidence_reports (t : Tables) :
    (recordCandidateEvidence sdk env policies ownerId request).Ensures t (fun receipt _ =>
      receipt.accepted = true → receipt.independentTurns = independentTurns
        (t.people.observationsOf ownerId (request.observation.personId.getD ""))
          request.observation + 1) := by
  rw [recordCandidateEvidence, Tx.ensures_bind, Tx.ensures_refuseIf]
  intro _
  rw [Tx.ensures_bind]
  refine (requireVoicePerson_effect t ownerId _).mono ?_
  rintro person t₁ ⟨unchanged, stored, -⟩
  rw [unchanged]
  have named : person.personId = request.observation.personId.getD "" := Table.key_of_get? stored
  simp only [selectObservations, Tx.ensures_bind, Tx.ensures_refuseIf, Tx.ensures_read]
  intro _
  split
  · simp only [Tx.ensures_bind, Tx.ensures_refuseIf, Tx.pure_eq, Tx.ensures_done]
    rintro _ ⟨⟩
  · simp only [Tx.ensures_bind, Tx.pure_eq, Tx.ensures_done]
    intro candidate t₂ _ _ t₃ _ _ t₄ _ updated t' _ _
    rw [People.observationsOf, named]

theorem agreeing_evidence (unforeseen : Unforeseen calls)
    {row : CandidateVoiceObservationRow} (call : Call)
    (stored : row ∈ (replay sdk calls .empty).tables.people.candidateVoiceObservations.rows) :
    row.RecordedIn sdk (calls ++ [call]) ↔
      row.observationJson.profileId = some row.profileId := by
  constructor
  · rintro ⟨first, recording, rest, split, recorded⟩
    exact recorded.profile
  · intro named
    rcases recorded_or_discovered stored with ⟨first, recording, rest, split, recorded⟩ | discovered
    · exact ⟨first, recording, rest ++ [call], by rw [split, List.append_assoc]; rfl, recorded⟩
    · exact absurd named (discovered.unnamed unforeseen)

theorem ncard_mem {α : Type} [DecidableEq α] {items : List α} (distinct : items.Nodup) :
    Set.ncard {item | item ∈ items} = items.length := by
  rw [← List.toFinset_card_of_nodup distinct, ← Set.ncard_coe_finset, List.coe_toFinset]

theorem receipt_counts {receipt : CandidateEvidenceReceipt} {db : Database}
    (unforeseen : Unforeseen calls)
    (ran : (replay sdk calls .empty).transact
      (recordCandidateEvidence sdk env policies ownerId request) = .ok (receipt, db))
    (accepted : receipt.accepted = true) :
    receipt.independentTurns = Set.ncard {row | db.tables.Agreeing ownerId request row ∧
        row.RecordedIn sdk (calls ++ [.evidence env policies ownerId request])} ↔
      ∀ row, (replay sdk calls .empty).tables.Agreeing ownerId request row →
        ¬ row.DiscoveredIn sdk calls := by
  let call := Call.evidence env policies ownerId request
  have runs := Database.transact_ok_iff.mp ran
  have sound := peopleSound_replay sdk calls
  let t := (replay sdk calls .empty).tables
  let personId := request.observation.personId.getD ""
  let agreeing := (t.people.observationsOf ownerId personId).filter (fun row =>
    row.agrees request.observation)
  let evidence := agreeing.filter (fun row => row.observationJson.profileId = some row.profileId)
  have reports : receipt.independentTurns = agreeing.length + 1 :=
    recordCandidateEvidence_reports t receipt db.tables runs accepted
  have member : ∀ row, row ∈ agreeing ↔ t.Agreeing ownerId request row := by
    intro row
    rw [List.mem_filter, People.observationsOf, Table.mem_select, ← Table.mem_rows_iff,
      Bool.and_eq_true, decide_eq_true_eq, decide_eq_true_eq]
    constructor
    · rintro ⟨⟨stored, owned, person⟩, agrees⟩
      exact ⟨stored, owned, person, agrees⟩
    · rintro ⟨stored, owned, person, agrees⟩
      exact ⟨⟨stored, owned, person⟩, agrees⟩
  have distinct : agreeing.Nodup :=
    ((t.people.candidateVoiceObservations.unique.of_map).filter _).filter _
  rcases recordCandidateEvidence_effect sdk env policies ownerId t sound.filed request receipt
    db.tables runs with ⟨-, known⟩ | ⟨person, candidate, -, recorded⟩
  · rw [known] at accepted
    cases accepted
  have committed : (replay sdk calls .empty).transact (call.command.session sdk env) =
      .ok ((), db) := Database.transact_ok_iff.mpr (Tx.run_bind_ok runs _)
  have reached : replay sdk (calls ++ [call]) .empty = db := by
    rw [replay_snoc]
    exact Database.after_of_ok committed
  let latest := evidenceObservation sdk env ownerId request person candidate
  have inserted : db.tables.people.candidateVoiceObservations =
      t.people.candidateVoiceObservations.insert latest :=
    congrArg Voices.observations recorded.voices
  have unstored : latest ∉ t.people.candidateVoiceObservations.rows := by
    intro stored
    have found := (Table.mem_rows_iff _ _).mp stored
    exact absurd (recorded.unobserved.symm.trans found) (by simp)
  have latestStored : latest ∈ db.tables.people.candidateVoiceObservations.rows := by
    rw [inserted]
    exact Table.mem_insert_self recorded.unobserved
  have latestAgrees : db.tables.Agreeing ownerId request latest := by
    refine ⟨latestStored, rfl, recorded.named, ?_⟩
    simp [CandidateVoiceObservationRow.agrees, latest, evidenceObservation,
      recorded.checked.profile, recorded.checked.profileRevision]
  have latestRecorded : latest.RecordedIn sdk (calls ++ [call]) :=
    ⟨calls, call, [], rfl,
      { command := ⟨policies, ownerId, request, rfl, rfl⟩
        profile := recorded.checked.profile.symm
        profileRevision := recorded.checked.profileRevision.symm
        unstored := unstored
        stored := reached ▸ latestStored }⟩
  -- The rows counted rightly are the evidence before and the latest row.
  have counted : {row | db.tables.Agreeing ownerId request row ∧
      row.RecordedIn sdk (calls ++ [.evidence env policies ownerId request])} =
        {row | row ∈ evidence ++ [latest]} := by
    ext row
    rw [Set.mem_ofPred_eq, Set.mem_ofPred_eq, List.mem_append, List.mem_singleton, List.mem_filter,
      member, decide_eq_true_eq]
    constructor
    · rintro ⟨agrees, recordedIn⟩
      have stored := agrees.stored
      rw [inserted] at stored
      rcases Table.mem_insert stored with same | before
      · exact Or.inr same
      · exact Or.inl ⟨⟨before, agrees.owned, agrees.person, agrees.agrees⟩,
          (agreeing_evidence unforeseen call before).mp recordedIn⟩
    · rintro (⟨agrees, named⟩ | rfl)
      · refine ⟨⟨?_, agrees.owned, agrees.person, agrees.agrees⟩,
          (agreeing_evidence unforeseen call agrees.stored).mpr named⟩
        rw [inserted]
        exact Table.mem_insert_of_mem _ agrees.stored
      · exact ⟨latestAgrees, latestRecorded⟩
  have distinctCounted : (evidence ++ [latest]).Nodup := by
    refine List.nodup_append.mpr ⟨distinct.filter _, List.nodup_singleton _, ?_⟩
    rintro row among _ last rfl
    cases List.mem_singleton.mp last
    exact unstored ((member _).mp (List.mem_filter.mp among).1).stored
  rw [counted, ncard_mem distinctCounted, reports, List.length_append, List.length_singleton,
    Nat.add_right_cancel_iff, eq_comm, List.length_filter_eq_length_iff]
  constructor
  · intro all row agrees discovered
    exact discovered.unnamed unforeseen (of_decide_eq_true (all row ((member row).mpr agrees)))
  · intro none row among
    have agrees := (member row).mp among
    rcases recorded_or_discovered agrees.stored with ⟨_, _, _, _, recordedAt⟩ | discovered
    · exact decide_eq_true recordedAt.profile
    · exact absurd discovered (none row agrees)

end Count

section Results

variable (sdk : Sdk)

/-- The turns an accepted request reports are the evidence that agrees with it,
exactly when no discovery does.  The ids drawn for profiles are not known
before they are drawn. -/
theorem evidence_receipt_counts_iff (calls : List Call) (unforeseen : Unforeseen calls) (env : Env)
    (policies : VoicePolicies) (ownerId : String) (request : CandidateEvidence)
    (receipt : CandidateEvidenceReceipt) (db : Database)
    (ran : (replay sdk calls .empty).transact
      (recordCandidateEvidence sdk env policies ownerId request) = .ok (receipt, db))
    (accepted : receipt.accepted = true) :
    receipt.independentTurns = Set.ncard {row | db.tables.Agreeing ownerId request row ∧
        row.RecordedIn sdk (calls ++ [.evidence env policies ownerId request])} ↔
      ∀ row, (replay sdk calls .empty).tables.Agreeing ownerId request row →
        ¬ row.DiscoveredIn sdk calls :=
  receipt_counts unforeseen ran accepted

/-- The discovery that the evidence below is about. -/
def discoveryCalls : List Call :=
  numbered (heardCommands.take 2)

theorem discovery_stored : ∃ row,
    (replay .plain discoveryCalls .empty).tables.people.candidateVoiceObservations.rows = [row] ∧
    row.ownerId = "owner" ∧ row.personId = "ownersessionfirst" ∧ row.profileRevision = 1 ∧
    row.profileId = "sp_41000000000000000000000000000000" ∧
    row.observationJson = heardDiscovery.observation := by
  have stored : (replay .plain discoveryCalls
      .empty).tables.people.candidateVoiceObservations.rows.map (fun row =>
        decide (row.ownerId = "owner" ∧ row.personId = "ownersessionfirst" ∧
          row.profileRevision = 1 ∧ row.profileId = "sp_41000000000000000000000000000000" ∧
          row.observationJson = heardDiscovery.observation)) = [true] := by
    decide +kernel
  obtain ⟨row, rows, shown⟩ := List.map_eq_singleton_iff.mp stored
  exact ⟨row, rows, of_decide_eq_true shown⟩

theorem discoveryCalls_unforeseen : Unforeseen discoveryCalls := by
  decide +kernel

/-- The discovery is counted along with the first evidence. -/
theorem first_receipt_counts_discovery : ∃ receipt db,
    (replay .plain discoveryCalls .empty).transact
      (recordCandidateEvidence .plain retryEnv heardPolicies "owner" (heardEvidence "second" 1)) =
        .ok (receipt, db) ∧ receipt.accepted = true ∧
    receipt.independentTurns ≠ Set.ncard {row | db.tables.Agreeing "owner"
      (heardEvidence "second" 1) row ∧ row.RecordedIn .plain (discoveryCalls ++
        [.evidence retryEnv heardPolicies "owner" (heardEvidence "second" 1)])} := by
  have runs : ((replay .plain discoveryCalls .empty).transact (recordCandidateEvidence .plain
      retryEnv heardPolicies "owner" (heardEvidence "second" 1))).toOption.map (fun ran =>
        ran.1.accepted) = some true := by
    decide +kernel
  obtain ⟨⟨receipt, db⟩, transacted, accepted⟩ := Option.map_eq_some_iff.mp runs
  have ran := Tx.ok_of_toOption transacted
  refine ⟨receipt, db, ran, accepted, ?_⟩
  intro counts
  have undiscovered := (receipt_counts discoveryCalls_unforeseen ran accepted).mp counts
  obtain ⟨row, rows, owned, person, revision, profile, document⟩ := discovery_stored
  have member : row ∈
      (replay .plain discoveryCalls .empty).tables.people.candidateVoiceObservations.rows := by
    rw [rows]
    exact List.mem_singleton.mpr rfl
  have agrees : row.agrees (heardEvidence "second" 1).observation = true := by
    rw [CandidateVoiceObservationRow.agrees, profile, revision, document]
    decide
  rcases recorded_or_discovered member with ⟨_, _, _, _, recordedAt⟩ | discovered
  · have named := recordedAt.profile
    rw [document] at named
    cases named
  · exact undiscovered row ⟨member, owned, person, agrees⟩ discovered

/-- Evidence under another decision version than that of the discovery. -/
def laterEvidence : CandidateEvidence :=
  { heardEvidence "second" 1 with
    observation := { (heardEvidence "second" 1).observation with decisionVersion := "later" } }

theorem evidence_receipt_counts_later : ∃ receipt db,
    (replay .plain discoveryCalls .empty).transact
      (recordCandidateEvidence .plain retryEnv heardPolicies "owner" laterEvidence) =
        .ok (receipt, db) ∧
    receipt.independentTurns = Set.ncard {row | db.tables.Agreeing "owner" laterEvidence row ∧
      row.RecordedIn .plain (discoveryCalls ++
        [.evidence retryEnv heardPolicies "owner" laterEvidence])} := by
  have runs : ((replay .plain discoveryCalls .empty).transact (recordCandidateEvidence .plain
      retryEnv heardPolicies "owner" laterEvidence)).toOption.map (fun ran =>
        ran.1.accepted) = some true := by
    decide +kernel
  obtain ⟨⟨receipt, db⟩, transacted, accepted⟩ := Option.map_eq_some_iff.mp runs
  have ran := Tx.ok_of_toOption transacted
  refine ⟨receipt, db, ran, (evidence_receipt_counts_iff .plain discoveryCalls
    discoveryCalls_unforeseen retryEnv heardPolicies "owner" laterEvidence receipt db ran
      accepted).mpr ?_⟩
  intro row agreeing _
  obtain ⟨stored, rows, owned, person, revision, profile, document⟩ := discovery_stored
  have member := agreeing.stored
  rw [rows] at member
  cases List.mem_singleton.mp member
  have agrees := agreeing.agrees
  rw [CandidateVoiceObservationRow.agrees, profile, revision, document] at agrees
  exact absurd agrees (by decide)

end Results

end EidolonData
