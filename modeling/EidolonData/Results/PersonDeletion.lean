import EidolonData.Invariants.People
import EidolonData.Invariants.Shared

/-!
# The permanent deletion of a Person

A Person is archived, then marked for erasure, then gone; a step back is only
possible before the erasure is requested.  The receipt outlasts the Person,
answers every repeated request and refuses the id for ever.
-/

namespace EidolonData

open Relational

/-- How far the deletion of a Person has come. -/
inductive DeletionStage where
  | absent
  | live
  | archived
  | pending
  | completed
  deriving DecidableEq, Repr

def PersonFile.stage (file : PersonFile) : DeletionStage :=
  match file.person, file.receipt with
  | none, none => .absent
  | none, some _ => .completed
  | some _, some _ => .pending
  | some person, none => if person.deleted then .archived else .live

inductive DeletionMoved (personId : String) : Command → DeletionStage → DeletionStage → Prop where
  | kept (command : Command) (stage : DeletionStage) : DeletionMoved personId command stage stage
  | created (command : Command) : DeletionMoved personId command .absent .live
  | archived (ownerId : String) (expectedRevision : Int) :
      DeletionMoved personId (.archivePerson ownerId personId expectedRevision) .live .archived
  | restored (ownerId : String) (expectedRevision : Int) :
      DeletionMoved personId (.restorePerson ownerId personId expectedRevision) .archived .live
  | requested (ownerId : String) (expectedRevision : Int) :
      DeletionMoved personId (.permanentlyDelete ownerId personId expectedRevision false)
        .archived .pending
  | completed (ownerId : String) (expectedRevision : Int) :
      DeletionMoved personId (.permanentlyDelete ownerId personId expectedRevision true)
        .pending .completed
  | ownerDeleted (ownerId : String) (stage : DeletionStage) :
      DeletionMoved personId (.deleteOwner ownerId) stage .absent

section Stages

variable {sdk : Sdk} {env : Env} {personId : String} {command : Command} {file file' : PersonFile}

theorem stage_live {person : PersonRow} (realm : MemoryRealmRow) (alive : person.deleted = false) :
    (PersonFile.bound person realm none).stage = .live :=
  if_neg (by simp [alive])

theorem stage_archived {person : PersonRow} (realm : MemoryRealmRow)
    (archived : person.deleted = true) : (PersonFile.bound person realm none).stage = .archived :=
  if_pos archived

theorem PersonMoved.stage (moved : PersonMoved sdk env personId command file file')
    (marked : file.Marked) : DeletionMoved personId command file.stage file'.stage := by
  cases moved with
  | kept => exact .kept _ _
  | created inserted | discovered inserted =>
      rw [stage_live _ inserted.deleted]
      exact .created _
  | @archived _ _ person realm receipt owned alive =>
      rw [(PersonFile.marked_bound_iff.mp marked).unreceipted alive]
      rw [stage_live realm alive]
      exact .archived _ _
  | @restored _ _ person realm receipt owned archived current kept =>
      cases receipt with
      | some stored => exact absurd ((PersonFile.marked_bound_iff.mp marked).received rfl).2 kept
      | none =>
          rw [stage_archived realm archived]
          exact .restored _ _
  | @deletionRequested _ _ person realm owned archived =>
      rw [stage_archived realm archived]
      exact .requested _ _
  | deletionCompleted => exact .completed _ _
  | @updated _ _ _ person _ receipt | @retired _ _ person _ receipt | @expired _ _ person _ receipt
  | @policyWritten _ _ _ _ person _ receipt | @memorySuspended _ _ person _ receipt
  | @memoryRestored _ _ person _ receipt | @evidenceRecorded _ _ _ person _ receipt
  | @promoted _ _ _ person _ _ receipt | @ownerArchived _ person _ receipt =>
      cases receipt with
      | some stored => exact .kept _ .pending
      | none => exact .kept _ (if person.deleted then .archived else .live)
  | ownerDeleted => exact .ownerDeleted _ _

theorem DeletionMoved.to_pending {stage stage' : DeletionStage}
    (moved : DeletionMoved personId command stage stage') (pending : stage' = .pending) :
    stage = .pending ∨ stage = .archived := by
  subst pending
  cases moved with
  | kept => exact Or.inl rfl
  | requested => exact Or.inr rfl

theorem DeletionMoved.to_completed {stage stage' : DeletionStage}
    (moved : DeletionMoved personId command stage stage') (completed : stage' = .completed) :
    stage = .completed ∨ stage = .pending := by
  subst completed
  cases moved with
  | kept => exact Or.inl rfl
  | completed => exact Or.inr rfl

/-- The stages a run has been through. -/
structure DeletionPassed (sdk : Sdk) (personId : String) (calls : List Call) : Prop where
  pending : ((replay sdk calls .empty).tables.file personId).stage = .pending →
    ∃ first rest, calls = first ++ rest ∧
      ((replay sdk first .empty).tables.file personId).stage = .archived
  completed : ((replay sdk calls .empty).tables.file personId).stage = .completed →
    ∃ first second rest, calls = first ++ second ++ rest ∧
      ((replay sdk first .empty).tables.file personId).stage = .archived ∧
      ((replay sdk (first ++ second) .empty).tables.file personId).stage = .pending

theorem Call.step_stage (call : Call) (db : Database) (sound : db.tables.PeopleSound sdk)
    (personId : String) : DeletionMoved personId call.command (db.tables.file personId).stage
      ((call.step sdk db).tables.file personId).stage := by
  rcases call.step_people db sound with same | stepped
  · rw [same]
    exact .kept _ _
  · exact (stepped.moved.files personId).stage (sound.marked personId)

theorem deletionPassed (sdk : Sdk) (personId : String) (calls : List Call) :
    DeletionPassed sdk personId calls := by
  induction calls using List.reverseRecOn with
  | nil =>
      refine ⟨?_, ?_⟩
      · rintro ⟨⟩
      · rintro ⟨⟩
  | append_singleton calls call induction =>
      have moved := call.step_stage (replay sdk calls .empty)
        (peopleSound_replay sdk calls) personId
      have ends : replay sdk (calls ++ [call]) .empty =
          call.step sdk (replay sdk calls .empty) := by
        rw [replay_append]
        rfl
      rw [← ends] at moved
      refine ⟨?_, ?_⟩
      · intro pending
        rcases moved.to_pending pending with before | before
        · obtain ⟨first, rest, split, archived⟩ := induction.pending before
          exact ⟨first, rest ++ [call], by rw [split, List.append_assoc], archived⟩
        · exact ⟨calls, [call], rfl, before⟩
      · intro completed
        rcases moved.to_completed completed with before | before
        · obtain ⟨first, second, rest, split, stages⟩ := induction.completed before
          exact ⟨first, second, rest ++ [call], by rw [split, List.append_assoc], stages⟩
        · obtain ⟨first, rest, split, archived⟩ := induction.pending before
          exact ⟨first, rest, [call], by rw [split], archived, split ▸ before⟩

end Stages

section Receipts

variable {sdk : Sdk} {env : Env} {ownerId personId : String} {command : Command}
  {file file' : PersonFile}

def PersonFile.Holds (receipt : PersonDeletionRow) (file : PersonFile) : Prop :=
  file.receipt = some receipt ∨ file.receipt = some { receipt with state := "completed" }

theorem PersonMoved.holds {receipt : PersonDeletionRow}
    (moved : PersonMoved sdk env personId command file file')
    (kept : command ≠ .deleteOwner receipt.ownerId) (held : file.Holds receipt) :
    file'.Holds receipt := by
  cases moved with
  | kept | updated | retired | expired | archived | restored | policyWritten | memorySuspended
  | memoryRestored | evidenceRecorded | promoted | ownerArchived => exact held
  | created | discovered | deletionRequested =>
      rcases held with stored | stored
      · cases stored
      · cases stored
  | deletionCompleted =>
      rcases held with stored | stored
      · cases stored
        exact Or.inr rfl
      · cases stored
        exact Or.inr rfl
  | @ownerDeleted other file owned =>
      have sameOwner : receipt.ownerId = other := by
        rcases held with stored | stored
        · exact owned.receipt receipt stored
        · exact owned.receipt { receipt with state := "completed" } stored
      exact absurd (congrArg Command.deleteOwner sameOwner.symm) kept

theorem PersonFile.Holds.started {receipt : PersonDeletionRow} (held : file.Holds receipt) :
    file.stage = .pending ∨ file.stage = .completed := by
  obtain ⟨person, realms, stored⟩ := file
  have some : ∃ row, stored = some row := by
    rcases held with found | found
    · exact ⟨_, found⟩
    · exact ⟨_, found⟩
  obtain ⟨row, rfl⟩ := some
  cases person with
  | none => exact Or.inr rfl
  | some person => exact Or.inl rfl

theorem replay_holds {receipt : PersonDeletionRow} (later : List Call) (db : Database)
    (sound : db.tables.PeopleSound sdk)
    (kept : ∀ call ∈ later, call.command ≠ .deleteOwner receipt.ownerId)
    (held : (db.tables.file personId).Holds receipt) :
    ((replay sdk later db).tables.file personId).Holds receipt := by
  refine replay_file (fun command => command ≠ .deleteOwner receipt.ownerId) personId ?_ later db
    sound kept held
  intro env command file file' moved allowed _ held
  exact moved.holds allowed held

/-- A deletion that is accepted is answered by the stored receipt. -/
structure DeletionAnswered (t' : Tables) (ownerId personId : String) (expectedRevision : Int)
    (complete : Bool) (answer : PersonDeletionRow) : Prop where
  stored : t'.people.personDeletions.get? personId = some answer
  owned : answer.ownerId = ownerId
  current : t'.Redeletes personId answer expectedRevision complete
  finished : complete = true → answer.state = "completed"

theorem DeletionMade.answered {t t' : Tables} {expectedRevision : Int}
    {answer : PersonDeletionRow} {complete : Bool}
    (made : DeletionMade ownerId personId expectedRevision t t' answer complete) :
    DeletionAnswered t' ownerId personId expectedRevision complete answer := by
  cases made with
  | kept _ unchanged received owned current finished =>
      rw [unchanged]
      exact ⟨received, owned, current, finished⟩
  | requested held owned archived current answered refiles =>
      refine ⟨congrArg PersonFile.receipt refiles.self, ?_, ?_, fun asked => ?_⟩
      · rw [answered]
        exact owned
      · rw [answered]
        exact Or.inl current.symm
      · cases asked
  | completed held owned receiptOwned current answered refiles =>
      rw [← answered] at refiles
      refine ⟨congrArg PersonFile.receipt refiles.self, ?_, ?_, fun _ => ?_⟩
      · rw [answered]
        exact receiptOwned
      · rw [answered]
        exact Or.inl current
      · rw [answered]

theorem permanentlyDelete_ownerActive (t : Tables) (expectedRevision : Int) (complete : Bool) :
    (permanentlyDelete env ownerId personId expectedRevision complete).Ensures t
      (fun _ _ => t.workspace.OwnerActive ownerId) := by
  rw [permanentlyDelete, Tx.ensures_bind]
  refine (requireActiveOwner_effect t ownerId).mono ?_
  rintro owner t₁ ⟨-, stored, active, -⟩ value t' _
  exact ⟨owner, stored, active⟩

theorem Changes.ownerActive {permits : Permits} {w w' : Workspace}
    (changes : Changes sdk permits w w') (active : w.OwnerActive ownerId) :
    w'.OwnerActive ownerId := by
  obtain ⟨owner, stored, alive⟩ := active
  obtain ⟨owner', stored', precedes⟩ := changes.outlives.owners _ _ stored
  exact ⟨owner', stored', precedes.status.trans alive⟩

theorem replay_ownerActive (later : List Call) (db : Database)
    (people : ∀ call ∈ later, call.command.aggregate = .people)
    (active : db.tables.workspace.OwnerActive ownerId) :
    (replay sdk later db).tables.workspace.OwnerActive ownerId := by
  induction later generalizing db with
  | nil => exact active
  | cons call later induction =>
      refine induction (call.step sdk db)
        (fun call member => people call (List.mem_cons_of_mem _ member)) ?_
      rcases call.step_effect db (call.command.permitted_all sdk _) with same | effect
      · rw [same]
        exact active
      · have person := people call List.mem_cons_self
        have changes : Changes sdk .all db.tables.workspace
            (call.step sdk db).tables.workspace := by
          generalize call.command = command at effect person
          cases command with
          | archiveOwner | deleteOwner | deleteCompanion => cases person
          | _ => exact effect
        exact changes.ownerActive active

theorem permanentlyDelete_again {t : Tables} {receipt : PersonDeletionRow} (env : Env)
    {expectedRevision : Int} {complete : Bool} (active : t.workspace.OwnerActive receipt.ownerId)
    (stored : t.people.personDeletions.get? personId = some receipt)
    (current : t.Redeletes personId receipt expectedRevision complete)
    (finished : complete = true → receipt.state = "completed") :
    (permanentlyDelete env receipt.ownerId personId expectedRevision complete).run t =
      .ok (receipt, t) := by
  obtain ⟨owner, ownerStored, alive⟩ := active
  have fresh : ¬ (expectedRevision ≠ receipt.revision ∧ (complete = true ∨
      (t.people.persons.get? personId).all (fun row => expectedRevision ≠ row.revision))) := by
    rintro ⟨different, stale⟩
    rcases current with same | ⟨unasked, person, found, same⟩
    · exact different same
    · rcases stale with asked | stale
      · rw [unasked] at asked
        cases asked
      · simp [found, same] at stale
  rw [permanentlyDelete, Tx.run_bind_ok (requireActiveOwner_run ownerStored alive)]
  simp only [getPersonDeletion, getPerson, Tx.run_read_bind, stored, Tx.run_refuseIf_bind,
    ne_eq, not_true_eq_false, if_false]
  rw [if_neg fresh]
  by_cases done : receipt.state = "completed"
  · rw [if_pos done]
    rfl
  · have unasked : ¬ complete = true := fun asked => done (finished asked)
    rw [if_neg done, if_neg unasked]
    rfl

end Receipts

section Erased

variable {sdk : Sdk} {t : Tables} {personId : String}

theorem createPerson_refused {receipt : PersonDeletionRow} (env : Env) (ttl : Timestamp)
    (ownerId : String) (request : PersonCreateRequest)
    (stored : t.people.personDeletions.get? request.personId = some receipt) :
    (createPerson sdk env ttl ownerId request).Ensures t (fun _ _ => False) := by
  simp only [createPerson, getPersonDeletion, Tx.ensures_bind, Tx.ensures_read,
    Tx.ensures_refuseIf]
  refine (requireActiveOwner_effect t ownerId).mono ?_
  rintro owner t₁ ⟨unchanged, -⟩ unreceipted
  rw [unchanged, stored] at unreceipted
  exact absurd rfl unreceipted

theorem discoverCandidate_refused {receipt : PersonDeletionRow} (env : Env)
    (policies : VoicePolicies) (ownerId : String) (request : CandidateDiscovery) (filed : t.Filed)
    (observed : t.people.Observed sdk) (erased : t.ErasedPerson (sdk.discoveryPersonId ownerId
      request.observation.sessionId request.observation.turnId))
    (stored : t.people.personDeletions.get? (sdk.discoveryPersonId ownerId
      request.observation.sessionId request.observation.turnId) = some receipt)
    (apart : ∀ evidence, sdk.evidenceDigest evidence ≠ sdk.discoveryDigest request) :
    (discoverCandidate sdk env policies ownerId request).Ensures t (fun _ _ => False) := by
  refine (discoverCandidate_effect sdk env policies ownerId t filed request).mono ?_
  rintro _ t' (⟨-, row, turned, sameDigest⟩ | discovered)
  · cases observed.accepted row turned.stored with
    | discovery other digest audio document person =>
        rw [turned.ownerId, turned.sessionId, turned.turnId] at person
        exact erased.observations row turned.stored person
    | evidence evidence digest => exact apart evidence (digest.symm.trans sameDigest)
  · have absent : t.people.personDeletions.get? _ = none :=
      congrArg PersonFile.receipt discovered.absent
    rw [stored] at absent
    cases absent

theorem restorePerson_refused {realm : MemoryRealmRow} (env : Env) (ownerId : String)
    (expectedRevision : Int) (realms : t.workspace.memoryRealms.select (fun row =>
      row.personId = some personId) = [realm]) (doomed : realm.status = .deleting) :
    (restorePerson sdk env ownerId personId expectedRevision).Ensures t (fun _ _ => False) := by
  simp only [restorePerson, checkPersonRevision, Tx.ensures_bind, Tx.ensures_refuseIf,
    Tx.ensures_read]
  refine (requirePerson_effect t ownerId personId true).mono ?_
  rintro person t₁ ⟨unchanged, -⟩ _ _ _ kept
  rw [unchanged, realms] at kept
  exact absurd (decide_eq_true doomed) kept

end Erased

section Deletion

variable (sdk : Sdk) (personId : String)

/-- What stands of a deletion that was answered, after more commands on the
people: the receipt, at most completed, and its answer to the request again. -/
structure DeletionStands (answer : PersonDeletionRow) (db : Database) : Prop where
  receipt : ∃ kept, db.tables.people.personDeletions.get? personId = some kept ∧
    (kept = answer ∨ kept = { answer with state := "completed" }) ∧
    (answer.state = "completed" → kept = answer) ∧
    ∀ env complete, (complete = true → kept.state = "completed") →
      db.transact (permanentlyDelete env answer.ownerId personId answer.revision complete) =
        .ok (kept, db)

/-- What holds while the erasure is pending: the Person stays archived, its realm
is still to be erased, and it is not restored. -/
structure DeletionPending (receipt : PersonDeletionRow) (db : Database) : Prop where
  stage : (db.tables.file personId).stage = .pending
  kept : db.tables.people.personDeletions.get? personId = some receipt
  archived : ∃ person, db.tables.people.persons.get? personId = some person ∧
    person.deleted = true
  realm : ∃ realm, db.tables.workspace.memoryRealms.select (fun row =>
    row.personId = some personId) = [realm] ∧ realm.status = .deleting
  restored : ∀ env ownerId expectedRevision,
    db.Refuses (restorePerson sdk env ownerId personId expectedRevision)

/-- What holds once the deletion is completed. -/
structure DeletionFinal (receipt : PersonDeletionRow) (db : Database) : Prop where
  erased : db.tables.ErasedPerson personId
  kept : db.tables.people.personDeletions.get? personId = some receipt
  completed : receipt.state = "completed"
  created : ∀ env ttl ownerId request, request.personId = personId →
    db.Refuses (createPerson sdk env ttl ownerId request)
  discovered : ∀ env policies ownerId request,
    sdk.discoveryPersonId ownerId request.observation.sessionId request.observation.turnId =
        personId →
    (∀ evidence, sdk.evidenceDigest evidence ≠ sdk.discoveryDigest request) →
      db.Refuses (discoverCandidate sdk env policies ownerId request)

variable {sdk personId}

theorem PersonFile.Holds.completed {receipt : PersonDeletionRow} {file : PersonFile}
    (held : file.Holds receipt) (completed : receipt.state = "completed") :
    file.receipt = some receipt := by
  rcases held with stored | stored
  · exact stored
  · rw [stored, ← completed]

theorem deletionStands {answer : PersonDeletionRow} {db : Database}
    (active : db.tables.workspace.OwnerActive answer.ownerId)
    (held : (db.tables.file personId).Holds answer) : DeletionStands personId answer db := by
  have repeated : ∀ kept : PersonDeletionRow, kept.ownerId = answer.ownerId →
      kept.revision = answer.revision →
      db.tables.people.personDeletions.get? personId = some kept →
      ∀ env complete, (complete = true → kept.state = "completed") →
        db.transact (permanentlyDelete env answer.ownerId personId answer.revision complete) =
          .ok (kept, db) := by
    intro kept sameOwner sameRevision stored env complete finished
    rw [← sameOwner] at active ⊢
    exact Database.transact_ok_iff.mpr
      (permanentlyDelete_again env active stored (Or.inl sameRevision.symm) finished)
  constructor
  by_cases done : answer.state = "completed"
  · have stored := held.completed done
    exact ⟨answer, stored, Or.inl rfl, fun _ => rfl, repeated answer rfl rfl stored⟩
  · rcases held with stored | stored
    · exact ⟨answer, stored, Or.inl rfl, fun _ => rfl, repeated answer rfl rfl stored⟩
    · exact ⟨_, stored, Or.inr rfl, fun completed => absurd completed done,
        repeated { answer with state := "completed" } rfl rfl stored⟩

theorem deletionPending {receipt : PersonDeletionRow} {db : Database}
    (sound : db.tables.PeopleSound sdk) (held : (db.tables.file personId).Holds receipt) :
    DeletionPending sdk personId receipt db ∨ (db.tables.file personId).stage = .completed := by
  rcases held.started with pending | completed
  · left
    cases stored : (db.tables.file personId).person with
    | none =>
        rw [PersonFile.stage, stored] at pending
        cases received : (db.tables.file personId).receipt with
        | none => simp [received] at pending
        | some _ => simp [received] at pending
    | some person =>
        obtain ⟨realm, bound, -, requested⟩ := (sound.filed personId).of_person stored
        have received : (db.tables.file personId).receipt = some receipt := by
          rcases held with same | completed
          · exact same
          · exact absurd (requested _ completed).2.2 (by simp)
        have marked := (sound.marked personId person realm _ bound).received
          (by rw [received]; rfl)
        have realms : db.tables.workspace.memoryRealms.select (fun row =>
            row.personId = some personId) = [realm] := congrArg PersonFile.realms bound
        exact
          { stage := pending
            kept := received
            archived := ⟨person, stored, marked.1⟩
            realm := ⟨realm, realms, marked.2⟩
            restored := fun env ownerId expectedRevision => Database.refuses_of_ensures
              (restorePerson_refused env ownerId expectedRevision realms marked.2) }
  · exact Or.inr completed

theorem deletionFinal {receipt : PersonDeletionRow} {db : Database}
    (sound : db.tables.PeopleSound sdk)
    (stored : db.tables.people.personDeletions.get? personId = some receipt)
    (completed : receipt.state = "completed") : DeletionFinal sdk personId receipt db := by
  have erased := Tables.ErasedPerson.of_absent db.property sound.filed
    (sound.filed.absent_of_completed stored completed)
  refine ⟨erased, stored, completed, ?_, ?_⟩
  · rintro env ttl ownerId request rfl
    exact Database.refuses_of_ensures (createPerson_refused env ttl ownerId request stored)
  · rintro env policies ownerId request rfl apart
    exact Database.refuses_of_ensures (discoverCandidate_refused env policies ownerId request
      sound.filed sound.observed erased stored apart)

variable (sdk personId)

/-- The permanent deletion of a Person only goes from archived by pending to
completed, a request that is repeated answers what is stored, once begun the
Person stays archived until it is gone, and once completed it is so for ever. -/
theorem permanent_deletion :
    (∀ calls, DeletionPassed sdk personId calls) ∧
    (∀ calls call, DeletionMoved personId call.command
      ((replay sdk calls .empty).tables.file personId).stage
      ((replay sdk (calls ++ [call]) .empty).tables.file personId).stage) ∧
    (∀ before env ownerId expectedRevision complete answer db,
      (replay sdk before .empty).transact (permanentlyDelete env ownerId personId
        expectedRevision complete) = .ok (answer, db) →
      answer.ownerId = ownerId ∧ (complete = true → answer.state = "completed") ∧
      (∀ env', db.transact (permanentlyDelete env' ownerId personId expectedRevision complete) =
        .ok (answer, db)) ∧
      ∀ later, (∀ call ∈ later, call.command.aggregate = .people) →
        DeletionStands personId answer (replay sdk later db)) ∧
    (∀ before receipt later, (replay sdk before .empty).tables.people.personDeletions.get?
        personId = some receipt →
      (∀ call ∈ later, call.command ≠ .deleteOwner receipt.ownerId) →
      DeletionPending sdk personId receipt (replay sdk (before ++ later) .empty) ∨
      ((replay sdk (before ++ later) .empty).tables.file personId).stage = .completed) ∧
    ∀ before receipt later, (replay sdk before .empty).tables.people.personDeletions.get?
        personId = some receipt → receipt.state = "completed" →
      (∀ call ∈ later, call.command ≠ .deleteOwner receipt.ownerId) →
      DeletionFinal sdk personId receipt (replay sdk (before ++ later) .empty) := by
  have stays : ∀ before receipt later, (replay sdk before .empty).tables.people.personDeletions.get?
      personId = some receipt → (∀ call ∈ later, call.command ≠ .deleteOwner receipt.ownerId) →
      ((replay sdk (before ++ later) .empty).tables.file personId).Holds receipt := by
    intro before receipt later stored kept
    rw [replay_append]
    exact replay_holds later _ (peopleSound_replay sdk before) kept (Or.inl stored)
  refine ⟨deletionPassed sdk personId, ?_, ?_, ?_, ?_⟩
  · intro calls call
    rw [replay_append]
    exact call.step_stage (replay sdk calls .empty) (peopleSound_replay sdk calls) personId
  · intro before env ownerId expectedRevision complete answer db accepted
    have ran := Database.transact_ok_iff.mp accepted
    have sound := peopleSound_replay sdk before
    have answered := (permanentlyDelete_file env _ sound.filed (replay sdk before .empty).property
      ownerId personId expectedRevision complete answer db.tables ran).answered
    have activeBefore := permanentlyDelete_ownerActive _ expectedRevision complete answer
      db.tables ran
    let call : Call :=
      { env := env, command := .permanentlyDelete ownerId personId expectedRevision complete }
    have committed : (replay sdk before .empty).transact (call.command.session sdk env) =
        .ok ((), db) := Database.transact_ok_iff.mpr (Tx.run_bind_ok ran _)
    have reached : call.step sdk (replay sdk before .empty) = db :=
      Database.after_of_ok committed
    have soundAfter : db.tables.PeopleSound sdk := reached ▸ call.step_sound _ sound
    have active : db.tables.workspace.OwnerActive answer.ownerId := by
      rw [← reached, answered.owned]
      exact replay_ownerActive [call] _ (fun later member => by
        cases List.mem_singleton.mp member
        rfl) activeBefore
    refine ⟨answered.owned, answered.finished, ?_, ?_⟩
    · intro env'
      refine Database.transact_ok_iff.mpr ?_
      rw [← answered.owned]
      exact permanentlyDelete_again env' active answered.stored answered.current answered.finished
    · intro later people
      refine deletionStands (replay_ownerActive later db people active)
        (replay_holds later db soundAfter ?_ (Or.inl answered.stored))
      intro call member deletes
      have person := people call member
      rw [deletes] at person
      cases person
  · intro before receipt later stored kept
    exact deletionPending (peopleSound_replay sdk (before ++ later))
      (stays before receipt later stored kept)
  · intro before receipt later stored completed kept
    exact deletionFinal (peopleSound_replay sdk (before ++ later))
      ((stays before receipt later stored kept).completed completed) completed

/-- A Person that is archived and deleted in two requests. -/
def deletionCommands : List Command :=
  [.createOwner "owner" "" "person" none none,
    .createPerson 0 "owner" { personId := "person", displayName := "" },
    .archivePerson "owner" "person" 1, .permanentlyDelete "owner" "person" 2 false,
    .permanentlyDelete "owner" "person" 2 true]

/-- Attempts to bring the Person back. -/
def revivingCalls : List Call :=
  [{ env := { uuid := fun site => .ofNat (512 + site), now := 32 }
     command := .restorePerson "owner" "person" 3 },
   { env := { uuid := fun site => .ofNat (528 + site), now := 33 }
     command := .createPerson 0 "owner" { personId := "person", displayName := "" } },
   { env := { uuid := fun site => .ofNat (544 + site), now := 34 }
     command := .restoreMemory "owner" "person" 3 }]

/-- They fail while the erasure is pending, and once it is completed. -/
theorem permanent_deletion_refuses :
    (∃ receipt, DeletionPending .plain "person" receipt
      (replay .plain (numbered (deletionCommands.take 4) ++ revivingCalls) .empty)) ∧
    ∀ env ttl, (replay .plain (numbered deletionCommands ++ revivingCalls) .empty).Refuses
      (createPerson .plain env ttl "owner" { personId := "person", displayName := "" }) := by
  have requested : ((replay .plain (numbered (deletionCommands.take 4))
      .empty).tables.people.personDeletions.get? "person").map (fun receipt => receipt.ownerId) =
        some "owner" := by
    decide +kernel
  have unfinished : ((replay .plain (numbered (deletionCommands.take 4) ++ revivingCalls)
      .empty).tables.file "person").stage ≠ .completed := by
    decide +kernel
  have stored : ((replay .plain (numbered deletionCommands)
      .empty).tables.people.personDeletions.get? "person").map (fun receipt =>
        (receipt.ownerId, receipt.state)) =
        some ("owner", "completed") := by
    decide +kernel
  have spared : ∀ call ∈ revivingCalls, call.command ≠ .deleteOwner "owner" := by
    intro call member
    simp only [revivingCalls, List.mem_cons, List.not_mem_nil, or_false] at member
    rcases member with rfl | rfl | rfl
    · rintro ⟨⟩
    · rintro ⟨⟩
    · rintro ⟨⟩
  obtain ⟨-, -, -, begun, completed⟩ := permanent_deletion .plain "person"
  constructor
  · obtain ⟨receipt, found, owner⟩ := Option.map_eq_some_iff.mp requested
    rw [← owner] at spared
    exact ⟨receipt, (begun _ receipt revivingCalls found spared).resolve_right unfinished⟩
  · obtain ⟨receipt, found, facts⟩ := Option.map_eq_some_iff.mp stored
    obtain ⟨owner, state⟩ := Prod.mk.inj facts
    rw [← owner] at spared
    intro env ttl
    exact (completed _ receipt revivingCalls found state spared).created env ttl "owner" _ rfl

end Deletion

end EidolonData
