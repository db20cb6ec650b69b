import EidolonData.Effects.Evidence
import EidolonData.Effects.Parts
import EidolonData.People.Moves

/-!
# The commands and the files of the Persons

Every command that commits moves the file of each Person as the life of a
Person allows; but for a few it moves one file and keeps the others.
-/

namespace EidolonData

open Relational

/-- Every file is moved as the command may move it. -/
def Tables.Moves (sdk : Sdk) (env : Env) (command : Command) (t t' : Tables) : Prop :=
  ∀ personId, PersonMoved sdk env personId command (t.file personId) (t'.file personId)

section Rules

variable {sdk : Sdk} {env : Env} {command : Command} {t t' : Tables} {personId : String}
  {file file' : PersonFile}

theorem Tables.Moves.of_same (same : ∀ personId, t'.file personId = t.file personId) :
    t.Moves sdk env command t' := by
  intro personId
  rw [same]
  exact .kept _ _

theorem Tables.Moves.refl : t.Moves sdk env command t := .of_same (fun _ => rfl)

theorem Tables.Refiles.moves (refiles : t.Refiles t' personId file')
    (held : t.file personId = file) (moved : PersonMoved sdk env personId command file file') :
    t.Moves sdk env command t' := by
  intro other
  rw [refiles]
  by_cases same : other = personId
  · subst same
    rw [if_pos rfl, held]
    exact moved
  · rw [if_neg same]
    exact .kept _ _

end Rules

section Reads

variable (t : Tables) {ownerId personId : String}

theorem requirePerson_file (filed : t.Filed) (includeDeleted : Bool) :
    (requirePerson ownerId personId includeDeleted).Ensures t (fun person t' =>
      t' = t ∧ person.ownerId = ownerId ∧ (includeDeleted = false → person.deleted = false) ∧
        ∃ realm receipt, t.file personId = .bound person realm receipt ∧
          realm.ownerId = ownerId) := by
  simp only [requirePerson, getPerson, Tx.ensures_bind, Tx.ensures_read, Tx.ensures_require]
  refine (requireActiveOwner_effect t ownerId).mono ?_
  rintro owner _ ⟨rfl, -⟩ person named
  obtain ⟨stored, accepted⟩ := Option.filter_eq_some_iff.mp named
  simp only [Bool.and_eq_true, decide_eq_true_eq] at accepted
  obtain ⟨owned, alive⟩ := accepted
  obtain ⟨realm, held, realmOwned, -⟩ := (filed personId).of_person stored
  refine ⟨rfl, owned, ?_, realm, _, held, realmOwned.trans owned⟩
  intro excluded
  simpa [excluded] using alive

variable {person : PersonRow} {realm : MemoryRealmRow} {receipt : Option PersonDeletionRow}

theorem personRealm_file (held : t.file personId = .bound person realm receipt)
    (owned : realm.ownerId = ownerId) :
    (personRealm ownerId personId).Ensures t (fun stored t' => t' = t ∧ stored = some realm) := by
  have realms : t.workspace.memoryRealms.rows.filter (fun row => row.personId = some personId) =
      [realm] := congrArg PersonFile.realms held
  have owns : t.workspace.memoryRealms.select (fun row =>
      row.ownerId = ownerId && row.personId = some personId) = [realm] := by
    rw [Table.select, ← List.filter_filter, realms]
    simp [owned]
  simp only [personRealm, Tx.ensures_read, owns, List.head?_cons]
  exact ⟨trivial, trivial⟩

/-- Nothing is stored of a Person that has neither row nor receipt. -/
theorem file_absent (filed : t.Filed) (unknown : t.people.persons.get? personId = none)
    (noReceipt : t.people.personDeletions.get? personId = none) :
    t.file personId = .absent := by
  obtain ⟨same, -⟩ := (filed personId).of_absent unknown
  rw [same]
  show (⟨none, [], t.people.personDeletions.get? personId⟩ : PersonFile) = _
  rw [noReceipt]
  rfl

end Reads

section Pool

def People.pool (p : People) (ownerId : String) (now ttl : Timestamp) : List PersonRow :=
  p.persons.select (fun row => row.ownerId = ownerId && row.isPooled now ttl)

theorem candidateCapacity_effect (sdk : Sdk) (env : Env) (t : Tables) (ttl : Timestamp)
    (ownerId : String) :
    (candidateCapacity sdk env ttl ownerId).Ensures t (fun _ t' => t' = t ∧
      (t.people.pool ownerId env.now ttl).length < sdk.maxCandidatePersons) := by
  simp only [candidateCapacity, Tx.ensures_bind, Tx.ensures_read, Tx.ensures_refuseIf, not_le]
  intro free
  exact ⟨trivial, free⟩

end Pool

section Persons

variable (sdk : Sdk) (env : Env) (t : Tables) (filed : t.Filed)

theorem refiles_inserted {t₁ t₂ : Tables} {person : PersonRow} {realm : MemoryRealmRow}
    {personId : String} (fresh : t₁.workspace.memoryRealms.get? realm.realmId = none)
    (absent : t.file personId = .absent) (named : person.personId = personId)
    (persons : Table.Stores t.people.persons t₁.people.persons person)
    (receipts : t₁.people.personDeletions = t.people.personDeletions)
    (workspace : t₁.workspace = t.workspace) (people : t₂.people = t₁.people)
    (realms : t₂.workspace.memoryRealms = t₁.workspace.memoryRealms.insert realm)
    (bound : realm.personId = some personId) :
    t.Refiles t₂ personId (.bound person realm none) := by
  subst named
  have stored : t₂.people.persons.get? person.personId = some person := by
    rw [people]
    exact persons.self
  have selects : ∀ other, t₂.workspace.memoryRealms.select (fun row => row.personId = some other) =
      t.workspace.memoryRealms.select (fun row => row.personId = some other) ++
        if other = person.personId then [realm] else [] := by
    intro other
    rw [realms, Table.select, Table.rows_insert fresh, List.filter_append, workspace]
    congr 1
    by_cases same : other = person.personId
    · simp [same, bound]
    · simp [same, bound, Ne.symm same]
  intro other
  show ({ person := _, realms := _, receipt := _ } : PersonFile) = _
  by_cases same : other = person.personId
  · subst same
    have none := congrArg PersonFile.realms absent
    have noReceipt := congrArg PersonFile.receipt absent
    simp only [Tables.file, PersonFile.absent] at none noReceipt
    rw [if_pos rfl, selects, stored, people, receipts, none, noReceipt]
    simp [PersonFile.bound]
  · have before : t₁.people.persons.get? other = t.people.persons.get? other := persons.other same
    rw [if_neg same, selects, people, receipts, before]
    simp [same, Tables.file]

theorem insertNewPerson_inserted (owner : OwnerRow) (request : PersonCreateRequest)
    (absent : t.file request.personId = .absent) :
    (insertNewPerson sdk env owner request).Ensures t (fun person t' =>
      ∃ realm, PersonInserted sdk env owner.ownerId request person realm ∧
        t.Refiles t' request.personId (.bound person realm none)) := by
  simp only [insertNewPerson, insertPerson, bindMemory, Tx.ensures_bind, ensures_insert,
    ensures_auditPerson, ensures_validated, ensures_insertRealm, Tx.pure_eq, Tx.ensures_done]
  intro fresh defaults valid freshRealm
  refine ⟨_, And.symm ⟨refiles_inserted t freshRealm absent rfl (Table.stores_insert fresh) rfl rfl
    rfl rfl rfl, ?_⟩⟩
  exact
    { personId := rfl
      ownerId := rfl
      status := rfl
      deleted := rfl
      maturity := rfl
      recognition := rfl
      activity := rfl
      revision := rfl
      realm := ⟨owner, defaults, valid, rfl⟩ }

include filed

/-- A Person is created where nothing is stored of it, a candidate where the
pool has room. -/
theorem createPerson_file (ttl : Timestamp) (ownerId : String) (request : PersonCreateRequest) :
    (createPerson sdk env ttl ownerId request).Ensures t (fun _ t' => t' = t ∨
      t.file request.personId = .absent ∧
      (request.maturity = .candidate →
        (t.people.pool ownerId env.now ttl).length < sdk.maxCandidatePersons) ∧
      ∃ person realm, PersonInserted sdk env ownerId request person realm ∧
        t.Refiles t' request.personId (.bound person realm none)) := by
  simp only [createPerson, getPersonDeletion, getPerson, Tx.ensures_bind, Tx.ensures_read,
    Tx.ensures_refuseIf]
  refine (requireActiveOwner_effect t ownerId).mono ?_
  rintro owner t₁ ⟨unchanged, -, -, rfl⟩
  rw [unchanged]
  intro unreceipted
  cases existing : t.people.persons.get? request.personId with
  | some row =>
      simp only [Tx.ensures_bind, Tx.ensures_refuseIf, Tx.pure_eq, Tx.ensures_done]
      intros
      exact Or.inl trivial
  | none =>
      have absent : t.file request.personId = .absent :=
        file_absent t filed existing (by simpa using unreceipted)
      have inserts := insertNewPerson_inserted sdk env t owner request absent
      simp only [Tx.ensures_bind, Tx.ensures_read, Tx.ensures_refuseIf, Tx.ensures_ite]
      intro _
      refine ⟨?_, ?_⟩
      · intro _
        refine (candidateCapacity_effect sdk env t ttl owner.ownerId).mono ?_
        rintro _ t₂ ⟨unchanged, free⟩
        rw [unchanged]
        refine inserts.mono ?_
        rintro person t' ⟨realm, inserted, refiles⟩
        exact Or.inr ⟨absent, fun _ => free, person, realm, inserted, refiles⟩
      · intro established
        refine inserts.mono ?_
        rintro person t' ⟨realm, inserted, refiles⟩
        exact Or.inr ⟨absent, fun candidate => absurd candidate established, person, realm,
          inserted, refiles⟩

theorem createPerson_moves (ttl : Timestamp) (ownerId : String) (request : PersonCreateRequest) :
    (createPerson sdk env ttl ownerId request).Ensures t
      (fun _ t' => t.Moves sdk env (.createPerson ttl ownerId request) t') := by
  refine (createPerson_file sdk env t filed ttl ownerId request).mono ?_
  rintro _ t' (unchanged | ⟨absent, -, person, realm, inserted, refiles⟩)
  · rw [unchanged]
    exact .refl
  · exact refiles.moves absent (.created inserted rfl)

section Memory

variable {t} {ownerId personId : String} {person : PersonRow} {realm : MemoryRealmRow}
  {receipt : Option PersonDeletionRow}

omit filed in
theorem deactivateMemory_file (held : t.file personId = .bound person realm receipt)
    (owned : realm.ownerId = ownerId) :
    (deactivateMemory sdk ownerId personId).Ensures t (fun _ t' =>
      t.Refiles t' personId (.bound person (realm.suspended sdk) receipt)) := by
  simp only [deactivateMemory, Tx.ensures_bind]
  refine (personRealm_file t held owned).mono ?_
  rintro _ _ ⟨rfl, rfl⟩
  simp only [ensures_writeRealm_file]
  exact refiles_withRealm held rfl

end Memory

theorem updatePerson_file (ttl : Timestamp) (ownerId personId : String)
    (request : PersonUpdateRequest) :
    (updatePerson sdk env ttl ownerId personId request).Ensures t (fun _ t' =>
      ∃ person realm receipt, t.file personId = .bound person realm receipt ∧
        person.ownerId = ownerId ∧ person.deleted = false ∧
        person.revision = request.expectedRevision ∧
        (person.status ≠ .active →
          ({ person with status := request.status }).isPooled env.now ttl = true →
            (t.people.pool ownerId env.now ttl).length < sdk.maxCandidatePersons) ∧
        t.Refiles t' personId (.bound (person.updated request)
          (if request.status = .inactive then realm.suspended sdk else realm) receipt)) := by
  simp only [updatePerson, checkPersonRevision, Tx.ensures_bind, Tx.ensures_refuseIf,
    Tx.ensures_ite, Tx.ensures_done, Tx.pure_eq, ensures_writePerson_file, ensures_auditPerson]
  refine (requirePerson_file t filed false).mono ?_
  rintro person t₁ ⟨unchanged, owned, alive, realm, receipt, held, realmOwned⟩
  rw [unchanged]
  intro current
  let fact : AuditFact := governanceFact (env.uuid 0) env.now person.ownerId "person"
    person.personId "person.updated" [("revision", .int (person.revision + 1))]
  let written : Tables → Prop := fun t' => t.Refiles t' personId (.bound (person.updated request)
    (if request.status = .inactive then realm.suspended sdk else realm) receipt)
  have writes : (request.status = .inactive →
      (deactivateMemory sdk ownerId personId).Ensures t (fun _ t' =>
        written ((t'.withPerson (person.updated request)).addFact env.now fact))) ∧
      (¬ request.status = .inactive →
        written ((t.withPerson (person.updated request)).addFact env.now fact)) := by
    constructor
    · intro inactive
      refine (deactivateMemory_file sdk held realmOwned).mono ?_
      intro _ t₁ suspended
      simp only [written, if_pos inactive]
      exact suspended.trans (refiles_withPerson suspended.self rfl)
    · intro active
      simp only [written, if_neg active]
      exact refiles_withPerson held rfl
  have ends : ∀ {t'}, (person.status ≠ .active →
        ({ person with status := request.status }).isPooled env.now ttl = true →
          (t.people.pool ownerId env.now ttl).length < sdk.maxCandidatePersons) → written t' →
      ∃ person realm receipt, t.file personId = .bound person realm receipt ∧
        person.ownerId = ownerId ∧ person.deleted = false ∧
        person.revision = request.expectedRevision ∧
        (person.status ≠ .active →
          ({ person with status := request.status }).isPooled env.now ttl = true →
            (t.people.pool ownerId env.now ttl).length < sdk.maxCandidatePersons) ∧
        t.Refiles t' personId (.bound (person.updated request)
          (if request.status = .inactive then realm.suspended sdk else realm) receipt) :=
    fun room wrote =>
      ⟨person, realm, receipt, held, owned, alive rfl, not_not.mp current, room, wrote⟩
  refine ⟨?_, ?_⟩
  · intro _
    refine (candidateCapacity_effect sdk env t ttl ownerId).mono ?_
    rintro _ t₂ ⟨unchanged, free⟩
    rw [unchanged]
    refine ⟨fun inactive => (writes.1 inactive).mono ?_, fun active => ends ?_ (writes.2 active)⟩
    · intro _ _ wrote
      exact ends (fun _ _ => free) wrote
    · exact fun _ _ => free
  · intro unpooled
    have room : person.status ≠ .active →
        ({ person with status := request.status }).isPooled env.now ttl = true →
          (t.people.pool ownerId env.now ttl).length < sdk.maxCandidatePersons :=
      fun asleep pooled => absurd ⟨asleep, pooled⟩ unpooled
    refine ⟨fun inactive => (writes.1 inactive).mono ?_, fun active => ends room (writes.2 active)⟩
    intro _ _ wrote
    exact ends room wrote

theorem updatePerson_moves (ttl : Timestamp) (ownerId personId : String)
    (request : PersonUpdateRequest) :
    (updatePerson sdk env ttl ownerId personId request).Ensures t
      (fun _ t' => t.Moves sdk env (.updatePerson ttl ownerId personId request) t') := by
  refine (updatePerson_file sdk env t filed ttl ownerId personId request).mono ?_
  rintro _ t' ⟨person, realm, receipt, held, owned, alive, current, -, refiles⟩
  exact refiles.moves held (.updated owned alive current)

theorem retireCandidate_moves (ownerId personId : String) (expectedRevision : Int) :
    (retireCandidate env ownerId personId expectedRevision).Ensures t
      (fun _ t' => t.Moves sdk env (.retireCandidate ownerId personId expectedRevision) t') := by
  simp only [retireCandidate, checkPersonRevision, Tx.ensures_bind, Tx.ensures_refuseIf,
    Tx.ensures_ite, Tx.ensures_done, Tx.pure_eq, ensures_writePerson_file, ensures_auditPerson]
  refine (requirePerson_file t filed false).mono ?_
  rintro person t₁ ⟨unchanged, owned, alive, realm, receipt, held, -⟩
  rw [unchanged]
  intro current candidate
  refine ⟨?_, fun _ => .refl⟩
  intro _
  exact (refiles_withPerson held rfl).moves held
    (.retired owned (alive rfl) (not_not.mp candidate) (not_not.mp current))

theorem archivePerson_file (ownerId personId : String) (expectedRevision : Int) :
    (archivePerson sdk env ownerId personId expectedRevision).Ensures t (fun _ t' =>
      ∃ person realm receipt, t.file personId = .bound person realm receipt ∧
        person.ownerId = ownerId ∧ person.deleted = false ∧ person.revision = expectedRevision ∧
        t.Refiles t' personId
          (.bound (person.archived env.now) (realm.suspended sdk) receipt)) := by
  simp only [archivePerson, checkPersonRevision, Tx.ensures_bind, Tx.ensures_refuseIf,
    Tx.ensures_modify, ensures_writePerson_file, ensures_auditPerson]
  refine (requirePerson_file t filed false).mono ?_
  rintro person t₁ ⟨unchanged, owned, alive, realm, receipt, held, realmOwned⟩
  rw [unchanged]
  intro current
  refine (deactivateMemory_file sdk ((file_addFact _ _).trans held) realmOwned).mono ?_
  intro _ t₂ suspended
  have erased : t₂.Refiles ((t₂.mapPeople (fun p => p.eraseBiometrics personId)).withPerson
      (person.archived env.now)) personId
        (.bound (person.archived env.now) (realm.suspended sdk) receipt) :=
    refiles_withPerson ((file_of_tables rfl rfl rfl).trans suspended.self) rfl
  exact ⟨person, realm, receipt, held, owned, alive rfl, not_not.mp current,
    Tables.Refiles.trans suspended erased⟩

theorem archivePerson_moves (ownerId personId : String) (expectedRevision : Int) :
    (archivePerson sdk env ownerId personId expectedRevision).Ensures t
      (fun _ t' => t.Moves sdk env (.archivePerson ownerId personId expectedRevision) t') := by
  refine (archivePerson_file sdk env t filed ownerId personId expectedRevision).mono ?_
  rintro _ t' ⟨person, realm, receipt, held, owned, alive, current, refiles⟩
  exact refiles.moves held (.archived owned alive current)

theorem restorePerson_moves (ownerId personId : String) (expectedRevision : Int) :
    (restorePerson sdk env ownerId personId expectedRevision).Ensures t
      (fun _ t' => t.Moves sdk env (.restorePerson ownerId personId expectedRevision) t') := by
  simp only [restorePerson, checkPersonRevision, Tx.ensures_bind, Tx.ensures_refuseIf,
    Tx.ensures_read, ensures_writePerson_file, ensures_auditPerson, Tx.pure_eq, Tx.ensures_done]
  refine (requirePerson_file t filed true).mono ?_
  rintro person t₁ ⟨unchanged, owned, -, realm, receipt, held, realmOwned⟩
  rw [unchanged]
  intro current _ archived undoomed
  have kept : realm.status ≠ .deleting := by
    have realms : t.workspace.memoryRealms.select (fun row => row.personId = some personId) =
        [realm] := congrArg PersonFile.realms held
    simpa [realms] using undoomed
  have written : t.Refiles (t.withPerson person.restored) personId
      (.bound person.restored realm receipt) := refiles_withPerson held rfl
  refine (deactivateMemory_file sdk written.self realmOwned).mono ?_
  intro _ t₂ suspended
  exact (written.trans suspended).moves held
    (.restored owned (by simpa using archived) (not_not.mp current) kept)

theorem requestDeletion_file (ownerId personId : String) (expectedRevision : Int)
    (unreceipted : t.people.personDeletions.get? personId = none) :
    (requestDeletion env ownerId personId expectedRevision).Ensures t (fun receipt t' =>
      ∃ person realm, t.file personId = .bound person realm none ∧ person.ownerId = ownerId ∧
        person.deleted = true ∧ person.revision = expectedRevision ∧
        receipt = deletionReceipt person realm ∧
        t.Refiles t' personId (.bound person.revised realm.doomed (some receipt))) := by
  simp only [requestDeletion, checkPersonRevision, Tx.ensures_bind, Tx.ensures_refuseIf,
    Tx.ensures_require, ensures_insert, ensures_writePerson_file, ensures_writeRealm_file,
    ensures_auditPerson, Tx.pure_eq, Tx.ensures_done]
  refine (requirePerson_file t filed true).mono ?_
  rintro person t₁ ⟨unchanged, owned, -, realm, receipt, held, realmOwned⟩
  rw [unchanged]
  intro current archived
  have none : receipt = none := by
    rw [← receipt_of_file held]
    exact unreceipted
  subst none
  refine (personRealm_file t held realmOwned).mono ?_
  rintro _ t₂ ⟨unchanged, rfl⟩ _ ⟨⟩ fresh
  rw [unchanged] at fresh ⊢
  have named : person.personId = personId := Table.key_of_get? (person_of_file held)
  have written : (⟨personId, ownerId, expectedRevision, realm.realmId, "pending"⟩ :
      PersonDeletionRow) = deletionReceipt person realm := by
    rw [deletionReceipt, named, owned, not_not.mp current]
  rw [written]
  have received : t.Refiles (t.mapPeople (fun p =>
      { p with personDeletions := p.personDeletions.insert (deletionReceipt person realm) }))
      personId (.bound person realm (some (deletionReceipt person realm))) := by
    have keyed : key (deletionReceipt person realm) = personId := named
    rw [← keyed] at fresh
    intro other
    have stores := Table.get?_insert fresh other
    show ({ person := (t.file other).person, realms := (t.file other).realms, receipt := _ } :
      PersonFile) = _
    rw [keyed] at stores
    by_cases same : other = personId
    · subst same
      rw [if_pos rfl, held]
      simp [Tables.mapPeople, stores, PersonFile.bound]
    · rw [if_neg same]
      simp [Tables.mapPeople, stores, same, Tables.file]
  have doomed := received.trans (refiles_withRealm received.self (show _ = realm.doomed from rfl))
  exact ⟨person, realm, held, owned, by simpa using archived, not_not.mp current, rfl,
    doomed.trans (refiles_withPerson doomed.self rfl)⟩

omit filed in
theorem completeDeletion_file (integrity : t.Integrity) {ownerId personId : String}
    {person : PersonRow} {realm : MemoryRealmRow} {receipt : PersonDeletionRow}
    (held : t.file personId = .bound person realm (some receipt))
    (owned : realm.ownerId = ownerId) (pending : receipt.realmId = realm.realmId)
    (row : PersonRow) :
    (completeDeletion env ownerId personId receipt row).Ensures t (fun answer t' =>
      answer = { receipt with state := "completed" } ∧
        t.Refiles t' personId ⟨none, [], some { receipt with state := "completed" }⟩) := by
  simp only [completeDeletion, Tx.ensures_bind, ensures_auditPerson, Tx.ensures_modify, Tx.pure_eq,
    Tx.ensures_done]
  refine ⟨trivial, ?_⟩
  obtain ⟨-, names⟩ := realm_of_file held
  have realms : t.workspace.memoryRealms.select (fun row => row.personId = some personId) =
      [realm] := congrArg PersonFile.realms held
  have owners : ∀ {other row}, t.people.persons.get? other = some row →
      t.workspace.owners.has row.ownerId = true := by
    intro other row stored
    have named := integrity.people.personOwner row (Table.mem_of_get? stored)
    simp only [Bool.and_eq_true] at named
    exact named.1
  have receiptOwners : ∀ {other row}, t.people.personDeletions.get? other = some row →
      t.workspace.owners.has row.ownerId = true :=
    fun stored => integrity.people.deletionOwner _ (Table.mem_of_get? stored)
  intro other
  show ({ person := _, realms := _, receipt := _ } : PersonFile) = _
  simp only [Tables.mapPeople, Tables.mapWorkspace, Tables.addFact, Workspace.withoutRealms,
    People.cascade, Table.select_retain, Table.get?_retain, Table.get?_modify]
  by_cases same : other = personId
  · subst same
    have received := receipt_of_file held
    rw [if_pos rfl, if_pos rfl, realms, received]
    have gone : ((t.people.persons.get? other).filter (fun row => row.personId ≠ other)) =
        none := by
      rw [Option.filter_eq_none_iff]
      intro row stored
      have key : row.personId = other := Table.key_of_get? stored
      simp [key]
    rw [gone]
    simp [pending, owned, names, receiptOwners received]
  · rw [if_neg same, if_neg same]
    have kept : ((t.people.persons.get? other).filter (fun row => row.personId ≠ personId)).filter
        (fun row => t.workspace.owners.has row.ownerId) = t.people.persons.get? other := by
      cases stored : t.people.persons.get? other with
      | none => rfl
      | some row =>
          have key : row.personId = other := Table.key_of_get? stored
          simp [key, same, owners stored]
    have receipts : (t.people.personDeletions.get? other).filter
        (fun row => t.workspace.owners.has row.ownerId) = t.people.personDeletions.get? other := by
      cases stored : t.people.personDeletions.get? other with
      | none => rfl
      | some row => simp [receiptOwners stored]
    have spared : (t.workspace.memoryRealms.select (fun row => row.personId = some other)).filter
        (fun row => !(decide (row.realmId = receipt.realmId) && decide (row.ownerId = ownerId) &&
          decide (row.personId = some personId))) =
        t.workspace.memoryRealms.select (fun row => row.personId = some other) := by
      rw [List.filter_eq_self]
      intro row member
      obtain ⟨-, named⟩ := Table.mem_select.mp member
      simp [of_decide_eq_true named, same]
    rw [kept, receipts, spared]
    rfl

/-- The revision a receipt answers to: its own, or to a request that only
begins the deletion that of the Person. -/
def Tables.Redeletes (t : Tables) (personId : String) (receipt : PersonDeletionRow)
    (expectedRevision : Int) (complete : Bool) : Prop :=
  expectedRevision = receipt.revision ∨ complete = false ∧
    ∃ person, t.people.persons.get? personId = some person ∧ person.revision = expectedRevision

inductive DeletionMade (ownerId personId : String) (expectedRevision : Int) (t t' : Tables)
    (answer : PersonDeletionRow) : Bool → Prop where
  | kept (complete : Bool) (unchanged : t' = t)
      (received : t.people.personDeletions.get? personId = some answer)
      (owned : answer.ownerId = ownerId)
      (current : t.Redeletes personId answer expectedRevision complete)
      (finished : complete = true → answer.state = "completed") :
      DeletionMade ownerId personId expectedRevision t t' answer complete
  | requested {person : PersonRow} {realm : MemoryRealmRow}
      (held : t.file personId = .bound person realm none) (owned : person.ownerId = ownerId)
      (archived : person.deleted = true) (current : person.revision = expectedRevision)
      (answered : answer = deletionReceipt person realm)
      (refiles : t.Refiles t' personId (.bound person.revised realm.doomed (some answer))) :
      DeletionMade ownerId personId expectedRevision t t' answer false
  | completed {person : PersonRow} {realm : MemoryRealmRow} {receipt : PersonDeletionRow}
      (held : t.file personId = .bound person realm (some receipt))
      (owned : person.ownerId = ownerId) (receiptOwned : receipt.ownerId = ownerId)
      (current : expectedRevision = receipt.revision)
      (answered : answer = { receipt with state := "completed" })
      (refiles : t.Refiles t' personId ⟨none, [], some { receipt with state := "completed" }⟩) :
      DeletionMade ownerId personId expectedRevision t t' answer true

theorem permanentlyDelete_file (integrity : t.Integrity) (ownerId personId : String)
    (expectedRevision : Int) (complete : Bool) :
    (permanentlyDelete env ownerId personId expectedRevision complete).Ensures t
      (fun answer t' => DeletionMade ownerId personId expectedRevision t t' answer complete) := by
  simp only [permanentlyDelete, getPersonDeletion, getPerson, Tx.ensures_bind, Tx.ensures_read]
  refine (requireActiveOwner_effect t ownerId).mono ?_
  rintro owner t₁ ⟨unchanged, -⟩
  rw [unchanged]
  cases stored : t.people.personDeletions.get? personId with
  | none =>
      simp only [Tx.ensures_bind, Tx.ensures_refuseIf]
      intro notComplete
      rw [Bool.not_eq_true] at notComplete
      rw [notComplete]
      refine (requestDeletion_file env t filed ownerId personId expectedRevision stored).mono ?_
      rintro answer t' ⟨person, realm, held, owned, archived, current, answered, refiles⟩
      exact .requested held owned archived current answered refiles
  | some receipt =>
      simp only [Tx.ensures_bind, Tx.ensures_refuseIf, Tx.ensures_read, Tx.ensures_ite,
        Tx.ensures_require, Tx.pure_eq, Tx.ensures_done, not_not]
      intro owned current
      have redeletes : t.Redeletes personId receipt expectedRevision complete := by
        by_cases same : expectedRevision = receipt.revision
        · exact Or.inl same
        · have others : ¬ (complete = true ∨ _) := fun stale => current ⟨same, stale⟩
          rw [not_or, Bool.not_eq_true, Bool.not_eq_true] at others
          cases found : t.people.persons.get? personId with
          | none => simp [found] at others
          | some person =>
              rw [found] at others
              have revised : expectedRevision = person.revision := by simpa using others.2
              exact Or.inr ⟨others.1, person, found, revised.symm⟩
      refine ⟨fun completed => .kept _ rfl stored owned redeletes (fun _ => completed), ?_⟩
      intro _
      refine ⟨?_, fun unasked => .kept _ rfl stored owned redeletes
        (fun asked => absurd asked unasked)⟩
      rintro rfl row found
      have revised : expectedRevision = receipt.revision := by
        rcases redeletes with same | ⟨⟨⟩, -⟩
        exact same
      obtain ⟨realm, held, realmOwned, pending⟩ := (filed personId).of_person found
      have receipts : (t.file personId).receipt = some receipt := stored
      obtain ⟨receiptOwned, sameRealm, -⟩ := pending receipt receipts
      rw [receipts] at held
      have rowOwned : row.ownerId = ownerId := receiptOwned.symm.trans owned
      refine (completeDeletion_file env t integrity held (realmOwned.trans rowOwned) sameRealm
        row).mono ?_
      rintro answer t' ⟨answered, refiles⟩
      exact .completed held rowOwned owned revised answered refiles

theorem permanentlyDelete_moves (integrity : t.Integrity) (ownerId personId : String)
    (expectedRevision : Int) (complete : Bool) :
    (permanentlyDelete env ownerId personId expectedRevision complete).Ensures t (fun _ t' =>
      t.Moves sdk env (.permanentlyDelete ownerId personId expectedRevision complete) t') := by
  refine (permanentlyDelete_file env t filed integrity ownerId personId expectedRevision
    complete).mono ?_
  intro answer t' made
  cases made with
  | kept _ unchanged =>
      rw [unchanged]
      exact .refl
  | requested held owned archived current answered refiles =>
      rw [answered] at refiles
      exact refiles.moves held (.deletionRequested owned archived current)
  | completed held owned _ current _ refiles =>
      exact refiles.moves held (.deletionCompleted owned current)

omit filed in
theorem writeMemoryDefaults_moves (ownerId : String) (expectedRevision : Option Int)
    (policy : Json) :
    (writeMemoryDefaults sdk env ownerId expectedRevision policy).Ensures t (fun _ t' =>
      t.Moves sdk env (.writeMemoryDefaults ownerId expectedRevision policy) t') := by
  simp only [writeMemoryDefaults, Tx.ensures_bind, ensures_validated, Tx.ensures_refuseIf,
    Tx.ensures_ite, updateOwnerRow, Tx.ensures_modify, ensures_addFact, Tx.pure_eq,
    Tx.ensures_done]
  refine (requireActiveOwner_effect t ownerId).mono ?_
  rintro owner t₁ ⟨unchanged, -⟩
  rw [unchanged]
  intros
  refine ⟨?_, fun _ => .refl⟩
  intro _
  exact .of_same (fun _ => file_of_tables rfl rfl rfl)

theorem writeProvisionalPolicy_moves (ownerId personId : String) (expectedRevision : Option Int)
    (document : Json) :
    (writeProvisionalPolicy sdk env ownerId personId expectedRevision document).Ensures t
      (fun _ t' => t.Moves sdk env
        (.writeProvisionalPolicy ownerId personId expectedRevision document) t') := by
  simp only [writeProvisionalPolicy, Tx.ensures_bind, Tx.ensures_refuseIf, Tx.ensures_require,
    ensures_validated, Tx.ensures_ite, ensures_writePerson_file, ensures_writeRealm_file,
    ensures_auditPerson, Tx.pure_eq, Tx.ensures_done]
  refine (requirePerson_file t filed false).mono ?_
  rintro person t₁ ⟨unchanged, owned, alive, realm, receipt, held, realmOwned⟩
  rw [unchanged]
  intro notStale
  refine (personRealm_file t held realmOwned).mono ?_
  rintro _ t₂ ⟨unchanged, rfl⟩ _ ⟨⟩ current _ named policy valid allowed
  rw [unchanged]
  refine ⟨?_, fun _ => .refl⟩
  intro _
  have revision : expectedRevision = some person.revision := by
    cases expectedRevision with
    | none => exact absurd rfl named
    | some revision =>
        simp only [Option.any_some, decide_eq_true_eq, not_not] at notStale
        rw [notStale]
  have permitted : person.status = .active ∨
      (policy.saveAllowed = false ∧ policy.sessionRecallAllowed = false) := by
    by_cases active : person.status = .active
    · exact Or.inl active
    · refine Or.inr ?_
      simpa [active] using allowed
  have written : t.Refiles (t.withRealm { realm with
      policyJson := realm.policyJson.set "provisional_memory" (.obj policy.document) }) personId
      (.bound person { realm with
        policyJson := realm.policyJson.set "provisional_memory" (.obj policy.document) }
        receipt) := refiles_withRealm held rfl
  exact (written.trans (refiles_withPerson written.self rfl)).moves held
    (.policyWritten owned (alive rfl) revision valid permitted)

theorem resolveMemoryRealm_moves (ownerId personId : String) (create : Bool) :
    (resolveMemoryRealm env ownerId personId create).Ensures t (fun _ t' =>
      t.Moves sdk env (.resolveMemoryRealm ownerId personId create) t') := by
  simp only [resolveMemoryRealm, Tx.ensures_bind, Tx.pure_eq]
  refine (requirePerson_file t filed false).mono ?_
  rintro person t₁ ⟨unchanged, owned, alive, realm, receipt, held, realmOwned⟩
  rw [unchanged]
  refine (checkMemoryEligible_readOnly t person).mono ?_
  intro _ t₂ unchanged
  rw [unchanged]
  refine (personRealm_file t held realmOwned).mono ?_
  rintro _ t₃ ⟨unchanged, rfl⟩
  rw [unchanged]
  simp only [Tx.ensures_bind, Tx.ensures_done, Tx.ensures_refuseIf]
  intro _
  exact .refl

theorem suspendMemory_file (ownerId personId : String) (expectedRevision : Int) :
    (suspendMemory sdk env ownerId personId expectedRevision).Ensures t (fun _ t' =>
      ∃ person realm receipt, t.file personId = .bound person realm receipt ∧
        person.ownerId = ownerId ∧ person.deleted = false ∧ person.revision = expectedRevision ∧
        ((t' = t ∧ realm.status ≠ .active ∧
          (((realm.policyJson.get? "provisional_memory").bind Json.asDict?).getD []).any
            (fun field => field.2.truthy) = false ∧
          (realm.policyJson.get? "automatic_preparation_blocked").any Json.truthy = true) ∨
        t.Refiles t' personId (.bound person.revised (realm.suspended sdk) receipt))) := by
  simp only [suspendMemory, checkPersonRevision, Tx.ensures_bind, Tx.ensures_refuseIf,
    Tx.ensures_require, Tx.ensures_ite, ensures_writePerson_file, ensures_writeRealm_file,
    ensures_auditPerson, Tx.pure_eq, Tx.ensures_done]
  refine (requirePerson_file t filed false).mono ?_
  rintro person t₁ ⟨unchanged, owned, alive, realm, receipt, held, realmOwned⟩
  rw [unchanged]
  intro current
  refine (personRealm_file t held realmOwned).mono ?_
  rintro _ t₂ ⟨unchanged, rfl⟩ _ ⟨⟩
  rw [unchanged]
  refine ⟨?_, ?_⟩
  · intro _
    have suspended : t.Refiles (t.withRealm (realm.suspended sdk)) personId
        (.bound person (realm.suspended sdk) receipt) := refiles_withRealm held rfl
    exact ⟨person, realm, receipt, held, owned, alive rfl, not_not.mp current,
      Or.inr (suspended.trans (refiles_withPerson suspended.self rfl))⟩
  · intro off
    rw [not_or, not_or, Bool.not_eq_true, Bool.not_eq_false] at off
    exact ⟨person, realm, receipt, held, owned, alive rfl, not_not.mp current,
      Or.inl ⟨rfl, off⟩⟩

theorem suspendMemory_moves (ownerId personId : String) (expectedRevision : Int) :
    (suspendMemory sdk env ownerId personId expectedRevision).Ensures t (fun _ t' =>
      t.Moves sdk env (.suspendMemory ownerId personId expectedRevision) t') := by
  refine (suspendMemory_file sdk env t filed ownerId personId expectedRevision).mono ?_
  rintro _ t' ⟨person, realm, receipt, held, owned, alive, current, ⟨unchanged, -⟩ | refiles⟩
  · rw [unchanged]
    exact .refl
  · exact refiles.moves held (.memorySuspended owned alive current)

theorem restoreMemory_moves (ownerId personId : String) (expectedRevision : Int) :
    (restoreMemory env ownerId personId expectedRevision).Ensures t (fun _ t' =>
      t.Moves sdk env (.restoreMemory ownerId personId expectedRevision) t') := by
  simp only [restoreMemory, checkPersonRevision, checkMemoryEligible, Tx.ensures_bind,
    Tx.ensures_refuseIf, Tx.ensures_require, Tx.ensures_ite, ensures_writePerson_file,
    ensures_writeRealm_file, ensures_auditPerson, Tx.pure_eq, Tx.ensures_done]
  refine (requirePerson_file t filed false).mono ?_
  rintro person t₁ ⟨unchanged, owned, alive, realm, receipt, held, realmOwned⟩
  rw [unchanged]
  intro current established active
  refine (personRealm_file t held realmOwned).mono ?_
  rintro _ t₂ ⟨unchanged, rfl⟩ _ ⟨⟩
  rw [unchanged]
  refine ⟨?_, fun _ => .refl⟩
  intro _
  have woken : t.Refiles (t.withRealm { realm with status := .active }) personId
      (.bound person { realm with status := .active } receipt) := refiles_withRealm held rfl
  exact (woken.trans (refiles_withPerson woken.self rfl)).moves held
    (.memoryRestored owned (alive rfl) (not_not.mp established) (not_not.mp active)
      (not_not.mp current))

end Persons

section Voices

variable (sdk : Sdk) (env : Env) (t : Tables) (filed : t.Filed) (policies : VoicePolicies)

theorem retainAll_files (uuid : Nat) (rows : List PersonRow)
    (distinct : (rows.map PersonRow.personId).Nodup)
    (stored : ∀ row ∈ rows, ∃ realm receipt, t.file row.personId = .bound row realm receipt) :
    (retainAll env uuid rows).Ensures t (fun _ t' => ∀ personId,
      ((∀ row ∈ rows, row.personId ≠ personId) ∧ t'.file personId = t.file personId) ∨
      ∃ row ∈ rows, ∃ realm receipt, t.file personId = .bound row realm receipt ∧
        t'.file personId = .bound row.retained realm receipt) := by
  induction rows generalizing t uuid with
  | nil =>
      simp only [retainAll, Tx.pure_eq, Tx.ensures_done]
      intro personId
      exact Or.inl ⟨(fun _ member => absurd member List.not_mem_nil), trivial⟩
  | cons row rows induction =>
      simp only [List.map_cons, List.nodup_cons] at distinct
      obtain ⟨realm, receipt, held⟩ := stored row List.mem_cons_self
      have written : t.Refiles (t.withPerson row.retained) row.personId
          (.bound row.retained realm receipt) := refiles_withPerson held rfl
      simp only [retainAll, Tx.ensures_bind, ensures_writePerson_file, ensures_auditPerson]
      have others : ∀ other ∈ rows, other.personId ≠ row.personId := by
        intro other among same
        apply distinct.1
        rw [← same]
        exact List.mem_map_of_mem among
      refine (induction _ _ distinct.2 ?_).mono ?_
      · intro other among
        obtain ⟨realm, receipt, before⟩ := stored other (List.mem_cons_of_mem _ among)
        refine ⟨realm, receipt, ?_⟩
        exact (written other.personId).trans ((if_neg (others other among)).trans before)
      · intro _ t' retained personId
        have first := written personId
        by_cases same : personId = row.personId
        · subst same
          rw [if_pos rfl] at first
          rcases retained row.personId with ⟨-, after⟩ | ⟨other, among, _, _, before, -⟩
          · exact Or.inr ⟨row, List.mem_cons_self, realm, receipt, held, after.trans first⟩
          · have named : other.personId = row.personId := Table.key_of_get? (person_of_file before)
            exact absurd named (others other among)
        · rw [if_neg same] at first
          rcases retained personId with
            ⟨untouched, after⟩ | ⟨other, among, realm, receipt, before, after⟩
          · refine Or.inl ⟨?_, after.trans first⟩
            intro other among
            rcases List.mem_cons.mp among with rfl | later
            · exact Ne.symm same
            · exact untouched other later
          · exact Or.inr ⟨other, List.mem_cons_of_mem _ among, realm, receipt,
              first.symm.trans before, after⟩

include filed

theorem retainExpiredCandidates_moves (ownerId : String) :
    (retainExpiredCandidates env policies ownerId).Ensures t (fun _ t' => t.Moves sdk env
      (.runVoiceprint policies ownerId .retainExpiredCandidates) t') := by
  simp only [retainExpiredCandidates, Tx.ensures_bind, Tx.ensures_read]
  refine (requireActiveOwner_effect t ownerId).mono ?_
  rintro owner t₁ ⟨unchanged, -⟩
  rw [unchanged]
  have chosen : ∀ row ∈ (t.people.persons.select (fun row =>
      row.ownerId = ownerId && row.isExpiredCandidate env.now policies.candidatePoolTtl)).take 100,
      t.people.persons.get? row.personId = some row ∧ row.ownerId = ownerId ∧
        row.isExpiredCandidate env.now policies.candidatePoolTtl = true := by
    intro row among
    obtain ⟨stored, wanted⟩ := Table.mem_select.mp (List.mem_of_mem_take among)
    rw [Bool.and_eq_true, decide_eq_true_eq] at wanted
    exact ⟨stored, wanted⟩
  refine (retainAll_files env t 0 _ ?_ ?_).mono ?_
  · exact (((List.take_sublist _ _).trans List.filter_sublist).map _).nodup t.people.persons.unique
  · intro row among
    obtain ⟨realm, held, -⟩ := (filed row.personId).of_person (chosen row among).1
    exact ⟨realm, _, held⟩
  · intro _ t' retained personId
    rcases retained personId with ⟨-, same⟩ | ⟨row, among, realm, receipt, before, after⟩
    · rw [same]
      exact .kept _ _
    · obtain ⟨-, owned, past⟩ := chosen row among
      rw [before, after]
      exact .expired owned past

omit filed in
theorem promoteCandidate_file (request : CandidateEvidence) {ownerId : String} {person : PersonRow}
    {realm : MemoryRealmRow} {receipt : Option PersonDeletionRow} {noted : PersonRow}
    {activity : Timestamp} (held : t.file person.personId = .bound person realm receipt)
    (owned : person.ownerId = ownerId) (realmOwned : realm.ownerId = ownerId)
    (pooled : person.isPooled env.now policies.candidatePoolTtl = true)
    (notes : noted = { person with candidateActivityAt := some activity })
    (rows : List CandidateVoiceObservationRow) (value : SpeakerObservation) :
    (promoteCandidate sdk env policies noted rows value).Ensures t (fun _ t' =>
      ∃ file, t.Refiles t' person.personId file ∧ PersonMoved sdk env person.personId
        (.runVoiceprint policies ownerId (.recordCandidateEvidence request))
        (.bound person realm receipt) file ∧
          (file.person = some noted ∨ policies.Grants env.now rows value)) := by
  subst notes
  unfold promoteCandidate
  split
  · simp only [Tx.ensures_bind, ensures_writeEvidence_file, Tx.pure_eq, Tx.ensures_done]
    exact ⟨_, refiles_withEvidence held rfl, .evidenceRecorded activity owned pooled, Or.inl rfl⟩
  · next policy observations granted =>
    simp only [preparePromotedMemory, Tx.ensures_bind, ensures_writeEvidence_file, ensures_getOwner,
      Tx.ensures_require, ensures_validated, Tx.ensures_ite, Tx.ensures_done, ensures_addFact,
      Tx.pure_eq]
    intro owner _ defaults _
    let promoted : PersonRow :=
      { person.revised with
        maturity := .established
        candidateActivityAt := some activity }
    have written : t.Refiles (t.withEvidence promoted) person.personId
        (.bound promoted realm receipt) := refiles_withEvidence held rfl
    have grants : policies.Grants env.now rows value := by
      obtain ⟨stored, configured, met⟩ := Option.bind_eq_some_iff.mp granted
      obtain ⟨evidence, enough, same⟩ := Option.map_eq_some_iff.mp met
      cases same
      exact ⟨policy, observations, configured, enough⟩
    refine ⟨?_, ?_⟩
    · intro _
      refine (personRealm_file (t.withEvidence promoted) written.self
        (realmOwned.trans owned.symm)).mono ?_
      rintro _ t₁ ⟨unchanged, rfl⟩
      rw [unchanged]
      split
      · next prepared preparable =>
          obtain ⟨sameRealm, allowed⟩ := Option.filter_eq_some_iff.mp preparable
          cases sameRealm
          simp only [Tx.ensures_bind, ensures_writeRealm_file, ensures_auditPerson]
          refine ⟨_, written.trans (refiles_withRealm written.self rfl), ?_, Or.inr grants⟩
          exact .promoted activity owned pooled (Or.inr ⟨allowed, rfl⟩)
      · rw [Tx.ensures_done]
        exact ⟨_, written, .promoted activity owned pooled (Or.inl rfl), Or.inr grants⟩
    · intro _
      exact ⟨_, written, .promoted activity owned pooled (Or.inl rfl), Or.inr grants⟩

end Voices

end EidolonData
