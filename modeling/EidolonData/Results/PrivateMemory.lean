import EidolonData.Invariants.People
import EidolonData.Invariants.Realms

/-!
# Private memory

A private realm is active, and permits something, only for a Person that may
have a memory; one that is marked for erasure is of an archived Person and
goes only with it.  A memory that was switched off stays off until a command
switches it on by name.
-/

namespace EidolonData

open Relational

section Safety

/-- No realm of an Owner itself is marked for erasure. -/
def Workspace.SharedKept (w : Workspace) : Prop :=
  ∀ realmId realm, w.memoryRealms.get? realmId = some realm → realm.personId = none →
    realm.status ≠ .deleting

theorem sharedKept_invariant (sdk : Sdk) : Invariant sdk .all Workspace.SharedKept where
  change := by
    intro w w' change kept realmId realm found ownerless
    rcases change.ownerless_realm found ownerless with before | added
    · exact kept realmId realm before ownerless
    · rw [added.active]
      decide
  archived := by
    intro w owner now _ _ kept realmId realm found ownerless
    obtain ⟨old, stored, ⟨-, -, rfl⟩ | ⟨-, rfl⟩⟩ := archiveOwner_realm found
    · simp
    · exact kept realmId _ stored ownerless
  removed := by
    intro doomed w w' removal kept realmId realm found ownerless
    exact kept realmId realm (removal.realm found).1 ownerless

theorem sharedKept_replay (sdk : Sdk) (calls : List Call) :
    (replay sdk calls .empty).tables.workspace.SharedKept := by
  refine (sharedKept_invariant sdk).replay calls .empty (heeds_all sdk calls .empty) ?_
  intro realmId realm found
  cases found

theorem safe_replay {sdk : Sdk} (contract : sdk.ProvisionalContract) (calls : List Call)
    (personId : String) : ((replay sdk calls .empty).tables.file personId).Safe sdk := by
  refine replay_file (fun _ => True) personId ?_ calls .empty (peopleSound_empty sdk)
    (fun _ _ => trivial) (PersonFile.safe_of_absent rfl)
  intro env command file file' moved _ _ safe
  exact moved.safe contract safe

/-- Along every run: a realm of a Person is active only for an established,
active Person that is not archived, and permits something only for an active
one that is not archived; a realm marked for erasure is of an archived Person
with a pending receipt, until its erasure is completed or its Owner deleted. -/
theorem private_memory_safe (sdk : Sdk) (contract : sdk.ProvisionalContract)
    (calls : List Call) :
    let db := replay sdk calls .empty
    ∀ realm, db.tables.workspace.memoryRealms.get? realm.realmId = some realm →
      (∀ personId, realm.personId = some personId →
        ∃ person, db.tables.people.persons.get? personId = some person ∧
          person.ownerId = realm.ownerId ∧
          (realm.status = .active →
            person.maturity = .established ∧ person.status = .active ∧ person.deleted = false) ∧
          ((realm.hasFlag "save_allowed" = true ∨ realm.hasFlag "session_recall_allowed" = true) →
            person.status = .active ∧ person.deleted = false) ∧
          ∀ policy, storedProvisionalPolicy sdk realm = .ok policy →
            policy.saveAllowed = true ∨ policy.sessionRecallAllowed = true →
              person.status = .active ∧ person.deleted = false) ∧
      (realm.status = .deleting →
        ∃ personId person receipt, realm.personId = some personId ∧
          db.tables.people.persons.get? personId = some person ∧ person.deleted = true ∧
          db.tables.people.personDeletions.get? personId = some receipt ∧
          receipt.state = "pending" ∧ receipt.realmId = realm.realmId ∧
          ∀ call : Call,
            (∃ after, (call.step sdk db).tables.workspace.memoryRealms.get? realm.realmId =
              some after ∧ after.status = .deleting) ∨
            (∃ expectedRevision,
              call.command = .permanentlyDelete realm.ownerId personId expectedRevision true) ∨
            call.command = .deleteOwner realm.ownerId) := by
  intro db realm stored
  have sound : db.tables.PeopleSound sdk := peopleSound_replay sdk calls
  refine ⟨?_, ?_⟩
  · intro personId named
    obtain ⟨person, receipt, held, owned, -⟩ := sound.filed.of_realm stored named
    have safe : MemorySafe sdk person realm :=
      safe_replay contract calls personId person realm receipt held
    have alive : person.status = .active → person.deleted = false := by
      intro active
      by_contra archived
      have asleep := sound.inactive personId person (congrArg PersonFile.person held)
        (by simpa using archived)
      rw [active] at asleep
      cases asleep
    obtain ⟨policy, follows, permits⟩ := safe.permitted
    refine ⟨person, person_of_file held, owned.symm, ?_, ?_, ?_⟩
    · intro awake
      obtain ⟨established, active⟩ := safe.awake awake
      exact ⟨established, active, alive active⟩
    · intro flagged
      rw [follows.save, follows.recalls] at flagged
      exact ⟨permits flagged, alive (permits flagged)⟩
    · intro other read permitted
      cases follows.stored.symm.trans read
      exact ⟨permits permitted, alive (permits permitted)⟩
  · intro doomed
    cases named : realm.personId with
    | none => exact absurd doomed (sharedKept_replay sdk calls _ realm stored named)
    | some personId =>
        obtain ⟨person, receipt, held, owned, pending⟩ := sound.filed.of_realm stored named
        have marked := sound.marked personId person realm receipt held
        obtain ⟨row, received⟩ := Option.isSome_iff_exists.mp (marked.doomed doomed)
        obtain ⟨-, sameRealm, state⟩ := pending row received
        refine ⟨personId, person, row, rfl, person_of_file held,
          (marked.received (marked.doomed doomed)).1, (receipt_of_file held).trans received, state,
          sameRealm, ?_⟩
        intro call
        rw [owned]
        rcases call.step_people db sound with same | stepped
        · rw [same]
          exact Or.inl ⟨realm, stored, doomed⟩
        · rcases (stepped.moved.files personId).doomed_leaves
              (sound.marked personId) held doomed with
            ⟨person', realm', receipt', after, sameId, still⟩ | completed | deleted
          · rw [← sameId]
            exact Or.inl ⟨realm', (realm_of_file after).1, still⟩
          · exact Or.inr (Or.inl completed)
          · exact Or.inr (Or.inr deleted)

/-- An established Person whose memory an archiving switches off. -/
def memoryCommands : List Command :=
  [.createOwner "owner" "" "person" none none,
    .createPerson 0 "owner" { personId := "person", displayName := "" },
    .writeProvisionalPolicy "owner" "person" (some 1) (.obj [("save_allowed", .bool true)])]

theorem private_memory_safe_permitted :
    ((replay .permitting (numbered memoryCommands) .empty).tables.people.persons.get?
      "person").any (fun person => person.status = .active && !person.deleted) = true := by
  let db := replay .permitting (numbered memoryCommands) .empty
  have stored : (db.tables.workspace.memoryRealms.get? "r_01000000000000000000000000000000").map
      (fun realm => (realm.realmId, realm.personId, realm.hasFlag "save_allowed")) =
        some ("r_01000000000000000000000000000000", some "person", true) := by
    decide +kernel
  obtain ⟨realm, found, shown⟩ := Option.map_eq_some_iff.mp stored
  simp only [Prod.mk.injEq] at shown
  obtain ⟨realmId, named, flagged⟩ := shown
  obtain ⟨person, personStored, -, -, permitted, -⟩ :=
    (private_memory_safe .permitting permitting_contract (numbered memoryCommands) realm
      (realmId.symm ▸ found)).1 "person" named
  obtain ⟨active, alive⟩ := permitted (Or.inl flagged)
  rw [personStored]
  simp [active, alive]

end Safety

section Suspension

/-- The commands that switch the memory of a Person off. -/
inductive Command.Quiets (ownerId personId : String) : Command → Prop where
  | suspended (expectedRevision : Int) :
      Quiets ownerId personId (.suspendMemory ownerId personId expectedRevision)
  | deactivated (ttl : Timestamp) (request : PersonUpdateRequest)
      (inactive : request.status = .inactive) :
      Quiets ownerId personId (.updatePerson ttl ownerId personId request)
  | archived (expectedRevision : Int) :
      Quiets ownerId personId (.archivePerson ownerId personId expectedRevision)

/-- A policy document without a true value permits nothing. -/
theorem hasFlag_of_untrue {realm : MemoryRealmRow} {name : String}
    (untrue : (((realm.policyJson.get? "provisional_memory").bind Json.asDict?).getD []).any
      (fun field => field.2.truthy) = false) : realm.hasFlag name = false := by
  unfold MemoryRealmRow.hasFlag
  generalize ((realm.policyJson.get? "provisional_memory").bind Json.asDict?).getD [] = document
    at untrue ⊢
  rw [decide_eq_false_iff_not]
  intro flagged
  have member : (name, Json.bool true) ∈ document := JsonDict.mem_of_get? flagged
  have truthy : document.any (fun field => field.2.truthy) = true :=
    List.any_eq_true.mpr ⟨_, member, rfl⟩
  rw [untrue] at truthy
  cases truthy

theorem Command.Quiets.session_quiet {sdk : Sdk} (contract : sdk.ProvisionalContract) {env : Env}
    {t : Tables} {ownerId personId : String} {command : Command}
    (quiets : command.Quiets ownerId personId) (sound : t.PeopleSound sdk)
    (safe : (t.file personId).Safe sdk) :
    (command.session sdk env).Ensures t (fun _ t' => (t'.file personId).Quiet sdk ownerId) := by
  have quieted : ∀ {t' realm receipt} (person : PersonRow), person.ownerId = ownerId →
      t.Refiles t' personId (.bound person (MemoryRealmRow.suspended sdk realm) receipt) →
        (t'.file personId).Quiet sdk ownerId := by
    intro t' realm receipt person owned refiles
    rw [refiles.self]
    exact PersonFile.quiet_bound_iff.mpr ⟨owned, suspended_quiet contract realm⟩
  cases quiets with
  | suspended expectedRevision =>
      refine (ensures_effect t _ _).mpr
        ((suspendMemory_file sdk env t sound.filed ownerId personId expectedRevision).mono ?_)
      rintro _ t' ⟨person, realm, receipt, held, owned, -, -,
        ⟨rfl, asleep, untrue, blocked⟩ | wrote⟩
      · rw [held] at safe ⊢
        obtain ⟨policy, follows, -⟩ := (PersonFile.safe_bound_iff.mp safe).permitted
        refine PersonFile.quiet_bound_iff.mpr ⟨owned, blocked, asleep, policy, follows, ?_⟩
        rw [ProvisionalMemoryPolicy.Permits, ← follows.save, ← follows.recalls,
          hasFlag_of_untrue untrue, hasFlag_of_untrue untrue]
        simp
      · exact quieted person.revised owned wrote
  | deactivated ttl request inactive =>
      refine (ensures_effect t _ _).mpr
        ((updatePerson_file sdk env t sound.filed ttl ownerId personId request).mono ?_)
      rintro _ t' ⟨person, realm, receipt, held, owned, -, -, -, wrote⟩
      rw [if_pos inactive] at wrote
      exact quieted (person.updated request) owned wrote
  | archived expectedRevision =>
      refine (ensures_effect t _ _).mpr
        ((archivePerson_file sdk env t sound.filed ownerId personId expectedRevision).mono ?_)
      rintro _ t' ⟨person, realm, receipt, held, owned, -, -, wrote⟩
      exact quieted (person.archived env.now) owned wrote

/-- Once the memory of a Person is switched off, no run that neither restores
it nor permits something by name, and that leaves the Owner, switches it on. -/
theorem suspension_sticks (sdk : Sdk) (contract : sdk.ProvisionalContract) (before : List Call)
    (call : Call) (ownerId personId : String) (quiets : call.command.Quiets ownerId personId)
    (db : Database) (committed : (replay sdk before .empty).transact
      (call.command.session sdk call.env) = .ok ((), db)) (after : List Call)
    (asleep : ∀ later ∈ after, ¬ later.command.Wakes sdk personId)
    (kept : ∀ later ∈ after, later.command ≠ .deleteOwner ownerId) :
    ∀ realm, (replay sdk after db).tables.workspace.memoryRealms.get? realm.realmId =
        some realm → realm.personId = some personId →
      realm.status ≠ .active ∧ realm.hasFlag "save_allowed" = false ∧
      realm.hasFlag "session_recall_allowed" = false ∧
      ∀ policy, storedProvisionalPolicy sdk realm = .ok policy →
        policy.saveAllowed = false ∧ policy.sessionRecallAllowed = false := by
  have ran := Database.transact_ok_iff.mp committed
  have reached : call.step sdk (replay sdk before .empty) = db := Database.after_of_ok committed
  have sound : db.tables.PeopleSound sdk := by
    rw [← reached]
    exact call.step_sound _ (peopleSound_replay sdk before)
  have quiet : (db.tables.file personId).Quiet sdk ownerId :=
    quiets.session_quiet contract (peopleSound_replay sdk before)
      (safe_replay contract before personId) () db.tables ran
  have still : ((replay sdk after db).tables.file personId).Quiet sdk ownerId := by
    refine replay_file (fun command => ¬ command.Wakes sdk personId ∧
      command ≠ .deleteOwner ownerId) personId ?_ after db sound
        (fun later member => ⟨asleep later member, kept later member⟩) quiet
    intro env command file file' moved allowed sound quiet
    exact moved.quiet contract allowed.1 allowed.2 sound quiet
  intro realm stored named
  obtain ⟨person, receipt, held, -, -⟩ :=
    (replay_sound after db sound).filed.of_realm stored named
  obtain ⟨-, memory⟩ := still.memory person realm receipt held
  obtain ⟨policy, follows, off⟩ := memory.off
  rw [ProvisionalMemoryPolicy.Permits, not_or, Bool.not_eq_true, Bool.not_eq_true] at off
  refine ⟨memory.asleep, follows.save.trans off.1, follows.recalls.trans off.2, ?_⟩
  intro other read
  cases follows.stored.symm.trans read
  exact off

/-- What the fourth call draws. -/
def fourthEnv : Env :=
  { uuid := fun site => .ofNat (48 + site), now := 3 }

/-- An update, an archiving and a restoring after the suspension. -/
def restoringCalls : List Call :=
  (numbered (memoryCommands ++
    [.suspendMemory "owner" "person" 2,
      .updatePerson 0 "owner" "person"
        { expectedRevision := 3, displayName := "", status := .active },
      .archivePerson "owner" "person" 4, .restorePerson "owner" "person" 5])).drop 4

theorem suspension_sticks_restored :
    ∃ db, (replay .permitting (numbered memoryCommands) .empty).transact
        ((Command.suspendMemory "owner" "person" 2).session .permitting fourthEnv) = .ok ((), db) ∧
      ∃ realm, (replay .permitting restoringCalls db).tables.workspace.memoryRealms.get?
          "r_01000000000000000000000000000000" = some realm ∧ realm.status ≠ .active := by
  let suspends : Call := { env := fourthEnv, command := .suspendMemory "owner" "person" 2 }
  have runs : ((replay .permitting (numbered memoryCommands) .empty).transact
      (suspends.command.session .permitting suspends.env)).toOption.map (fun ran =>
        ((replay .permitting restoringCalls ran.2).tables.workspace.memoryRealms.get?
          "r_01000000000000000000000000000000").map (fun realm =>
            (realm.realmId, realm.personId))) =
      some (some ("r_01000000000000000000000000000000", some "person")) := by
    decide +kernel
  obtain ⟨⟨⟨⟩, db⟩, transacted, stored⟩ := Option.map_eq_some_iff.mp runs
  dsimp only at stored
  obtain ⟨realm, found, shown⟩ := Option.map_eq_some_iff.mp stored
  obtain ⟨realmId, named⟩ := Prod.mk.inj shown
  have committed := Tx.ok_of_toOption transacted
  refine ⟨db, committed, realm, found, ?_⟩
  refine (suspension_sticks .permitting permitting_contract (numbered memoryCommands) suspends
    "owner" "person" (.suspended 2) db committed restoringCalls ?_ ?_ realm
      (realmId.symm ▸ found) named).1
  · intro later member wakes
    simp [restoringCalls, numbered, memoryCommands] at member
    rcases member with rfl | rfl | rfl
    · cases wakes
    · cases wakes
    · cases wakes
  · intro later member
    simp [restoringCalls, numbered, memoryCommands] at member
    rcases member with rfl | rfl | rfl
    · simp
    · simp
    · simp

end Suspension

end EidolonData
