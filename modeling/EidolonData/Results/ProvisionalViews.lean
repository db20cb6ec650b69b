import EidolonData.Results.PrivateMemory
import EidolonData.Services.MemoryCatalog

/-!
# Two views of provisional memory

The runtime is configured from one query over an Owner's realms, a session is
told its access Person by Person; both apply the same conditions.
-/

namespace EidolonData

open Relational

variable {sdk : Sdk} {t : Tables} {owner : OwnerRow} {person : PersonRow} {realm : MemoryRealmRow}
  {receipt : Option PersonDeletionRow} (now ttl : Timestamp)

/-- The conditions on a Person both views apply. -/
def PersonRow.mayProvisionally (person : PersonRow) (now ttl : Timestamp) : Bool :=
  person.status = .active && person.recognitionState = .active &&
    !person.isStaleCandidate now ttl

theorem not_stale_iff (person : PersonRow) : person.isStaleCandidate now ttl = false ↔
    person.maturity = .established ∨
      person.candidateActivityAt.any (fun activity => now - ttl < activity) = true := by
  cases maturity : person.maturity with
  | established => simp [PersonRow.isStaleCandidate, maturity]
  | candidate =>
      cases activity : person.candidateActivityAt with
      | none => simp [PersonRow.isStaleCandidate, maturity, activity]
      | some moment => simp [PersonRow.isStaleCandidate, maturity, activity]

theorem mem_provisionalRuntimeRealms {personId : String}
    (held : t.file personId = .bound person realm receipt) (ownerId : String)
    (sessionRecall : Bool) :
    realm.realmId ∈ provisionalRuntimeRealms t now ttl ownerId sessionRecall ↔
      runsProvisionally now ttl ownerId
        (if sessionRecall then "session_recall_allowed" else "save_allowed") realm person =
          true := by
  obtain ⟨stored, named⟩ := realm_of_file held
  rw [provisionalRuntimeRealms, List.mem_map]
  constructor
  · rintro ⟨other, member, sameId⟩
    obtain ⟨found, runs⟩ := Table.mem_select.mp member
    have same : other = realm := by
      have key : t.workspace.memoryRealms.get? other.realmId = some other := found
      rw [sameId, stored] at key
      exact (Option.some.inj key).symm
    rw [same, named, Option.bind_some, person_of_file held, Option.any_some] at runs
    exact runs
  · intro runs
    refine ⟨realm, Table.mem_select.mpr ⟨stored, ?_⟩, rfl⟩
    rw [named, Option.bind_some, person_of_file held, Option.any_some]
    exact runs

/-- The realm of a Person that is not archived is not marked for erasure, so
the query reads its Person's state and its flag. -/
theorem runsProvisionally_iff (marked : ErasureMarked person realm receipt)
    (pending : receipt.isSome = true → person.deleted = true) (alive : person.deleted = false)
    (owned : realm.ownerId = person.ownerId) (flag : String) :
    runsProvisionally now ttl person.ownerId flag realm person = true ↔
      person.mayProvisionally now ttl = true ∧ realm.hasFlag flag = true := by
  have kept : realm.status ≠ .deleting := by
    intro doomed
    have archived := pending (marked.doomed doomed)
    rw [alive] at archived
    cases archived
  simp [runsProvisionally, PersonRow.mayProvisionally, owned, kept, not_stale_iff, and_assoc]

theorem provisionalAccess_run (env : Env) (filed : t.Filed) {sessionId personId : String}
    (stored : t.workspace.owners.get? owner.ownerId = some owner) (active : owner.status = .active)
    (held : t.file personId = .bound person realm receipt) (owned : person.ownerId = owner.ownerId)
    (alive : person.deleted = false) {policy : ProvisionalMemoryPolicy}
    (follows : realm.Follows sdk policy) (valid : validSession sessionId = true) :
    (provisionalAccess sdk env ttl owner.ownerId personId (some person.revision) sessionId).run t =
      .ok ({ ownerId := owner.ownerId
             personId := personId
             personRevision := person.revision
             realmId := realm.realmId
             policy := if person.mayProvisionally env.now ttl = true then policy
               else sdk.defaultProvisionalMemoryPolicy
             sessionId := sessionId }, t) := by
  have required : (requirePerson owner.ownerId personId).run t = .ok (person, t) := by
    have accepted : (some person).filter (fun row =>
        row.ownerId = owner.ownerId && (!row.deleted || false)) = some person := by
      simp [Option.filter, owned, alive]
    rw [requirePerson, Tx.run_bind_ok (requireActiveOwner_run stored active)]
    simp only [getPerson, Tx.run_read_bind, person_of_file held]
    rw [accepted]
    rfl
  have sound : (PersonFile.bound person realm receipt).Sound := held ▸ filed personId
  have sameOwner : realm.ownerId = owner.ownerId :=
    (PersonFile.sound_bound_iff.mp sound).1.trans owned
  have bound : (personRealm owner.ownerId personId).run t = .ok (some realm, t) := by
    have read : (personRealm owner.ownerId personId).run t =
        .ok ((t.workspace.memoryRealms.select (fun row =>
          row.ownerId = owner.ownerId && row.personId = some personId)).head?, t) := rfl
    rw [read, (personRealm_file t held sameOwner _ _ read).2]
  have withheld : (person.status ≠ .active ∨ person.recognitionState ≠ .active ∨
      person.isStaleCandidate env.now ttl = true) ↔
        ¬ person.mayProvisionally env.now ttl = true := by
    simp [PersonRow.mayProvisionally]
    tauto
  rw [provisionalAccess, Tx.run_refuseIf_bind, if_neg (by simp [valid]), Tx.run_bind_ok required]
  simp only [Option.any_some, ne_eq, not_true_eq_false, decide_false, Bool.false_eq_true,
    Tx.run_refuseIf_bind, if_false, Tx.run_bind_ok bound, Tx.run_require_some, validated,
    follows.stored, withheld, Tx.lift, Tx.run_done_bind, reduceCtorEq, Tx.pure_eq, Tx.run_done,
    ite_not]

theorem granted_iff (person : PersonRow) (contract : sdk.ProvisionalContract)
    {policy : ProvisionalMemoryPolicy}
    (follows : realm.Follows sdk policy) :
    let granted := if person.mayProvisionally now ttl = true then policy
      else sdk.defaultProvisionalMemoryPolicy
    (granted.saveAllowed = true ↔
      person.mayProvisionally now ttl = true ∧ realm.hasFlag "save_allowed" = true) ∧
    (granted.sessionRecallAllowed = true ↔
      person.mayProvisionally now ttl = true ∧ realm.hasFlag "session_recall_allowed" = true) := by
  intro granted
  by_cases may : person.mayProvisionally now ttl = true
  · simp [granted, may, follows.save, follows.recalls]
  · simp [granted, may, contract.off]

theorem runtimeRealm_enabled (t : Tables) (realm : MemoryRealmRow)
    (active : owner.status = .active) :
    (runtimeRealm t now ttl owner realm).provisionalIngestEnabled =
        decide (realm.realmId ∈ provisionalRuntimeRealms t now ttl owner.ownerId false) ∧
      (runtimeRealm t now ttl owner realm).provisionalRecallEnabled =
        decide (realm.realmId ∈ provisionalRuntimeRealms t now ttl owner.ownerId true) := by
  simp [runtimeRealm, active]

/-- At every time, of every Person of an active Owner that is not archived:
what a session may do is what the catalog's entry of its realm says. -/
theorem provisional_views_agree (sdk : Sdk) (contract : sdk.ProvisionalContract)
    (calls : List Call) (owner : OwnerRow) (person : PersonRow) (env : Env) (ttl : Timestamp)
    (sessionId : String) (valid : validSession sessionId = true) :
    let db := replay sdk calls .empty
    db.tables.workspace.owners.get? owner.ownerId = some owner → owner.status = .active →
    db.tables.people.persons.get? person.personId = some person →
    person.ownerId = owner.ownerId → person.deleted = false →
      ∃ access, db.transact (provisionalAccess sdk env ttl owner.ownerId person.personId
          (some person.revision) sessionId) = .ok (access, db) ∧
        (access.policy.saveAllowed = true ↔ access.realmId ∈
          provisionalRuntimeRealms db.tables env.now ttl owner.ownerId false) ∧
        (access.policy.sessionRecallAllowed = true ↔ access.realmId ∈
          provisionalRuntimeRealms db.tables env.now ttl owner.ownerId true) ∧
        (∃ entry ∈ memoryRealmCatalog db.tables env.now ttl owner,
          entry.realmId = access.realmId ∧ entry.personId = some person.personId) ∧
        ∀ entry ∈ memoryRealmCatalog db.tables env.now ttl owner,
          entry.realmId = access.realmId →
            entry.provisionalIngestEnabled = access.policy.saveAllowed ∧
            entry.provisionalRecallEnabled = access.policy.sessionRecallAllowed := by
  intro db ownerStored active stored owned alive
  have sound : db.tables.PeopleSound sdk := peopleSound_replay sdk calls
  obtain ⟨realm, held, realmOwned, -⟩ := (sound.filed person.personId).of_person stored
  have safe : MemorySafe sdk person realm :=
    safe_replay contract calls person.personId person realm _ held
  have marked := sound.marked person.personId person realm _ held
  obtain ⟨policy, follows, -⟩ := safe.permitted
  have pending : (db.tables.file person.personId).receipt.isSome = true → person.deleted = true :=
    fun received => (marked.received received).1
  obtain ⟨saves, recalls⟩ := granted_iff env.now ttl person contract follows
  have listed : ∀ sessionRecall, realm.realmId ∈
      provisionalRuntimeRealms db.tables env.now ttl owner.ownerId sessionRecall ↔
        person.mayProvisionally env.now ttl = true ∧ realm.hasFlag
          (if sessionRecall then "session_recall_allowed" else "save_allowed") = true := by
    intro sessionRecall
    rw [← owned]
    exact (mem_provisionalRuntimeRealms env.now ttl held _ sessionRecall).trans
      (runsProvisionally_iff env.now ttl marked pending alive realmOwned _)
  have ran := provisionalAccess_run ttl env sound.filed ownerStored active held owned alive follows
    valid
  obtain ⟨found, named⟩ := realm_of_file held
  refine ⟨_, Database.transact_ok_iff.mpr ran, saves.trans (listed false).symm,
    recalls.trans (listed true).symm, ?_, ?_⟩
  · refine ⟨runtimeRealm db.tables env.now ttl owner realm, List.mem_map.mpr ⟨realm, ?_, rfl⟩,
      rfl, named⟩
    exact mem_orderBy.mpr (Table.mem_select.mpr
      ⟨found, decide_eq_true (realmOwned.trans owned)⟩)
  · intro entry member sameId
    obtain ⟨other, -, rfl⟩ := List.mem_map.mp member
    have sameRealm : other.realmId = realm.realmId := sameId
    obtain ⟨ingest, recalled⟩ := runtimeRealm_enabled env.now ttl db.tables other active
    rw [ingest, recalled, sameRealm]
    exact ⟨Bool.eq_iff_iff.mpr (decide_eq_true_iff.trans ((listed false).trans saves.symm)),
      Bool.eq_iff_iff.mpr (decide_eq_true_iff.trans ((listed true).trans recalls.symm))⟩

/-- The Person of `memoryCommands` may save, by its access and in the catalog. -/
theorem provisional_views_agree_saving :
    let db := replay .permitting (numbered memoryCommands) .empty
    ∃ access : ProvisionalAccess, access.policy.saveAllowed = true ∧
      access.realmId ∈ provisionalRuntimeRealms db.tables 5 10 "owner" false := by
  intro db
  let env : Env := { uuid := fun site => .ofNat (64 + site), now := 5 }
  have owns : (db.tables.workspace.owners.get? "owner").map
      (fun owner => (owner.ownerId, owner.status)) = some ("owner", .active) := by
    decide +kernel
  have lives : (db.tables.people.persons.get? "person").map (fun person =>
      (person.personId, person.ownerId, person.deleted, person.revision)) =
        some ("person", "owner", false, 2) := by
    decide +kernel
  obtain ⟨owner, ownerStored, fields⟩ := Option.map_eq_some_iff.mp owns
  obtain ⟨person, stored, fields'⟩ := Option.map_eq_some_iff.mp lives
  obtain ⟨ownerNamed, active⟩ := by simpa only [Prod.mk.injEq] using fields
  obtain ⟨named, owned, alive, revision⟩ := by simpa only [Prod.mk.injEq] using fields'
  have permits : (db.transact (provisionalAccess .permitting env 10 "owner" "person" (some 2)
      "session")).toOption.map (fun answer => answer.1.policy.saveAllowed) = some true := by
    decide +kernel
  obtain ⟨access, ran, saves, -⟩ := provisional_views_agree .permitting permitting_contract
    (numbered memoryCommands) owner person env 10 "session" (by decide)
    (ownerNamed ▸ ownerStored) active (named ▸ stored) (owned.trans ownerNamed.symm) alive
  rw [ownerNamed, named, revision] at ran
  rw [ownerNamed] at saves
  have allowed : access.policy.saveAllowed = true := by
    rw [ran] at permits
    exact Option.some.inj permits
  exact ⟨access, allowed, saves.mp allowed⟩

end EidolonData
