import EidolonData.Invariants.Shared

/-!
# One shared memory per Owner

Along every run an Owner has one realm of no Person as long as it is not
archived, at most one of them active at any time; Companions point only at
such realms of their own Owner; and of the provisions of an active Owner only
one reports a new realm.
-/

namespace EidolonData

open Relational

/-- A provision that reports a new realm found none and leaves one. -/
theorem provisionCompanion_realm {sdk : Sdk} {db db' : Database} {env : Env}
    {request : ProvisionRequest} {result : ProvisionResult}
    (provisioned : db.transact (provisionCompanion sdk env request) = .ok (result, db'))
    (created : result.memoryRealmCreated = true) :
    (∀ {realmId realm}, db.tables.workspace.memoryRealms.get? realmId = some realm →
      realm.isShared request.ownerId = false) ∧
    ∃ realm, db'.tables.workspace.memoryRealms.get? realm.realmId = some realm ∧
      realm.isShared request.ownerId = true := by
  have effect := provisionCompanion_effect sdk .all env db.tables request result db'.tables
    (Database.transact_ok_iff.mp provisioned)
  rcases effect with ⟨-, companion, -, loaded⟩ | planted
  · have notCreated := loaded.realmCreated
    rw [created] at notCreated
    cases notCreated
  · exact ⟨planted.realmCreated created, result.memoryRealm, planted.realm, planted.realmShared⟩

/-- Along every run: the realms of no Person are one for an Owner that is not
archived and at most one active for any Owner, the Companions point only at
those of their own Owner, and of the provisions of an active Owner one reports
a new realm. -/
theorem one_shared_memory (sdk : Sdk) (calls : List Call) :
    let db := replay sdk calls .empty
    (∀ ownerId first second,
      db.tables.workspace.memoryRealms.get? first.realmId = some first →
      db.tables.workspace.memoryRealms.get? second.realmId = some second →
      first.isShared ownerId = true → second.isShared ownerId = true → first = second) ∧
    (∀ ownerId owner first second,
      db.tables.workspace.owners.get? ownerId = some owner → owner.status ≠ .archived →
      db.tables.workspace.memoryRealms.get? first.realmId = some first →
      db.tables.workspace.memoryRealms.get? second.realmId = some second →
      first.ownerId = ownerId → first.personId = none →
      second.ownerId = ownerId → second.personId = none → first = second) ∧
    (∀ companionId companion realmId,
      db.tables.workspace.companions.get? companionId = some companion →
      companion.defaultMemoryRealmId = some realmId →
      db.tables.workspace.SharesRealm companion.ownerId realmId) ∧
    (∀ env request result db',
      db.transact (provisionCompanion sdk env request) = .ok (result, db') →
      result.memoryRealmCreated = true →
      ∀ between, Heeds sdk (fun w _ => w.OwnerActive request.ownerId) between db' →
      (replay sdk between db').tables.workspace.OwnerActive request.ownerId →
      ∀ env' request' result' db'',
      (replay sdk between db').transact (provisionCompanion sdk env' request') =
        .ok (result', db'') →
      request'.ownerId = request.ownerId → result'.memoryRealmCreated = false) := by
  intro db
  have sound : db.tables.workspace.SharedSound :=
    sharedSound_invariant.replay calls .empty (heeds_all sdk calls .empty) sharedSound_empty
  have unique : ∀ ownerId first second,
      db.tables.workspace.memoryRealms.get? first.realmId = some first →
      db.tables.workspace.memoryRealms.get? second.realmId = some second →
      first.isShared ownerId = true → second.isShared ownerId = true → first = second := by
    intro ownerId first second firstFound secondFound firstShared secondShared
    obtain ⟨-, -, only⟩ := db.property.workspace.onlyShared secondFound secondShared
    exact only firstFound firstShared
  refine ⟨unique, ?_, fun _ _ _ => sound.pointed, ?_⟩
  · intro ownerId owner first second found notArchived firstFound secondFound firstOwned
      firstOwnerless secondOwned secondOwnerless
    -- the realms of an Owner that is not archived are active
    have shared : ∀ {realm : MemoryRealmRow},
        db.tables.workspace.memoryRealms.get? realm.realmId = some realm →
        realm.ownerId = ownerId → realm.personId = none → realm.isShared ownerId = true := by
      intro realm realmFound owned ownerless
      obtain ⟨row, rowFound, active⟩ := sound.ownerless realmFound ownerless
      rw [owned, found] at rowFound
      cases rowFound
      exact MemoryRealmRow.isShared_iff.mpr ⟨owned, ownerless, active notArchived⟩
    exact unique ownerId first second firstFound secondFound
      (shared firstFound firstOwned firstOwnerless)
      (shared secondFound secondOwned secondOwnerless)
  · intro env request result db' provisioned created between lasts active env' request' result'
      db'' again sameOwner
    obtain ⟨-, realm, realmFound, shared⟩ := provisionCompanion_realm provisioned created
    have stays := replay_shared_stays lasts active realmFound shared
    by_contra createdAgain
    obtain ⟨none, -⟩ := provisionCompanion_realm again (by simpa using createdAgain)
    have notShared := none stays
    rw [sameOwner, shared] at notShared
    cases notShared

end EidolonData
