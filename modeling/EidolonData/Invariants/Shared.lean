import EidolonData.Effects.Histories
import EidolonData.Invariants.Realms

/-!
# One shared memory

The realms of no Person belong to stored Owners and are active unless the
Owner is archived, and every Companion that points at a realm points at one
of these, of its own Owner.
-/

namespace EidolonData

open Relational

def Workspace.SharesRealm (w : Workspace) (ownerId realmId : String) : Prop :=
  ∃ realm, w.memoryRealms.get? realmId = some realm ∧ realm.ownerId = ownerId ∧
    realm.personId = none

structure Workspace.SharedSound (w : Workspace) : Prop where
  realms : w.RealmSound
  ownerless : ∀ {realmId realm}, w.memoryRealms.get? realmId = some realm →
    realm.personId = none → ∃ owner, w.owners.get? realm.ownerId = some owner ∧
      (owner.status ≠ .archived → realm.status = .active)
  pointed : ∀ {companionId companion realmId}, w.companions.get? companionId = some companion →
    companion.defaultMemoryRealmId = some realmId → w.SharesRealm companion.ownerId realmId

section SharedSound

variable {sdk : Sdk} {permits : Permits} {w w' : Workspace}

theorem Change.sharesRealm (change : Change sdk permits w w') {ownerId realmId : String}
    (shares : w.SharesRealm ownerId realmId) : w'.SharesRealm ownerId realmId := by
  obtain ⟨realm, found, owned, ownerless⟩ := shares
  exact ⟨realm, change.outlives.realms ownerless found, owned, ownerless⟩

theorem Workspace.SharesRealm.of_shared {realm : MemoryRealmRow} {ownerId : String}
    (found : w.memoryRealms.get? realm.realmId = some realm)
    (shared : realm.isShared ownerId = true) : w.SharesRealm ownerId realm.realmId := by
  obtain ⟨owned, ownerless, -⟩ := MemoryRealmRow.isShared_iff.mp shared
  exact ⟨realm, found, owned, ownerless⟩

theorem Change.shared_pointed (change : Change sdk permits w w') (sound : w.SharedSound)
    {companionId realmId : String} {companion : CompanionRow}
    (found : w'.companions.get? companionId = some companion)
    (pointed : companion.defaultMemoryRealmId = some realmId) :
    w'.SharesRealm companion.ownerId realmId := by
  cases change.companion_origin found with
  | stored old oldFound ownerId kind lifecycle realm config genome guarded =>
      rw [ownerId]
      cases realm with
      | same same => exact change.sharesRealm (sound.pointed oldFound (same.symm.trans pointed))
      | shared other otherPointed stored isShared =>
          rw [pointed] at otherPointed
          cases otherPointed
          exact .of_shared stored isShared
      | cleared same =>
          rw [same] at pointed
          exact change.sharesRealm
            (sound.pointed oldFound (Option.filter_eq_some_iff.mp pointed).1)
  | moved old target oldFound rewritten notDefault permitted =>
      subst rewritten
      have before : old.defaultMemoryRealmId = some realmId := pointed
      have shares := sound.pointed oldFound before
      exact change.sharesRealm shares
  | provisioned owner genome realm rows genomeStored realmStored realmShared =>
      rw [rows.companionRealm] at pointed
      cases pointed
      rw [rows.companionOwner]
      exact .of_shared realmStored realmShared

theorem Change.shared_ownerless (change : Change sdk permits w w') (sound : w.SharedSound)
    {realmId : String} {realm : MemoryRealmRow}
    (found : w'.memoryRealms.get? realmId = some realm) (ownerless : realm.personId = none) :
    ∃ owner, w'.owners.get? realm.ownerId = some owner ∧
      (owner.status ≠ .archived → realm.status = .active) := by
  rcases change.ownerless_realm found ownerless with before | added
  · obtain ⟨owner, stored, active⟩ := sound.ownerless before ownerless
    obtain ⟨owner', stays, precedes⟩ := change.outlives.owners _ _ stored
    refine ⟨owner', stays, ?_⟩
    rw [precedes.status]
    exact active
  · have stored : ∃ owner, w.owners.get? realm.ownerId = some owner := by
      rcases added.owner with stored | ⟨companion, companionFound, owned⟩
      · exact stored
      · rw [← owned]
        exact sound.realms.owned companionFound
    obtain ⟨owner, stored⟩ := stored
    obtain ⟨owner', stays, -⟩ := change.outlives.owners _ _ stored
    exact ⟨owner', stays, fun _ => added.active⟩

theorem Change.sharedSound (change : Change sdk permits w w') (sound : w.SharedSound) :
    w'.SharedSound :=
  { realms := change.realmSound sound.realms
    ownerless := change.shared_ownerless sound
    pointed := change.shared_pointed sound }

theorem sharedSound_archived {owner : OwnerRow} (now : Timestamp)
    (stored : w.owners.get? owner.ownerId = some owner) (sound : w.SharedSound) :
    (w.archiveOwner now owner).SharedSound := by
  have stores : Table.Stores w.owners (w.archiveOwner now owner).owners _ :=
    archiveOwner_stores stored
  refine
    { realms := realmSound_archived now stored sound.realms
      ownerless := ?_
      pointed := ?_ }
  · intro realmId realm found ownerless
    obtain ⟨old, oldFound, rested⟩ := archiveOwner_realm found
    by_cases own : old.ownerId = owner.ownerId
    · -- a realm of the archived Owner may rest
      have named : realm.ownerId = owner.ownerId := by
        rcases rested with ⟨-, -, rfl⟩ | ⟨-, rfl⟩
        · exact own
        · exact own
      rw [named]
      refine ⟨_, stores.self, ?_⟩
      intro alive
      exact absurd rfl alive
    · have same : realm = old := by
        rcases rested with ⟨own', -, -⟩ | ⟨-, same⟩
        · exact absurd own' own
        · exact same
      subst same
      obtain ⟨row, rowFound, active⟩ := sound.ownerless oldFound ownerless
      exact ⟨row, (stores.other own).trans rowFound, active⟩
  · intro companionId companion realmId found pointed
    obtain ⟨old, oldFound, moved⟩ := archiveOwner_companion found
    have before : w.SharesRealm companion.ownerId realmId := by
      rcases moved with ⟨-, -, rfl⟩ | ⟨-, rfl⟩
      · have oldPointed : old.defaultMemoryRealmId = some realmId := pointed
        have shares := sound.pointed oldFound oldPointed
        exact shares
      · exact sound.pointed oldFound pointed
    obtain ⟨realm, realmFound, owned, ownerless⟩ := before
    simp only [Workspace.SharesRealm, Workspace.archiveOwner, Table.get?_update, realmFound,
      Option.map_some, Option.some.injEq, exists_eq_left']
    split
    · exact ⟨owned, ownerless⟩
    · exact ⟨owned, ownerless⟩

theorem sharedSound_removed {doomed : Doomed} (removal : Removal doomed w w')
    (sound : w.SharedSound) : w'.SharedSound := by
  refine
    { realms := realmSound_removed removal sound.realms
      ownerless := ?_
      pointed := ?_ }
  · intro realmId realm found ownerless
    obtain ⟨before, owner', stays⟩ := removal.realm found
    obtain ⟨owner, stored, active⟩ := sound.ownerless before ownerless
    obtain ⟨old, oldFound, -, spared⟩ := removal.owner stays
    rw [stored] at oldFound
    cases oldFound
    refine ⟨owner', stays, ?_⟩
    rw [spared.status]
    exact active
  · intro companionId companion realmId found pointed
    obtain ⟨old, oldFound, -, ⟨owner, ownerFound⟩, kept⟩ := removal.companion found
    obtain ⟨realm, realmFound, owned, ownerless⟩ := sound.pointed oldFound (kept.pointer pointed)
    rw [kept.ownerId]
    rw [← owned] at ownerFound
    exact ⟨realm, removal.realmStays realmFound ownerFound, owned, ownerless⟩

theorem sharedSound_invariant : Invariant sdk permits Workspace.SharedSound :=
  { change := Change.sharedSound
    archived := fun now stored _ sound => sharedSound_archived now stored sound
    removed := sharedSound_removed }

end SharedSound

section Lasting

variable {sdk : Sdk} {permits : Permits} {w w' : Workspace}

def Workspace.OwnerActive (w : Workspace) (ownerId : String) : Prop :=
  ∃ owner, w.owners.get? ownerId = some owner ∧ owner.status = .active

instance (w : Workspace) (ownerId : String) : Decidable (w.OwnerActive ownerId) :=
  decidable_of_iff ((w.owners.get? ownerId).any (fun owner => owner.status = .active) = true)
    (by simp [Workspace.OwnerActive, Option.any_eq_true])

/-- The shared realm of an Owner that is active before and after a command
stays. -/
theorem Command.Effect.shared_stays {command : Command}
    (effect : command.Effect sdk permits w w') {ownerId : String} (active : w'.OwnerActive ownerId)
    {realm : MemoryRealmRow} (found : w.memoryRealms.get? realm.realmId = some realm)
    (shared : realm.isShared ownerId = true) :
    w'.memoryRealms.get? realm.realmId = some realm := by
  obtain ⟨owned, ownerless, alive⟩ := MemoryRealmRow.isShared_iff.mp shared
  obtain ⟨owner, ownerFound, ownerAlive⟩ := active
  rw [← owned] at ownerFound
  cases command with
  | archiveOwner archived =>
      rcases effect with rfl | ⟨other, now, otherFound, -, rfl⟩
      · exact found
      · have named : other.ownerId = archived := Table.key_of_get? otherFound
        subst named
        have different : realm.ownerId ≠ other.ownerId := by
          intro same
          rcases (archiveOwner_stores otherFound).of_get? ownerFound with ⟨-, rfl⟩ | ⟨notSame, -⟩
          · cases ownerAlive
          · exact notSame same
        simp [Workspace.archiveOwner, found, different]
  | deleteOwner deleted =>
      rcases effect with rfl | removal
      · exact found
      · exact removal.realmStays found ownerFound
  | deleteCompanion other deleted allowDefault => exact effect.1.realmStays found ownerFound
  | _ => exact Changes.outlives effect |>.realms ownerless found

theorem replay_shared_stays {ownerId : String} {realm : MemoryRealmRow} {calls : List Call}
    {db : Database} (lasts : Heeds sdk (fun w _ => w.OwnerActive ownerId) calls db)
    (final : (replay sdk calls db).tables.workspace.OwnerActive ownerId)
    (found : db.tables.workspace.memoryRealms.get? realm.realmId = some realm)
    (shared : realm.isShared ownerId = true) :
    (replay sdk calls db).tables.workspace.memoryRealms.get? realm.realmId = some realm := by
  refine replay_relates (fun w => w.OwnerActive ownerId)
    (fun w w' => w.memoryRealms.get? realm.realmId = some realm →
      w'.memoryRealms.get? realm.realmId = some realm) ?_ ?_ ?_ lasts final found
  · intro w stored
    exact stored
  · intro first second third _ one two stored
    exact two (one stored)
  · intro w w' command _ active effect stored
    exact effect.shared_stays active stored shared

end Lasting

theorem sharedSound_empty : Database.empty.tables.workspace.SharedSound := by
  refine { realms := realmSound_empty, ownerless := ?_, pointed := ?_ }
  · intro realmId realm found
    cases found
  · intro companionId companion realmId found
    cases found

end EidolonData
