import EidolonData.Effects.Commands
import EidolonData.Workspace.Origins

/-!
# The shared realm

Every Companion of an active Owner points at the one realm its Owner shares.
Archiving the Owner rests the realm and leaves the pointers; the realm of an
active Owner is never rested.
-/

namespace EidolonData

open Relational

def Workspace.PointsAtShared (w : Workspace) (companion : CompanionRow) : Prop :=
  ∃ realm, w.memoryRealms.get? realm.realmId = some realm ∧
    companion.defaultMemoryRealmId = some realm.realmId ∧
    realm.isShared companion.ownerId = true

section OnlyShared

variable {w : Workspace}

def Workspace.OnlyShared (w : Workspace) (ownerId : String) (realm : MemoryRealmRow) : Prop :=
  w.memoryRealms.get? realm.realmId = some realm ∧ realm.isShared ownerId = true ∧
    ∀ {otherId other}, w.memoryRealms.get? otherId = some other →
      other.isShared ownerId = true → other = realm

theorem Workspace.Integrity.onlyShared (integrity : w.Integrity) {ownerId : String}
    {realm : MemoryRealmRow} (found : w.memoryRealms.get? realm.realmId = some realm)
    (shared : realm.isShared ownerId = true) : w.OnlyShared ownerId realm := by
  refine ⟨found, shared, ?_⟩
  intro otherId other otherFound otherShared
  have column : ∀ {row : MemoryRealmRow}, row.isShared ownerId = true →
      (if row.isShared row.ownerId then some row.ownerId else none) = some ownerId := by
    intro row isShared
    have owned := (MemoryRealmRow.isShared_iff.mp isShared).1
    simp [owned, isShared]
  exact integrity.realmShared.eq_of_mem (Table.mem_of_get? otherFound) (Table.mem_of_get? found)
    (column otherShared) (column shared)

theorem Workspace.OnlyShared.oldest {ownerId : String} {realm : MemoryRealmRow}
    (only : w.OnlyShared ownerId realm) :
    oldestSharedRealm w.memoryRealms ownerId = some realm := by
  obtain ⟨found, shared, unique⟩ := only
  cases oldest : oldestSharedRealm w.memoryRealms ownerId with
  | some other =>
      obtain ⟨otherFound, otherShared⟩ := oldestSharedRealm_some oldest
      rw [unique otherFound otherShared]
  | none =>
      have member : realm ∈ w.memoryRealms.select (fun row => row.isShared ownerId) :=
        Table.mem_select.mpr ⟨found, shared⟩
      rw [List.argmin_eq_none.mp oldest] at member
      cases member

end OnlyShared

structure Workspace.RealmSound (w : Workspace) : Prop where
  owned : ∀ {companionId companion}, w.companions.get? companionId = some companion →
    ∃ owner, w.owners.get? companion.ownerId = some owner
  pointed : ∀ {companionId companion owner}, w.companions.get? companionId = some companion →
    w.owners.get? companion.ownerId = some owner → owner.status = .active →
    w.PointsAtShared companion
  named : ∀ {realmId realm}, w.memoryRealms.get? realmId = some realm →
    realm.personId = none → matchesGeneratedId realmId = true

variable {sdk : Sdk} {permits : Permits} {w w' : Workspace}

theorem Change.shared_stays (change : Change sdk permits w w') {realmId ownerId : String}
    {realm : MemoryRealmRow} (found : w.memoryRealms.get? realmId = some realm)
    (shared : realm.isShared ownerId = true) : w'.memoryRealms.get? realmId = some realm :=
  change.outlives.realms (MemoryRealmRow.isShared_iff.mp shared).2.1 found

theorem Change.active_before (change : Change sdk permits w w') {ownerId : String}
    {owner : OwnerRow} (found : w'.owners.get? ownerId = some owner)
    (active : owner.status = .active) :
    w.owners.get? ownerId = none ∨
      ∃ old, w.owners.get? ownerId = some old ∧ old.status = .active := by
  have same : owner.ownerId = ownerId := Table.key_of_get? found
  subst same
  cases change.owner_origin found with
  | stored old oldFound status default => exact Or.inr ⟨old, oldFound, status.symm.trans active⟩
  | created fresh alive unset fits => exact Or.inl fresh
  | pointed old companion oldFound rewritten target answers =>
      rw [rewritten] at active
      exact Or.inr ⟨old, oldFound, active⟩

theorem Change.companionOwned (change : Change sdk permits w w') (sound : w.RealmSound)
    {companionId : String} {companion : CompanionRow}
    (found : w'.companions.get? companionId = some companion) :
    ∃ owner, w'.owners.get? companion.ownerId = some owner := by
  have carried : ∀ {ownerId owner}, w.owners.get? ownerId = some owner →
      ∃ owner', w'.owners.get? ownerId = some owner' := by
    intro ownerId owner stored
    obtain ⟨owner', stays, -⟩ := change.outlives.owners _ _ stored
    exact ⟨owner', stays⟩
  cases change.companion_origin found with
  | stored old oldFound ownerId kind lifecycle realm config genome guarded =>
      obtain ⟨owner, stored⟩ := sound.owned oldFound
      rw [ownerId]
      exact carried stored
  | moved old target oldFound rewritten notDefault permitted =>
      obtain ⟨owner, stored⟩ := sound.owned oldFound
      rw [rewritten]
      exact carried stored
  | provisioned owner genome realm rows genomeStored realmStored realmShared =>
      rw [rows.companionOwner]
      exact carried rows.ownerStored

theorem Change.pointsAtShared (change : Change sdk permits w w') (sound : w.RealmSound)
    {companionId : String} {companion : CompanionRow} {owner : OwnerRow}
    (found : w'.companions.get? companionId = some companion)
    (ownerFound : w'.owners.get? companion.ownerId = some owner) (active : owner.status = .active) :
    w'.PointsAtShared companion := by
  -- the pointer there was leads to a realm that is still there
  have before : ∀ {oldId old}, w.companions.get? oldId = some old →
      old.ownerId = companion.ownerId → w.PointsAtShared old := by
    intro oldId old oldFound same
    rcases change.active_before ownerFound active with fresh | ⟨oldOwner, stored, alive⟩
    · obtain ⟨oldOwner, stored⟩ := sound.owned oldFound
      rw [same, fresh] at stored
      cases stored
    · exact sound.pointed oldFound (by rw [same]; exact stored) alive
  cases change.companion_origin found with
  | stored old oldFound ownerId kind lifecycle realm config genome guarded =>
      obtain ⟨shared, sharedFound, oldPointed, isShared⟩ := before oldFound ownerId.symm
      have stays := change.shared_stays sharedFound isShared
      cases realm with
      | same same => exact ⟨shared, stays, same.trans oldPointed, by rw [ownerId]; exact isShared⟩
      | shared other pointed stored otherShared =>
          exact ⟨other, stored, pointed, by rw [ownerId]; exact otherShared⟩
      | cleared same =>
          refine ⟨shared, stays, ?_, by rw [ownerId]; exact isShared⟩
          rw [same, oldPointed, Option.filter_some_pos]
          exact Table.has_of_get? stays
  | moved old target oldFound rewritten notDefault permitted =>
      subst rewritten
      obtain ⟨shared, sharedFound, oldPointed, isShared⟩ := before oldFound rfl
      exact ⟨shared, change.shared_stays sharedFound isShared, oldPointed, isShared⟩
  | provisioned other genome realm rows genomeStored realmStored realmShared =>
      exact ⟨realm, realmStored,
        rows.companionRealm, by rw [rows.companionOwner]; exact realmShared⟩

theorem Change.realmSound (change : Change sdk permits w w') (sound : w.RealmSound) :
    w'.RealmSound := by
  refine
    { owned := change.companionOwned sound
      pointed := change.pointsAtShared sound
      named := ?_ }
  intro realmId realm found ownerless
  rcases change.ownerless_realm found ownerless with before | added
  · exact sound.named before ownerless
  · have same : realm.realmId = realmId := Table.key_of_get? found
    rw [← same]
    exact added.named

theorem realmSound_archived {owner : OwnerRow} (now : Timestamp)
    (stored : w.owners.get? owner.ownerId = some owner) (sound : w.RealmSound) :
    (w.archiveOwner now owner).RealmSound := by
  refine { owned := ?_, pointed := ?_, named := ?_ }
  · intro companionId companion found
    obtain ⟨old, oldFound, moved⟩ := archiveOwner_companion found
    obtain ⟨row, rowFound⟩ := sound.owned oldFound
    have same : companion.ownerId = old.ownerId := by
      rcases moved with ⟨-, -, rfl⟩ | ⟨-, rfl⟩
      · rfl
      · rfl
    rw [same, archiveOwner_stores stored]
    by_cases own : old.ownerId = key { owner with
        status := .archived, defaultCompanionId := none, revision := owner.revision + 1 }
    · exact ⟨_, if_pos own⟩
    · exact ⟨row, (if_neg own).trans rowFound⟩
  · intro companionId companion row found rowFound active
    obtain ⟨old, oldFound, moved⟩ := archiveOwner_companion found
    rcases (archiveOwner_stores stored).of_get? rowFound with ⟨-, rfl⟩ | ⟨other, before⟩
    · cases active
    · rcases moved with ⟨own, -, rfl⟩ | ⟨-, rfl⟩
      · exact absurd own other
      · obtain ⟨realm, realmFound, pointed, shared⟩ := sound.pointed oldFound before active
        refine ⟨realm, ?_, pointed, shared⟩
        have notOwn : realm.ownerId ≠ owner.ownerId := by
          rw [(MemoryRealmRow.isShared_iff.mp shared).1]
          exact other
        simp [Workspace.archiveOwner, realmFound, notOwn]
  · intro realmId realm found ownerless
    obtain ⟨old, oldFound, rested⟩ := archiveOwner_realm found
    rcases rested with ⟨-, -, rfl⟩ | ⟨-, rfl⟩
    · exact sound.named oldFound ownerless
    · exact sound.named oldFound ownerless

theorem realmSound_removed {doomed : Doomed} (removal : Removal doomed w w')
    (sound : w.RealmSound) : w'.RealmSound := by
  refine { owned := ?_, pointed := ?_, named := ?_ }
  · intro companionId companion found
    obtain ⟨old, oldFound, -, owner, kept⟩ := removal.companion found
    rw [kept.ownerId]
    exact owner
  · intro companionId companion owner found ownerFound active
    obtain ⟨old, oldFound, -, -, kept⟩ := removal.companion found
    rw [kept.ownerId] at ownerFound
    obtain ⟨oldOwner, oldOwnerFound, -, spared⟩ := removal.owner ownerFound
    have oldActive : oldOwner.status = .active := spared.status.symm.trans active
    obtain ⟨realm, realmFound, pointed, shared⟩ := sound.pointed oldFound oldOwnerFound oldActive
    have realmOwner : realm.ownerId = old.ownerId := (MemoryRealmRow.isShared_iff.mp shared).1
    refine ⟨realm, ?_, kept.realm pointed realmFound realmOwner, by rw [kept.ownerId]; exact shared⟩
    rw [← realmOwner] at ownerFound
    exact removal.realmStays realmFound ownerFound
  · intro realmId realm found ownerless
    exact sound.named (removal.realm found).1 ownerless

theorem realmSound_invariant : Invariant sdk permits Workspace.RealmSound :=
  { change := Change.realmSound
    archived := fun now stored _ sound => realmSound_archived now stored sound
    removed := realmSound_removed }

theorem realmSound_empty : Database.empty.tables.workspace.RealmSound := by
  refine { owned := ?_, pointed := ?_, named := ?_ }
  · intro companionId companion found
    cases found
  · intro companionId companion owner found
    cases found
  · intro realmId realm found
    cases found

end EidolonData
