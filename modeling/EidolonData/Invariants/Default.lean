import EidolonData.Effects.Commands
import EidolonData.Workspace.Origins

/-!
# The default Companion

The pointer of an Owner names an active Companion of its own that is no
Guard.  That it is its own holds whatever the lifecycle contract says; that it
is active needs the contract to offer only active Companions as replacements.
-/

namespace EidolonData

open Relational

/-- A set default names a Companion of the same Owner that is no Guard. -/
def Workspace.DefaultOwned (w : Workspace) : Prop :=
  ∀ {ownerId owner companionId}, w.owners.get? ownerId = some owner →
    owner.defaultCompanionId = some companionId →
    ∃ companion, w.companions.get? companionId = some companion ∧
      companion.ownerId = ownerId ∧ companion.kind ≠ .guard

/-- A set default names no Companion that is not active. -/
def Workspace.DefaultActive (w : Workspace) : Prop :=
  ∀ {ownerId owner companionId companion}, w.owners.get? ownerId = some owner →
    owner.defaultCompanionId = some companionId →
    w.companions.get? companionId = some companion → companion.lifecycleState = .active

variable {sdk : Sdk} {permits : Permits}

theorem Change.defaultOwned {w w' : Workspace} (change : Change sdk permits w w')
    (owned : w.DefaultOwned) : w'.DefaultOwned := by
  intro ownerId owner companionId found pointed
  have same : owner.ownerId = ownerId := Table.key_of_get? found
  subst same
  have outlives := change.outlives.companions
  cases change.owner_origin found with
  | stored old oldFound status default =>
      rw [default] at pointed
      obtain ⟨companion, companionFound, own, notGuard⟩ := owned oldFound pointed
      obtain ⟨companion', stays, precedes⟩ := outlives _ _ companionFound
      refine ⟨companion', stays, precedes.ownerId.trans own, ?_⟩
      rw [precedes.kind]
      exact notGuard
  | created fresh active unset fits =>
      rw [unset] at pointed
      cases pointed
  | pointed old companion oldFound rewritten target answers =>
      rw [rewritten] at pointed ⊢
      cases pointed
      exact ⟨companion, target, answers.owned, answers.notGuard⟩

theorem defaultOwned_archived {w : Workspace} {owner : OwnerRow} (now : Timestamp)
    (stored : w.owners.get? owner.ownerId = some owner) (owned : w.DefaultOwned) :
    (w.archiveOwner now owner).DefaultOwned := by
  intro ownerId row companionId found pointed
  rcases (archiveOwner_stores stored).of_get? found with ⟨-, rfl⟩ | ⟨-, before⟩
  · cases pointed
  · obtain ⟨companion, companionFound, own, notGuard⟩ := owned before pointed
    obtain ⟨companion', stays, precedes⟩ := archiveOwner_carries _ _ companionFound
    refine ⟨companion', stays, precedes.ownerId.trans own, ?_⟩
    rw [precedes.kind]
    exact notGuard

theorem defaultOwned_removed {doomed : Doomed} {w w' : Workspace} (removal : Removal doomed w w')
    (owned : w.DefaultOwned) : w'.DefaultOwned := by
  intro ownerId new companionId found pointed
  obtain ⟨old, oldFound, -, spared⟩ := removal.owner found
  have same := spared.pointed pointed
  subst same
  obtain ⟨companion, companionFound, own, notGuard⟩ := owned oldFound pointed
  obtain ⟨companion', stays⟩ := removal.pointed found pointed
  obtain ⟨before, beforeFound, -, -, kept⟩ := removal.companion stays
  rw [companionFound] at beforeFound
  cases beforeFound
  refine ⟨companion', stays, kept.ownerId.trans own, ?_⟩
  rw [kept.kind]
  exact notGuard

theorem defaultOwned_invariant : Invariant sdk permits Workspace.DefaultOwned :=
  { change := Change.defaultOwned
    archived := fun now stored _ owned => defaultOwned_archived now stored owned
    removed := defaultOwned_removed }

/-- `DEFAULT_ELIGIBLE_LIFECYCLE_STATES` offers active Companions only. -/
def Sdk.OffersActive (sdk : Sdk) : Prop :=
  ∀ state ∈ sdk.defaultEligibleLifecycleStates, state = .active

theorem Sdk.MayAnswer.active {owner : OwnerRow} {companion : CompanionRow}
    (answers : sdk.MayAnswer owner companion) (offers : sdk.OffersActive) :
    companion.lifecycleState = .active := by
  rcases answers.state with active | ⟨-, eligible⟩
  · exact active
  · exact offers _ eligible

theorem Change.defaultActive {w w' : Workspace} (offers : sdk.OffersActive)
    (change : Change sdk permits w w') (owned : w.DefaultOwned) (active : w.DefaultActive) :
    w'.DefaultActive := by
  intro ownerId owner companionId companion found pointed companionFound
  have sameOwner : owner.ownerId = ownerId := Table.key_of_get? found
  have sameCompanion : companion.companionId = companionId := Table.key_of_get? companionFound
  subst sameOwner sameCompanion
  -- a pointer that moved names an active Companion at once
  have ownerCase := change.owner_origin found
  cases ownerCase with
  | created fresh alive unset fits =>
      rw [unset] at pointed
      cases pointed
  | pointed old target oldFound rewritten targetFound answers =>
      rw [rewritten] at pointed
      have named : target.companionId = companion.companionId := Option.some.inj pointed
      rw [named, companionFound] at targetFound
      cases targetFound
      exact answers.active offers
  | stored old oldFound status default =>
      -- a pointer that stayed names a Companion whose state stayed
      rw [default] at pointed
      cases change.companion_origin companionFound with
      | stored oldCompanion oldCompanionFound ownerId kind lifecycle realm config genome guarded =>
          rw [lifecycle]
          exact active oldFound pointed oldCompanionFound
      | moved oldCompanion target oldCompanionFound rewritten notDefault permitted =>
          obtain ⟨named, namedFound, own, -⟩ := owned oldFound pointed
          rw [oldCompanionFound] at namedFound
          cases namedFound
          by_cases toActive : target = .active
          · rw [rewritten, toActive]
            rfl
          · have moved : oldCompanion.companionId = companion.companionId := by
              rw [rewritten]
              rfl
            rw [← own] at oldFound
            exact absurd (moved ▸ pointed) (notDefault toActive old oldFound)
      | provisioned _ genome realm rows genomeStored realmStored realmShared =>
          exact rows.companionActive

theorem defaultActive_archived {w : Workspace} {owner : OwnerRow} (now : Timestamp)
    (stored : w.owners.get? owner.ownerId = some owner) (owned : w.DefaultOwned)
    (active : w.DefaultActive) : (w.archiveOwner now owner).DefaultActive := by
  intro ownerId row companionId companion found pointed companionFound
  rcases (archiveOwner_stores stored).of_get? found with ⟨-, rfl⟩ | ⟨other, before⟩
  · cases pointed
  · obtain ⟨named, namedFound, own, -⟩ := owned before pointed
    obtain ⟨old, oldFound, cases⟩ := archiveOwner_companion companionFound
    rcases cases with ⟨archived, -, -⟩ | ⟨-, rfl⟩
    · rw [oldFound] at namedFound
      cases namedFound
      exact absurd (own.symm.trans archived) other
    · exact active before pointed oldFound

theorem defaultActive_removed {doomed : Doomed} {w w' : Workspace} (removal : Removal doomed w w')
    (active : w.DefaultActive) : w'.DefaultActive := by
  intro ownerId new companionId companion found pointed companionFound
  obtain ⟨old, oldFound, -, spared⟩ := removal.owner found
  have same := spared.pointed pointed
  subst same
  obtain ⟨before, beforeFound, -, -, kept⟩ := removal.companion companionFound
  rw [kept.lifecycleState]
  exact active oldFound pointed beforeFound

structure Workspace.DefaultSound (w : Workspace) : Prop where
  owned : w.DefaultOwned
  active : w.DefaultActive

theorem defaultSound_invariant (offers : sdk.OffersActive) :
    Invariant sdk permits Workspace.DefaultSound :=
  { change := fun change sound =>
      { owned := change.defaultOwned sound.owned
        active := change.defaultActive offers sound.owned sound.active }
    archived := fun now stored _ sound =>
      { owned := defaultOwned_archived now stored sound.owned
        active := defaultActive_archived now stored sound.owned sound.active }
    removed := fun removal sound =>
      { owned := defaultOwned_removed removal sound.owned
        active := defaultActive_removed removal sound.active } }

theorem defaultOwned_empty : Database.empty.tables.workspace.DefaultOwned := by
  intro ownerId owner companionId found
  cases found

theorem defaultSound_empty : Database.empty.tables.workspace.DefaultSound := by
  refine ⟨defaultOwned_empty, ?_⟩
  intro ownerId owner companionId companion found
  cases found

end EidolonData
