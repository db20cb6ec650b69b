import EidolonData.Effects.Provisioning
import EidolonData.Services.Lifecycle

/-!
# Effects of the lifecycle commands

A retirement is a moved default, where the Companion was the default, and a
move to `retiring`; putting away is two moves; choosing a default is a moved
default and a pointed realm.
-/

namespace EidolonData

open Relational

/-- A run lets this caller's move through wherever the command would make it. -/
def Permits.Allow (permits : Permits) (sdk : Sdk) (w : Workspace) (ownerId companionId : String)
    (target : LifecycleState) (expectedRevision : Option Int) : Prop :=
  ∀ companion, w.companions.get? companionId = some companion → companion.ownerId = ownerId →
    companion.lifecycleState ≠ target →
    requireTransition sdk companion target expectedRevision = .ok () →
    permits.moves w companion target

variable (sdk : Sdk) (permits : Permits) (env : Env) (t : Tables)

theorem ownedCompanion_effect (ownerId companionId : String) :
    (ownedCompanion ownerId companionId).Ensures t (fun companion t' =>
      t' = t ∧ t.workspace.companions.get? companion.companionId = some companion ∧
        companion.companionId = companionId ∧ companion.ownerId = ownerId) := by
  simp [ownedCompanion]
  intro companion found owned
  have stored : companion.companionId = companionId := Table.key_of_get? found
  subst stored
  exact ⟨found, rfl, owned⟩

theorem ownedCompanion_run {ownerId companionId : String} {companion : CompanionRow}
    (found : t.workspace.companions.get? companionId = some companion)
    (owned : companion.ownerId = ownerId) :
    (ownedCompanion ownerId companionId).run t = .ok (companion, t) := by
  have own : Option.filter (fun row : CompanionRow => row.ownerId = ownerId) (some companion) =
      some companion := by
    simp [owned]
  simp only [ownedCompanion, getCompanion, Tx.run_read_bind, found, own]
  rfl

theorem eligibleReplacement_effect (ownerId retiringId : String) (replacementId : Option String) :
    (eligibleReplacement sdk ownerId retiringId replacementId).Ensures t (fun replacement t' =>
      t' = t ∧ t.workspace.companions.get? replacement.companionId = some replacement ∧
        sdk.canReplace ownerId retiringId replacement = true) := by
  simp only [eligibleReplacement, Tx.ensures_bind, Tx.ensures_read, Tx.ensures_refuseIf,
    Tx.ensures_require]
  intro _ named _ replacement found
  obtain ⟨stored, able⟩ := Table.mem_select.mp (List.mem_of_find?_eq_some found)
  exact ⟨trivial, stored, able⟩

theorem writeDefault_effect (owner : OwnerRow) (companionId : String)
    (found : t.workspace.owners.get? owner.ownerId = some owner) :
    (writeDefault (owner.pointAt companionId)).Ensures t (fun _ t' => ∃ owners',
      Table.Stores t.workspace.owners owners' (owner.pointAt companionId) ∧
        t'.workspace = { t.workspace with owners := owners' }) := by
  simp only [writeDefault, ensures_updateOwnerRow]
  exact ⟨_, Table.stores_modify found, rfl⟩

theorem writeLifecycle_effect (companion : CompanionRow) (target : LifecycleState)
    (found : t.workspace.companions.get? companion.companionId = some companion) :
    (writeLifecycle (companion.moveTo target)).Ensures t (fun _ t' => ∃ companions',
      Table.Stores t.workspace.companions companions' (companion.moveTo target) ∧
        t'.workspace = { t.workspace with companions := companions' }) := by
  simp only [writeLifecycle, ensures_updateCompanionRow]
  exact ⟨_, Table.stores_modify found, rfl⟩

theorem handOverDefault_effect (owner : OwnerRow) (companionId : String)
    (replacementId : Option String)
    (found : t.workspace.owners.get? owner.ownerId = some owner) :
    (handOverDefault sdk env owner companionId replacementId).Ensures t (fun result t' =>
      Changes sdk permits t.workspace t'.workspace ∧
        (∃ owners', t'.workspace = { t.workspace with owners := owners' }) ∧
        t'.workspace.owners.get? owner.ownerId = some result.1 ∧
        result.1.defaultCompanionId ≠ some companionId) := by
  simp only [handOverDefault, Tx.ensures_ite, Tx.ensures_bind, Tx.pure_eq, Tx.ensures_done]
  constructor
  · intro pointed
    refine (eligibleReplacement_effect sdk t _ _ _).mono ?_
    intro replacement t₁ outcome
    obtain ⟨unchanged, stored, able⟩ := outcome
    subst unchanged
    simp only [Sdk.canReplace, Bool.and_eq_true, decide_eq_true_eq] at able
    obtain ⟨⟨⟨owned, different⟩, eligible⟩, notGuard⟩ := able
    refine (writeDefault_effect _ owner _ found).mono ?_
    intro _ t₂ outcome
    obtain ⟨owners', stores, workspace₂⟩ := outcome
    simp only [ensures_addFact, Tables.workspace_addFact, workspace₂]
    refine ⟨.single (.defaultMoved owner replacement _ found stored ?_ ?_ stores), ⟨_, rfl⟩,
      stores.self, ?_⟩
    · refine ⟨owned, notGuard, Or.inr ⟨?_, eligible⟩⟩
      simp [pointed]
    · intro same
      rw [pointed] at same
      exact different (Option.some.inj same).symm
    · intro same
      exact different (Option.some.inj same)
  · intro kept
    exact ⟨.refl, ⟨_, rfl⟩, found, kept⟩

theorem writeLifecycle_change (companion : CompanionRow) (target : LifecycleState)
    (found : t.workspace.companions.get? companion.companionId = some companion)
    (notDefault : target ≠ .active → ∀ owner,
      t.workspace.owners.get? companion.ownerId = some owner →
        owner.defaultCompanionId ≠ some companion.companionId)
    (permitted : permits.moves t.workspace companion target) :
    (writeLifecycle (companion.moveTo target)).Ensures t (fun _ t' =>
      Change sdk permits t.workspace t'.workspace ∧
        t'.workspace.companions.get? companion.companionId = some (companion.moveTo target) ∧
        t'.workspace.owners = t.workspace.owners) := by
  refine (writeLifecycle_effect t companion target found).mono ?_
  intro _ t' ⟨companions', stores, workspace⟩
  rw [workspace]
  exact ⟨.lifecycleMoved companion target _ found notDefault permitted stores, stores.self, rfl⟩

/-- The Companion ends retiring, its Owner's default is another one, and the
Owner the session holds is the stored one. -/
theorem retire_effect (ownerId : String) (companion : CompanionRow)
    (expectedRevision : Option Int) (replacementId : Option String)
    (found : t.workspace.companions.get? companion.companionId = some companion)
    (owned : companion.ownerId = ownerId)
    (allowed : permits.Allow sdk t.workspace ownerId companion.companionId .retiring
      expectedRevision) :
    (retire sdk env ownerId companion expectedRevision replacementId).Ensures t (fun result t' =>
      Changes sdk permits t.workspace t'.workspace ∧
        t'.workspace.companions.get? companion.companionId = some result.1 ∧
        result.1.companionId = companion.companionId ∧ result.1.ownerId = ownerId ∧
        result.1.lifecycleState = .retiring ∧
        (∀ owner, result.2 = some owner → t'.workspace.owners.get? ownerId = some owner)) := by
  simp only [retire, Tx.ensures_ite, Tx.ensures_bind, Tx.pure_eq, Tx.ensures_done, ensures_check,
    ensures_getOwner, Tx.ensures_require, ensures_addFact, Tables.workspace_addFact]
  constructor
  · intro retiring
    refine ⟨.refl, found, trivial, owned, retiring, ?_⟩
    intro owner held
    cases held
  · intro notRetiring _ accepted owner ownerFound
    have stored : owner.ownerId = ownerId := Table.key_of_get? ownerFound
    subst stored
    have permitted : permits.moves t.workspace companion .retiring :=
      allowed companion found owned notRetiring accepted
    refine (handOverDefault_effect sdk permits env t owner _ _ ownerFound).mono ?_
    intro reply t₁ outcome
    obtain ⟨owner', replacement⟩ := reply
    obtain ⟨handed, ⟨owners₁, workspace₁⟩, ownerFound₁, notDefault⟩ := outcome
    have found₁ : t₁.workspace.companions.get? companion.companionId = some companion := by
      rw [workspace₁]
      exact found
    have permitted₁ : permits.moves t₁.workspace companion .retiring := by
      rw [workspace₁]
      exact permits.handed _ owners₁ companion permitted
    refine (writeLifecycle_change sdk permits t₁ companion .retiring found₁ ?_ permitted₁).mono ?_
    · intro _ other otherFound
      rw [owned, ownerFound₁] at otherFound
      cases otherFound
      exact notDefault
    intro _ t₂ outcome
    obtain ⟨change, moved, owners₂⟩ := outcome
    refine ⟨.tail handed change, moved, rfl, owned, rfl, ?_⟩
    intro held same
    cases same
    rw [owners₂]
    exact ownerFound₁

theorem getLoadedOwner_effect (ownerId : String) (loaded : Option OwnerRow)
    (held : ∀ owner, loaded = some owner → t.workspace.owners.get? ownerId = some owner) :
    (getLoadedOwner ownerId loaded).Ensures t (fun owner t' =>
      t' = t ∧ owner = t.workspace.owners.get? ownerId) := by
  cases loaded with
  | some owner =>
      simp only [getLoadedOwner, Tx.ensures_done]
      exact ⟨trivial, (held owner rfl).symm⟩
  | none =>
      simp only [getLoadedOwner, ensures_getOwner]
      exact ⟨trivial, trivial⟩

theorem archive_changes (ownerId : String) (companion : CompanionRow) (loaded : Option OwnerRow)
    (expectedRevision : Option Int)
    (found : t.workspace.companions.get? companion.companionId = some companion)
    (owned : companion.ownerId = ownerId)
    (held : ∀ owner, loaded = some owner → t.workspace.owners.get? ownerId = some owner)
    (permitted : companion.lifecycleState ≠ .archived →
      requireTransition sdk companion .archived expectedRevision = .ok () →
      permits.moves t.workspace companion .archived) :
    (archive sdk env ownerId companion loaded expectedRevision).Ensures t
      (fun _ t' => Changes sdk permits t.workspace t'.workspace) := by
  simp only [archive, Tx.ensures_ite, Tx.ensures_bind, Tx.pure_eq, Tx.ensures_done, ensures_check,
    Tx.ensures_refuseIf, ensures_addFact, Tables.workspace_addFact]
  constructor
  · intro _
    exact .refl
  · intro notArchived _ accepted
    refine (getLoadedOwner_effect t ownerId loaded held).mono ?_
    intro owner t₁ outcome notDefault
    obtain ⟨unchanged, ownerRead⟩ := outcome
    subst unchanged
    refine (writeLifecycle_change sdk permits t₁ companion .archived found ?_
      (permitted notArchived accepted)).mono ?_
    · intro _ other otherFound pointed
      rw [owned] at otherFound
      apply notDefault
      simp [ownerRead, otherFound, pointed]
    intro _ t₂ outcome
    obtain ⟨change, _⟩ := outcome
    exact .single change

theorem beginRetirement_changes (ownerId companionId : String) (expectedRevision : Option Int)
    (replacementId : Option String)
    (allowed : permits.Allow sdk t.workspace ownerId companionId .retiring expectedRevision) :
    (beginRetirement sdk env ownerId companionId expectedRevision replacementId).Ensures t
      (fun _ t' => Changes sdk permits t.workspace t'.workspace) := by
  simp only [beginRetirement, Tx.ensures_bind, Tx.pure_eq, Tx.ensures_done]
  refine (ownedCompanion_effect t ownerId companionId).mono ?_
  intro companion t₁ outcome
  obtain ⟨unchanged, found, named, owned⟩ := outcome
  subst unchanged named
  refine (retire_effect sdk permits env t₁ ownerId companion expectedRevision replacementId found
    owned allowed).mono ?_
  intro result t₂ outcome
  obtain ⟨changes, _⟩ := outcome
  exact changes

theorem archiveCompanion_changes (ownerId companionId : String) (expectedRevision : Option Int)
    (allowed : permits.Allow sdk t.workspace ownerId companionId .archived expectedRevision) :
    (archiveCompanion sdk env ownerId companionId expectedRevision).Ensures t
      (fun _ t' => Changes sdk permits t.workspace t'.workspace) := by
  simp only [archiveCompanion, Tx.ensures_bind]
  refine (ownedCompanion_effect t ownerId companionId).mono ?_
  intro companion t₁ outcome
  obtain ⟨unchanged, found, named, owned⟩ := outcome
  subst unchanged named
  refine archive_changes sdk permits env t₁ ownerId companion none expectedRevision found owned
    ?_ (allowed companion found owned)
  intro owner held
  cases held

theorem putAwayCompanion_changes (ownerId companionId : String) (expectedRevision : Option Int)
    (replacementId : Option String)
    (allowed : permits.Allow sdk t.workspace ownerId companionId .retiring expectedRevision) :
    (putAwayCompanion sdk env ownerId companionId expectedRevision replacementId).Ensures t
      (fun _ t' => Changes sdk permits t.workspace t'.workspace) := by
  simp only [putAwayCompanion, Tx.ensures_bind, Tx.ensures_ite, Tx.pure_eq, Tx.ensures_done]
  refine (ownedCompanion_effect t ownerId companionId).mono ?_
  intro companion t₁ outcome
  obtain ⟨unchanged, found, named, owned⟩ := outcome
  subst unchanged named
  refine ⟨?_, fun _ => .refl⟩
  intro _
  refine (retire_effect sdk permits env t₁ ownerId companion expectedRevision replacementId found
    owned allowed).mono ?_
  intro reply t₂ outcome
  obtain ⟨retired, owner⟩ := reply
  obtain ⟨changes, stored, same, owned', retiring, held⟩ := outcome
  have found₂ : t₂.workspace.companions.get? retired.companionId = some retired := by
    rw [same]
    exact stored
  refine (archive_changes sdk permits env t₂ ownerId retired owner none found₂ owned' held
    ?_).mono ?_
  · intro _ _
    exact permits.retired _ retired retiring
  · intro _ t₃ archived
    exact changes.trans archived

theorem restoreCompanion_changes (ownerId companionId : String) (expectedRevision : Option Int)
    (allowed : permits.Allow sdk t.workspace ownerId companionId .active expectedRevision) :
    (restoreCompanion sdk env ownerId companionId expectedRevision).Ensures t
      (fun _ t' => Changes sdk permits t.workspace t'.workspace) := by
  simp only [restoreCompanion, Tx.ensures_bind, Tx.ensures_ite, Tx.pure_eq, Tx.ensures_done,
    ensures_check, ensures_addFact, Tables.workspace_addFact]
  refine (ownedCompanion_effect t ownerId companionId).mono ?_
  intro companion t₁ outcome
  obtain ⟨unchanged, found, named, owned⟩ := outcome
  subst unchanged named
  constructor
  · intro _
    exact .refl
  · intro notActive _ accepted
    refine (writeLifecycle_change sdk permits t₁ companion .active found (fun no => absurd rfl no)
      (allowed companion found owned notActive accepted)).mono ?_
    intro _ t₂ outcome
    obtain ⟨change, _⟩ := outcome
    exact .single change

/-- The pointer half of `set_default_companion` moves the default to an active
Companion, or finds it there. -/
theorem moveDefault_effect (owner : OwnerRow) (companion : CompanionRow)
    (ownerFound : t.workspace.owners.get? owner.ownerId = some owner)
    (found : t.workspace.companions.get? companion.companionId = some companion)
    (owned : companion.ownerId = owner.ownerId) (notGuard : companion.kind ≠ .guard)
    (active : companion.lifecycleState = .active) :
    (moveDefault env owner companion.companionId).Ensures t (fun _ t' =>
      Changes sdk permits t.workspace t'.workspace ∧
        t'.workspace.companions = t.workspace.companions) := by
  simp only [moveDefault, Tx.ensures_ite, Tx.ensures_bind, Tx.ensures_done, ensures_addFact,
    Tables.workspace_addFact]
  constructor
  · intro moved
    refine (writeDefault_effect t owner companion.companionId ownerFound).mono ?_
    intro _ t₁ outcome
    obtain ⟨owners', stores, workspace₁⟩ := outcome
    rw [workspace₁]
    exact ⟨.single (.defaultMoved owner companion _ ownerFound found
      ⟨owned, notGuard, Or.inl active⟩ moved stores), rfl⟩
  · intro _
    exact ⟨.refl, trivial⟩

theorem setDefaultCompanion_changes (ownerId companionId : String)
    (expectedRevision : Option Int) :
    (setDefaultCompanion env ownerId companionId expectedRevision).Ensures t
      (fun _ t' => Changes sdk permits t.workspace t'.workspace) := by
  simp only [setDefaultCompanion, Tx.ensures_bind, Tx.ensures_refuseIf, ensures_getOwner,
    Tx.ensures_require]
  refine (ownedActiveCompanion_effect t ownerId companionId).mono ?_
  intro companion t₁ outcome notGuard owner ownerFound _
  obtain ⟨unchanged, found, named, owned, active⟩ := outcome
  subst unchanged named
  have stored : owner.ownerId = ownerId := Table.key_of_get? ownerFound
  subst stored
  refine (moveDefault_effect sdk permits env t₁ owner companion ownerFound found owned notGuard
    active).mono ?_
  intro _ t₂ outcome
  obtain ⟨moved, companions₂⟩ := outcome
  have found₂ : t₂.workspace.companions.get? companion.companionId = some companion := by
    rw [companions₂]
    exact found
  refine (ensureMemoryRealmInSession_effect env t₂ companion {}).mono ?_
  intro reply t₃ outcome
  obtain ⟨realm, created⟩ := reply
  obtain ⟨pointed, _⟩ := outcome
  have changes := moved.tail (pointed.change sdk permits found₂ active)
  cases created with
  | true => simpa [realmCataloged] using changes
  | false => simpa using changes

theorem ensureMemoryRealmInSession_owners (companion : CompanionRow) (request : RealmRequest) :
    (ensureMemoryRealmInSession env companion request).Ensures t
      (fun _ t' => t'.workspace.owners = t.workspace.owners) := by
  refine (ensureMemoryRealmInSession_effect env t companion request).mono ?_
  intro _ t' ⟨⟨realms', _, same⟩, _⟩
  rw [same]

/-- A choice of a default finds it there, or moves the pointer at the revision
it names. -/
theorem setDefaultCompanion_owner (ownerId companionId : String) (expectedRevision : Option Int) :
    (setDefaultCompanion env ownerId companionId expectedRevision).Ensures t (fun _ t' =>
      ∃ owner, t.workspace.owners.get? ownerId = some owner ∧
        ((owner.defaultCompanionId = some companionId ∧
            t'.workspace.owners.get? ownerId = some owner) ∨
          (owner.defaultCompanionId ≠ some companionId ∧
            (∀ revision, expectedRevision = some revision → revision = owner.revision) ∧
            t'.workspace.owners.get? ownerId = some (owner.pointAt companionId)))) := by
  simp only [setDefaultCompanion, Tx.ensures_bind, Tx.ensures_refuseIf, ensures_getOwner,
    Tx.ensures_require]
  refine (ownedActiveCompanion_effect t ownerId companionId).mono ?_
  intro companion t₁ outcome notGuard owner ownerFound accepted
  obtain ⟨unchanged, found, named, owned, active⟩ := outcome
  subst unchanged
  have key : owner.ownerId = ownerId := Table.key_of_get? ownerFound
  subst key
  have moves : (moveDefault env owner companionId).Ensures t₁ (fun _ t' =>
      (owner.defaultCompanionId = some companionId ∧
        t'.workspace.owners.get? owner.ownerId = some owner) ∨
      (owner.defaultCompanionId ≠ some companionId ∧
        t'.workspace.owners.get? owner.ownerId = some (owner.pointAt companionId))) := by
    simp only [moveDefault, Tx.ensures_ite, Tx.ensures_bind, Tx.ensures_done, ensures_addFact,
      Tables.workspace_addFact]
    constructor
    · intro moved
      refine (writeDefault_effect t₁ owner companionId ownerFound).mono ?_
      intro _ t₂ outcome
      obtain ⟨owners', stores, workspace₂⟩ := outcome
      rw [workspace₂]
      exact Or.inr ⟨moved, stores.self⟩
    · intro same
      exact Or.inl ⟨not_not.mp same, ownerFound⟩
  refine moves.mono ?_
  intro _ t₂ moved
  refine (ensureMemoryRealmInSession_owners env t₂ companion {}).mono ?_
  intro reply t₃ same
  obtain ⟨realm, created⟩ := reply
  have final : ∃ found, t₁.workspace.owners.get? owner.ownerId = some found ∧
      ((found.defaultCompanionId = some companionId ∧
          t₃.workspace.owners.get? owner.ownerId = some found) ∨
        (found.defaultCompanionId ≠ some companionId ∧
          (∀ revision, expectedRevision = some revision → revision = found.revision) ∧
          t₃.workspace.owners.get? owner.ownerId = some (found.pointAt companionId))) := by
    refine ⟨owner, ownerFound, ?_⟩
    rw [same]
    rcases moved with kept | ⟨notDefault, stored⟩
    · exact Or.inl kept
    · refine Or.inr ⟨notDefault, ?_, stored⟩
      intro revision expected
      by_contra stale
      exact accepted ⟨by simp [expected, stale], notDefault⟩
  cases created with
  | true => simpa [realmCataloged] using final
  | false => simpa using final

end EidolonData
