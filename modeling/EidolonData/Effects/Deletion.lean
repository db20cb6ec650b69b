import EidolonData.Services.Deletion
import EidolonData.Workspace.Removal

/-!
# Effects of the deletions

Each deletion prepares the workspace and leaves the rest to the `ON DELETE`
actions.
-/

namespace EidolonData

open Relational

variable (env : Env) (t : Tables)

def Doomed.owner (ownerId : String) : Doomed :=
  { owners := fun other => other = ownerId
    companions := fun _ => False }

def Doomed.companion (companionId : String) : Doomed :=
  { owners := fun _ => False
    companions := fun other => other = companionId }

theorem Workspace.breakPointers_other (w : Workspace) {ownerId companionId : String}
    {row : CompanionRow} (other : row.ownerId ≠ ownerId) :
    (w.breakPointers ownerId).companions.get? companionId = some row ↔
      w.companions.get? companionId = some row := by
  simp only [Workspace.breakPointers, Table.get?_update, Option.map_eq_some_iff]
  constructor
  · intro read
    obtain ⟨old, found, rewritten⟩ := read
    split at rewritten
    · next owned =>
        rw [← rewritten] at other
        exact absurd owned other
    · rw [← rewritten]
      exact found
  · intro found
    exact ⟨row, found, if_neg other⟩

/-- Deleting an Owner leaves a prepared workspace to the `ON DELETE` actions. -/
theorem deleteOwner_prepared (ownerId : String) :
    (deleteOwner env ownerId).Ensures t (fun _ t' => t' = t ∨
      ∃ w₀, Prepared (.owner ownerId) t.workspace w₀ ∧ t'.workspace = w₀.cascade) := by
  simp only [deleteOwner, Tx.ensures_bind, ensures_getOwner]
  cases found : t.workspace.owners.get? ownerId with
  | none =>
      simp only [Tx.pure_eq, Tx.ensures_done]
      exact Or.inl trivial
  | some owner =>
      simp only [Tx.ensures_bind, Tx.ensures_read, Tx.ensures_modify, ensures_addFact, Tx.pure_eq,
        Tx.ensures_done, Tables.workspace_addFact]
      exact Or.inr ⟨_, prepared_withoutOwner t.workspace ownerId _
        (Workspace.breakPointers_other t.workspace), rfl⟩

theorem deleteOwner_effect (ownerId : String) :
    (deleteOwner env ownerId).Ensures t (fun _ t' =>
      t' = t ∨ Removal (.owner ownerId) t.workspace t'.workspace) := by
  refine (deleteOwner_prepared env t ownerId).mono ?_
  intro _ t' deleted
  refine deleted.imp_right ?_
  intro removed
  obtain ⟨w₀, prepared, workspace⟩ := removed
  rw [workspace]
  exact prepared.removal

theorem prepared_withoutCompanion (w : Workspace) (companionId : String)
    (owners' : Table OwnerRow) (companions' : Table CompanionRow)
    (others : ∀ other, other ≠ companionId →
      companions'.get? other = w.companions.get? other)
    (owners : ∀ {ownerId new}, owners'.get? ownerId = some new →
      ∃ old, w.owners.get? ownerId = some old ∧
        ((old.defaultCompanionId = some companionId ∧
            new = { old with
              defaultCompanionId := none
              revision := old.revision + 1 }) ∨
          (new = old ∧ ∀ companion, old.defaultCompanionId = some companionId →
            w.companions.get? companionId = some companion →
            companion.ownerId ≠ old.ownerId)))
    (ownersStay : ∀ {ownerId old}, w.owners.get? ownerId = some old →
      ∃ new, owners'.get? ownerId = some new) :
    Prepared (.companion companionId) w
      ({ w with owners := owners', companions := companions' }.withoutCompanion companionId) := by
  refine
    { ownerGone := ?_, owner := ?_, ownerStays := ?_, companionGone := ?_, companion := ?_,
      companionStays := ?_, genomes := rfl, realms := rfl, bindings := rfl }
  · intro _ gone
    exact gone.elim
  · intro ownerId new found
    obtain ⟨old, stored, rewritten⟩ := owners found
    refine ⟨old, stored, ?_⟩
    rcases rewritten with ⟨pointed, changed⟩ | ⟨same, notOwn⟩
    · exact Or.inl ⟨companionId, pointed, rfl, changed⟩
    · refine Or.inr ⟨same, ?_⟩
      rintro _ companion pointed rfl companionFound
      exact notOwn companion pointed companionFound
  · intro ownerId old found _
    exact ownersStay found
  · rintro other rfl
    simp only [Workspace.withoutCompanion, Table.get?_retain]
    cases found : companions'.get? other with
    | none => rfl
    | some row =>
        have same : row.companionId = other := Table.key_of_get? found
        simp [same]
  · intro other row found _
    simp only [Workspace.withoutCompanion, Table.get?_retain, Option.filter_eq_some_iff,
      decide_eq_true_eq] at found
    obtain ⟨stored, different⟩ := found
    have same : row.companionId = other := Table.key_of_get? stored
    rw [same] at different
    rw [← others other different]
    exact stored
  · intro other row found different _
    have same : row.companionId = other := Table.key_of_get? found
    have kept : row.companionId ≠ companionId := by
      rw [same]
      exact different
    have stored := (others other different).trans found
    simp [Workspace.withoutCompanion, stored, kept]

theorem prepared_unpointed {w : Workspace} {companion : CompanionRow}
    (companions' : Table CompanionRow)
    (found : w.companions.get? companion.companionId = some companion)
    (notDefault : ∀ owner, w.owners.get? companion.ownerId = some owner →
      owner.defaultCompanionId ≠ some companion.companionId)
    (others : ∀ other, other ≠ companion.companionId →
      companions'.get? other = w.companions.get? other) :
    Prepared (.companion companion.companionId) w
      ({ w with companions := companions' }.withoutCompanion companion.companionId) := by
  refine prepared_withoutCompanion w companion.companionId w.owners companions' others ?_
    (fun stored => ⟨_, stored⟩)
  intro ownerId owner stored
  refine ⟨owner, stored, Or.inr ⟨rfl, ?_⟩⟩
  intro other pointed otherFound owned
  rw [found] at otherFound
  cases otherFound
  have same : owner.ownerId = ownerId := Table.key_of_get? stored
  exact notDefault owner (by rw [owned, same]; exact stored) pointed

theorem prepared_released {w : Workspace} {companion : CompanionRow} {owner : OwnerRow}
    {owners' : Table OwnerRow} (companions' : Table CompanionRow)
    (found : w.companions.get? companion.companionId = some companion)
    (ownerFound : w.owners.get? companion.ownerId = some owner)
    (pointed : owner.defaultCompanionId = some companion.companionId)
    (stores : Table.Stores w.owners owners'
      { owner with
        defaultCompanionId := none
        revision := owner.revision + 1 })
    (others : ∀ other, other ≠ companion.companionId →
      companions'.get? other = w.companions.get? other) :
    Prepared (.companion companion.companionId) w
      ({ w with owners := owners', companions := companions' }.withoutCompanion
        companion.companionId) := by
  have same : owner.ownerId = companion.ownerId := Table.key_of_get? ownerFound
  have ownerSelf := stores.self
  simp only [key_owner, same] at ownerSelf
  refine prepared_withoutCompanion w companion.companionId owners' companions' others ?_ ?_
  · intro ownerId new stored
    by_cases isOwner : ownerId = companion.ownerId
    · subst isOwner
      rw [ownerSelf] at stored
      cases stored
      exact ⟨owner, ownerFound, Or.inl ⟨pointed, by rw [same]⟩⟩
    · rw [stores.other (by rw [key_owner, same]; exact isOwner)] at stored
      refine ⟨new, stored, Or.inr ⟨rfl, ?_⟩⟩
      intro other _ otherFound owned
      rw [found] at otherFound
      cases otherFound
      have sameNew : new.ownerId = ownerId := Table.key_of_get? stored
      exact isOwner (by rw [owned, sameNew])
  · intro ownerId old stored
    by_cases isOwner : ownerId = companion.ownerId
    · subst isOwner
      exact ⟨_, ownerSelf⟩
    · exact ⟨old, (stores.other (by rw [key_owner, same]; exact isOwner)).trans stored⟩

/-- The pointers `delete_companion` breaks prepare the deletion. -/
theorem breakCompanionPointers_effect (companion : CompanionRow)
    (found : t.workspace.companions.get? companion.companionId = some companion) :
    (breakCompanionPointers (t.workspace.owners.get? companion.ownerId)
      companion.companionId).Ensures t (fun _ t' =>
        Prepared (.companion companion.companionId) t.workspace
          (t'.workspace.withoutCompanion companion.companionId)) := by
  have others : ∀ (change : CompanionRow → CompanionRow) keeps other,
      other ≠ companion.companionId →
        (t.workspace.companions.modify companion.companionId change keeps).get? other =
          t.workspace.companions.get? other := by
    intro change keeps other different
    rw [Table.get?_modify, if_neg different]
  cases ownerFound : t.workspace.owners.get? companion.ownerId with
  | none =>
      simp only [breakCompanionPointers, Tx.ensures_bind, Tx.ensures_done,
        ensures_updateCompanionRow]
      refine prepared_unpointed _ found ?_ (others _ _)
      intro owner stored
      rw [ownerFound] at stored
      cases stored
  | some owner =>
      simp only [breakCompanionPointers, Tx.ensures_bind, Tx.ensures_ite, ensures_updateOwnerRow,
        Tx.ensures_done, ensures_updateCompanionRow]
      have same : owner.ownerId = companion.ownerId := Table.key_of_get? ownerFound
      constructor
      · intro pointed
        refine prepared_released _ found ownerFound pointed ?_ (others _ _)
        refine Table.stores_modify ?_
        rw [same]
        exact ownerFound
      · intro notPointed
        refine prepared_unpointed _ found ?_ (others _ _)
        intro other stored
        rw [ownerFound] at stored
        cases stored
        exact notPointed

/-- Deleting a Companion leaves a prepared workspace to the `ON DELETE`
actions. -/
theorem deleteCompanion_prepared (ownerId companionId : String) (allowDefault : Bool) :
    (deleteCompanion env ownerId companionId allowDefault).Ensures t (fun _ t' =>
      (∃ w₀, Prepared (.companion companionId) t.workspace w₀ ∧ t'.workspace = w₀.cascade) ∧
        ∃ companion, t.workspace.companions.get? companionId = some companion ∧
          companion.ownerId = ownerId) := by
  simp only [deleteCompanion, Tx.ensures_bind, ensures_getCompanion, Tx.ensures_require,
    ensures_getOwner, Tx.ensures_refuseIf, Tx.ensures_read, Tx.ensures_modify, ensures_addFact,
    Tx.pure_eq, Tx.ensures_done, Tables.workspace_addFact]
  intro companion companionFound _
  obtain ⟨found, owned⟩ := Option.filter_eq_some_iff.mp companionFound
  have same : companion.companionId = companionId := Table.key_of_get? found
  have owned' : companion.ownerId = ownerId := by simpa using owned
  subst same owned'
  refine (breakCompanionPointers_effect t companion found).mono ?_
  intro _ t₁ prepared
  exact ⟨⟨_, prepared, rfl⟩, companion, found, rfl⟩

theorem deleteCompanion_effect (ownerId companionId : String) (allowDefault : Bool) :
    (deleteCompanion env ownerId companionId allowDefault).Ensures t (fun _ t' =>
      Removal (.companion companionId) t.workspace t'.workspace ∧
        ∃ companion, t.workspace.companions.get? companionId = some companion ∧
          companion.ownerId = ownerId) := by
  refine (deleteCompanion_prepared env t ownerId companionId allowDefault).mono ?_
  intro _ t' deleted
  refine deleted.imp_left ?_
  intro removed
  obtain ⟨w₀, prepared, workspace⟩ := removed
  rw [workspace]
  exact prepared.removal

end EidolonData
