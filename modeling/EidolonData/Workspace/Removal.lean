import EidolonData.Schema.Database

/-!
# What a deletion leaves

The rows a deletion removes with their dependents, and the rows it spares:
an Owner loses at most a default that went, a Companion keeps its own genome
and its Owner's realm.
-/

namespace EidolonData

open Relational

/-- The Owners and the Companions that go. -/
structure Doomed where
  owners : String → Prop
  companions : String → Prop

inductive OwnerRow.Spared (doomed : Doomed) (w : Workspace) (old : OwnerRow) : OwnerRow → Prop where
  | same : Spared doomed w old old
  | released (companionId : String) (pointed : old.defaultCompanionId = some companionId)
      (gone : doomed.companions companionId) :
      Spared doomed w old
        { old with
          defaultCompanionId := none
          revision := old.revision + 1 }
  | foreign (companionId : String) (pointed : old.defaultCompanionId = some companionId)
      (notOwn : ∀ companion, w.companions.get? companionId = some companion →
        companion.ownerId ≠ old.ownerId) :
      Spared doomed w old { old with defaultCompanionId := none }

theorem OwnerRow.Spared.status {doomed : Doomed} {w : Workspace} {old new : OwnerRow}
    (spared : old.Spared doomed w new) : new.status = old.status := by
  cases spared with
  | same => rfl
  | released => rfl
  | foreign => rfl

theorem OwnerRow.Spared.pointed {doomed : Doomed} {w : Workspace} {old new : OwnerRow}
    (spared : old.Spared doomed w new) {companionId : String}
    (pointed : new.defaultCompanionId = some companionId) : new = old := by
  cases spared with
  | same => rfl
  | released => cases pointed
  | foreign => cases pointed

structure CompanionRow.Spared (w : Workspace) (old new : CompanionRow) : Prop where
  ownerId : new.ownerId = old.ownerId
  kind : new.kind = old.kind
  lifecycleState : new.lifecycleState = old.lifecycleState
  displayName : new.displayName = old.displayName
  revision : new.revision = old.revision
  metadata : new.metadataJson = old.metadataJson
  config : new.runtimeConfigJson = old.runtimeConfigJson
  pointer : ∀ {realmId}, new.defaultMemoryRealmId = some realmId →
    old.defaultMemoryRealmId = some realmId
  genome : ∀ {genomeId genome}, old.currentGenomeId = some genomeId →
    w.personaGenomes.get? genomeId = some genome → genome.companionId = old.companionId →
    new.currentGenomeId = some genomeId
  realm : ∀ {realmId realm}, old.defaultMemoryRealmId = some realmId →
    w.memoryRealms.get? realmId = some realm → realm.ownerId = old.ownerId →
    new.defaultMemoryRealmId = some realmId

structure PersonaGenomeRow.Spared (old new : PersonaGenomeRow) : Prop where
  genomeId : new.genomeId = old.genomeId
  companionId : new.companionId = old.companionId
  version : new.version = old.version
  status : new.status = old.status
  genomeJson : new.genomeJson = old.genomeJson
  genomeHash : new.genomeHash = old.genomeHash
  event : new.appliedEventId = old.appliedEventId

/-- A deletion with its `ON DELETE` actions. -/
structure Removal (doomed : Doomed) (w w' : Workspace) : Prop where
  owner : ∀ {ownerId new}, w'.owners.get? ownerId = some new →
    ∃ old, w.owners.get? ownerId = some old ∧ ¬ doomed.owners ownerId ∧ old.Spared doomed w new
  ownerStays : ∀ {ownerId old}, w.owners.get? ownerId = some old → ¬ doomed.owners ownerId →
    ∃ new, w'.owners.get? ownerId = some new ∧ old.Spared doomed w new
  pointed : ∀ {ownerId owner companionId}, w'.owners.get? ownerId = some owner →
    owner.defaultCompanionId = some companionId →
    ∃ companion, w'.companions.get? companionId = some companion
  companion : ∀ {companionId new}, w'.companions.get? companionId = some new →
    ∃ old, w.companions.get? companionId = some old ∧ ¬ doomed.companions companionId ∧
      (∃ owner, w'.owners.get? old.ownerId = some owner) ∧ old.Spared w new
  companionStays : ∀ {companionId old owner}, w.companions.get? companionId = some old →
    ¬ doomed.companions companionId → w.owners.get? old.ownerId = some owner →
    ¬ doomed.owners old.ownerId →
    ∃ new, w'.companions.get? companionId = some new ∧ old.Spared w new
  genome : ∀ {genomeId new}, w'.personaGenomes.get? genomeId = some new →
    ∃ old, w.personaGenomes.get? genomeId = some old ∧ old.Spared new
  genomeStays : ∀ {genomeId old companion}, w.personaGenomes.get? genomeId = some old →
    w'.companions.get? old.companionId = some companion →
    ∃ new, w'.personaGenomes.get? genomeId = some new ∧ old.Spared new
  realm : ∀ {realmId row}, w'.memoryRealms.get? realmId = some row →
    w.memoryRealms.get? realmId = some row ∧ ∃ owner, w'.owners.get? row.ownerId = some owner
  realmStays : ∀ {realmId row owner}, w.memoryRealms.get? realmId = some row →
    w'.owners.get? row.ownerId = some owner → w'.memoryRealms.get? realmId = some row
  binding : ∀ {bindingId row}, w'.guardBindings.get? bindingId = some row →
    w.guardBindings.get? bindingId = some row ∧
      ∃ companion, w'.companions.get? row.guardCompanionId = some companion ∧
        companion.ownerId = row.ownerId

/-- A workspace in which a deletion has broken the pointers and removed its
own rows, and the `ON DELETE` actions are still to come. -/
structure Prepared (doomed : Doomed) (w w₀ : Workspace) : Prop where
  ownerGone : ∀ {ownerId}, doomed.owners ownerId → w₀.owners.get? ownerId = none
  owner : ∀ {ownerId new}, w₀.owners.get? ownerId = some new →
    ∃ old, w.owners.get? ownerId = some old ∧
      ((∃ companionId, old.defaultCompanionId = some companionId ∧
          doomed.companions companionId ∧
          new = { old with
            defaultCompanionId := none
            revision := old.revision + 1 }) ∨
        (new = old ∧ ∀ companionId companion, old.defaultCompanionId = some companionId →
          doomed.companions companionId → w.companions.get? companionId = some companion →
          companion.ownerId ≠ old.ownerId))
  ownerStays : ∀ {ownerId old}, w.owners.get? ownerId = some old → ¬ doomed.owners ownerId →
    ∃ new, w₀.owners.get? ownerId = some new
  companionGone : ∀ {companionId}, doomed.companions companionId →
    w₀.companions.get? companionId = none
  companion : ∀ {companionId row}, w₀.companions.get? companionId = some row →
    ¬ doomed.owners row.ownerId → w.companions.get? companionId = some row
  companionStays : ∀ {companionId row}, w.companions.get? companionId = some row →
    ¬ doomed.companions companionId → ¬ doomed.owners row.ownerId →
    w₀.companions.get? companionId = some row
  genomes : w₀.personaGenomes = w.personaGenomes
  realms : w₀.memoryRealms = w.memoryRealms
  bindings : w₀.guardBindings = w.guardBindings

section Cascade

variable (w : Workspace)

/-- The Companions whose Owner is stored. -/
def Workspace.ownedCompanions : Table CompanionRow :=
  w.companions.retain (fun row => w.owners.has row.ownerId)

/-- The genomes whose Companion stays. -/
def Workspace.ownedGenomes : Table PersonaGenomeRow :=
  w.personaGenomes.retain (fun row => w.ownedCompanions.has row.companionId)

/-- The realms whose Owner is stored. -/
def Workspace.ownedRealms : Table MemoryRealmRow :=
  w.memoryRealms.retain (fun row => w.owners.has row.ownerId)

theorem Workspace.cascade_owner (ownerId : String) :
    w.cascade.owners.get? ownerId = (w.owners.get? ownerId).map (fun row =>
      { row with
        defaultCompanionId := row.defaultCompanionId.filter w.ownedCompanions.has }) := by
  simp [Workspace.cascade, Workspace.ownedCompanions]

theorem Workspace.cascade_companion (companionId : String) :
    w.cascade.companions.get? companionId =
      (w.ownedCompanions.get? companionId).map (fun row =>
        { row with
          currentGenomeId := row.currentGenomeId.filter w.ownedGenomes.has
          defaultMemoryRealmId := row.defaultMemoryRealmId.filter w.ownedRealms.has }) := by
  simp [Workspace.cascade, Workspace.ownedCompanions, Workspace.ownedGenomes,
    Workspace.ownedRealms]

theorem Workspace.cascade_genome (genomeId : String) :
    w.cascade.personaGenomes.get? genomeId = (w.ownedGenomes.get? genomeId).map (fun row =>
      { row with baseGenomeId := row.baseGenomeId.filter w.ownedGenomes.has }) := by
  simp [Workspace.cascade, Workspace.ownedGenomes, Workspace.ownedCompanions]

theorem Workspace.cascade_realm (realmId : String) :
    w.cascade.memoryRealms.get? realmId = w.ownedRealms.get? realmId := rfl

theorem Workspace.cascade_binding (bindingId : String) :
    w.cascade.guardBindings.get? bindingId =
      (w.guardBindings.get? bindingId).filter (fun row =>
        w.owners.has row.ownerId && (w.ownedCompanions.get? row.guardCompanionId).any
          (fun companion => companion.ownerId = row.ownerId)) := by
  simp [Workspace.cascade, Workspace.ownedCompanions, Workspace.hasOwnedCompanion]

theorem Workspace.ownedCompanions_iff {companionId : String} {row : CompanionRow} :
    w.ownedCompanions.get? companionId = some row ↔
      w.companions.get? companionId = some row ∧
        ∃ owner, w.owners.get? row.ownerId = some owner := by
  simp [Workspace.ownedCompanions, Option.filter_eq_some_iff, Table.has_iff]

theorem Workspace.ownedGenomes_iff {genomeId : String} {row : PersonaGenomeRow} :
    w.ownedGenomes.get? genomeId = some row ↔
      w.personaGenomes.get? genomeId = some row ∧
        ∃ companion, w.ownedCompanions.get? row.companionId = some companion := by
  simp only [Workspace.ownedGenomes, Table.get?_retain, Option.filter_eq_some_iff, Table.has_iff]

theorem Workspace.ownedRealms_iff {realmId : String} {row : MemoryRealmRow} :
    w.ownedRealms.get? realmId = some row ↔
      w.memoryRealms.get? realmId = some row ∧
        ∃ owner, w.owners.get? row.ownerId = some owner := by
  simp [Workspace.ownedRealms, Option.filter_eq_some_iff, Table.has_iff]

end Cascade

section Prepared

variable {doomed : Doomed} {w w₀ : Workspace}

theorem Prepared.ownedCompanions (prepared : Prepared doomed w w₀) {companionId : String}
    {row : CompanionRow} {owner : OwnerRow} (found : w.companions.get? companionId = some row)
    (spared : ¬ doomed.companions companionId) (ownerFound : w.owners.get? row.ownerId = some owner)
    (ownerSpared : ¬ doomed.owners row.ownerId) :
    w₀.ownedCompanions.get? companionId = some row := by
  rw [Workspace.ownedCompanions_iff]
  exact ⟨prepared.companionStays found spared ownerSpared,
    prepared.ownerStays ownerFound ownerSpared⟩

theorem Prepared.of_ownedCompanions (prepared : Prepared doomed w w₀) {companionId : String}
    {row : CompanionRow} (stays : w₀.ownedCompanions.get? companionId = some row) :
    w.companions.get? companionId = some row ∧ ¬ doomed.companions companionId ∧
      ¬ doomed.owners row.ownerId := by
  obtain ⟨found, owner, ownerFound⟩ := (Workspace.ownedCompanions_iff w₀).mp stays
  have ownerSpared : ¬ doomed.owners row.ownerId := by
    intro gone
    rw [prepared.ownerGone gone] at ownerFound
    cases ownerFound
  refine ⟨prepared.companion found ownerSpared, ?_, ownerSpared⟩
  intro gone
  rw [prepared.companionGone gone] at found
  cases found

theorem Prepared.spared (prepared : Prepared doomed w w₀) {ownerId : String} {middle : OwnerRow}
    (found : w₀.owners.get? ownerId = some middle) :
    ∃ old, w.owners.get? ownerId = some old ∧ ¬ doomed.owners ownerId ∧
      old.Spared doomed w
        { middle with
          defaultCompanionId := middle.defaultCompanionId.filter w₀.ownedCompanions.has } := by
  obtain ⟨old, stored, rewritten⟩ := prepared.owner found
  have spared : ¬ doomed.owners ownerId := by
    intro gone
    rw [prepared.ownerGone gone] at found
    cases found
  refine ⟨old, stored, spared, ?_⟩
  rcases rewritten with ⟨companionId, pointed, gone, rfl⟩ | ⟨rfl, notOwn⟩
  · exact .released companionId pointed gone
  · cases pointed : middle.defaultCompanionId with
    | none =>
        have unchanged : { middle with defaultCompanionId := none } = middle := by
          rw [← pointed]
        simp only [Option.filter_none, unchanged]
        exact .same
    | some companionId =>
        cases kept : w₀.ownedCompanions.has companionId with
        | true =>
            have unchanged : { middle with defaultCompanionId := some companionId } = middle := by
              rw [← pointed]
            simp only [Option.filter_some, kept, if_true, unchanged]
            exact .same
        | false =>
            simp only [Option.filter_some, kept, Bool.false_eq_true, if_false]
            refine .foreign companionId pointed ?_
            intro companion companionFound owned
            have ownerId' : middle.ownerId = ownerId := Table.key_of_get? stored
            by_cases gone : doomed.companions companionId
            · exact notOwn companionId companion pointed gone companionFound owned
            · have stays := prepared.ownedCompanions companionFound gone
                (by rw [owned, ownerId']; exact stored) (by rw [owned, ownerId']; exact spared)
              rw [Table.has_of_get? stays] at kept
              cases kept

theorem Prepared.spared_companion (prepared : Prepared doomed w w₀) {companionId : String}
    {row : CompanionRow} (stays : w₀.ownedCompanions.get? companionId = some row) :
    row.Spared w
      { row with
        currentGenomeId := row.currentGenomeId.filter w₀.ownedGenomes.has
        defaultMemoryRealmId := row.defaultMemoryRealmId.filter w₀.ownedRealms.has } := by
  have companionKey : row.companionId = companionId :=
    Table.key_of_get? ((Workspace.ownedCompanions_iff w₀).mp stays).1
  refine { ownerId := rfl, kind := rfl, lifecycleState := rfl, displayName := rfl, revision := rfl,
           metadata := rfl, config := rfl, pointer := ?_, genome := ?_, realm := ?_ }
  · intro realmId pointed
    exact (Option.filter_eq_some_iff.mp pointed).1
  · intro genomeId genome pointed found own
    have kept : w₀.ownedGenomes.get? genomeId = some genome := by
      rw [Workspace.ownedGenomes_iff, prepared.genomes, own, companionKey]
      exact ⟨found, row, stays⟩
    simp [pointed, Table.has_of_get? kept]
  · intro realmId realm pointed found own
    have kept : w₀.ownedRealms.get? realmId = some realm := by
      rw [Workspace.ownedRealms_iff, prepared.realms, own]
      exact ⟨found, ((Workspace.ownedCompanions_iff w₀).mp stays).2⟩
    simp [pointed, Table.has_of_get? kept]

/-- The `ON DELETE` actions complete a prepared deletion. -/
theorem Prepared.removal (prepared : Prepared doomed w w₀) : Removal doomed w w₀.cascade := by
  have ownerStored : ∀ {ownerId owner}, w₀.owners.get? ownerId = some owner →
      ∃ final, w₀.cascade.owners.get? ownerId = some final := by
    intro ownerId owner found
    rw [Workspace.cascade_owner, found]
    exact ⟨_, rfl⟩
  refine
    { owner := ?_, ownerStays := ?_, pointed := ?_, companion := ?_, companionStays := ?_,
      genome := ?_, genomeStays := ?_, realm := ?_, realmStays := ?_, binding := ?_ }
  · intro ownerId new found
    rw [Workspace.cascade_owner, Option.map_eq_some_iff] at found
    obtain ⟨middle, middleFound, rfl⟩ := found
    exact prepared.spared middleFound
  · intro ownerId old found spared
    obtain ⟨middle, middleFound⟩ := prepared.ownerStays found spared
    obtain ⟨row, stored, -, rewritten⟩ := prepared.spared middleFound
    rw [found] at stored
    cases stored
    rw [Workspace.cascade_owner, middleFound]
    exact ⟨_, rfl, rewritten⟩
  · intro ownerId owner companionId found pointed
    rw [Workspace.cascade_owner, Option.map_eq_some_iff] at found
    obtain ⟨middle, -, rfl⟩ := found
    obtain ⟨-, kept⟩ := Option.filter_eq_some_iff.mp pointed
    obtain ⟨row, stays⟩ := Table.has_iff.mp kept
    rw [Workspace.cascade_companion, stays]
    exact ⟨_, rfl⟩
  · intro companionId new found
    rw [Workspace.cascade_companion, Option.map_eq_some_iff] at found
    obtain ⟨row, stays, rfl⟩ := found
    obtain ⟨stored, spared, -⟩ := prepared.of_ownedCompanions stays
    obtain ⟨owner, ownerFound⟩ := ((Workspace.ownedCompanions_iff w₀).mp stays).2
    exact ⟨row, stored, spared, ownerStored ownerFound, prepared.spared_companion stays⟩
  · intro companionId old owner found spared ownerFound ownerSpared
    have stays := prepared.ownedCompanions found spared ownerFound ownerSpared
    rw [Workspace.cascade_companion, stays]
    exact ⟨_, rfl, prepared.spared_companion stays⟩
  · intro genomeId new found
    rw [Workspace.cascade_genome, Option.map_eq_some_iff] at found
    obtain ⟨row, stays, rfl⟩ := found
    refine ⟨row, ?_, rfl, rfl, rfl, rfl, rfl, rfl, rfl⟩
    rw [← prepared.genomes]
    exact ((Workspace.ownedGenomes_iff w₀).mp stays).1
  · intro genomeId old companion found companionFound
    rw [Workspace.cascade_companion, Option.map_eq_some_iff] at companionFound
    obtain ⟨row, stays, -⟩ := companionFound
    have kept : w₀.ownedGenomes.get? genomeId = some old := by
      rw [Workspace.ownedGenomes_iff, prepared.genomes]
      exact ⟨found, row, stays⟩
    rw [Workspace.cascade_genome, kept]
    exact ⟨_, rfl, rfl, rfl, rfl, rfl, rfl, rfl, rfl⟩
  · intro realmId row found
    rw [Workspace.cascade_realm, Workspace.ownedRealms_iff, prepared.realms] at found
    obtain ⟨stored, owner, ownerFound⟩ := found
    exact ⟨stored, ownerStored ownerFound⟩
  · intro realmId row owner found ownerFound
    rw [Workspace.cascade_owner, Option.map_eq_some_iff] at ownerFound
    obtain ⟨middle, middleFound, -⟩ := ownerFound
    rw [Workspace.cascade_realm, Workspace.ownedRealms_iff, prepared.realms]
    exact ⟨found, middle, middleFound⟩
  · intro bindingId row found
    rw [Workspace.cascade_binding, Option.filter_eq_some_iff, prepared.bindings] at found
    obtain ⟨stored, kept⟩ := found
    refine ⟨stored, ?_⟩
    simp only [Bool.and_eq_true, Option.any_eq_true, decide_eq_true_eq] at kept
    obtain ⟨-, companion, stays, owned⟩ := kept
    rw [Workspace.cascade_companion, stays]
    exact ⟨_, rfl, owned⟩

end Prepared

theorem prepared_withoutOwner (w : Workspace) (ownerId : String) (broken : Table CompanionRow)
    (others : ∀ {companionId row}, row.ownerId ≠ ownerId →
      (broken.get? companionId = some row ↔ w.companions.get? companionId = some row)) :
    Prepared { owners := fun other => other = ownerId, companions := fun _ => False } w
      ({ w with companions := broken }.withoutOwner ownerId) := by
  refine
    { ownerGone := ?_, owner := ?_, ownerStays := ?_, companionGone := ?_, companion := ?_,
      companionStays := ?_, genomes := rfl, realms := rfl, bindings := rfl }
  · rintro other rfl
    simp only [Workspace.withoutOwner, Table.get?_retain]
    cases found : w.owners.get? other with
    | none => rfl
    | some row =>
        have same : row.ownerId = other := Table.key_of_get? found
        simp [same]
  · intro other new found
    simp only [Workspace.withoutOwner, Table.get?_retain, Option.filter_eq_some_iff] at found
    refine ⟨new, found.1, Or.inr ⟨rfl, ?_⟩⟩
    intro _ _ _ gone
    exact gone.elim
  · intro other old found spared
    refine ⟨old, ?_⟩
    have same : old.ownerId = other := Table.key_of_get? found
    simp only [Workspace.withoutOwner, Table.get?_retain, found, Option.filter_some, same,
      ne_eq, decide_not, Bool.not_eq_eq_eq_not, Bool.not_true, decide_eq_false_iff_not]
    rw [if_pos spared]
  · intro _ gone
    exact gone.elim
  · intro companionId row found spared
    exact (others spared).mp found
  · intro companionId row found _ spared
    exact (others spared).mpr found

end EidolonData
