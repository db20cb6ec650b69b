import EidolonData.Workspace.Changes

/-!
# What outlives a change

A change never removes an Owner, a Companion, a genome or a shared realm, and
it rewrites only some of their columns.  What stays the same is a relation
between the old row and the new one, so it composes over a chain of changes.
-/

namespace EidolonData

open Relational

/-- The default moves only with the revision, and is never unset. -/
structure OwnerRow.Precedes (old new : OwnerRow) : Prop where
  status : new.status = old.status
  revision : old.revision ≤ new.revision
  guarded : old.revision = new.revision → old.defaultCompanionId = new.defaultCompanionId
  pointed : old.defaultCompanionId ≠ none → new.defaultCompanionId ≠ none

/-- A Companion stays its Owner's, of its kind, and keeps its metadata: what
edits have recorded stays, and the rest is left alone. -/
structure CompanionRow.Precedes (old new : CompanionRow) : Prop where
  ownerId : new.ownerId = old.ownerId
  kind : new.kind = old.kind
  revision : old.revision ≤ new.revision
  metadata : ∀ name, name ≠ personaOperationsKey →
    new.metadataJson.get? name = old.metadataJson.get? name
  receipts : ∀ {operationId receipt}, old.receipt? operationId = some receipt →
    new.receipt? operationId = some receipt

theorem OwnerRow.Precedes.refl (owner : OwnerRow) : owner.Precedes owner :=
  { status := rfl
    revision := le_refl _
    guarded := fun _ => rfl
    pointed := id }

theorem OwnerRow.Precedes.trans {first second third : OwnerRow} (one : first.Precedes second)
    (two : second.Precedes third) : first.Precedes third := by
  refine ⟨two.status.trans one.status, le_trans one.revision two.revision, ?_, ?_⟩
  · intro same
    have middle : first.revision = second.revision :=
      le_antisymm one.revision (same ▸ two.revision)
    exact (one.guarded middle).trans (two.guarded (middle ▸ same))
  · intro pointed
    exact two.pointed (one.pointed pointed)

/-- A moved default advances the revision. -/
theorem OwnerRow.precedes_pointAt (owner : OwnerRow) (companionId : String) :
    owner.Precedes (owner.pointAt companionId) := by
  refine ⟨rfl, ?_, ?_, ?_⟩
  · show owner.revision ≤ owner.revision + 1
    omega
  · intro same
    have advanced : owner.revision = owner.revision + 1 := same
    omega
  · intro _
    simp [OwnerRow.pointAt]

theorem CompanionRow.Precedes.refl (companion : CompanionRow) : companion.Precedes companion :=
  { ownerId := rfl
    kind := rfl
    revision := le_refl _
    metadata := fun _ _ => rfl
    receipts := id }

theorem CompanionRow.Precedes.trans {first second third : CompanionRow}
    (one : first.Precedes second) (two : second.Precedes third) : first.Precedes third :=
  { ownerId := two.ownerId.trans one.ownerId
    kind := two.kind.trans one.kind
    revision := le_trans one.revision two.revision
    metadata := fun name other => (two.metadata name other).trans (one.metadata name other)
    receipts := fun stored => two.receipts (one.receipts stored) }

theorem CompanionRow.precedes_moveTo (companion : CompanionRow) (target : LifecycleState) :
    companion.Precedes (companion.moveTo target) := by
  refine { CompanionRow.Precedes.refl companion with revision := ?_ }
  show companion.revision ≤ companion.revision + 1
  omega

theorem PersonaWritten.precedes {sdk : Sdk} {permits : Permits} {old new : CompanionRow}
    (written : PersonaWritten sdk permits old new) : old.Precedes new :=
  { ownerId := written.ownerId
    kind := written.kind
    revision := written.revision
    metadata := written.metadata
    receipts := written.receipts }

/-- A genome keeps its content, and its status once it is decided. -/
structure PersonaGenomeRow.Precedes (old new : PersonaGenomeRow) : Prop where
  companionId : new.companionId = old.companionId
  version : new.version = old.version
  base : new.baseGenomeId = old.baseGenomeId
  document : new.genomeJson = old.genomeJson
  hash : new.genomeHash = old.genomeHash
  status : new.status = old.status ∨ (old.status = .proposed ∧ new.status ≠ .proposed)
  applied : old.Applied → new.Applied

theorem PersonaGenomeRow.Precedes.refl (genome : PersonaGenomeRow) : genome.Precedes genome :=
  { companionId := rfl
    version := rfl
    base := rfl
    document := rfl
    hash := rfl
    status := Or.inl rfl
    applied := id }

theorem PersonaGenomeRow.Precedes.trans {first second third : PersonaGenomeRow}
    (one : first.Precedes second) (two : second.Precedes third) : first.Precedes third := by
  refine
    { companionId := two.companionId.trans one.companionId
      version := two.version.trans one.version
      base := two.base.trans one.base
      document := two.document.trans one.document
      hash := two.hash.trans one.hash
      status := ?_
      applied := fun applied => two.applied (one.applied applied) }
  rcases two.status with same | ⟨proposed, decided⟩
  · rw [same]
    exact one.status
  · rcases one.status with same | ⟨-, notProposed⟩
    · exact Or.inr ⟨same.symm.trans proposed, decided⟩
    · exact absurd proposed notProposed

theorem GenomeDecided.precedes {w : Workspace} {old new : PersonaGenomeRow}
    (decided : GenomeDecided w old new) : old.Precedes new :=
  { companionId := decided.companionId
    version := decided.version
    base := decided.base
    document := decided.document
    hash := decided.hash
    status := Or.inr ⟨decided.proposed, decided.decided⟩
    applied := fun _ => decided.applied }

/-- The rows of the first workspace are in the second. -/
structure Workspace.Outlives (w w' : Workspace) : Prop where
  owners : Table.Carries OwnerRow.Precedes w.owners w'.owners
  companions : Table.Carries CompanionRow.Precedes w.companions w'.companions
  genomes : Table.Carries PersonaGenomeRow.Precedes w.personaGenomes w'.personaGenomes
  realms : ∀ {realmId row}, row.personId = none → w.memoryRealms.get? realmId = some row →
    w'.memoryRealms.get? realmId = some row

namespace Workspace.Outlives

theorem refl (w : Workspace) : w.Outlives w :=
  { owners := .refl OwnerRow.Precedes.refl _
    companions := .refl CompanionRow.Precedes.refl _
    genomes := .refl PersonaGenomeRow.Precedes.refl _
    realms := fun _ => id }

theorem trans {first second third : Workspace} (one : first.Outlives second)
    (two : second.Outlives third) : first.Outlives third :=
  { owners := one.owners.trans OwnerRow.Precedes.trans two.owners
    companions := one.companions.trans CompanionRow.Precedes.trans two.companions
    genomes := one.genomes.trans PersonaGenomeRow.Precedes.trans two.genomes
    realms := fun shared stored => two.realms shared (one.realms shared stored) }

theorem of_owners {w : Workspace} {owners' : Table OwnerRow}
    (owners : Table.Carries OwnerRow.Precedes w.owners owners') :
    w.Outlives { w with owners := owners' } :=
  { refl w with owners := owners }

theorem of_companions {w : Workspace} {companions' : Table CompanionRow}
    (companions : Table.Carries CompanionRow.Precedes w.companions companions') :
    w.Outlives { w with companions := companions' } :=
  { refl w with companions := companions }

theorem of_genomes {w : Workspace} {genomes' : Table PersonaGenomeRow}
    (genomes : Table.Carries PersonaGenomeRow.Precedes w.personaGenomes genomes') :
    w.Outlives { w with personaGenomes := genomes' } :=
  { refl w with genomes := genomes }

end Workspace.Outlives

theorem DefaultClaimed.carries {owners owners' : Table OwnerRow} {owner : OwnerRow}
    {companion : CompanionRow} (claimed : DefaultClaimed owners owners' owner companion)
    (stored : owners.get? owner.ownerId = some owner) :
    Table.Carries OwnerRow.Precedes owners owners' := by
  rcases claimed with ⟨rfl, -⟩ | ⟨-, -, stores⟩
  · exact .refl OwnerRow.Precedes.refl _
  · exact stores.carries stored rfl OwnerRow.Precedes.refl (owner.precedes_pointAt _)

theorem Change.outlives {sdk : Sdk} {permits : Permits} {w w' : Workspace}
    (change : Change sdk permits w w') : w.Outlives w' := by
  cases change with
  | ownerCreated owner owners' fresh active unset fits stores =>
      exact .of_owners (stores.carries_fresh fresh OwnerRow.Precedes.refl)
  | ownerEdited old new owners' found ownerId status default revision stores =>
      refine .of_owners (stores.carries found ownerId OwnerRow.Precedes.refl ?_)
      exact
        { status := status
          revision := revision
          guarded := fun _ => default.symm
          pointed := fun pointed => default ▸ pointed }
  | provisioned owner companion genome realm owners' companions' genomes' realms' rows claimed
      companions genomes realms =>
      exact
        { owners := claimed.carries rows.ownerStored
          companions := companions.carries_fresh rows.companionFresh CompanionRow.Precedes.refl
          genomes := genomes.carries_fresh rows.genomeInserted.fresh
            PersonaGenomeRow.Precedes.refl
          realms := fun _ => realms.kept }
  | realmPointed companion realm companions' realms' found active companions realms =>
      exact
        { Workspace.Outlives.refl w with
          companions := companions.carries found rfl CompanionRow.Precedes.refl
            { CompanionRow.Precedes.refl companion with }
          realms := fun _ => realms.kept }
  | defaultMoved owner companion owners' found target answers moved stores =>
      exact .of_owners (stores.carries found rfl OwnerRow.Precedes.refl
        (owner.precedes_pointAt _))
  | lifecycleMoved companion target companions' found notDefault permitted stores =>
      exact .of_companions (stores.carries found rfl CompanionRow.Precedes.refl
        (companion.precedes_moveTo target))
  | genomeAdded genome genomes' inserted uncommitted stores =>
      exact .of_genomes (stores.carries_fresh inserted.fresh PersonaGenomeRow.Precedes.refl)
  | genomeDecided old new genomes' decided uncommitted stores =>
      exact .of_genomes (stores.carries decided.found decided.genomeId
        PersonaGenomeRow.Precedes.refl decided.precedes)
  | personaWritten old new companions' found written current stores =>
      exact .of_companions (stores.carries found written.companionId CompanionRow.Precedes.refl
        written.precedes)
  | personaAppended old new genome companions' genomes' found written inserted own committed
      current companions genomes =>
      exact
        { Workspace.Outlives.refl w with
          companions := companions.carries found written.companionId CompanionRow.Precedes.refl
            written.precedes
          genomes := genomes.carries_fresh inserted.fresh PersonaGenomeRow.Precedes.refl }
  | personaApproved old new proposal genome companions' genomes' found written decided own base
      committed current companions genomes =>
      exact
        { Workspace.Outlives.refl w with
          companions := companions.carries found written.companionId CompanionRow.Precedes.refl
            written.precedes
          genomes := genomes.carries decided.found decided.genomeId PersonaGenomeRow.Precedes.refl
            decided.precedes }
  | bindingAdded binding companion bindings' found owned guard active fresh stores =>
      exact { Workspace.Outlives.refl w with }
  | bindingEdited old new bindings' found bindingId ownerId companion state stores =>
      exact { Workspace.Outlives.refl w with }
  | realmsAside realms' aside =>
      exact
        { Workspace.Outlives.refl w with
          realms := fun shared => (aside.shared shared).mpr }
  | realmErased erased personal =>
      refine { Workspace.Outlives.refl w with companions := ?_, realms := ?_ }
      · exact Table.carries_update (fun row => { CompanionRow.Precedes.refl row with })
      · intro realmId row shared stored
        have kept : erased row = false := by
          by_contra gone
          exact personal row (by simpa using gone) shared
        simp [Workspace.withoutRealms, stored, Option.filter, kept]

theorem Changes.outlives {sdk : Sdk} {permits : Permits} {w w' : Workspace}
    (changes : Changes sdk permits w w') : w.Outlives w' := by
  induction changes with
  | refl => exact .refl w
  | tail _ change induction => exact induction.trans change.outlives

end EidolonData
