import Mathlib.Logic.Relation
import EidolonData.Services.Lifecycle
import EidolonData.Services.Persona
import EidolonData.Services.RuntimeSnapshot

/-!
# What commands do to the workspace

The abstract model of the Owner and Companion aggregates: the changes a
command can make to them, each with the guard under which it is made and the
row it leaves.  Only archiving an Owner and the two deletions are not chains
of these changes; they are described by their own functions.

Every invariant of the workspace is proved from this module, so a service
enters the proofs only through the chain of changes its command makes.
-/

namespace EidolonData

open Relational

/-- What a run lets its lifecycle moves and new genome ids be, and whether it
lets a persona change under an unchanged revision.  The results that need
a condition on the commands of a run put it here; it does not look at the
Owners before a retirement, lets a retiring Companion be archived, and lets a
generated id through. -/
structure Permits where
  moves : Workspace → CompanionRow → LifecycleState → Prop
  genomeIds : String → Prop
  silent : Prop
  handed : ∀ w owners' companion, moves w companion .retiring →
    moves { w with owners := owners' } companion .retiring
  retired : ∀ w companion, companion.lifecycleState = .retiring → moves w companion .archived
  generated : ∀ genomeId, matchesGeneratedId genomeId = true → genomeIds genomeId

/-- No condition. -/
def Permits.all : Permits :=
  { moves := fun _ _ _ => True
    genomeIds := fun _ => True
    silent := True
    handed := fun _ _ _ => id
    retired := fun _ _ _ => trivial
    generated := fun _ _ => trivial }

/-- An Owner's shared realm is at hand: found, or created where there was none. -/
structure RealmEnsured (realms realms' : Table MemoryRealmRow) (ownerId : String)
    (realm : MemoryRealmRow) : Prop where
  stored : realms'.get? realm.realmId = some realm
  shared : realm.isShared ownerId = true
  kept : ∀ {realmId row}, realms.get? realmId = some row → realms'.get? realmId = some row
  added : ∀ {realmId row}, realms'.get? realmId = some row →
    realms.get? realmId = some row ∨ (row = realm ∧ matchesGeneratedId realmId = true)

/-- The realms of Persons moved; the shared ones did not, and none came to
life under an Owner that is not active. -/
structure RealmsAside (w : Workspace) (realms' : Table MemoryRealmRow) : Prop where
  shared : ∀ {realmId row}, row.personId = none →
    (realms'.get? realmId = some row ↔ w.memoryRealms.get? realmId = some row)
  active : ∀ {realmId row}, realms'.get? realmId = some row → row.status = .active →
    (∃ old, w.memoryRealms.get? realmId = some old ∧ old.status = .active ∧
      old.ownerId = row.ownerId) ∨
    ∃ owner, w.owners.get? row.ownerId = some owner ∧ owner.status = .active

/-- The Companion that an Owner's pointer may move to: an active one, or the
replacement of a default. -/
structure Sdk.MayAnswer (sdk : Sdk) (owner : OwnerRow) (companion : CompanionRow) : Prop where
  owned : companion.ownerId = owner.ownerId
  notGuard : companion.kind ≠ .guard
  state : companion.lifecycleState = .active ∨ (owner.defaultCompanionId ≠ none ∧
    companion.lifecycleState ∈ sdk.defaultEligibleLifecycleStates)

/-- What the revision of a Companion stands for. -/
structure CompanionRow.Agrees (old new : CompanionRow) : Prop where
  displayName : new.displayName = old.displayName
  lifecycleState : new.lifecycleState = old.lifecycleState
  genome : new.currentGenomeId = old.currentGenomeId
  config : new.runtimeConfigJson = old.runtimeConfigJson

/-- The runtime configuration after a persona command: the one before, or one
with the next preference revision. -/
inductive ConfigWritten (sdk : Sdk) (old new : JsonDict) : Prop where
  | same (same : new = old)
  | revised (revision : Int) (read : preferenceRevision sdk old = .ok revision)
      (written : new.get? "preference_revision" = some (.int (revision + 1)))
      (valid : ∃ preferences, validateRuntimeConfig sdk new = .ok preferences)

/-- A Companion row rewritten by a persona command, its genome apart. -/
structure PersonaWritten (sdk : Sdk) (permits : Permits) (old new : CompanionRow) : Prop where
  companionId : new.companionId = old.companionId
  ownerId : new.ownerId = old.ownerId
  kind : new.kind = old.kind
  lifecycleState : new.lifecycleState = old.lifecycleState
  realm : new.defaultMemoryRealmId = old.defaultMemoryRealmId
  metadata : ∀ name, name ≠ personaOperationsKey →
    new.metadataJson.get? name = old.metadataJson.get? name
  receipts : ∀ {operationId receipt}, old.receipt? operationId = some receipt →
    new.receipt? operationId = some receipt
  config : ConfigWritten sdk old.runtimeConfigJson new.runtimeConfigJson
  revision : old.revision ≤ new.revision
  guarded : permits.silent ∨ (new.revision = old.revision → old.Agrees new)

/-- A genome with its event, once it is committed. -/
def PersonaGenomeRow.Applied (genome : PersonaGenomeRow) : Prop :=
  genome.status = .committed → genome.appliedEventId ≠ none

structure GenomeInserted (sdk : Sdk) (permits : Permits) (w : Workspace)
    (genome : PersonaGenomeRow) : Prop where
  fresh : w.personaGenomes.get? genome.genomeId = none
  permitted : permits.genomeIds genome.genomeId
  hashed : genome.genomeHash = sdk.personaGenomeHash genome.genomeJson
  applied : genome.Applied

/-- A proposed genome as it is approved, rejected or found stale. -/
structure GenomeDecided (w : Workspace) (old new : PersonaGenomeRow) : Prop where
  found : w.personaGenomes.get? old.genomeId = some old
  genomeId : new.genomeId = old.genomeId
  companionId : new.companionId = old.companionId
  version : new.version = old.version
  base : new.baseGenomeId = old.baseGenomeId
  document : new.genomeJson = old.genomeJson
  hash : new.genomeHash = old.genomeHash
  proposed : old.status = .proposed
  decided : new.status ≠ .proposed
  applied : new.Applied

structure Provisioned (sdk : Sdk) (permits : Permits) (w : Workspace) (owner : OwnerRow)
    (companion : CompanionRow) (genome : PersonaGenomeRow) (realm : MemoryRealmRow) : Prop where
  ownerStored : w.owners.get? owner.ownerId = some owner
  ownerActive : owner.status = .active
  companionFresh : w.companions.get? companion.companionId = none
  companionOwner : companion.ownerId = owner.ownerId
  companionActive : companion.lifecycleState = .active
  companionFits : fieldFits companion.companionId 64 = true
  companionGenome : companion.currentGenomeId = some genome.genomeId
  companionRealm : companion.defaultMemoryRealmId = some realm.realmId
  companionConfig : ∃ preferences,
    validateRuntimeConfig sdk companion.runtimeConfigJson = .ok preferences
  genomeInserted : GenomeInserted sdk permits w genome
  genomeCompanion : genome.companionId = companion.companionId
  genomeCommitted : genome.status = .committed

/-- The pointer of an Owner when a Companion is added: an unset one is set. -/
def DefaultClaimed (owners owners' : Table OwnerRow) (owner : OwnerRow)
    (companion : CompanionRow) : Prop :=
  (owners' = owners ∧ (owner.defaultCompanionId ≠ none ∨ companion.kind = .guard)) ∨
  (owner.defaultCompanionId = none ∧ companion.kind ≠ .guard ∧
    Table.Stores owners owners' (owner.pointAt companion.companionId))

inductive Change (sdk : Sdk) (permits : Permits) (w : Workspace) : Workspace → Prop where
  | ownerCreated (owner : OwnerRow) (owners' : Table OwnerRow)
      (fresh : w.owners.get? owner.ownerId = none)
      (active : owner.status = .active)
      (unset : owner.defaultCompanionId = none)
      (fits : fieldFits owner.ownerId 64 = true)
      (stores : Table.Stores w.owners owners' owner) :
      Change sdk permits w { w with owners := owners' }
  | ownerEdited (old new : OwnerRow) (owners' : Table OwnerRow)
      (found : w.owners.get? old.ownerId = some old)
      (ownerId : new.ownerId = old.ownerId)
      (status : new.status = old.status)
      (default : new.defaultCompanionId = old.defaultCompanionId)
      (revision : old.revision ≤ new.revision)
      (stores : Table.Stores w.owners owners' new) :
      Change sdk permits w { w with owners := owners' }
  | provisioned (owner : OwnerRow) (companion : CompanionRow) (genome : PersonaGenomeRow)
      (realm : MemoryRealmRow) (owners' : Table OwnerRow) (companions' : Table CompanionRow)
      (genomes' : Table PersonaGenomeRow) (realms' : Table MemoryRealmRow)
      (rows : Provisioned sdk permits w owner companion genome realm)
      (claimed : DefaultClaimed w.owners owners' owner companion)
      (companions : Table.Stores w.companions companions' companion)
      (genomes : Table.Stores w.personaGenomes genomes' genome)
      (realms : RealmEnsured w.memoryRealms realms' owner.ownerId realm) :
      Change sdk permits w
        { w with
          owners := owners'
          companions := companions'
          personaGenomes := genomes'
          memoryRealms := realms' }
  | realmPointed (companion : CompanionRow) (realm : MemoryRealmRow)
      (companions' : Table CompanionRow) (realms' : Table MemoryRealmRow)
      (found : w.companions.get? companion.companionId = some companion)
      (active : companion.lifecycleState = .active)
      (companions : Table.Stores w.companions companions'
        { companion with defaultMemoryRealmId := some realm.realmId })
      (realms : RealmEnsured w.memoryRealms realms' companion.ownerId realm) :
      Change sdk permits w { w with companions := companions', memoryRealms := realms' }
  | defaultMoved (owner : OwnerRow) (companion : CompanionRow) (owners' : Table OwnerRow)
      (found : w.owners.get? owner.ownerId = some owner)
      (target : w.companions.get? companion.companionId = some companion)
      (answers : sdk.MayAnswer owner companion)
      (moved : owner.defaultCompanionId ≠ some companion.companionId)
      (stores : Table.Stores w.owners owners' (owner.pointAt companion.companionId)) :
      Change sdk permits w { w with owners := owners' }
  | lifecycleMoved (companion : CompanionRow) (target : LifecycleState)
      (companions' : Table CompanionRow)
      (found : w.companions.get? companion.companionId = some companion)
      (notDefault : target ≠ .active → ∀ owner,
        w.owners.get? companion.ownerId = some owner →
          owner.defaultCompanionId ≠ some companion.companionId)
      (permitted : permits.moves w companion target)
      (stores : Table.Stores w.companions companions' (companion.moveTo target)) :
      Change sdk permits w { w with companions := companions' }
  | genomeAdded (genome : PersonaGenomeRow) (genomes' : Table PersonaGenomeRow)
      (inserted : GenomeInserted sdk permits w genome)
      (uncommitted : genome.status ≠ .committed)
      (stores : Table.Stores w.personaGenomes genomes' genome) :
      Change sdk permits w { w with personaGenomes := genomes' }
  | genomeDecided (old new : PersonaGenomeRow) (genomes' : Table PersonaGenomeRow)
      (decided : GenomeDecided w old new) (uncommitted : new.status ≠ .committed)
      (stores : Table.Stores w.personaGenomes genomes' new) :
      Change sdk permits w { w with personaGenomes := genomes' }
  | personaWritten (old new : CompanionRow) (companions' : Table CompanionRow)
      (found : w.companions.get? old.companionId = some old)
      (written : PersonaWritten sdk permits old new)
      (current : new.currentGenomeId = old.currentGenomeId)
      (stores : Table.Stores w.companions companions' new) :
      Change sdk permits w { w with companions := companions' }
  | personaAppended (old new : CompanionRow) (genome : PersonaGenomeRow)
      (companions' : Table CompanionRow) (genomes' : Table PersonaGenomeRow)
      (found : w.companions.get? old.companionId = some old)
      (written : PersonaWritten sdk permits old new)
      (inserted : GenomeInserted sdk permits w genome)
      (own : genome.companionId = old.companionId)
      (committed : genome.status = .committed)
      (current : new.currentGenomeId = some genome.genomeId)
      (companions : Table.Stores w.companions companions' new)
      (genomes : Table.Stores w.personaGenomes genomes' genome) :
      Change sdk permits w { w with companions := companions', personaGenomes := genomes' }
  | personaApproved (old new : CompanionRow) (proposal genome : PersonaGenomeRow)
      (companions' : Table CompanionRow) (genomes' : Table PersonaGenomeRow)
      (found : w.companions.get? old.companionId = some old)
      (written : PersonaWritten sdk permits old new)
      (decided : GenomeDecided w proposal genome)
      (own : proposal.companionId = old.companionId)
      (base : old.currentGenomeId = proposal.baseGenomeId)
      (committed : genome.status = .committed)
      (current : new.currentGenomeId = some genome.genomeId)
      (companions : Table.Stores w.companions companions' new)
      (genomes : Table.Stores w.personaGenomes genomes' genome) :
      Change sdk permits w { w with companions := companions', personaGenomes := genomes' }
  | bindingAdded (binding : GuardBindingRow) (companion : CompanionRow)
      (bindings' : Table GuardBindingRow)
      (found : w.companions.get? binding.guardCompanionId = some companion)
      (owned : companion.ownerId = binding.ownerId)
      (guard : companion.kind = .guard)
      (active : companion.lifecycleState = .active)
      (fresh : w.guardBindings.get? binding.bindingId = none)
      (stores : Table.Stores w.guardBindings bindings' binding) :
      Change sdk permits w { w with guardBindings := bindings' }
  | bindingEdited (old new : GuardBindingRow) (bindings' : Table GuardBindingRow)
      (found : w.guardBindings.get? old.bindingId = some old)
      (bindingId : new.bindingId = old.bindingId)
      (ownerId : new.ownerId = old.ownerId)
      (companion : new.guardCompanionId = old.guardCompanionId)
      (state : new.state = .active → old.state = .active)
      (stores : Table.Stores w.guardBindings bindings' new) :
      Change sdk permits w { w with guardBindings := bindings' }
  | realmsAside (realms' : Table MemoryRealmRow) (aside : RealmsAside w realms') :
      Change sdk permits w { w with memoryRealms := realms' }
  | realmErased (erased : MemoryRealmRow → Bool)
      (personal : ∀ row, erased row = true → row.personId ≠ none) :
      Change sdk permits w (w.withoutRealms erased)

abbrev Changes (sdk : Sdk) (permits : Permits) : Workspace → Workspace → Prop :=
  Relation.ReflTransGen (Change sdk permits)

theorem Changes.preserve {sdk : Sdk} {permits : Permits} {holds : Workspace → Prop}
    (step : ∀ {w w'}, Change sdk permits w w' → holds w → holds w')
    {w w' : Workspace} (changes : Changes sdk permits w w') (before : holds w) : holds w' := by
  induction changes with
  | refl => exact before
  | tail _ change induction => exact step change induction

end EidolonData
