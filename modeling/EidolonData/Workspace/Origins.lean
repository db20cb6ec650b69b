import EidolonData.Workspace.Persistence

/-!
# Where a row comes from

A row of the workspace after a change was stored before it, in a form the
change says, or the change put it there with its guard.  These are the
inversions the invariants are proved from.
-/

namespace EidolonData

open Relational

variable {sdk : Sdk} {permits : Permits} {w w' : Workspace}

inductive OwnerOrigin (sdk : Sdk) (w w' : Workspace) (new : OwnerRow) : Prop where
  | stored (old : OwnerRow) (found : w.owners.get? new.ownerId = some old)
      (status : new.status = old.status)
      (default : new.defaultCompanionId = old.defaultCompanionId)
  | created (fresh : w.owners.get? new.ownerId = none) (active : new.status = .active)
      (unset : new.defaultCompanionId = none) (fits : fieldFits new.ownerId 64 = true)
  | pointed (old : OwnerRow) (companion : CompanionRow)
      (found : w.owners.get? new.ownerId = some old)
      (same : new = old.pointAt companion.companionId)
      (target : w'.companions.get? companion.companionId = some companion)
      (answers : sdk.MayAnswer old companion)

theorem OwnerOrigin.untouched {owner : OwnerRow} {ownerId : String}
    (found : w.owners.get? ownerId = some owner) : OwnerOrigin sdk w w' owner := by
  have same : owner.ownerId = ownerId := Table.key_of_get? found
  subst same
  exact .stored owner found rfl rfl

theorem Change.owner_origin (change : Change sdk permits w w') {ownerId : String} {new : OwnerRow}
    (found : w'.owners.get? ownerId = some new) : OwnerOrigin sdk w w' new := by
  cases change with
  | ownerCreated owner owners' fresh active unset fits stores =>
      rcases stores.of_get? found with ⟨-, rfl⟩ | ⟨-, before⟩
      · exact .created fresh active unset fits
      · exact .untouched before
  | ownerEdited old edited owners' oldFound same status default revision stores =>
      rcases stores.of_get? found with ⟨-, rfl⟩ | ⟨-, before⟩
      · rw [← same] at oldFound
        exact .stored old oldFound status default
      · exact .untouched before
  | provisioned owner companion genome realm owners' companions' genomes' realms' rows claimed
      companions genomes realms =>
      rcases claimed with ⟨rfl, -⟩ | ⟨unset, notGuard, stores⟩
      · exact .untouched found
      · rcases stores.of_get? found with ⟨-, rfl⟩ | ⟨-, before⟩
        · exact .pointed owner companion rows.ownerStored rfl companions.self
            ⟨rows.companionOwner, notGuard, Or.inl rows.companionActive⟩
        · exact .untouched before
  | defaultMoved owner companion owners' ownerFound target answers moved stores =>
      rcases stores.of_get? found with ⟨-, rfl⟩ | ⟨-, before⟩
      · exact .pointed owner companion ownerFound rfl target answers
      · exact .untouched before
  | realmPointed => exact .untouched found
  | lifecycleMoved => exact .untouched found
  | genomeAdded => exact .untouched found
  | genomeDecided => exact .untouched found
  | personaWritten => exact .untouched found
  | personaAppended => exact .untouched found
  | personaApproved => exact .untouched found
  | bindingAdded => exact .untouched found
  | bindingEdited => exact .untouched found
  | realmsAside => exact .untouched found
  | realmErased => exact .untouched found

/-- The realm a Companion points at after a change: the one before, unless it
was erased, or its Owner's shared one. -/
inductive RealmPointer (w' : Workspace) (old new : CompanionRow) : Prop where
  | same (same : new.defaultMemoryRealmId = old.defaultMemoryRealmId)
  | shared (realm : MemoryRealmRow) (pointed : new.defaultMemoryRealmId = some realm.realmId)
      (stored : w'.memoryRealms.get? realm.realmId = some realm)
      (shared : realm.isShared old.ownerId = true)
  | cleared (same : new.defaultMemoryRealmId =
      old.defaultMemoryRealmId.filter w'.memoryRealms.has)

/-- The genome a Companion points at after a change: the one before, or one
that no row had committed before. -/
inductive GenomePointer (w w' : Workspace) (old new : CompanionRow) : Prop where
  | same (same : new.currentGenomeId = old.currentGenomeId)
  | advanced (genome : PersonaGenomeRow)
      (pointed : new.currentGenomeId = some genome.genomeId)
      (stored : w'.personaGenomes.get? genome.genomeId = some genome)
      (own : genome.companionId = new.companionId) (committed : genome.status = .committed)
      (uncommitted : ∀ before, w.personaGenomes.get? genome.genomeId = some before →
        before.status = .proposed ∧ before.baseGenomeId = old.currentGenomeId)

theorem CompanionRow.Agrees.refl (companion : CompanionRow) : companion.Agrees companion :=
  { displayName := rfl
    lifecycleState := rfl
    genome := rfl
    config := rfl }

inductive CompanionOrigin (sdk : Sdk) (permits : Permits) (w w' : Workspace)
    (new : CompanionRow) : Prop where
  | stored (old : CompanionRow) (found : w.companions.get? new.companionId = some old)
      (ownerId : new.ownerId = old.ownerId) (kind : new.kind = old.kind)
      (lifecycle : new.lifecycleState = old.lifecycleState)
      (realm : RealmPointer w' old new)
      (config : ConfigWritten sdk old.runtimeConfigJson new.runtimeConfigJson)
      (genome : GenomePointer w w' old new)
      (guarded : permits.silent ∨ (new.revision = old.revision → old.Agrees new))
  | moved (old : CompanionRow) (target : LifecycleState)
      (found : w.companions.get? new.companionId = some old) (same : new = old.moveTo target)
      (notDefault : target ≠ .active → ∀ owner,
        w.owners.get? old.ownerId = some owner →
          owner.defaultCompanionId ≠ some old.companionId)
      (permitted : permits.moves w old target)
  | provisioned (owner : OwnerRow) (genome : PersonaGenomeRow) (realm : MemoryRealmRow)
      (rows : Provisioned sdk permits w owner new genome realm)
      (genomeStored : w'.personaGenomes.get? genome.genomeId = some genome)
      (realmStored : w'.memoryRealms.get? realm.realmId = some realm)
      (realmShared : realm.isShared owner.ownerId = true)

theorem CompanionOrigin.untouched {companion : CompanionRow} {companionId : String}
    (found : w.companions.get? companionId = some companion) :
    CompanionOrigin sdk permits w w' companion := by
  have same : companion.companionId = companionId := Table.key_of_get? found
  subst same
  exact .stored companion found rfl rfl rfl (.same rfl) (.same rfl) (.same rfl)
    (Or.inr (fun _ => .refl companion))

theorem Change.companion_origin (change : Change sdk permits w w') {companionId : String}
    {new : CompanionRow} (found : w'.companions.get? companionId = some new) :
    CompanionOrigin sdk permits w w' new := by
  cases change with
  | provisioned owner companion genome realm owners' companions' genomes' realms' rows claimed
      companions genomes realms =>
      rcases companions.of_get? found with ⟨-, rfl⟩ | ⟨-, before⟩
      · exact .provisioned owner genome realm rows genomes.self realms.stored realms.shared
      · exact .untouched before
  | realmPointed companion realm companions' realms' companionFound active companions realms =>
      rcases companions.of_get? found with ⟨-, rfl⟩ | ⟨-, before⟩
      · exact .stored companion companionFound rfl rfl rfl
          (.shared realm rfl realms.stored realms.shared) (.same rfl) (.same rfl)
          (Or.inr (fun _ => { CompanionRow.Agrees.refl companion with }))
      · exact .untouched before
  | lifecycleMoved companion target companions' companionFound notDefault permitted stores =>
      rcases stores.of_get? found with ⟨-, rfl⟩ | ⟨-, before⟩
      · exact .moved companion target companionFound rfl notDefault permitted
      · exact .untouched before
  | personaWritten old written companions' oldFound rewrite current stores =>
      rcases stores.of_get? found with ⟨-, rfl⟩ | ⟨-, before⟩
      · have stored := oldFound
        rw [← rewrite.companionId] at stored
        exact .stored old stored rewrite.ownerId rewrite.kind rewrite.lifecycleState
          (.same rewrite.realm) rewrite.config (.same current) rewrite.guarded
      · exact .untouched before
  | personaAppended old written genome companions' genomes' oldFound rewrite inserted own committed
      current companions genomes =>
      rcases companions.of_get? found with ⟨-, rfl⟩ | ⟨-, before⟩
      · have stored := oldFound
        rw [← rewrite.companionId] at stored
        refine .stored old stored rewrite.ownerId rewrite.kind rewrite.lifecycleState
          (.same rewrite.realm) rewrite.config
          (.advanced genome current genomes.self (own.trans rewrite.companionId.symm) committed ?_)
          rewrite.guarded
        intro before beforeFound
        rw [inserted.fresh] at beforeFound
        cases beforeFound
      · exact .untouched before
  | personaApproved old written proposal genome companions' genomes' oldFound rewrite decided own
      base committed current companions genomes =>
      rcases companions.of_get? found with ⟨-, rfl⟩ | ⟨-, before⟩
      · have stored := oldFound
        rw [← rewrite.companionId] at stored
        refine .stored old stored rewrite.ownerId rewrite.kind rewrite.lifecycleState
          (.same rewrite.realm) rewrite.config
          (.advanced genome current genomes.self
            ((decided.companionId.trans own).trans rewrite.companionId.symm) committed ?_)
          rewrite.guarded
        intro before beforeFound
        rw [decided.genomeId, decided.found] at beforeFound
        cases beforeFound
        exact ⟨decided.proposed, base.symm⟩
      · exact .untouched before
  | realmErased erased personal =>
      simp only [Workspace.withoutRealms, Table.get?_update, Option.map_eq_some_iff] at found
      obtain ⟨old, oldFound, rfl⟩ := found
      have same : old.companionId = companionId := Table.key_of_get? oldFound
      subst same
      exact .stored old oldFound rfl rfl rfl (.cleared rfl) (.same rfl) (.same rfl)
        (Or.inr (fun _ => { CompanionRow.Agrees.refl old with }))
  | ownerCreated => exact .untouched found
  | ownerEdited => exact .untouched found
  | defaultMoved => exact .untouched found
  | genomeAdded => exact .untouched found
  | genomeDecided => exact .untouched found
  | bindingAdded => exact .untouched found
  | bindingEdited => exact .untouched found
  | realmsAside => exact .untouched found

inductive GenomeOrigin (sdk : Sdk) (permits : Permits) (w : Workspace)
    (new : PersonaGenomeRow) : Prop where
  | stored (old : PersonaGenomeRow) (found : w.personaGenomes.get? new.genomeId = some old)
      (precedes : old.Precedes new)
  | added (inserted : GenomeInserted sdk permits w new)

theorem GenomeOrigin.untouched {genome : PersonaGenomeRow} {genomeId : String}
    (found : w.personaGenomes.get? genomeId = some genome) :
    GenomeOrigin sdk permits w genome := by
  have same : genome.genomeId = genomeId := Table.key_of_get? found
  subst same
  exact .stored genome found (.refl genome)

theorem GenomeOrigin.decided {old new : PersonaGenomeRow} (decided : GenomeDecided w old new) :
    GenomeOrigin sdk permits w new := by
  refine .stored old ?_ decided.precedes
  rw [decided.genomeId]
  exact decided.found

theorem Change.genome_origin (change : Change sdk permits w w') {genomeId : String}
    {new : PersonaGenomeRow} (found : w'.personaGenomes.get? genomeId = some new) :
    GenomeOrigin sdk permits w new := by
  cases change with
  | provisioned owner companion genome realm owners' companions' genomes' realms' rows claimed
      companions genomes realms =>
      rcases genomes.of_get? found with ⟨-, rfl⟩ | ⟨-, before⟩
      · exact .added rows.genomeInserted
      · exact .untouched before
  | genomeAdded genome genomes' inserted uncommitted stores =>
      rcases stores.of_get? found with ⟨-, rfl⟩ | ⟨-, before⟩
      · exact .added inserted
      · exact .untouched before
  | genomeDecided old new genomes' decided uncommitted stores =>
      rcases stores.of_get? found with ⟨-, rfl⟩ | ⟨-, before⟩
      · exact .decided decided
      · exact .untouched before
  | personaAppended old written genome companions' genomes' oldFound rewrite inserted own committed
      current companions genomes =>
      rcases genomes.of_get? found with ⟨-, rfl⟩ | ⟨-, before⟩
      · exact .added inserted
      · exact .untouched before
  | personaApproved old written proposal genome companions' genomes' oldFound rewrite decided own
      base committed current companions genomes =>
      rcases genomes.of_get? found with ⟨-, rfl⟩ | ⟨-, before⟩
      · exact .decided decided
      · exact .untouched before
  | ownerCreated => exact .untouched found
  | ownerEdited => exact .untouched found
  | realmPointed => exact .untouched found
  | defaultMoved => exact .untouched found
  | lifecycleMoved => exact .untouched found
  | personaWritten => exact .untouched found
  | bindingAdded => exact .untouched found
  | bindingEdited => exact .untouched found
  | realmsAside => exact .untouched found
  | realmErased => exact .untouched found

theorem GenomeDecided.stays {old new genome : PersonaGenomeRow}
    {genomes' : Table PersonaGenomeRow} (decided : GenomeDecided w old new)
    (stores : Table.Stores w.personaGenomes genomes' new)
    (found : w.personaGenomes.get? genome.genomeId = some genome)
    (notProposed : genome.status ≠ .proposed) :
    genomes'.get? genome.genomeId = some genome := by
  rw [stores.other, found]
  intro equal
  rw [equal, key_genome, decided.genomeId, decided.found] at found
  cases found
  exact notProposed decided.proposed

theorem Change.decided_stays (change : Change sdk permits w w') {genome : PersonaGenomeRow}
    (found : w.personaGenomes.get? genome.genomeId = some genome)
    (notProposed : genome.status ≠ .proposed) :
    w'.personaGenomes.get? genome.genomeId = some genome := by
  cases change with
  | provisioned owner companion first realm owners' companions' genomes' realms' rows claimed
      companions genomes realms => exact genomes.kept rows.genomeInserted.fresh found
  | genomeAdded added genomes' inserted uncommitted stores => exact stores.kept inserted.fresh found
  | genomeDecided old new genomes' decided uncommitted stores =>
      exact decided.stays stores found notProposed
  | personaAppended old new added companions' genomes' oldFound rewrite inserted own committed
      current companions genomes => exact genomes.kept inserted.fresh found
  | personaApproved old new proposal approved companions' genomes' oldFound rewrite decided own
      base committed current companions genomes =>
      exact decided.stays genomes found notProposed
  | ownerCreated => exact found
  | ownerEdited => exact found
  | realmPointed => exact found
  | defaultMoved => exact found
  | lifecycleMoved => exact found
  | personaWritten => exact found
  | bindingAdded => exact found
  | bindingEdited => exact found
  | realmsAside => exact found
  | realmErased => exact found

inductive RealmOrigin (w : Workspace) (new : MemoryRealmRow) : Prop where
  | stored (old : MemoryRealmRow) (found : w.memoryRealms.get? new.realmId = some old)
      (ownerId : new.ownerId = old.ownerId)
      (status : new.status = .active → old.status = .active)
  | ofOwner (owner : OwnerRow) (found : w.owners.get? new.ownerId = some owner)
      (active : owner.status = .active)
  | ofCompanion (companion : CompanionRow)
      (found : w.companions.get? companion.companionId = some companion)
      (owned : companion.ownerId = new.ownerId) (active : companion.lifecycleState = .active)

theorem RealmOrigin.untouched {realm : MemoryRealmRow} {realmId : String}
    (found : w.memoryRealms.get? realmId = some realm) : RealmOrigin w realm := by
  have same : realm.realmId = realmId := Table.key_of_get? found
  subst same
  exact .stored realm found rfl id

theorem MemoryRealmRow.isShared_iff {realm : MemoryRealmRow} {ownerId : String} :
    realm.isShared ownerId = true ↔
      realm.ownerId = ownerId ∧ realm.personId = none ∧ realm.status = .active := by
  simp [MemoryRealmRow.isShared, and_assoc]

theorem Change.realm_origin (change : Change sdk permits w w') {realmId : String}
    {new : MemoryRealmRow} (found : w'.memoryRealms.get? realmId = some new)
    (active : new.status = .active) : RealmOrigin w new := by
  cases change with
  | provisioned owner companion genome realm owners' companions' genomes' realms' rows claimed
      companions genomes realms =>
      rcases realms.added found with before | ⟨rfl, -⟩
      · exact .untouched before
      · have owned := (MemoryRealmRow.isShared_iff.mp realms.shared).1
        exact .ofOwner owner (by rw [owned]; exact rows.ownerStored) rows.ownerActive
  | realmPointed companion realm companions' realms' companionFound companionActive companions
      realms =>
      rcases realms.added found with before | ⟨rfl, -⟩
      · exact .untouched before
      · have owned := (MemoryRealmRow.isShared_iff.mp realms.shared).1
        exact .ofCompanion companion companionFound owned.symm companionActive
  | realmsAside realms' aside =>
      rcases aside.active found active with
        ⟨old, oldFound, oldActive, owned⟩ | ⟨owner, stored, alive⟩
      · have same : new.realmId = realmId := Table.key_of_get? found
        rw [← same] at oldFound
        exact .stored old oldFound owned.symm (fun _ => oldActive)
      · exact .ofOwner owner stored alive
  | realmErased erased personal =>
      simp only [Workspace.withoutRealms, Table.get?_retain, Option.filter_eq_some_iff] at found
      exact .untouched found.1
  | ownerCreated => exact .untouched found
  | ownerEdited => exact .untouched found
  | defaultMoved => exact .untouched found
  | lifecycleMoved => exact .untouched found
  | genomeAdded => exact .untouched found
  | genomeDecided => exact .untouched found
  | personaWritten => exact .untouched found
  | personaAppended => exact .untouched found
  | personaApproved => exact .untouched found
  | bindingAdded => exact .untouched found
  | bindingEdited => exact .untouched found

/-- A shared realm as it is created, of a stored Owner or for a Companion. -/
structure SharedAdded (w : Workspace) (new : MemoryRealmRow) : Prop where
  named : matchesGeneratedId new.realmId = true
  active : new.status = .active
  owner : (∃ owner, w.owners.get? new.ownerId = some owner) ∨
    ∃ companion, w.companions.get? companion.companionId = some companion ∧
      companion.ownerId = new.ownerId

theorem Change.ownerless_realm (change : Change sdk permits w w') {realmId : String}
    {new : MemoryRealmRow} (found : w'.memoryRealms.get? realmId = some new)
    (ownerless : new.personId = none) :
    w.memoryRealms.get? realmId = some new ∨ SharedAdded w new := by
  have same : new.realmId = realmId := Table.key_of_get? found
  subst same
  cases change with
  | provisioned owner companion genome realm owners' companions' genomes' realms' rows claimed
      companions genomes realms =>
      refine (realms.added found).imp_right ?_
      rintro ⟨rfl, named⟩
      obtain ⟨owned, -, active⟩ := MemoryRealmRow.isShared_iff.mp realms.shared
      refine ⟨named, active, Or.inl ⟨owner, ?_⟩⟩
      rw [owned]
      exact rows.ownerStored
  | realmPointed companion realm companions' realms' companionFound companionActive companions
      realms =>
      refine (realms.added found).imp_right ?_
      rintro ⟨rfl, named⟩
      obtain ⟨owned, -, active⟩ := MemoryRealmRow.isShared_iff.mp realms.shared
      exact ⟨named, active, Or.inr ⟨companion, companionFound, owned.symm⟩⟩
  | realmsAside realms' aside => exact Or.inl ((aside.shared ownerless).mp found)
  | realmErased erased personal =>
      simp only [Workspace.withoutRealms, Table.get?_retain, Option.filter_eq_some_iff] at found
      exact Or.inl found.1
  | ownerCreated => exact Or.inl found
  | ownerEdited => exact Or.inl found
  | defaultMoved => exact Or.inl found
  | lifecycleMoved => exact Or.inl found
  | genomeAdded => exact Or.inl found
  | genomeDecided => exact Or.inl found
  | personaWritten => exact Or.inl found
  | personaAppended => exact Or.inl found
  | personaApproved => exact Or.inl found
  | bindingAdded => exact Or.inl found
  | bindingEdited => exact Or.inl found

/-- Where an active binding comes from. -/
inductive BindingOrigin (w w' : Workspace) (new : GuardBindingRow) : Prop where
  | stored (old : GuardBindingRow) (found : w.guardBindings.get? new.bindingId = some old)
      (ownerId : new.ownerId = old.ownerId)
      (companion : new.guardCompanionId = old.guardCompanionId)
      (active : old.state = .active)
  | added (companion : CompanionRow)
      (found : w'.companions.get? new.guardCompanionId = some companion)
      (owned : companion.ownerId = new.ownerId) (guard : companion.kind = .guard)
      (active : companion.lifecycleState = .active)

theorem BindingOrigin.untouched {binding : GuardBindingRow} {bindingId : String}
    (found : w.guardBindings.get? bindingId = some binding) (active : binding.state = .active) :
    BindingOrigin w w' binding := by
  have same : binding.bindingId = bindingId := Table.key_of_get? found
  subst same
  exact .stored binding found rfl rfl active

theorem Change.binding_origin (change : Change sdk permits w w') {bindingId : String}
    {new : GuardBindingRow} (found : w'.guardBindings.get? bindingId = some new)
    (active : new.state = .active) : BindingOrigin w w' new := by
  cases change with
  | bindingAdded binding companion bindings' companionFound owned guard alive fresh stores =>
      rcases stores.of_get? found with ⟨-, rfl⟩ | ⟨-, before⟩
      · exact .added companion companionFound owned guard alive
      · exact .untouched before active
  | bindingEdited old edited bindings' oldFound same ownerId companion state stores =>
      rcases stores.of_get? found with ⟨-, rfl⟩ | ⟨-, before⟩
      · rw [← same] at oldFound
        exact .stored old oldFound ownerId companion (state active)
      · exact .untouched before active
  | ownerCreated => exact .untouched found active
  | ownerEdited => exact .untouched found active
  | provisioned => exact .untouched found active
  | realmPointed => exact .untouched found active
  | defaultMoved => exact .untouched found active
  | lifecycleMoved => exact .untouched found active
  | genomeAdded => exact .untouched found active
  | genomeDecided => exact .untouched found active
  | personaWritten => exact .untouched found active
  | personaAppended => exact .untouched found active
  | personaApproved => exact .untouched found active
  | realmsAside => exact .untouched found active
  | realmErased => exact .untouched found active

section Archiving

variable {owner : OwnerRow} {now : Timestamp}

theorem archiveOwner_stores (found : w.owners.get? owner.ownerId = some owner) :
    Table.Stores w.owners (w.archiveOwner now owner).owners
      { owner with
        status := .archived
        defaultCompanionId := none
        revision := owner.revision + 1 } :=
  Table.stores_modify found

/-- Archiving an Owner moves its active Companions to `archived`. -/
theorem archiveOwner_companion {companionId : String} {new : CompanionRow}
    (found : (w.archiveOwner now owner).companions.get? companionId = some new) :
    ∃ old, w.companions.get? companionId = some old ∧
      ((old.ownerId = owner.ownerId ∧ old.lifecycleState = .active ∧ new = old.moveTo .archived) ∨
        (¬ (old.ownerId = owner.ownerId ∧ old.lifecycleState = .active) ∧ new = old)) := by
  simp only [Workspace.archiveOwner, Table.get?_update, Option.map_eq_some_iff] at found
  obtain ⟨old, stored, rewritten⟩ := found
  refine ⟨old, stored, ?_⟩
  split at rewritten
  · next active => exact Or.inl ⟨active.1, active.2, rewritten.symm⟩
  · next other => exact Or.inr ⟨other, rewritten.symm⟩

theorem archiveOwner_carries :
    Table.Carries CompanionRow.Precedes w.companions (w.archiveOwner now owner).companions := by
  refine Table.carries_update ?_ (by intro row; split <;> rfl)
  intro row
  split
  · exact row.precedes_moveTo .archived
  · exact .refl row

theorem archiveOwner_realm {realmId : String} {new : MemoryRealmRow}
    (found : (w.archiveOwner now owner).memoryRealms.get? realmId = some new) :
    ∃ old, w.memoryRealms.get? realmId = some old ∧
      ((old.ownerId = owner.ownerId ∧ old.status = .active ∧
          new = { old with status := .inactive }) ∨
        (¬ (old.ownerId = owner.ownerId ∧ old.status = .active) ∧ new = old)) := by
  simp only [Workspace.archiveOwner, Table.get?_update, Option.map_eq_some_iff] at found
  obtain ⟨old, stored, rewritten⟩ := found
  refine ⟨old, stored, ?_⟩
  split at rewritten
  · next active => exact Or.inl ⟨active.1, active.2, rewritten.symm⟩
  · next other => exact Or.inr ⟨other, rewritten.symm⟩

theorem archiveOwner_binding {bindingId : String} {new : GuardBindingRow}
    (found : (w.archiveOwner now owner).guardBindings.get? bindingId = some new)
    (active : new.state = .active) :
    w.guardBindings.get? bindingId = some new ∧ new.ownerId ≠ owner.ownerId := by
  simp only [Workspace.archiveOwner, Table.get?_update, Option.map_eq_some_iff] at found
  obtain ⟨old, stored, rewritten⟩ := found
  split at rewritten
  · subst rewritten
    cases active
  · next other =>
      subst rewritten
      refine ⟨stored, ?_⟩
      intro owned
      exact other ⟨owned, active⟩

end Archiving

end EidolonData
