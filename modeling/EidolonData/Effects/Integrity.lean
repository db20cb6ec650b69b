import EidolonData.Services.Lifecycle

/-!
# What a commit accepts

The writes that keep the constraints of the schema: a fact with an event id
of its own, and a lifecycle move.  The other aggregates see the workspace
only through its Owners and the pairs of Owner and Companion.
-/

namespace EidolonData

open Relational

section Outbox

theorem le_foldl_max (rows : List AuditOutboxRow) (start : Int) :
    start ≤ rows.foldl (fun highest row => max highest row.outboxId) start ∧
      ∀ row ∈ rows,
        row.outboxId ≤ rows.foldl (fun highest row => max highest row.outboxId) start := by
  induction rows generalizing start with
  | nil => simp
  | cons head tail induction =>
      obtain ⟨above, rest⟩ := induction (max start head.outboxId)
      simp only [List.foldl_cons, List.mem_cons, forall_eq_or_imp]
      exact ⟨le_trans (le_max_left _ _) above, le_trans (le_max_right _ _) above, rest⟩

theorem nextOutboxId_fresh (outbox : Table AuditOutboxRow) :
    outbox.get? (nextOutboxId outbox) = none := by
  cases stored : outbox.get? (nextOutboxId outbox) with
  | none => rfl
  | some row =>
      have sameId : row.outboxId = nextOutboxId outbox := Table.key_of_get? stored
      have below := (le_foldl_max outbox.rows 0).2 row (Table.mem_of_get? stored)
      unfold nextOutboxId at sameId
      omega

/-- A fact of this event is in the outbox. -/
def Tables.HasEvent (t : Tables) (eventId : String) : Prop :=
  ∃ row ∈ t.auditOutbox.rows, row.fact.eventId = eventId

theorem Tables.Integrity.addFact_iff {t : Tables} (integrity : t.Integrity) (now : Timestamp)
    (fact : AuditFact) : (t.addFact now fact).Integrity ↔ ¬ t.HasEvent fact.eventId := by
  let row : AuditOutboxRow :=
    { outboxId := nextOutboxId t.auditOutbox, fact := fact, nextAttemptAt := now }
  have fresh : t.auditOutbox.get? (key row) = none := nextOutboxId_fresh t.auditOutbox
  have events := integrity.events.insert_iff fresh rfl
  have same : (∀ other ∈ t.auditOutbox.rows, some other.fact.eventId ≠ some fact.eventId) ↔
      ¬ t.HasEvent fact.eventId := by
    simp [Tables.HasEvent]
  rw [← same, ← events]
  constructor
  · intro accepted
    exact accepted.events
  · intro unique
    exact
      { workspace := integrity.workspace
        faces := integrity.faces
        home := integrity.home
        people := integrity.people
        teams := integrity.teams
        events := unique }

theorem Tables.rows_addFact (t : Tables) (now : Timestamp) (fact : AuditFact) :
    (t.addFact now fact).auditOutbox.rows =
      t.auditOutbox.rows ++
        [{ outboxId := nextOutboxId t.auditOutbox, fact := fact, nextAttemptAt := now }] :=
  Table.rows_insert (nextOutboxId_fresh t.auditOutbox)

theorem Tables.hasEvent_addFact_iff (t : Tables) (now : Timestamp) (fact : AuditFact)
    (eventId : String) :
    (t.addFact now fact).HasEvent eventId ↔ t.HasEvent eventId ∨ fact.eventId = eventId := by
  simp only [Tables.HasEvent, Tables.rows_addFact, List.mem_append, List.mem_singleton]
  constructor
  · rintro ⟨row, stored | rfl, same⟩
    · exact .inl ⟨row, stored, same⟩
    · exact .inr same
  · rintro (⟨row, stored, same⟩ | same)
    · exact ⟨row, .inl stored, same⟩
    · exact ⟨_, .inr rfl, same⟩

end Outbox

/-- The other aggregates keep their constraints when the Owners and the owned
Companions stay the same. -/
theorem Tables.Integrity.withWorkspace {t : Tables} (integrity : t.Integrity) {w : Workspace}
    (inner : w.Integrity) (owners : w.owners.has = t.workspace.owners.has)
    (companions : w.hasOwnedCompanion = t.workspace.hasOwnedCompanion) :
    ({ t with workspace := w } : Tables).Integrity := by
  refine
    { workspace := inner
      faces := ?_
      home := ?_
      people := ?_
      teams := ?_
      events := integrity.events }
  · simpa only [Faces.integrity_iff, owners, companions] using integrity.faces
  · simpa only [SmartHome.integrity_iff, owners] using integrity.home
  · simpa only [People.integrity_iff, owners] using integrity.people
  · simpa only [Teams.integrity_iff, owners] using integrity.teams

section DefaultMove

def Workspace.moveDefault (w : Workspace) (owner : OwnerRow) (companionId : String) : Workspace :=
  { w with
    owners := w.owners.modify owner.ownerId (fun row =>
      { row with
        defaultCompanionId := some companionId
        revision := owner.revision + 1 }) }

variable {w : Workspace} {owner : OwnerRow} {companionId : String}

theorem owners_has_moveDefault :
    (w.moveDefault owner companionId).owners.has = w.owners.has := by
  simp only [Workspace.moveDefault, Table.has_modify]

theorem Workspace.Integrity.moveDefault (integrity : w.Integrity)
    (found : w.owners.get? owner.ownerId = some owner)
    (stored : w.companions.has companionId = true) :
    (w.moveDefault owner companionId).Integrity := by
  have positive := integrity.ownerRevision owner (Table.mem_of_get? found)
  refine
    { integrity with
      ownerRevision := ?_
      ownerDefault := ?_
      companionOwner := ?_
      realmOwner := ?_
      bindingOwner := ?_ }
  · refine integrity.ownerRevision.modify ?_ (fun _ _ held => held)
    intro row _ _ _
    simp only [decide_eq_true_eq] at positive ⊢
    omega
  · refine integrity.ownerDefault.modify ?_ (fun _ _ held => held)
    intro row _ _ _
    exact stored
  · rw [owners_has_moveDefault]
    exact integrity.companionOwner
  · rw [owners_has_moveDefault]
    exact integrity.realmOwner
  · rw [owners_has_moveDefault]
    exact integrity.bindingOwner

theorem Tables.Integrity.moveDefault {t : Tables} (integrity : t.Integrity)
    (found : t.workspace.owners.get? owner.ownerId = some owner)
    (stored : t.workspace.companions.has companionId = true) :
    (t.mapWorkspace (fun w => w.moveDefault owner companionId)).Integrity :=
  integrity.withWorkspace (integrity.workspace.moveDefault found stored) owners_has_moveDefault rfl

end DefaultMove

section LifecycleMove

def Workspace.moveLifecycle (w : Workspace) (companion : CompanionRow) (target : LifecycleState) :
    Workspace :=
  { w with
    companions := w.companions.modify companion.companionId (fun row =>
      { row with
        lifecycleState := target
        revision := companion.revision + 1 }) }

variable {w : Workspace} {companion : CompanionRow} (target : LifecycleState)

theorem hasOwnedCompanion_moveLifecycle :
    (w.moveLifecycle companion target).hasOwnedCompanion = w.hasOwnedCompanion := by
  funext ownerId companionId
  simp only [Workspace.hasOwnedCompanion, Workspace.moveLifecycle, Table.get?_modify]
  split
  · cases w.companions.get? companionId with
    | none => rfl
    | some row => rfl
  · rfl

theorem Workspace.Integrity.moveLifecycle (integrity : w.Integrity)
    (found : w.companions.get? companion.companionId = some companion) :
    (w.moveLifecycle companion target).Integrity := by
  have positive := integrity.companionRevision companion (Table.mem_of_get? found)
  have kept : ∀ {holds : CompanionRow → Bool}, w.companions.All holds →
      (∀ row, key row = companion.companionId → holds row = true → holds
        { row with lifecycleState := target, revision := companion.revision + 1 } = true) →
      (w.moveLifecycle companion target).companions.All holds := by
    intro holds all changed
    exact all.modify (fun row _ => changed row) (fun _ _ held => held)
  refine
    { integrity with
      ownerDefault := ?_
      companionOwner := ?_
      companionRevision := ?_
      companionGenome := ?_
      companionRealm := ?_
      genomeCompanion := ?_
      bindingCompanion := ?_ }
  · simpa only [Workspace.moveLifecycle, Table.has_modify] using integrity.ownerDefault
  · exact kept integrity.companionOwner (fun _ _ held => held)
  · refine kept integrity.companionRevision ?_
    intro row _ _
    simp only [decide_eq_true_eq] at positive ⊢
    omega
  · exact kept integrity.companionGenome (fun _ _ held => held)
  · exact kept integrity.companionRealm (fun _ _ held => held)
  · simpa only [Workspace.moveLifecycle, Table.has_modify] using integrity.genomeCompanion
  · rw [hasOwnedCompanion_moveLifecycle]
    exact integrity.bindingCompanion

theorem Tables.Integrity.moveLifecycle {t : Tables} (integrity : t.Integrity)
    (found : t.workspace.companions.get? companion.companionId = some companion) :
    (t.mapWorkspace (fun w => w.moveLifecycle companion target)).Integrity :=
  integrity.withWorkspace (integrity.workspace.moveLifecycle target found) rfl
    (hasOwnedCompanion_moveLifecycle target)

end LifecycleMove

section GenomeDecision

theorem PersonaGenomeRow.key_decided (genome row : PersonaGenomeRow) :
    key { row with
      status := genome.status
      changeSummary := genome.changeSummary
      appliedEventId := genome.appliedEventId } = key row := rfl

def Workspace.decideGenome (w : Workspace) (genome : PersonaGenomeRow) : Workspace :=
  { w with
    personaGenomes := w.personaGenomes.modify genome.genomeId (fun row =>
      { row with
        status := genome.status
        changeSummary := genome.changeSummary
        appliedEventId := genome.appliedEventId }) genome.key_decided }

variable {w : Workspace} (genome : PersonaGenomeRow)

theorem Workspace.Integrity.decideGenome (integrity : w.Integrity) :
    (w.decideGenome genome).Integrity := by
  have kept : ∀ {holds : PersonaGenomeRow → Bool}, w.personaGenomes.All holds →
      (∀ row, holds row = true → holds
        { row with
          status := genome.status
          changeSummary := genome.changeSummary
          appliedEventId := genome.appliedEventId } = true) →
      (w.decideGenome genome).personaGenomes.All holds := by
    intro holds all changed
    exact all.modify (fun row _ _ => changed row) (fun _ _ held => held) genome.key_decided
  refine
    { integrity with
      companionGenome := ?_
      genomeCompanion := ?_
      genomeBase := ?_
      genomeVersion := ?_
      genomeCurrent := ?_
      genomeVersions := ?_ }
  · simpa only [Workspace.decideGenome, Table.has_modify] using integrity.companionGenome
  · exact kept integrity.genomeCompanion (fun _ held => held)
  · rw [Workspace.decideGenome, Table.has_modify]
    exact kept integrity.genomeBase (fun _ held => held)
  · exact kept integrity.genomeVersion (fun _ held => held)
  · exact kept integrity.genomeCurrent (fun _ held => held)
  · refine Table.UniqueOn.modify integrity.genomeVersions ?_ genome.key_decided
    intro _
    rfl

/-- The database accepts the decision of a genome. -/
theorem Tables.Integrity.decideGenome {t : Tables} (integrity : t.Integrity) :
    (t.mapWorkspace (fun w => w.decideGenome genome)).Integrity :=
  integrity.withWorkspace (integrity.workspace.decideGenome genome) rfl rfl

end GenomeDecision

end EidolonData
