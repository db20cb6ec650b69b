import EidolonData.Results.PersonaPointer
import EidolonData.Effects.Histories
import EidolonData.Invariants.Runtime

/-!
# Persona history is append-only

What a stored genome says of itself is an invariant; what a run without
deletions leaves of it is the relation `PersonaGenomeRow.Precedes`.
-/

namespace EidolonData

open Relational

structure PersonaGenomeRow.Vouched (genome : PersonaGenomeRow) (sdk : Sdk) : Prop where
  hashed : genome.genomeHash = sdk.personaGenomeHash genome.genomeJson
  applied : genome.Applied

/-- Every stored genome has the hash of its document, and its event once it
is committed. -/
def Workspace.GenomesVouched (sdk : Sdk) (w : Workspace) : Prop :=
  ∀ {genomeId genome}, w.personaGenomes.get? genomeId = some genome → genome.Vouched sdk

theorem genomesVouched_invariant {sdk : Sdk} {permits : Permits} :
    Invariant sdk permits (Workspace.GenomesVouched sdk) := by
  refine
    { change := ?_
      archived := fun now stored _ vouched => vouched
      removed := ?_ }
  · intro w w' change vouched genomeId genome found
    cases change.genome_origin found with
    | stored old oldFound precedes =>
        have before := vouched oldFound
        refine ⟨?_, precedes.applied before.applied⟩
        rw [precedes.hash, precedes.document]
        exact before.hashed
    | added inserted => exact ⟨inserted.hashed, inserted.applied⟩
  · intro doomed w w' removal vouched genomeId genome found
    obtain ⟨old, oldFound, spared⟩ := removal.genome found
    have before := vouched oldFound
    refine ⟨?_, ?_⟩
    · rw [spared.genomeHash, spared.genomeJson]
      exact before.hashed
    · intro committed
      rw [spared.event]
      exact before.applied (spared.status.symm.trans committed)

/-- The commands that remove rows. -/
def Command.Deletes : Command → Prop
  | deleteOwner _ | deleteCompanion _ _ _ => True
  | _ => False

section Run

variable {sdk : Sdk} {permits : Permits}

theorem Command.Effect.genomes_precede {command : Command} {w w' : Workspace}
    (effect : command.Effect sdk permits w w') (keeps : ¬ command.Deletes) :
    Table.Carries PersonaGenomeRow.Precedes w.personaGenomes w'.personaGenomes := by
  cases command with
  | archiveOwner ownerId =>
      rcases effect with rfl | ⟨owner, now, -, -, rfl⟩
      · exact .refl PersonaGenomeRow.Precedes.refl _
      · exact .refl PersonaGenomeRow.Precedes.refl _
  | deleteOwner ownerId => exact absurd trivial keeps
  | deleteCompanion ownerId companionId allowDefault => exact absurd trivial keeps
  | _ => exact (Changes.outlives effect).genomes

theorem replay_genomes_precede {calls : List Call} {db : Database}
    (keeps : ∀ call ∈ calls, ¬ call.command.Deletes) :
    Table.Carries PersonaGenomeRow.Precedes db.tables.workspace.personaGenomes
      (replay sdk calls db).tables.workspace.personaGenomes := by
  induction calls generalizing db with
  | nil => exact .refl PersonaGenomeRow.Precedes.refl _
  | cons call calls induction =>
      have first : Table.Carries PersonaGenomeRow.Precedes db.tables.workspace.personaGenomes
          (call.step sdk db).tables.workspace.personaGenomes := by
        rcases call.step_effect db (call.command.permitted_all sdk _) with same | effect
        · rw [same]
          exact .refl PersonaGenomeRow.Precedes.refl _
        · exact effect.genomes_precede (keeps call List.mem_cons_self)
      have rest := @induction (call.step sdk db)
        (fun later member => keeps later (List.mem_cons_of_mem call member))
      exact first.trans PersonaGenomeRow.Precedes.trans rest

end Run

/-- In every reachable state, a Companion's current genome is a committed one
of its own, every genome has the hash of its document and, once committed, its
event, and no version of a Companion is taken twice.  A run without deletions
leaves every genome with the Companion, version, base, document and hash it
had, and moves its status only away from proposed. -/
theorem persona_history_append_only (sdk : Sdk) (calls between : List Call) :
    (∀ {companionId companion},
      (replay sdk calls .empty).tables.workspace.companions.get? companionId = some companion →
      (replay sdk calls .empty).tables.workspace.HasGenome companion) ∧
    (∀ {genomeId genome},
      (replay sdk calls .empty).tables.workspace.personaGenomes.get? genomeId = some genome →
      genome.genomeHash = sdk.personaGenomeHash genome.genomeJson ∧
        (genome.status = .committed → genome.appliedEventId ≠ none)) ∧
    (∀ {firstId secondId first second},
      (replay sdk calls .empty).tables.workspace.personaGenomes.get? firstId = some first →
      (replay sdk calls .empty).tables.workspace.personaGenomes.get? secondId = some second →
      first.companionId = second.companionId → first.version = second.version →
      firstId = secondId) ∧
    ((∀ call ∈ between, ¬ call.command.Deletes) → ∀ {genomeId old},
      (replay sdk calls .empty).tables.workspace.personaGenomes.get? genomeId = some old →
      ∃ new, (replay sdk between (replay sdk calls .empty)).tables.workspace.personaGenomes.get?
          genomeId = some new ∧
        new.companionId = old.companionId ∧ new.version = old.version ∧
        new.baseGenomeId = old.baseGenomeId ∧ new.genomeJson = old.genomeJson ∧
        new.genomeHash = old.genomeHash ∧
        (new.status = old.status ∨ old.status = .proposed ∧
          (new.status = .committed ∨ new.status = .rejected ∨ new.status = .stale))) := by
  have sound : (replay sdk calls .empty).tables.workspace.RuntimeSound sdk .all :=
    runtimeSound_invariant.replay calls .empty (heeds_all sdk calls .empty) runtimeSound_empty
  have vouched : (replay sdk calls .empty).tables.workspace.GenomesVouched sdk := by
    refine genomesVouched_invariant.replay calls .empty (heeds_all sdk calls .empty) ?_
    intro genomeId genome found
    cases found
  refine ⟨sound.current, ?_, ?_, ?_⟩
  · intro genomeId genome found
    exact ⟨(vouched found).hashed, (vouched found).applied⟩
  · intro firstId secondId first second firstFound secondFound companion version
    have column : some (first.companionId, first.version) =
        some (second.companionId, second.version) := by
      rw [companion, version]
    have same := (replay sdk calls .empty).property.workspace.genomeVersions.eq_of_mem
      (Table.mem_of_get? firstFound) (Table.mem_of_get? secondFound) column rfl
    rw [← Table.key_of_get? firstFound, ← Table.key_of_get? secondFound, same]
  · intro keeps genomeId old found
    obtain ⟨new, after, precedes⟩ := replay_genomes_precede keeps genomeId old found
    refine ⟨new, after, precedes.companionId, precedes.version, precedes.base, precedes.document,
      precedes.hash, precedes.status.imp_right ?_⟩
    rintro ⟨proposed, decided⟩
    refine ⟨proposed, ?_⟩
    cases status : new.status with
    | proposed => exact absurd status decided
    | committed => exact Or.inl rfl
    | rejected => exact Or.inr (Or.inl rfl)
    | stale => exact Or.inr (Or.inr rfl)

theorem persona_history_append_only_renamed :
    ∃ new, (replay .plain [renamedCall] (replay .plain (numbered firstDefaultCommands)
        .empty)).tables.workspace.personaGenomes.get? "g_31000000000000000000000000000000" =
          some new ∧
      new.version = 1 ∧ new.status = .committed := by
  have stored : ((replay .plain (numbered firstDefaultCommands)
      .empty).tables.workspace.personaGenomes.get? "g_31000000000000000000000000000000").map
        (fun row => (row.version, row.status)) = some (1, .committed) := by
    decide +kernel
  obtain ⟨old, found, facts⟩ := Option.map_eq_some_iff.mp stored
  obtain ⟨first, committed⟩ := Prod.mk.inj facts
  have keeps : ∀ call ∈ [renamedCall], ¬ call.command.Deletes := by
    intro call member
    rw [List.mem_singleton.mp member]
    exact id
  obtain ⟨new, after, -, version, -, -, -, same | ⟨proposed, -⟩⟩ :=
    (persona_history_append_only .plain (numbered firstDefaultCommands) [renamedCall]).2.2.2 keeps
      found
  · exact ⟨new, after, version.trans first, same.trans committed⟩
  · rw [committed] at proposed
    cases proposed

end EidolonData
