import EidolonData.Effects.Cascade
import EidolonData.Effects.HomeFrames
import EidolonData.Effects.PersonaChapters
import EidolonData.Invariants.Chapters
import EidolonData.Invariants.Runtime

/-!
# Every command is a step of the chapters

The genomes that are stored as they are given, the deletions, and the commands
together; a run of them keeps the links and the marks sound.
-/

namespace EidolonData

open Relational

variable (sdk : Sdk) (trusted : Prop) (env : Env) (t : Tables)

section Genomes

variable {sdk trusted t}

/-- A genome whose source carries no mark of a restore. -/
def GenomeRequest.Unmarked (request : GenomeRequest) : Prop :=
  ∀ source, request.sourceJson = some source → source.get? "restored_from" = none

theorem createGenome_chapters (request : GenomeRequest) (unmarked : trusted → request.Unmarked) :
    (createGenome sdk env request).Ensures t
      (fun _ t' => ChapterStep sdk trusted t.chapters t'.chapters) := by
  simp only [createGenome, Tx.ensures_bind, Tx.ensures_require, ensures_validated,
    ensures_insertGenome, Tx.ensures_ite, Tx.pure_eq, Tx.ensures_done, ensures_addFact]
  refine (personaCompanion_effect t _ _).mono ?_
  intro companion t₁ outcome
  obtain ⟨unchanged, found, named, -⟩ := outcome
  subst unchanged
  refine (checkBase_effect t₁ _ _).mono ?_
  intro _ t₂ outcome status _ row built fresh
  obtain ⟨unchanged, hasBase⟩ := outcome
  subst unchanged
  obtain ⟨genomeId, own, -, rowStatus, base, -, -⟩ := GenomeSeed.row_fields sdk built
  obtain ⟨source, -⟩ := GenomeSeed.row_document built
  simp only at genomeId own rowStatus base source
  have based : ∀ base, row.baseGenomeId = some base → ∃ parent,
      t₂.chapters.genomes.get? base = some parent ∧ parent.companionId = row.companionId := by
    intro other pointed
    rw [base] at pointed
    rw [own]
    exact hasBase other pointed
  have clean : trusted → row.restoredFrom = none := by
    intro trust
    rw [PersonaGenomeRow.restoredFrom, source]
    cases given : request.sourceJson with
    | none => rfl
    | some source' => exact unmarked trust source' given
  have ownCompanion : row.companionId = companion.companionId := own.trans named.symm
  constructor
  · intro committed
    refine (writePersona_effect _ rfl (by exact found) ?_).mono ?_
    · rfl
    intro _ t₃ outcome
    obtain ⟨companions', companions, workspace⟩ := outcome
    have stores : Table.Stores t₂.chapters.genomes t₃.chapters.genomes row := by
      show Table.Stores t₂.workspace.personaGenomes t₃.workspace.personaGenomes row
      rw [workspace]
      exact Table.stores_insert fresh
    refine .added row fresh based clean stores (Or.inr ⟨rowStatus.trans committed, ?_⟩)
    refine ⟨companion.persona, ?_, ?_⟩
    · show (t₂.workspace.companions.get? row.companionId).map CompanionRow.persona = _
      rw [ownCompanion, found]
      rfl
    · show t₃.workspace.chapters.personas = Function.update t₂.workspace.chapters.personas
        row.companionId _
      rw [workspace, ownCompanion, genomeId]
      exact Workspace.personas_of_stores t₂.workspace
        { t₂.workspace with
          companions := companions'
          personaGenomes := t₂.workspace.personaGenomes.insert row } companions
  · intro notCommitted
    have uncommitted : row.status ≠ .committed := by
      rw [rowStatus]
      exact notCommitted
    exact .added row fresh based clean (Table.stores_insert fresh) (Or.inl ⟨uncommitted, rfl⟩)

theorem createEvolutionProposal_chapters (all : t.chapters.AllCurrent)
    (proposal : EvolutionProposal) :
    (createEvolutionProposal sdk env proposal).Ensures t
      (fun _ t' => ChapterStep sdk trusted t.chapters t'.chapters) := by
  simp only [createEvolutionProposal, Tx.ensures_bind, Tx.ensures_refuseIf, ensures_getGenome,
    Tx.ensures_require, ensures_validated, Tx.ensures_read, ensures_insertGenome, ensures_addFact,
    Tx.pure_eq, Tx.ensures_done]
  refine (personaCompanion_effect t _ _).mono ?_
  intro companion t₁ outcome current _ _ _ _ _ _ row built fresh
  obtain ⟨unchanged, found, named, -⟩ := outcome
  subst unchanged
  obtain ⟨-, own, -, rowStatus, base, -, -⟩ := GenomeSeed.row_fields sdk built
  obtain ⟨source, -⟩ := GenomeSeed.row_document built
  simp only at own rowStatus base source
  have proposed : row.status ≠ .committed := by
    rw [rowStatus]
    decide
  refine .added row fresh ?_ ?_ (Table.stores_insert fresh) (Or.inl ⟨proposed, rfl⟩)
  · intro other pointed
    rw [base] at pointed
    cases pointed
    have known : t₁.chapters.personas companion.companionId = some companion.persona := by
      show (t₁.workspace.companions.get? companion.companionId).map CompanionRow.persona = _
      rw [found]
      rfl
    obtain ⟨genome, stored, points, ownGenome, -⟩ := all known
    have pointed : companion.currentGenomeId = some genome.genomeId := points
    rw [not_not.mp current, Option.some.injEq] at pointed
    refine ⟨genome, ?_, ?_⟩
    · rw [pointed]
      exact stored
    · rw [ownGenome, own, named]
  · intro _
    rw [PersonaGenomeRow.restoredFrom, source]
    rfl

end Genomes

section Deletions

variable {sdk trusted}

/-- The `ON DELETE` actions after a prepared deletion are a removal of
chapters. -/
theorem Prepared.chapters {doomed : Doomed} {w w₀ : Workspace} (prepared : Prepared doomed w w₀) :
    ChapterStep sdk trusted w.chapters w₀.cascade.chapters := by
  have has : w₀.cascade.personaGenomes.has = w₀.ownedGenomes.has := w₀.has_cascade_genomes
  refine .removed ?_ ?_ ?_
  · intro genomeId new found
    have read : w₀.cascade.personaGenomes.get? genomeId = some new := found
    rw [Workspace.cascade_genome, Option.map_eq_some_iff] at read
    obtain ⟨old, stored, rewritten⟩ := read
    refine ⟨old, ?_, ?_⟩
    · rw [← show w₀.personaGenomes = w.chapters.genomes from prepared.genomes]
      exact ((Workspace.ownedGenomes_iff w₀).mp stored).1
    · rw [← rewritten, show w₀.cascade.chapters.genomes.has = _ from has]
  · intro genomeId old found spared
    show w₀.cascade.personaGenomes.has genomeId = true
    rw [has, Table.has_iff]
    have stays : w₀.cascade.companions.get? old.companionId ≠ none := by
      intro gone
      apply spared
      show (w₀.cascade.companions.get? old.companionId).map CompanionRow.persona = none
      rw [gone]
      rfl
    obtain ⟨companion, companionFound⟩ := Option.ne_none_iff_exists'.mp stays
    rw [Workspace.cascade_companion, Option.map_eq_some_iff] at companionFound
    obtain ⟨before, owned, -⟩ := companionFound
    refine ⟨old, (Workspace.ownedGenomes_iff w₀).mpr ⟨?_, before, owned⟩⟩
    rw [prepared.genomes]
    exact found
  · intro companionId new found
    have read : (w₀.cascade.companions.get? companionId).map CompanionRow.persona = some new :=
      found
    rw [Workspace.cascade_companion, Option.map_map, Option.map_eq_some_iff] at read
    obtain ⟨companion, owned, seen⟩ := read
    obtain ⟨stored, -, -⟩ := prepared.of_ownedCompanions owned
    refine ⟨companion.persona, ?_, ?_⟩
    · show (w.companions.get? companionId).map CompanionRow.persona = _
      rw [stored]
      rfl
    · rw [← seen, show w₀.cascade.chapters.genomes.has = _ from has]
      rfl

variable {t}

theorem deleteOwner_chapters (ownerId : String) :
    (deleteOwner env ownerId).Ensures t
      (fun _ t' => ChapterStep sdk trusted t.chapters t'.chapters) := by
  refine (deleteOwner_prepared env t ownerId).mono ?_
  intro _ t' deleted
  rcases deleted with same | ⟨w₀, prepared, workspace⟩
  · rw [same]
    exact .kept rfl
  · rw [Tables.chapters, Tables.chapters, workspace]
    exact prepared.chapters

theorem deleteCompanion_chapters (ownerId companionId : String) (allowDefault : Bool) :
    (deleteCompanion env ownerId companionId allowDefault).Ensures t
      (fun _ t' => ChapterStep sdk trusted t.chapters t'.chapters) := by
  refine (deleteCompanion_prepared env t ownerId companionId allowDefault).mono ?_
  intro _ t' deleted
  obtain ⟨⟨w₀, prepared, workspace⟩, -⟩ := deleted
  rw [Tables.chapters, Tables.chapters, workspace]
  exact prepared.chapters

end Deletions

section Archiving

variable {sdk trusted}

theorem Workspace.chapters_archiveOwner (w : Workspace) (now : Timestamp) (owner : OwnerRow) :
    (w.archiveOwner now owner).chapters = w.chapters := by
  simp only [Workspace.archiveOwner, Workspace.chapters, Table.get?_update, Option.map_map,
    Chapters.mk.injEq, true_and]
  funext companionId
  refine congrArg (fun view => (w.companions.get? companionId).map view) (funext ?_)
  intro row
  show CompanionRow.persona (if _ then _ else row) = row.persona
  split
  · rfl
  · rfl

theorem archiveOwner_chapters (ownerId : String) :
    (archiveOwner env ownerId).Ensures t
      (fun _ t' => ChapterStep sdk trusted t.chapters t'.chapters) := by
  refine (archiveOwner_effect env t ownerId).mono ?_
  intro _ t' archived
  rcases archived with same | ⟨owner, -, -, same⟩
  · exact chapters_of_workspace same
  · refine .kept ?_
    rw [Tables.chapters, same]
    exact Workspace.chapters_archiveOwner t.workspace env.now owner

end Archiving

section Commands

variable {trusted t}

/-- No caller writes the mark of a restore itself. -/
def Command.Unmarked : Command → Prop
  | createGenome request => request.Unmarked
  | _ => True

theorem numbered_unmarked {commands : List Command}
    (unmarked : ∀ command ∈ commands, command.Unmarked) :
    ∀ call ∈ numbered commands, call.command.Unmarked := by
  intro call member
  obtain ⟨⟨command, number⟩, listed, same⟩ := List.mem_map.mp member
  rw [← same]
  exact unmarked command (List.fst_mem_of_mem_zipIdx listed)

theorem ensures_chapterStep {α : Type} {program : Session α}
    (step : program.Ensures t (fun _ t' => ChapterStep sdk trusted t.chapters t'.chapters)) :
    (effect program).Ensures t (fun _ t' => ChapterStep sdk trusted t.chapters t'.chapters) :=
  (ensures_effect t program _).mpr step

theorem ensures_chapters_spared {α : Type} {program : Session α}
    (spares : program.Spares Tables.chapters) :
    (effect program).Ensures t (fun _ t' => ChapterStep sdk trusted t.chapters t'.chapters) :=
  ensures_chapterStep sdk (ensures_chapters_kept spares)

theorem ensures_chapters_beside {α : Type} {program : Session α}
    (unchanged : program.Ensures t (fun _ t' => t'.workspace = t.workspace)) :
    (effect program).Ensures t (fun _ t' => ChapterStep sdk trusted t.chapters t'.chapters) :=
  ensures_chapterStep sdk (unchanged.mono (fun _ _ same => chapters_of_workspace same))

theorem Command.session_chapters (command : Command) (stable : trusted → sdk.NormalizesStably)
    (unmarked : trusted → command.Unmarked) (all : t.chapters.AllCurrent) :
    (command.session sdk env).Ensures t
      (fun _ t' => ChapterStep sdk trusted t.chapters t'.chapters) := by
  cases command with
  | createOwner => exact ensures_chapters_spared sdk (createOwner_spares env _ _ _ _ _)
  | updateOwner => exact ensures_chapters_spared sdk (updateOwner_spares env _ _ _ _)
  | renameOwner => exact ensures_chapters_spared sdk (renameOwner_spares _ _)
  | archiveOwner => exact ensures_chapterStep sdk (archiveOwner_chapters env t _)
  | deleteOwner => exact ensures_chapterStep sdk (deleteOwner_chapters env _)
  | initializeOwnerWorkspace =>
      exact ensures_chapterStep sdk (initializeOwnerWorkspace_chapters sdk trusted env t _)
  | provisionWorkspace =>
      exact ensures_chapterStep sdk (provisionWorkspace_chapters sdk trusted env t _)
  | provisionCompanion =>
      exact ensures_chapterStep sdk (provisionCompanion_chapters sdk trusted env t _)
  | ensureMemoryRealm => exact ensures_chapters_spared sdk (ensureMemoryRealm_spares env _ _ _)
  | beginRetirement => exact ensures_chapters_spared sdk (beginRetirement_spares sdk env _ _ _ _)
  | archiveCompanion => exact ensures_chapters_spared sdk (archiveCompanion_spares sdk env _ _ _)
  | putAwayCompanion =>
      exact ensures_chapters_spared sdk (putAwayCompanion_spares sdk env _ _ _ _)
  | restoreCompanion => exact ensures_chapters_spared sdk (restoreCompanion_spares sdk env _ _ _)
  | setDefaultCompanion => exact ensures_chapters_spared sdk (setDefaultCompanion_spares env _ _ _)
  | deleteCompanion => exact ensures_chapterStep sdk (deleteCompanion_chapters env _ _ _)
  | editPersona => exact ensures_chapterStep sdk (editPersona_chapters env stable all _ _ _)
  | renameCompanion => exact ensures_chapterStep sdk (renameCompanion_chapters env stable all _ _)
  | restoreChapter companionId genomeId ownerId =>
      refine ensures_chapterStep sdk ((restoreChapter_restores env stable all companionId genomeId
        _ ownerId).mono ?_)
      intro _ t' outcome
      obtain ⟨companion, target, -, -, -, -, restores⟩ := outcome
      exact restores.step
  | rollbackToGenome ownerId companionId genomeId =>
      refine ensures_chapterStep sdk ((restoreChapter_restores env stable all companionId genomeId
        _ (some ownerId)).mono ?_)
      intro _ t' outcome
      obtain ⟨companion, target, -, -, -, -, restores⟩ := outcome
      exact restores.step
  | resetToOrigin ownerId companionId =>
      refine ensures_chapterStep sdk
        ((resetToOrigin_restores env stable all ownerId companionId).mono ?_)
      intro _ t' outcome
      obtain ⟨companion, current, -, -, -, -, restores⟩ := outcome
      exact restores.step
  | createGenome => exact ensures_chapterStep sdk (createGenome_chapters env _ unmarked)
  | recordObservation =>
      exact ensures_chapters_beside sdk (recordObservation_workspace env t _)
  | createEvolutionProposal =>
      exact ensures_chapterStep sdk (createEvolutionProposal_chapters env all _)
  | approveEvolution =>
      exact ensures_chapterStep sdk (approveEvolution_chapters env _ _ _ _)
  | rejectEvolution => exact ensures_chapterStep sdk (rejectEvolution_chapters env _ _ _ _)
  | bindGuard => exact ensures_chapters_spared sdk (bindGuard_spares env _ _ _ _ _ _)
  | updateGuardPolicy => exact ensures_chapters_spared sdk (updateGuardPolicy_spares env _ _ _ _)
  | disableGuard => exact ensures_chapters_spared sdk (disableGuard_spares env _ _)
  | createPerson => exact ensures_chapters_spared sdk (createPerson_spares sdk env _ _ _)
  | updatePerson => exact ensures_chapters_spared sdk (updatePerson_spares sdk env _ _ _ _)
  | retireCandidate => exact ensures_chapters_spared sdk (retireCandidate_spares env _ _ _)
  | archivePerson => exact ensures_chapters_spared sdk (archivePerson_spares sdk env _ _ _)
  | restorePerson => exact ensures_chapters_spared sdk (restorePerson_spares sdk env _ _ _)
  | permanentlyDelete => exact ensures_chapters_spared sdk (permanentlyDelete_spares env _ _ _ _)
  | writeMemoryDefaults =>
      exact ensures_chapters_spared sdk (writeMemoryDefaults_spares sdk env _ _ _)
  | writeProvisionalPolicy =>
      exact ensures_chapters_spared sdk (writeProvisionalPolicy_spares sdk env _ _ _ _)
  | resolveMemoryRealm => exact ensures_chapters_spared sdk (resolveMemoryRealm_spares env _ _ _)
  | suspendMemory => exact ensures_chapters_spared sdk (suspendMemory_spares sdk env _ _ _)
  | restoreMemory => exact ensures_chapters_spared sdk (restoreMemory_spares env _ _ _)
  | runVoiceprint policies ownerId command =>
      exact ensures_chapters_kept (command.session_spares sdk env ownerId policies)
  | replaceFace => exact ensures_chapters_spared sdk (replaceFace_spares sdk env _ _ _ _)
  | deleteFace => exact ensures_chapters_spared sdk (changeFace_spares sdk env _ _ _ _)
  | writeTeam ownerId team =>
      refine ensures_chapters_beside sdk (((team.session_spares sdk ownerId).ensures t).mono ?_)
      intro _ t' same
      show t'.besideTeams.workspace = t.besideTeams.workspace
      rw [same]
  | writeHome ownerId write =>
      exact ensures_chapters_beside sdk (write.session_workspace sdk env t ownerId)

end Commands

section Runs

variable {sdk trusted}

theorem Workspace.personas_ne_none {w : Workspace} {companionId : String} :
    w.chapters.personas companionId ≠ none ↔ w.companions.has companionId = true := by
  rw [Table.has_iff]
  show (w.companions.get? companionId).map CompanionRow.persona ≠ none ↔ _
  cases w.companions.get? companionId with
  | none => simp
  | some companion => simp

theorem Workspace.persona_of_chapters {w : Workspace} {companionId : String} {persona : Persona}
    (known : w.chapters.personas companionId = some persona) :
    ∃ companion, w.companions.get? companionId = some companion ∧
      companion.persona = persona :=
  Option.map_eq_some_iff.mp known

/-- The keys of the schema house the chapters. -/
theorem Workspace.Integrity.housed {w : Workspace} (integrity : w.Integrity) :
    w.chapters.Housed := by
  refine
    { genome := ?_
      pointer := ?_ }
  · intro genomeId genome found
    rw [Workspace.personas_ne_none]
    exact integrity.genomeCompanion genome (Table.mem_of_get? found)
  · intro companionId persona genomeId known points
    obtain ⟨companion, found, seen⟩ := Workspace.persona_of_chapters known
    have pointed : companion.currentGenomeId = some genomeId := by
      rw [← seen] at points
      exact points
    have stored : nullable companion.currentGenomeId w.personaGenomes.has = true :=
      integrity.companionGenome companion (Table.mem_of_get? found)
    rw [pointed] at stored
    have has : w.personaGenomes.has genomeId = true := stored
    obtain ⟨genome, genomeFound⟩ := Table.has_iff.mp has
    rw [show w.chapters.genomes.get? genomeId = some genome from genomeFound]
    exact Option.some_ne_none genome

theorem Workspace.RuntimeSound.allCurrent {permits : Permits} {w : Workspace}
    (sound : w.RuntimeSound sdk permits) : w.chapters.AllCurrent := by
  intro companionId persona known
  obtain ⟨companion, found, seen⟩ := Workspace.persona_of_chapters known
  obtain ⟨genome, stored, points, own, committed⟩ := sound.current found
  have named : companion.companionId = companionId := Table.key_of_get? found
  rw [named] at own
  rw [← seen]
  exact ⟨genome, stored, points, own, committed⟩

theorem chaptersSound_empty : Database.empty.tables.chapters.Sound sdk trusted := by
  refine
    { based := ?_
      ranked := ?_
      marked := ?_
      restored := ?_
      alone := ?_
      named := ?_ }
  · intro genomeId genome base found
    cases found
  · refine ⟨fun _ => 0, ?_⟩
    intro child above link
    obtain ⟨genome, found, -⟩ := Chapters.linked_iff.mp link
    cases found
  · intro _ genomeId genome found
    cases found
  · intro _ genomeId genome found
    cases found
  · intro _ companionId persona genome known
    cases known
  · intro _ companionId persona genome known
    cases known

theorem Call.step_chapters (stable : trusted → sdk.NormalizesStably) (call : Call)
    (unmarked : trusted → call.command.Unmarked) (db : Database)
    (runtime : db.tables.workspace.RuntimeSound sdk .all) :
    ChapterStep sdk trusted db.tables.chapters (call.step sdk db).tables.chapters := by
  rcases call.step_post db
    (call.command.session_chapters sdk call.env stable unmarked runtime.allCurrent)
    with same | step
  · rw [same]
    exact .kept rfl
  · exact step

/-- Along every run the links and the marks stay sound. -/
theorem replay_chaptersSound (stable : trusted → sdk.NormalizesStably) (calls : List Call)
    (unmarked : trusted → ∀ call ∈ calls, call.command.Unmarked) :
    (replay sdk calls .empty).tables.chapters.Sound sdk trusted := by
  suffices run : ∀ db : Database, db.tables.workspace.RuntimeSound sdk .all →
      db.tables.chapters.Sound sdk trusted →
      (replay sdk calls db).tables.chapters.Sound sdk trusted from
    run .empty runtimeSound_empty chaptersSound_empty
  induction calls with
  | nil =>
      intro db _ sound
      exact sound
  | cons call calls induction =>
      intro db runtime sound
      have heeded : Heeds sdk (fun w command => command.Permitted sdk .all w) [call] db :=
        heeds_all sdk [call] db
      apply induction (fun trust other member =>
        unmarked trust other (List.mem_cons_of_mem _ member))
      · exact runtimeSound_invariant.replay [call] db heeded runtime
      · have step := call.step_chapters stable
          (fun trust => unmarked trust call List.mem_cons_self) db runtime
        exact step.sound sound db.property.workspace.housed
          (call.step sdk db).property.workspace.housed

end Runs

end EidolonData
