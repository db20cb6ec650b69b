import EidolonData.Effects.Chapters

/-!
# What the persona commands do to the chapters

A rename and a restore append a chapter of the Companion, or find that there is
nothing to write.  An edit may also rename the Companion to the name its
genome has already.  Proposals are added beside the chapters and decided once.
-/

namespace EidolonData

open Relational

variable (sdk : Sdk) (trusted : Prop) (env : Env) (t : Tables)

section Restoring

structure ChapterRestored (sdk : Sdk) (trusted : Prop) (t t' : Tables) (companion : CompanionRow)
    (current target result : PersonaGenomeRow) : Prop where
  named : result.genomeId ≠ ""
  own : result.companionId = companion.companionId
  fresh : t.workspace.personaGenomes.get? result.genomeId = none
  base : result.baseGenomeId = some current.genomeId
  committed : result.status = .committed
  restores : trusted → result.Restores target sdk companion.displayName
  genomes : Table.Stores t.workspace.personaGenomes t'.workspace.personaGenomes result
  companions : Table.Stores t.workspace.companions t'.workspace.companions
    { companion with
      currentGenomeId := some result.genomeId
      revision := companion.revision + 1 }

variable {sdk trusted t}

theorem ChapterRestored.step {t' : Tables} {companion : CompanionRow}
    {current target result : PersonaGenomeRow}
    (restored : ChapterRestored sdk trusted t t' companion current target result)
    (found : t.workspace.companions.get? companion.companionId = some companion)
    (read : CurrentRead t companion current)
    (stored : t.workspace.personaGenomes.get? target.genomeId = some target) :
    ChapterStep sdk trusted t.chapters t'.chapters := by
  refine .appended companion.persona current result companion.displayName ?_ read.points
    read.stored ?_ restored.fresh restored.base restored.committed
    (fun trust => Or.inr ⟨target, stored, restored.restores trust⟩) restored.genomes ?_
  · show (t.workspace.companions.get? result.companionId).map CompanionRow.persona = _
    rw [restored.own, found]
    rfl
  · exact read.own.trans restored.own.symm
  · rw [restored.own]
    exact Workspace.personas_of_stores t.workspace t'.workspace restored.companions

theorem appendRestored_chapter (stable : trusted → sdk.NormalizesStably) {companion : CompanionRow}
    {current target : PersonaGenomeRow} {summary : String}
    (found : t.workspace.companions.get? companion.companionId = some companion)
    (stored : t.workspace.personaGenomes.get? target.genomeId = some target)
    (own : target.companionId = companion.companionId) :
    (appendRestored sdk env companion current target summary).Ensures t (fun result t' =>
      (t' = t ∧ result = current ∧ (current.genomeId = target.genomeId ∨
        current.restoredFrom = some (.str target.genomeId))) ∨
      (current.genomeId ≠ target.genomeId ∧
        ChapterRestored sdk trusted t t' companion current target result)) := by
  simp only [appendRestored, Tx.ensures_ite, Tx.pure_eq, Tx.ensures_done, Tx.ensures_bind,
    ensures_validated]
  refine ⟨fun same => Or.inl ⟨trivial, trivial, same⟩, ?_⟩
  intro different content normalized
  refine (appendPersona_appended env stable ?_).mono ?_
  · intro other named
    cases named
    exact ⟨stored, own, content, normalized, rfl⟩
  intro result t₁ appended
  have companionFound : t₁.workspace.companions.get? companion.companionId = some companion := by
    rw [appended.companions]
    exact found
  refine (writePersona_effect t₁ rfl companionFound (by rw [appended.held])).mono ?_
  intro _ t' written
  obtain ⟨companions', stores, workspace⟩ := written
  refine Or.inr ⟨fun same => different (Or.inl same), ?_⟩
  exact
    { named := appended.named
      own := appended.own
      fresh := appended.fresh
      base := appended.base
      committed := appended.committed
      restores := by
        intro trust
        rcases appended.marked trust with ⟨absent, _⟩ | ⟨other, named, _, restores⟩
        · cases absent
        · cases named
          exact restores
      genomes := by
        rw [workspace]
        exact appended.genomes
      companions := by
        rw [workspace]
        rw [appended.companions, appended.held] at stores
        exact stores }

/-- What a restoring command answers: the current genome where the target is
written already, and the new chapter otherwise. -/
structure RestoreEffect (sdk : Sdk) (trusted : Prop) (t t' : Tables) (companion : CompanionRow)
    (target result : PersonaGenomeRow) : Prop where
  found : t.workspace.companions.get? companion.companionId = some companion
  stored : t.workspace.personaGenomes.get? target.genomeId = some target
  own : target.companionId = companion.companionId
  outcome : ∃ current, CurrentRead t companion current ∧
    ((t' = t ∧ result = current ∧ (current.genomeId = target.genomeId ∨
        current.restoredFrom = some (.str target.genomeId))) ∨
      (current.genomeId ≠ target.genomeId ∧
        ChapterRestored sdk trusted t t' companion current target result))

theorem RestoreEffect.step {t' : Tables} {companion : CompanionRow}
    {target result : PersonaGenomeRow}
    (effect : RestoreEffect sdk trusted t t' companion target result) :
    ChapterStep sdk trusted t.chapters t'.chapters := by
  obtain ⟨current, read, ⟨unchanged, -, -⟩ | ⟨-, restored⟩⟩ := effect.outcome
  · rw [unchanged]
    exact .kept rfl
  · exact restored.step effect.found read effect.stored

theorem restorable_ok {companionId : String} {stored : Option PersonaGenomeRow}
    {target : PersonaGenomeRow} (accepted : restorable companionId stored = .ok target) :
    stored = some target ∧ target.companionId = companionId ∧ target.status = .committed := by
  unfold restorable at accepted
  split at accepted
  · cases accepted
  · next other kept =>
      obtain ⟨found, own⟩ := Option.filter_eq_some_iff.mp kept
      split at accepted
      · cases accepted
      · next committed =>
          cases accepted
          exact ⟨found, by simpa using own, not_not.mp committed⟩

theorem restoreChapter_restores (stable : trusted → sdk.NormalizesStably)
    (all : t.chapters.AllCurrent)
    (companionId genomeId summary : String) (ownerId : Option String) :
    (restoreChapter sdk env companionId genomeId summary ownerId).Ensures t (fun result t' =>
      ∃ companion target, companion.companionId = companionId ∧
        (∀ owner, ownerId = some owner → companion.ownerId = owner) ∧
        target.genomeId = genomeId ∧ target.status = .committed ∧
          RestoreEffect sdk trusted t t' companion target result) := by
  simp only [restoreChapter, Tx.ensures_bind, Tx.ensures_refuseIf, ensures_getGenome,
    ensures_check]
  refine (companionForEdit_effect t companionId).mono ?_
  intro companion t₁ outcome allowed
  obtain ⟨unchanged, found, named⟩ := outcome
  subst unchanged named
  have owned : ∀ owner, ownerId = some owner → companion.ownerId = owner := by
    intro owner given
    rw [given] at allowed
    simpa using allowed
  refine (currentForEdit_current all found).mono ?_
  intro current t₂ outcome target accepted
  obtain ⟨unchanged, read⟩ := outcome
  subst unchanged
  obtain ⟨stored, own, committed⟩ := restorable_ok accepted
  have named : target.genomeId = genomeId := Table.key_of_get? stored
  subst named
  refine (appendRestored_chapter env stable found stored own).mono ?_
  intro result t' outcome
  exact ⟨companion, target, rfl, owned, rfl, committed,
    { found := found
      stored := stored
      own := own
      outcome := ⟨current, read, outcome⟩ }⟩

theorem originOf_own (genomes : Table PersonaGenomeRow) (companionId : String) (steps : Nat)
    (visited : List String) (start : PersonaGenomeRow)
    (stored : genomes.get? start.genomeId = some start) (own : start.companionId = companionId) :
    genomes.get? (originOf genomes companionId steps visited start).genomeId =
        some (originOf genomes companionId steps visited start) ∧
      (originOf genomes companionId steps visited start).companionId = companionId := by
  induction steps generalizing visited start with
  | zero => exact ⟨stored, own⟩
  | succ steps induction =>
      unfold originOf
      split
      · exact ⟨stored, own⟩
      · next base _ =>
          split
          · exact ⟨stored, own⟩
          · split
            · exact ⟨stored, own⟩
            · next parent kept =>
                obtain ⟨found, parentOwn⟩ := Option.filter_eq_some_iff.mp kept
                have same : parent.genomeId = base := Table.key_of_get? found
                refine induction _ parent ?_ (by simpa using parentOwn)
                rw [same]
                exact found

theorem resetToOrigin_restores (stable : trusted → sdk.NormalizesStably)
    (all : t.chapters.AllCurrent)
    (ownerId companionId : String) :
    (resetToOrigin sdk env ownerId companionId).Ensures t (fun result t' =>
      ∃ companion current, companion.companionId = companionId ∧ companion.ownerId = ownerId ∧
        CurrentRead t companion current ∧ current.genomeId ≠ "" ∧
        RestoreEffect sdk trusted t t' companion
          (originOf t.workspace.personaGenomes companionId
            (t.workspace.personaGenomes.rows.length + 1) [] current) result) := by
  simp only [resetToOrigin, Tx.ensures_bind, ensures_getGenome, Tx.ensures_require,
    Tx.ensures_read]
  refine (personaCompanion_effect t _ _).mono ?_
  intro companion t₁ outcome start kept
  obtain ⟨unchanged, found, named, owned⟩ := outcome
  subst unchanged named
  obtain ⟨startFound, notEmpty⟩ := Option.filter_eq_some_iff.mp kept
  refine (currentForEdit_current all found).mono ?_
  intro current t₂ outcome
  obtain ⟨unchanged, read⟩ := outcome
  subst unchanged
  rw [read.points, Option.getD_some, read.stored, Option.some.injEq] at startFound
  subst startFound
  obtain ⟨stored, own⟩ := originOf_own t₂.workspace.personaGenomes companion.companionId
    (t₂.workspace.personaGenomes.rows.length + 1) [] current read.stored read.own
  refine (appendRestored_chapter env stable found stored own).mono ?_
  intro result t' outcome
  exact ⟨companion, current, rfl, owned, read, by simpa using notEmpty,
    { found := found
      stored := stored
      own := own
      outcome := ⟨current, read, outcome⟩ }⟩

end Restoring

section Editing

variable {sdk trusted t}

theorem renameCompanion_chapters (stable : trusted → sdk.NormalizesStably)
    (all : t.chapters.AllCurrent)
    (companionId displayName : String) :
    (renameCompanion sdk env companionId displayName).Ensures t
      (fun _ t' => ChapterStep sdk trusted t.chapters t'.chapters) := by
  simp only [renameCompanion, Tx.ensures_bind, Tx.ensures_refuseIf, ensures_getCompanion]
  intro _
  cases found : t.workspace.companions.get? companionId with
  | none =>
      simp only [Tx.pure_eq, Tx.ensures_done]
      exact .kept rfl
  | some companion =>
      have named : companion.companionId = companionId := Table.key_of_get? found
      subst named
      simp only [Tx.ensures_bind, ensures_validated]
      refine (currentForEdit_current all found).mono ?_
      intro current t₁ outcome base _
      obtain ⟨unchanged, read⟩ := outcome
      subst unchanged
      simp only [Tx.ensures_ite, Tx.pure_eq, Tx.ensures_done, Tx.ensures_bind]
      refine ⟨fun _ => .kept rfl, fun _ => ?_⟩
      refine (appendPersona_appended env stable ?_).mono ?_
      · intro target absent
        cases absent
      intro result t₂ appended
      exact writePersona_chapters (appended.draft found rfl read) appended.companions found
        (by rw [appended.held])

/-- What the chapters need of an edit's draft. -/
structure DraftTold (sdk : Sdk) (t : Tables) (companion : CompanionRow)
    (current : PersonaGenomeRow) (base : Genome) (draft : EditDraft) : Prop where
  held : draft.companion =
    { companion with displayName := draft.companion.displayName }
  /-- A draft that keeps the content keeps the name, or the content has it. -/
  renamed : draft.candidate.content = base.content →
    draft.companion.displayName = companion.displayName ∨
      base.name = some draft.companion.displayName
  kept : ∀ target, draft.target = some target → target.genomeId = current.genomeId →
    draft.candidate = base
  told : ∀ target, draft.target = some target → target.genomeId ≠ current.genomeId →
    Restored sdk t draft.companion draft.candidate target

theorem draftEdit_told {request : PersonaEditRequest} {companion : CompanionRow}
    {current : PersonaGenomeRow} {base : Genome} {changeSummary : String} :
    (draftEdit sdk request companion current base changeSummary).Ensures t (fun draft t' =>
      t' = t ∧ DraftTold sdk t companion current base draft) := by
  unfold draftEdit
  cases request.action with
  | author =>
      simp only [Tx.ensures_bind, ensures_validated, Tx.pure_eq, Tx.ensures_done]
      intro candidate _
      refine ⟨trivial, ?_⟩
      exact
        { held := rfl
          renamed := fun _ => Or.inl rfl
          kept := by
            intro target absent
            cases absent
          told := by
            intro target absent
            cases absent }
  | rename =>
      simp only [Tx.ensures_bind, Tx.ensures_require, Tx.pure_eq, Tx.ensures_done]
      intro name _
      refine ⟨trivial, ?_⟩
      exact
        { held := rfl
          renamed := by
            intro sameContent
            right
            rw [← Genome.name_of_content sameContent, Genome.name_withName]
          kept := by
            intro target absent
            cases absent
          told := by
            intro target absent
            cases absent }
  | restore =>
      simp only [Tx.ensures_bind, ensures_getGenome, ensures_check, ensures_validated, Tx.pure_eq,
        Tx.ensures_done]
      intro target accepted content normalized
      obtain ⟨stored, own, -⟩ := restorable_ok accepted
      have named : target.genomeId = request.restoreGenomeId.getD "" := Table.key_of_get? stored
      rw [← named] at stored
      refine ⟨trivial, ?_⟩
      exact
        { held := rfl
          renamed := fun _ => Or.inl rfl
          kept := by
            intro other same equal
            cases same
            exact if_pos equal
          told := by
            intro other same different
            cases same
            exact ⟨stored, own, content, normalized, if_neg different⟩ }

theorem draftChapter_chapters (stable : trusted → sdk.NormalizesStably) {companion : CompanionRow}
    {current : PersonaGenomeRow} {base : Genome} {draft : EditDraft}
    (found : t.workspace.companions.get? companion.companionId = some companion)
    (read : CurrentRead t companion current)
    (normalized : sdk.normalizePersonaGenome current.genomeJson = .ok base)
    (drafted : DraftTold sdk t companion current base draft) :
    (draftChapter sdk env draft current base).Ensures t (fun result t₁ =>
      t₁.workspace.companions = t.workspace.companions ∧
        result.2.companionId = companion.companionId ∧
        ChapterDraft sdk trusted t.chapters t₁.chapters companion.companionId
          result.2.persona) := by
  have sameId : draft.companion.companionId = companion.companionId := by rw [drafted.held]
  simp only [draftChapter, Tx.ensures_ite, Tx.ensures_done]
  constructor
  · intro changes
    refine (appendPersona_appended env stable ?_).mono ?_
    · intro target named
      apply drafted.told target named
      intro same
      rcases changes with content | different
      · rw [drafted.kept target named same] at content
        exact content rfl
      · rw [named] at different
        simp [same] at different
    intro result t₁ appended
    exact ⟨appended.companions, by rw [appended.held]; exact sameId,
      appended.draft found sameId read⟩
  · intro unchanged
    have sameContent : draft.candidate.content = base.content :=
      not_not.mp (fun different => unchanged (Or.inl different))
    refine ⟨trivial, sameId, ?_⟩
    have persona : draft.companion.persona =
        { companion.persona with displayName := draft.companion.displayName } := by
      rw [drafted.held]
      rfl
    rcases drafted.renamed sameContent with same | named
    · rw [persona, same]
      exact ChapterDraft.unchanged found
    · intro c' genomes personas
      rw [persona, ← read.own] at personas
      refine .renamed companion.persona current draft.companion.displayName base ?_ read.points
        read.stored normalized named genomes personas
      show (t.workspace.companions.get? current.companionId).map CompanionRow.persona = _
      rw [read.own, found]
      rfl

theorem draftPreferences_persona {request : PersonaEditRequest} {before : PersonaEditSnapshot}
    {companion configured old : CompanionRow} {current : PersonaGenomeRow}
    (read : editSnapshot sdk old current = .ok before)
    (drafted : draftPreferences sdk request before companion = .ok configured) :
    configured.persona = companion.persona ∧ configured.companionId = companion.companionId := by
  rcases draftPreferences_ok sdk read drafted with ⟨same, -⟩ | ⟨config, -, revised⟩
  · rw [same]
    exact ⟨rfl, rfl⟩
  · rw [revised]
    exact ⟨rfl, rfl⟩

theorem commitEdit_chapters (stable : trusted → sdk.NormalizesStably) (all : t.chapters.AllCurrent)
    {request : PersonaEditRequest} {companion : CompanionRow} {receipts : JsonDict}
    (changeSummary : String)
    (found : t.workspace.companions.get? companion.companionId = some companion) :
    (commitEdit sdk env companion receipts request changeSummary).Ensures t
      (fun _ t' => ChapterStep sdk trusted t.chapters t'.chapters) := by
  simp only [commitEdit, Tx.ensures_bind, Tx.ensures_refuseIf, ensures_validated]
  refine (currentForEdit_current all found).mono ?_
  intro current t₁ outcome before beforeRead _ _ base normalized
  obtain ⟨unchanged, read⟩ := outcome
  subst unchanged
  refine draftEdit_told.mono ?_
  intro draft t₂ outcome
  obtain ⟨unchanged, drafted⟩ := outcome
  subst unchanged
  refine (draftChapter_chapters env stable found read normalized drafted).mono ?_
  intro reply t₃ outcome configured preferences result snapshot
  obtain ⟨genome, held⟩ := reply
  obtain ⟨companions, sameId, draft⟩ := outcome
  obtain ⟨persona, configuredId⟩ := draftPreferences_persona beforeRead preferences
  rw [← show configured.persona = held.persona from persona] at draft
  generalize configured.metadataJson.set personaOperationsKey _ = metadata
  have configuredDraft : ChapterDraft sdk trusted t₂.chapters t₃.chapters companion.companionId
      { configured with metadataJson := metadata }.persona := draft
  refine (writePersona_chapters configuredDraft companions found
    (configuredId.trans sameId)).mono ?_
  intro _ t₄ step
  simp only [ensures_addFact, Tx.pure_eq, Tx.ensures_done]
  exact step

theorem editPersona_chapters (stable : trusted → sdk.NormalizesStably) (all : t.chapters.AllCurrent)
    (companionId : String) (request : PersonaEditRequest) (changeSummary : String) :
    (editPersona sdk env companionId request changeSummary).Ensures t
      (fun _ t' => ChapterStep sdk trusted t.chapters t'.chapters) := by
  simp only [editPersona, Tx.ensures_bind, ensures_validated]
  refine (companionForEdit_effect t companionId).mono ?_
  intro companion t₁ outcome receipts _
  obtain ⟨unchanged, found, -⟩ := outcome
  subst unchanged
  split
  · refine (replayEdit_readOnly sdk t₁ _ _).mono ?_
    intro _ t₂ unchanged
    rw [unchanged]
    exact .kept rfl
  · simp only [Tx.ensures_ite, Tx.ensures_refuse]
    exact ⟨fun _ => trivial, fun _ => commitEdit_chapters env stable all changeSummary found⟩
  · exact commitEdit_chapters env stable all changeSummary found

end Editing

section Proposals

variable {sdk trusted t}

/-- A genome with the status, the summary and the event of another one. -/
def PersonaGenomeRow.decidedAs (old new : PersonaGenomeRow) : PersonaGenomeRow :=
  { old with
    status := new.status
    changeSummary := new.changeSummary
    appliedEventId := new.appliedEventId }

theorem writeGenome_stores (old new : PersonaGenomeRow)
    (found : t.workspace.personaGenomes.get? old.genomeId = some old)
    (same : new.genomeId = old.genomeId) :
    (writeGenome new).Ensures t (fun _ t' =>
      t'.workspace.companions = t.workspace.companions ∧
        Table.Stores t.workspace.personaGenomes t'.workspace.personaGenomes
          (old.decidedAs new)) := by
  simp only [writeGenome, ensures_updateGenomeRow, Tables.workspace_mapWorkspace, same]
  exact ⟨trivial, Table.stores_modify found⟩

theorem rejected_chapters {old new : PersonaGenomeRow} {t' : Tables}
    (found : t.workspace.personaGenomes.get? old.genomeId = some old)
    (proposed : old.status = .proposed) (rejected : new.status ≠ .committed)
    (companions : t'.workspace.companions = t.workspace.companions)
    (stores : Table.Stores t.workspace.personaGenomes t'.workspace.personaGenomes
      (old.decidedAs new)) :
    ChapterStep sdk trusted t.chapters t'.chapters := by
  refine .decided old (old.decidedAs new) found proposed rfl stores (Or.inl ⟨rejected, ?_⟩)
  simp only [Tables.chapters, Workspace.chapters, companions]

theorem rejectEvolution_chapters (ownerId genomeId : String) (companionId : Option String)
    (reason : String) :
    (rejectEvolution env ownerId genomeId companionId reason).Ensures t
      (fun _ t' => ChapterStep sdk trusted t.chapters t'.chapters) := by
  simp only [rejectEvolution, Tx.ensures_bind, Tx.ensures_refuseIf, ensures_getGenome,
    Tx.ensures_require, ensures_addFact, Tx.pure_eq, Tx.ensures_done]
  intro genome genomeFound _
  have named : genome.genomeId = genomeId := Table.key_of_get? genomeFound
  subst named
  refine (personaCompanion_effect t _ _).mono ?_
  intro companion t₁ outcome status
  obtain ⟨unchanged, -⟩ := outcome
  subst unchanged
  have proposed : genome.status = .proposed := not_not.mp status
  refine (writeGenome_stores genome _ genomeFound ?_).mono ?_
  · rfl
  intro _ t₂ outcome
  obtain ⟨companions, stores⟩ := outcome
  refine rejected_chapters genomeFound proposed ?_ companions stores
  exact (by decide : GenomeStatus.rejected ≠ .committed)

theorem approveEvolution_chapters (companionId ownerId proposedGenomeId : String)
    (expectedBaseGenomeId : Option String) :
    (approveEvolution sdk env companionId ownerId proposedGenomeId expectedBaseGenomeId).Ensures t
      (fun _ t' => ChapterStep sdk trusted t.chapters t'.chapters) := by
  simp only [approveEvolution, Tx.ensures_bind, Tx.ensures_refuseIf, ensures_getGenome,
    Tx.ensures_require, Tx.ensures_ite, ensures_validated, ensures_addFact, Tx.pure_eq,
    Tx.ensures_done]
  refine (personaCompanion_effect t _ _).mono ?_
  intro companion t₁ outcome genome genomeFound status
  obtain ⟨unchanged, found, named, -⟩ := outcome
  subst unchanged
  obtain ⟨genomeStored, own⟩ := Option.filter_eq_some_iff.mp genomeFound
  have ownCompanion : genome.companionId = companionId := by
    simpa using own
  have proposed : genome.status = .proposed := not_not.mp status
  have genomeId : genome.genomeId = proposedGenomeId := Table.key_of_get? genomeStored
  subst genomeId named
  constructor
  · intro _
    refine (writeGenome_stores genome _ genomeStored ?_).mono ?_
    · rfl
    intro _ t₂ outcome
    obtain ⟨companions, stores⟩ := outcome
    refine rejected_chapters genomeStored proposed ?_ companions stores
    exact (by decide : GenomeStatus.stale ≠ .committed)
  · intro _ _ _ _ _ _ _ _ _
    generalize personaEvent env 1 ownerId companion.companionId genome.genomeId _ _ = committed
    refine (writeGenome_stores genome _ (by exact genomeStored) ?_).mono ?_
    · rfl
    intro _ t₂ outcome
    obtain ⟨companions, stores⟩ := outcome
    have companionsSame : t₂.workspace.companions = t₁.workspace.companions := companions
    have companionFound : t₂.workspace.companions.get? companion.companionId = some companion := by
      rw [companionsSame]
      exact found
    refine (writePersona_effect t₂ rfl companionFound ?_).mono ?_
    · rfl
    intro _ t₃ outcome
    obtain ⟨companions', written, workspace⟩ := outcome
    have approved : t₃.workspace.personaGenomes = t₂.workspace.personaGenomes := by
      rw [workspace]
    rw [← approved] at stores
    refine .decided genome _ genomeStored proposed rfl stores
      (Or.inr ⟨rfl, companion.persona, ?_, ?_⟩)
    · show (t₁.workspace.companions.get? genome.companionId).map CompanionRow.persona = _
      rw [ownCompanion, found]
      rfl
    · rw [companionsSame] at written
      show t₃.workspace.chapters.personas = Function.update t₁.workspace.chapters.personas
        genome.companionId _
      rw [workspace, ownCompanion]
      exact Workspace.personas_of_stores t₁.workspace
        { t₂.workspace with companions := companions' } written

end Proposals

end EidolonData
