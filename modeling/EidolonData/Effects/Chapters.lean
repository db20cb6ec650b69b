import EidolonData.Effects.Commands
import EidolonData.Effects.PersonFrames
import EidolonData.Workspace.Chapters

/-!
# What the commands do to the chapters

Every command is one step of the chapters.  Most of them leave the chapters
alone; those that write a genome also rewrite the row of its Companion, in the
same transaction.
-/

namespace EidolonData

open Relational

/-- What the SDK's normalisation does to a genome that came out of it. -/
structure Sdk.NormalizesStably (sdk : Sdk) : Prop where
  /-- Under another name and provenance it keeps its content. -/
  rewritten : ∀ {document content written name source base},
    sdk.normalizePersonaGenome document = .ok content →
    sdk.normalizePersonaGenome (sdk.personaGenomeToJson
      ((content.withName name).withProvenance source base)) = .ok written →
    written.content = (content.withName name).content
  /-- The document that is stored reads as the genome it was made of. -/
  stored : ∀ {document content}, sdk.normalizePersonaGenome document = .ok content →
    ∀ ownerId companionId, ∃ read,
      sdk.normalizePersonaGenome
        (withOwnership (sdk.personaGenomeToJson content) ownerId companionId) = .ok read ∧
      read.content = content.content

theorem Sdk.plain_normalizesStably : Sdk.plain.NormalizesStably := by
  refine
    { rewritten := ?_
      stored := ?_ }
  · intro document content written name source base read reread
    cases read
    cases reread
    exact Genome.content_withProvenance _ source base
  · intro document content read ownerId companionId
    cases read
    exact ⟨_, rfl, Genome.content_set_provenance _ _⟩

def Tables.chapters (t : Tables) : Chapters := t.workspace.chapters

instance : Tables.ShowsChapters Tables.chapters where
  workspace _ _ same _ := same
  fact _ _ _ := rfl

instance : Tables.HidesPeople Tables.chapters where
  people _ _ := rfl
  workspace _ _ same := same
  fact _ _ _ := rfl

variable (sdk : Sdk) (trusted : Prop) (env : Env) (t : Tables)

section Steps

variable {sdk trusted t}

/-- A command that leaves the chapters alone. -/
theorem ensures_chapters_kept {α : Type} {program : Session α}
    (spares : program.Spares Tables.chapters) :
    program.Ensures t (fun _ t' => ChapterStep sdk trusted t.chapters t'.chapters) :=
  (spares.ensures t).mono (fun _ _ same => .kept same)

theorem chapters_of_workspace {t' : Tables} (same : t'.workspace = t.workspace) :
    ChapterStep sdk trusted t.chapters t'.chapters :=
  .kept (congrArg Workspace.chapters same)

end Steps

section Provisioning

theorem provisionWorkspaceInSession_chapters (seed : WorkspaceSeed) :
    (provisionWorkspaceInSession sdk env seed).Ensures t
      (fun _ t' => ChapterStep sdk trusted t.chapters t'.chapters) := by
  simp only [provisionWorkspaceInSession, Tx.ensures_bind, ensures_getOwner, Tx.ensures_require,
    Tx.ensures_refuseIf, ensures_getCompanion, ensures_getGenome, ensures_getRealm,
    ensures_validated, ensures_insertCompanion]
  intro owner _ _ _ _ _ companionFresh
  have claims : ∀ companion, (claimDefault owner companion).Spares Tables.chapters := by
    intro companion
    simp [claimDefault]
  refine ((claims _).ensures _).mono ?_
  intro _ t₁ claimed normalized _
  simp only [ensures_insertGenome, ensures_updateCompanionRow]
  intro genomeFresh
  have ensures : ∀ companion, (ensureMemoryRealmInSession env companion seed.realm).Spares
      Tables.chapters :=
    fun companion => ensureMemoryRealmInSession_spares env companion seed.realm
  refine ((ensures _).ensures _).mono ?_
  intro reply t₂ ensured
  obtain ⟨realm, created⟩ := reply
  simp only [ensures_updateGenomeRow, ensures_addFact, Tx.pure_eq, Tx.ensures_done]
  have inserted : t₁.workspace.chapters = _ :=
    claimed.trans (t.workspace.chapters_insertCompanion companionFresh)
  have pointed : t₂.workspace.chapters = _ :=
    ensured.trans (Workspace.chapters_modify _ seed.companionId
      (fun persona => { persona with currentGenomeId := some seed.genomeId }) (fun _ => rfl))
  have genomes₁ : t₁.workspace.personaGenomes = t.workspace.personaGenomes :=
    congrArg Chapters.genomes inserted
  have genomes₂ : t₂.workspace.personaGenomes =
      t₁.workspace.personaGenomes.insert (seed.genome sdk normalized) :=
    congrArg Chapters.genomes pointed
  rw [genomes₁] at genomeFresh genomes₂
  have stores : Table.Stores t.workspace.personaGenomes t₂.workspace.personaGenomes
      (seed.genome sdk normalized) := by
    rw [genomes₂]
    exact Table.stores_insert genomeFresh
  generalize governanceFact (env.uuid 2) _ _ _ _ _ _ _ _ _ = fact
  refine .provisioned
    { (seed.companion env.now owner).persona with currentGenomeId := some seed.genomeId }
    { seed.genome sdk normalized with appliedEventId := some fact.eventId } ?_
      genomeFresh rfl rfl rfl
    ?_ ?_
  · show (t.workspace.companions.get? seed.companionId).map CompanionRow.persona = none
    rw [show t.workspace.companions.get? seed.companionId = none from companionFresh]
    rfl
  · exact stores.modify rfl
  · refine (congrArg Chapters.personas pointed).trans ?_
    show (Chapters.rewrite t₁.workspace.chapters seed.companionId _).personas = _
    rw [inserted]
    exact congrArg Chapters.personas (Chapters.rewrite_update _ _ _ _ _)

theorem provisionWorkspace_chapters (request : ProvisionWorkspaceRequest) :
    (provisionWorkspace sdk env request).Ensures t
      (fun _ t' => ChapterStep sdk trusted t.chapters t'.chapters) := by
  simp only [provisionWorkspace, Tx.ensures_bind, ensures_check]
  intro seed _
  exact provisionWorkspaceInSession_chapters sdk trusted env t seed

theorem provisionCompanion_chapters (request : ProvisionRequest) :
    (provisionCompanion sdk env request).Ensures t
      (fun _ t' => ChapterStep sdk trusted t.chapters t'.chapters) := by
  simp only [provisionCompanion, Tx.ensures_bind, ensures_check, ensures_getCompanion]
  intro reply _
  obtain ⟨kind, displayName⟩ := reply
  cases t.workspace.companions.get?
      (provisionIds request.ownerId request.operationId).companionId with
  | some companion =>
      refine (loadProvisionResult_effect t request companion).mono ?_
      intro result t' outcome
      rw [outcome.1]
      exact .kept rfl
  | none =>
      simp only [createProvision, activeRealmForOwner, Tx.ensures_bind, Tx.ensures_read,
        ensures_validated, Tx.pure_eq, Tx.ensures_done]
      intro genome _
      exact provisionWorkspaceInSession_chapters sdk trusted env t _

theorem initializeOwnerWorkspace_chapters (request : InitializationRequest) :
    (initializeOwnerWorkspace sdk env request).Ensures t
      (fun _ t' => ChapterStep sdk trusted t.chapters t'.chapters) := by
  simp only [initializeOwnerWorkspace, Tx.ensures_bind, ensures_check, ensures_getOwner]
  intro reply _
  obtain ⟨ownerName, companionName⟩ := reply
  cases t.workspace.owners.get? (onboardingIds request.operationId).ownerId with
  | some owner =>
      refine (loadOnboardingResult_effect t _ _ owner).mono ?_
      intro result t' outcome
      rw [outcome.1]
      exact .kept rfl
  | none =>
      simp only [createOnboarding, Tx.ensures_bind, ensures_insertOwner, ensures_addFact]
      intro _
      refine (initializeOwnerHome_workspace sdk env _ _ _).mono ?_
      intro _ t₁ workspace₁
      simp only [ensures_validated]
      intro genomeJson _
      refine (provisionWorkspaceInSession_chapters sdk trusted env t₁ _).mono ?_
      intro workspace t₂ step
      simp only [ensures_getOwner, Tx.pure_eq, Tx.ensures_done]
      have same : t₁.chapters = t.chapters := by
        rw [Tables.chapters, workspace₁]
        rfl
      rw [← same]
      exact step

end Provisioning

/-- A draft of a new chapter: writing this persona into the Companion's row
completes a step. -/
def ChapterDraft (c c₁ : Chapters) (companionId : String) (persona : Persona) : Prop :=
  ∀ c' : Chapters, c'.genomes = c₁.genomes →
    c'.personas = Function.update c.personas companionId (some persona) →
    ChapterStep sdk trusted c c'

section Drafts

variable {sdk trusted t}

theorem ChapterDraft.unchanged {companion : CompanionRow}
    (found : t.workspace.companions.get? companion.companionId = some companion) :
    ChapterDraft sdk trusted t.chapters t.chapters companion.companionId companion.persona := by
  intro c' genomes personas
  have known : t.chapters.personas companion.companionId = some companion.persona := by
    show (t.workspace.companions.get? companion.companionId).map CompanionRow.persona = _
    rw [found]
    rfl
  refine .kept ?_
  rw [← known, Function.update_eq_self] at personas
  cases c' with
  | mk genomes' personas' =>
      cases genomes
      cases personas
      rfl

theorem writePersona_chapters {t₁ : Tables} {old new : CompanionRow}
    (draft : ChapterDraft sdk trusted t.chapters t₁.chapters old.companionId new.persona)
    (companions : t₁.workspace.companions = t.workspace.companions)
    (found : t.workspace.companions.get? old.companionId = some old)
    (same : new.companionId = old.companionId) :
    (writePersona new).Ensures t₁ (fun _ t' => ChapterStep sdk trusted t.chapters t'.chapters) := by
  refine (writePersona_effect t₁ rfl (by rw [companions]; exact found) same).mono ?_
  intro _ t' written
  obtain ⟨companions', stores, workspace⟩ := written
  apply draft
  · show t'.workspace.personaGenomes = _
    rw [workspace]
    rfl
  · rw [companions] at stores
    show t'.workspace.chapters.personas = Function.update t.workspace.chapters.personas _ _
    rw [workspace]
    exact Workspace.personas_of_stores t.workspace { t₁.workspace with companions := companions' }
      stores

theorem GenomeSeed.row_document {seed : GenomeSeed} {row : PersonaGenomeRow}
    (built : seed.row sdk = .ok row) :
    row.sourceJson = seed.sourceJson.getD [] ∧ ∀ document, seed.genomeJson = some document →
      ∃ content, sdk.normalizePersonaGenome document = .ok content ∧
        row.genomeJson =
          withOwnership (sdk.personaGenomeToJson content) seed.ownerId seed.companionId := by
  unfold GenomeSeed.row at built
  split at built
  · next document named =>
      obtain ⟨content, normalized, result⟩ := (Tx.checks_bind_iff _ _ _).mp built
      cases result
      refine ⟨rfl, ?_⟩
      intro other same
      rw [named, Option.some.injEq] at same
      rw [← same]
      exact ⟨content, normalized, rfl⟩
  · next absent =>
      obtain ⟨content, _, result⟩ := (Tx.checks_bind_iff _ _ _).mp built
      cases result
      refine ⟨rfl, ?_⟩
      intro other same
      rw [absent] at same
      cases same

structure CurrentRead (t : Tables) (companion : CompanionRow) (current : PersonaGenomeRow) :
    Prop where
  points : companion.currentGenomeId = some current.genomeId
  stored : t.workspace.personaGenomes.get? current.genomeId = some current
  own : current.companionId = companion.companionId
  committed : current.status = .committed

theorem CurrentRead.unique {companion : CompanionRow} {first second : PersonaGenomeRow}
    (read : CurrentRead t companion first) (reread : CurrentRead t companion second) :
    first = second := by
  have points := read.points
  have stored := read.stored
  rw [reread.points, Option.some.injEq] at points
  rw [← points, reread.stored, Option.some.injEq] at stored
  exact stored.symm

theorem currentForEdit_current (all : t.chapters.AllCurrent) {companion : CompanionRow}
    (found : t.workspace.companions.get? companion.companionId = some companion) :
    (currentForEdit companion).Ensures t (fun current t' =>
      t' = t ∧ CurrentRead t companion current) := by
  refine (currentForEdit_effect t companion).mono ?_
  intro current t' outcome
  obtain ⟨unchanged, named, committed, stored⟩ := outcome
  have known : t.chapters.personas companion.companionId = some companion.persona := by
    show (t.workspace.companions.get? companion.companionId).map CompanionRow.persona = _
    rw [found]
    rfl
  obtain ⟨genome, genomeStored, points, own, -⟩ := all known
  have pointed : companion.currentGenomeId = some genome.genomeId := points
  rw [pointed, Option.getD_some] at named
  rw [named] at stored
  have same : genome = current :=
    Option.some.inj ((show _ = some genome from genomeStored).symm.trans stored)
  subst same
  exact ⟨unchanged,
    { points := pointed
      stored := genomeStored
      own := own
      committed := committed }⟩

/-- The genome a restore goes back to, and the content it takes from it. -/
def Restored (sdk : Sdk) (t : Tables) (companion : CompanionRow) (candidate : Genome)
    (target : PersonaGenomeRow) : Prop :=
  t.workspace.personaGenomes.get? target.genomeId = some target ∧
    target.companionId = companion.companionId ∧
    ∃ content, sdk.normalizePersonaGenome target.genomeJson = .ok content ∧
      candidate = content.withName companion.displayName

/-- What an appended chapter leaves for the write of its Companion. -/
structure PersonaAppended (sdk : Sdk) (trusted : Prop) (t t₁ : Tables) (companion : CompanionRow)
    (current : PersonaGenomeRow) (restoredFrom : Option PersonaGenomeRow)
    (result : PersonaGenomeRow × CompanionRow) : Prop where
  named : result.1.genomeId ≠ ""
  own : result.1.companionId = companion.companionId
  fresh : t.workspace.personaGenomes.get? result.1.genomeId = none
  base : result.1.baseGenomeId = some current.genomeId
  committed : result.1.status = .committed
  marked : trusted → (restoredFrom = none ∧ result.1.restoredFrom = none) ∨
    ∃ target, restoredFrom = some target ∧
      t.workspace.personaGenomes.get? target.genomeId = some target ∧
      result.1.Restores target sdk companion.displayName
  genomes : Table.Stores t.workspace.personaGenomes t₁.workspace.personaGenomes result.1
  companions : t₁.workspace.companions = t.workspace.companions
  held : result.2 =
    { companion with
      currentGenomeId := some result.1.genomeId
      revision := companion.revision + 1 }

theorem appendPersona_appended (stable : trusted → sdk.NormalizesStably) {companion : CompanionRow}
    {current : PersonaGenomeRow} {candidate : Genome} {source summary : String}
    {restoredFrom : Option PersonaGenomeRow}
    (told : ∀ target, restoredFrom = some target → Restored sdk t companion candidate target) :
    (appendPersona sdk env companion current candidate source summary restoredFrom).Ensures t
      (fun result t₁ => PersonaAppended sdk trusted t t₁ companion current restoredFrom
        result) := by
  simp only [appendPersona, Tx.ensures_bind, Tx.ensures_read, ensures_validated,
    ensures_insertGenome, ensures_addFact]
  intro row built fresh
  obtain ⟨genomeId, own, -, committed, base, -, -⟩ := GenomeSeed.row_fields sdk built
  have named : row.genomeId ≠ "" := by
    intro empty
    have generated : matchesGeneratedId row.genomeId = true := by
      rw [genomeId]
      exact matchesGeneratedId_genome env
    rw [empty] at generated
    exact absurd generated (by decide)
  obtain ⟨sourceJson, document⟩ := GenomeSeed.row_document built
  obtain ⟨content, normalized, stored⟩ := document _ rfl
  have marked : trusted → (restoredFrom = none ∧ row.restoredFrom = none) ∨
      ∃ target, restoredFrom = some target ∧
        t.workspace.personaGenomes.get? target.genomeId = some target ∧
        row.Restores target sdk companion.displayName := by
    intro trust
    obtain ⟨again, reread, sameContent⟩ := (stable trust).stored normalized companion.ownerId
      companion.companionId
    cases restoredFrom with
    | none =>
        refine Or.inl ⟨rfl, ?_⟩
        rw [PersonaGenomeRow.restoredFrom, sourceJson]
        simp [appendedSource, JsonDict.get?]
    | some target =>
        obtain ⟨targetStored, targetOwn, before, readBefore, named⟩ := told target rfl
        refine Or.inr ⟨target, rfl, targetStored, ?_⟩
        refine
          { own := targetOwn.trans own.symm
            mark := ?_
            retells := ⟨before, again, readBefore, ?_, ?_⟩ }
        · rw [PersonaGenomeRow.restoredFrom, sourceJson]
          simp [appendedSource, JsonDict.get?]
        · rw [stored]
          exact reread
        · rw [named] at normalized
          rw [sameContent]
          exact (stable trust).rewritten readBefore normalized
  have appended : ∀ t₁ : Tables, t₁.workspace = { t.workspace with
      personaGenomes := t.workspace.personaGenomes.insert row } →
      PersonaAppended sdk trusted t t₁ companion current restoredFrom (row, { companion with
        currentGenomeId := some row.genomeId
        revision := companion.revision + 1 }) := by
    intro t₁ workspace
    exact
      { named := named
        own := own
        fresh := fresh
        base := base
        committed := committed
        marked := marked
        genomes := by
          rw [workspace]
          exact Table.stores_insert fresh
        companions := by rw [workspace]
        held := rfl }
  cases restoredFrom with
  | none =>
      simp only [Tx.ensures_bind, Tx.pure_eq, Tx.ensures_done]
      exact appended _ rfl
  | some target =>
      simp only [Tx.ensures_bind, ensures_addFact, Tx.pure_eq, Tx.ensures_done]
      exact appended _ rfl

theorem PersonaAppended.draft {t₁ : Tables} {old companion : CompanionRow}
    {current : PersonaGenomeRow} {restoredFrom : Option PersonaGenomeRow}
    {result : PersonaGenomeRow × CompanionRow}
    (appended : PersonaAppended sdk trusted t t₁ companion current restoredFrom result)
    (found : t.workspace.companions.get? old.companionId = some old)
    (same : companion.companionId = old.companionId) (read : CurrentRead t old current) :
    ChapterDraft sdk trusted t.chapters t₁.chapters old.companionId result.2.persona := by
  intro c' genomes personas
  have own : result.1.companionId = old.companionId := appended.own.trans same
  have stores : Table.Stores t.chapters.genomes c'.genomes result.1 := by
    rw [genomes]
    exact appended.genomes
  rw [← own, appended.held] at personas
  refine .appended old.persona current result.1 companion.displayName ?_ read.points read.stored
    ?_ appended.fresh appended.base appended.committed ?_ stores personas
  · rw [own]
    show (t.workspace.companions.get? old.companionId).map CompanionRow.persona = _
    rw [found]
    rfl
  · exact read.own.trans own.symm
  · intro trust
    rcases appended.marked trust with ⟨_, unmarked⟩ | ⟨target, _, stored, restores⟩
    · exact Or.inl unmarked
    · exact Or.inr ⟨target, stored, restores⟩

end Drafts

end EidolonData
