import EidolonData.Effects.Provisioning
import EidolonData.Services.Persona

/-!
# Effects of the persona commands

A persona command adds a genome or decides a proposed one, and rewrites its
Companion's row once.  The row the session holds is related to the stored one
by `PersonaWritten` all along, so the last write is one change.
-/

namespace EidolonData

open Relational

variable (sdk : Sdk) (permits : Permits) (env : Env) (t : Tables)

section Rows

variable {sdk permits} {old new : CompanionRow}

theorem PersonaWritten.rewritten (old : CompanionRow) {name : String} {current : Option String}
    {revision : Int} {config : JsonDict}
    (configured : ConfigWritten sdk old.runtimeConfigJson config)
    (later : old.revision ≤ revision)
    (guarded : permits.silent ∨ (revision = old.revision →
      name = old.displayName ∧ current = old.currentGenomeId ∧ config = old.runtimeConfigJson)) :
    PersonaWritten sdk permits old
      { old with
        displayName := name
        revision := revision
        currentGenomeId := current
        runtimeConfigJson := config } := by
  refine
    { companionId := rfl
      ownerId := rfl
      kind := rfl
      lifecycleState := rfl
      realm := rfl
      metadata := fun _ _ => rfl
      receipts := id
      config := configured
      revision := later
      guarded := guarded.imp_right ?_ }
  intro agrees same
  obtain ⟨sameName, sameGenome, sameConfig⟩ := agrees same
  exact
    { displayName := sameName
      lifecycleState := rfl
      genome := sameGenome
      config := sameConfig }

theorem PersonaWritten.advanced (old : CompanionRow) {name : String} {current : Option String} :
    PersonaWritten sdk permits old
      { old with
        displayName := name
        revision := old.revision + 1
        currentGenomeId := current } := by
  apply PersonaWritten.rewritten old (.same rfl)
  · omega
  · right
    intro same
    omega

/-- What `receipts.get(operation_id)` finds where it is a receipt. -/
theorem receipt?_of_editReceipts {receipts : JsonDict}
    (read : editReceipts old.metadataJson = .ok receipts) (operationId : String) :
    old.receipt? operationId =
      match receipts.get? operationId with
      | some (.obj (field :: rest)) => some (field :: rest)
      | _ => none := by
  unfold editReceipts at read
  unfold CompanionRow.receipt?
  cases stored : old.metadataJson.get? personaOperationsKey with
  | none =>
      rw [stored] at read
      cases read
      rfl
  | some value =>
      rw [stored] at read
      cases value with
      | obj fields =>
          cases read
          rfl
      | _ =>
          simp only at read
          split at read
          · cases read
          · cases read
            rfl

theorem PersonaWritten.recorded (written : PersonaWritten sdk permits old new)
    {receipts : JsonDict} {operationId : String}
    (read : editReceipts old.metadataJson = .ok receipts)
    (unused : old.receipt? operationId = none) (value : Json) :
    PersonaWritten sdk permits old
      { new with
        metadataJson := new.metadataJson.set personaOperationsKey
          (.obj (receipts.set operationId value)) } := by
  refine
    { written with
      metadata := ?_
      receipts := ?_
      guarded := written.guarded.imp_right (fun agrees same => { agrees same with }) }
  · intro name other
    rw [JsonDict.get?_set_other _ (Ne.symm other)]
    exact written.metadata name other
  · intro other receipt found
    have different : operationId ≠ other := by
      intro same
      rw [same, found] at unused
      cases unused
    rw [receipt?_of_editReceipts read] at found
    simp only [CompanionRow.receipt?, JsonDict.get?_set, if_true]
    rw [if_neg different]
    exact found

end Rows

/-- A chapter drafted by a persona command: none, a new one, or an approved
proposal, that the row the session holds points at. -/
inductive ChapterDrafted (w : Workspace) (old held : CompanionRow) : Workspace → Prop where
  | kept (current : held.currentGenomeId = old.currentGenomeId) :
      ChapterDrafted w old held w
  | appended (genome : PersonaGenomeRow) (genomes' : Table PersonaGenomeRow)
      (inserted : GenomeInserted sdk permits w genome)
      (own : genome.companionId = old.companionId) (committed : genome.status = .committed)
      (current : held.currentGenomeId = some genome.genomeId)
      (stores : Table.Stores w.personaGenomes genomes' genome) :
      ChapterDrafted w old held { w with personaGenomes := genomes' }
  | approved (proposal genome : PersonaGenomeRow) (genomes' : Table PersonaGenomeRow)
      (decided : GenomeDecided w proposal genome) (own : proposal.companionId = old.companionId)
      (base : old.currentGenomeId = proposal.baseGenomeId)
      (committed : genome.status = .committed)
      (current : held.currentGenomeId = some genome.genomeId)
      (stores : Table.Stores w.personaGenomes genomes' genome) :
      ChapterDrafted w old held { w with personaGenomes := genomes' }

/-- The row after the commit's write. -/
def CompanionRow.rewritten (old new : CompanionRow) : CompanionRow :=
  { old with
    displayName := new.displayName
    revision := new.revision
    currentGenomeId := new.currentGenomeId
    runtimeConfigJson := new.runtimeConfigJson
    metadataJson := new.metadataJson }

section Written

variable {sdk permits} {w w₁ : Workspace} {old held new : CompanionRow}

theorem PersonaWritten.stored (written : PersonaWritten sdk permits old new) :
    PersonaWritten sdk permits old (old.rewritten new) :=
  { companionId := rfl
    ownerId := rfl
    kind := rfl
    lifecycleState := rfl
    realm := rfl
    metadata := written.metadata
    receipts := written.receipts
    config := written.config
    revision := written.revision
    guarded := written.guarded.imp_right (fun agrees same =>
      { displayName := (agrees same).displayName
        lifecycleState := rfl
        genome := (agrees same).genome
        config := (agrees same).config }) }

theorem ChapterDrafted.companions (drafted : ChapterDrafted sdk permits w old held w₁) :
    w₁.companions = w.companions := by
  cases drafted with
  | kept current => rfl
  | appended genome genomes' inserted own committed current stores => rfl
  | approved proposal genome genomes' decided own base committed current stores => rfl

theorem ChapterDrafted.change (drafted : ChapterDrafted sdk permits w old held w₁)
    (found : w.companions.get? old.companionId = some old)
    (written : PersonaWritten sdk permits old new)
    (current : new.currentGenomeId = held.currentGenomeId) {companions' : Table CompanionRow}
    (stores : Table.Stores w.companions companions' new) :
    Change sdk permits w { w₁ with companions := companions' } := by
  cases drafted with
  | kept same =>
      exact .personaWritten old new companions' found written (current.trans same) stores
  | appended genome genomes' inserted own committed pointed genomes =>
      exact .personaAppended old new genome companions' genomes' found written inserted own
        committed (current.trans pointed) stores genomes
  | approved proposal genome genomes' decided own base committed pointed genomes =>
      exact .personaApproved old new proposal genome companions' genomes' found written decided
        own base committed (current.trans pointed) stores genomes

end Written

theorem writePersona_effect {w₁ : Workspace} {old new : CompanionRow}
    (state : t.workspace = w₁) (found : w₁.companions.get? old.companionId = some old)
    (same : new.companionId = old.companionId) :
    (writePersona new).Ensures t (fun _ t' => ∃ companions',
      Table.Stores w₁.companions companions' (old.rewritten new) ∧
        t'.workspace = { w₁ with companions := companions' }) := by
  simp only [writePersona, ensures_updateCompanionRow, Tables.workspace_mapWorkspace, state, same]
  exact ⟨_, Table.stores_modify found, rfl⟩

/-- The last write of a persona command makes one change of the chapter and
the row. -/
theorem writePersona_change {w w₁ : Workspace} {old held new : CompanionRow}
    (drafted : ChapterDrafted sdk permits w old held w₁) (state : t.workspace = w₁)
    (found : w.companions.get? old.companionId = some old)
    (written : PersonaWritten sdk permits old new)
    (current : new.currentGenomeId = held.currentGenomeId) :
    (writePersona new).Ensures t (fun _ t' =>
      Change sdk permits w t'.workspace ∧
        t'.workspace.companions.get? old.companionId = some (old.rewritten new) ∧
        t'.workspace.personaGenomes = w₁.personaGenomes) := by
  have stored : w₁.companions.get? old.companionId = some old := by
    rw [drafted.companions]
    exact found
  refine (writePersona_effect t state stored written.companionId).mono ?_
  intro _ t' ⟨companions', stores, workspace⟩
  rw [workspace]
  rw [drafted.companions] at stores
  exact ⟨drafted.change found written.stored current stores, stores.self, rfl⟩

theorem writeGenome_effect (old new : PersonaGenomeRow)
    (found : t.workspace.personaGenomes.get? old.genomeId = some old)
    (genomeId : new.genomeId = old.genomeId) (proposed : old.status = .proposed)
    (decided : new.status ≠ .proposed) (applied : new.Applied) :
    (writeGenome new).Ensures t (fun _ t' => ∃ row genomes',
      GenomeDecided t.workspace old row ∧ row.status = new.status ∧
        Table.Stores t.workspace.personaGenomes genomes' row ∧
        t'.workspace = { t.workspace with personaGenomes := genomes' }) := by
  simp only [writeGenome, ensures_updateGenomeRow, genomeId]
  refine ⟨_, _, ?_, ?_, Table.stores_modify found, rfl⟩
  · exact
      { found := found
        genomeId := rfl
        companionId := rfl
        version := rfl
        base := rfl
        document := rfl
        hash := rfl
        proposed := proposed
        decided := decided
        applied := applied }
  · rfl

theorem personaCompanion_effect (ownerId companionId : String) :
    (personaCompanion ownerId companionId).Ensures t (fun companion t' =>
      t' = t ∧ t.workspace.companions.get? companion.companionId = some companion ∧
        companion.companionId = companionId ∧ companion.ownerId = ownerId) := by
  simp [personaCompanion]
  intro companion found owned
  have stored : companion.companionId = companionId := Table.key_of_get? found
  subst stored
  exact ⟨found, rfl, owned⟩

theorem companionForEdit_effect (companionId : String) :
    (companionForEdit companionId).Ensures t (fun companion t' =>
      t' = t ∧ t.workspace.companions.get? companion.companionId = some companion ∧
        companion.companionId = companionId) := by
  simp [companionForEdit]
  intro companion found
  have stored : companion.companionId = companionId := Table.key_of_get? found
  subst stored
  exact ⟨found, rfl⟩

theorem currentForEdit_readOnly (companion : CompanionRow) :
    (currentForEdit companion).Ensures t (fun _ t' => t' = t) := by
  simp only [currentForEdit, Tx.ensures_bind, ensures_getGenome, Tx.ensures_require]
  intros
  trivial

theorem GenomeSeed.row_fields {seed : GenomeSeed} {row : PersonaGenomeRow}
    (built : seed.row sdk = .ok row) :
    row.genomeId = seed.genomeId ∧ row.companionId = seed.companionId ∧
      row.version = seed.version ∧ row.status = seed.status ∧ row.baseGenomeId = seed.baseGenomeId ∧
      row.appliedEventId = seed.appliedEventId ∧
      row.genomeHash = sdk.personaGenomeHash row.genomeJson := by
  unfold GenomeSeed.row at built
  split at built
  · obtain ⟨_, _, result⟩ := (Tx.checks_bind_iff _ _ _).mp built
    cases result
    exact ⟨rfl, rfl, rfl, rfl, rfl, rfl, rfl⟩
  · obtain ⟨_, _, result⟩ := (Tx.checks_bind_iff _ _ _).mp built
    cases result
    exact ⟨rfl, rfl, rfl, rfl, rfl, rfl, rfl⟩

theorem matchesGeneratedId_genome : matchesGeneratedId ("g_" ++ (env.uuid 0).hex) = true := by
  refine matchesGeneratedId_append (by decide) (env.uuid 0).isNameChar_hex ?_
  rw [(env.uuid 0).length_hex]
  decide

/-- What `_append_persona` leaves behind, and what it returns. -/
structure ChapterAppended (w w' : Workspace) (companion : CompanionRow)
    (current : PersonaGenomeRow) (result : PersonaGenomeRow × CompanionRow) : Prop where
  inserted : GenomeInserted sdk permits w result.1
  own : result.1.companionId = companion.companionId
  committed : result.1.status = .committed
  base : result.1.baseGenomeId = some current.genomeId
  held : result.2 =
    { companion with
      currentGenomeId := some result.1.genomeId
      revision := companion.revision + 1 }
  workspace : ∃ genomes', Table.Stores w.personaGenomes genomes' result.1 ∧
    w' = { w with personaGenomes := genomes' }

theorem appendPersona_effect (companion : CompanionRow) (current : PersonaGenomeRow)
    (candidate : Genome) (source summary : String) (restoredFrom : Option PersonaGenomeRow) :
    (appendPersona sdk env companion current candidate source summary restoredFrom).Ensures t
      (fun result t' =>
        ChapterAppended sdk permits t.workspace t'.workspace companion current result) := by
  simp only [appendPersona, Tx.ensures_bind, Tx.ensures_read, ensures_validated,
    ensures_insertGenome, ensures_addFact]
  intro row built fresh
  obtain ⟨genomeId, companionId, -, committed, base, event, hashed⟩ :=
    GenomeSeed.row_fields sdk built
  have inserted : GenomeInserted sdk permits t.workspace row := by
    refine
      { fresh := fresh
        permitted := ?_
        hashed := hashed
        applied := ?_ }
    · rw [genomeId]
      exact permits.generated _ (matchesGeneratedId_genome env)
    · intro _
      rw [event]
      exact Option.some_ne_none _
  have appended : ∀ w', w' =
      { t.workspace with personaGenomes := t.workspace.personaGenomes.insert row } →
      ChapterAppended sdk permits t.workspace w' companion current (row,
        { companion with
          currentGenomeId := some row.genomeId
          revision := companion.revision + 1 }) := by
    intro w' state
    exact
      { inserted := inserted
        own := companionId
        committed := committed
        base := base
        held := rfl
        workspace := ⟨_, Table.stores_insert fresh, state⟩ }
  cases restoredFrom with
  | none =>
      simp only [Tx.ensures_bind, Tx.pure_eq, Tx.ensures_done]
      exact appended _ rfl
  | some target =>
      simp only [Tx.ensures_bind, ensures_addFact, Tx.pure_eq, Tx.ensures_done]
      exact appended _ rfl

theorem ChapterAppended.drafted {w w' : Workspace} {old companion : CompanionRow}
    {current : PersonaGenomeRow} {result : PersonaGenomeRow × CompanionRow}
    (appended : ChapterAppended sdk permits w w' companion current result)
    (same : companion.companionId = old.companionId) :
    ChapterDrafted sdk permits w old result.2 w' := by
  obtain ⟨genomes', stores, rfl⟩ := appended.workspace
  refine .appended result.1 genomes' appended.inserted (appended.own.trans same)
    appended.committed ?_ stores
  rw [appended.held]

theorem replayEdit_readOnly (receipt : JsonDict) (fingerprint : String) :
    (replayEdit sdk receipt fingerprint).Ensures t (fun _ t' => t' = t) := by
  simp only [replayEdit, Tx.ensures_bind, Tx.ensures_require, Tx.ensures_refuseIf,
    ensures_getGenome, ensures_validated, Tx.pure_eq, Tx.ensures_done]
  intros
  trivial

theorem editSnapshot_ok {companion : CompanionRow} {current : PersonaGenomeRow}
    {snapshot : PersonaEditSnapshot} (read : editSnapshot sdk companion current = .ok snapshot) :
    ∃ genome, sdk.normalizePersonaGenome current.genomeJson = .ok genome ∧
      validateRuntimeConfig sdk companion.runtimeConfigJson = .ok snapshot.preferences ∧
      preferenceRevision sdk companion.runtimeConfigJson = .ok snapshot.preferenceRevision ∧
      snapshot.genomeId = current.genomeId ∧ snapshot.displayName = companion.displayName ∧
      snapshot.companionRevision = companion.revision ∧
      snapshot.persona = sdk.personaAuthoringOf genome := by
  simp only [editSnapshot, Tx.checks_bind_iff] at read
  obtain ⟨genome, normalized, preferences, validated, revision, revised, built⟩ := read
  cases built
  exact ⟨genome, normalized, validated, revised, rfl, rfl, rfl, rfl⟩

/-- The preference half of an edit leaves the row, or revises its
configuration and advances it. -/
theorem draftPreferences_ok {request : PersonaEditRequest} {before : PersonaEditSnapshot}
    {companion configured : CompanionRow} {current : PersonaGenomeRow} {old : CompanionRow}
    (read : editSnapshot sdk old current = .ok before)
    (drafted : draftPreferences sdk request before companion = .ok configured) :
    (configured = companion ∧
      ∀ preferences, request.preferences = some preferences → preferences = before.preferences) ∨
    ∃ config, ConfigWritten sdk old.runtimeConfigJson config ∧
      configured =
        { companion with
          runtimeConfigJson := config
          revision := companion.revision + 1 } := by
  obtain ⟨genome, -, -, revised, -⟩ := editSnapshot_ok sdk read
  unfold draftPreferences at drafted
  split at drafted
  · next absent =>
      cases drafted
      refine Or.inl ⟨rfl, ?_⟩
      intro preferences named
      rw [absent] at named
      cases named
  · next preferences named =>
      split at drafted
      · next same =>
          cases drafted
          refine Or.inl ⟨rfl, ?_⟩
          intro other found
          rw [named] at found
          cases found
          exact same
      · simp only [Tx.checks_bind_iff] at drafted
        obtain ⟨valid, validated, built⟩ := drafted
        cases built
        refine Or.inr ⟨_, ?_, rfl⟩
        refine .revised before.preferenceRevision revised ?_ ⟨valid, validated⟩
        rw [JsonDict.get?_set, if_pos rfl]

/-- An edit at the current tokens would rename the Companion without a chapter
or new preferences: the current genome has the name already. -/
def Workspace.RenamedSilently (sdk : Sdk) (w : Workspace) (companionId : String)
    (request : PersonaEditRequest) : Prop :=
  ∃ companion current base name before, w.companions.get? companionId = some companion ∧
    w.personaGenomes.get? (companion.currentGenomeId.getD "") = some current ∧
    sdk.normalizePersonaGenome current.genomeJson = .ok base ∧
    editSnapshot sdk companion current = .ok before ∧
    companion.receipt? request.operationId = none ∧
    current.genomeId = request.expectedBaseGenomeId ∧
    before.preferenceRevision = request.expectedPreferenceRevision ∧
    request.action = .rename ∧ request.displayName = some name ∧
    (base.withName (strip name)).content = base.content ∧
    (∀ preferences, request.preferences = some preferences → preferences = before.preferences) ∧
    companion.displayName ≠ strip name

theorem draftEdit_effect {request : PersonaEditRequest} {companion : CompanionRow}
    {current : PersonaGenomeRow} {base : Genome} {changeSummary : String} :
    (draftEdit sdk request companion current base changeSummary).Ensures t (fun draft t' =>
      t' = t ∧ draft.companion = companion ∨
        t' = t ∧ ∃ name, request.action = .rename ∧ request.displayName = some name ∧
          draft.companion = { companion with displayName := strip name } ∧
          draft.candidate = base.withName (strip name)) := by
  unfold draftEdit
  cases action : request.action with
  | author =>
      simp only [Tx.ensures_bind, ensures_validated, Tx.pure_eq, Tx.ensures_done]
      intro _ _
      exact Or.inl ⟨trivial, trivial⟩
  | rename =>
      simp only [Tx.ensures_bind, Tx.ensures_require, Tx.pure_eq, Tx.ensures_done]
      intro name named
      exact Or.inr ⟨trivial, name, trivial, named, rfl, rfl⟩
  | restore =>
      simp only [Tx.ensures_bind, ensures_getGenome, ensures_check, ensures_validated, Tx.pure_eq,
        Tx.ensures_done]
      intro _ _ _ _
      exact Or.inl ⟨trivial, trivial⟩


/-- What an edit that is no replay leaves behind. -/
structure EditCommitted (w w' : Workspace) (companion : CompanionRow)
    (request : PersonaEditRequest) (result : PersonaEditSnapshot) (new : CompanionRow)
    (genome : PersonaGenomeRow) : Prop where
  base : companion.currentGenomeId.getD "" = request.expectedBaseGenomeId
  preference : preferenceRevision sdk companion.runtimeConfigJson =
    .ok request.expectedPreferenceRevision
  change : Change sdk permits w w'
  stored : w'.companions.get? companion.companionId = some new
  written : PersonaWritten sdk permits companion new
  receipt : new.receipt? request.operationId =
    some (editReceipt (sdk.editFingerprint request) result)
  genomeStored : w'.personaGenomes.get? genome.genomeId = some genome
  committed : genome.status = .committed
  pointed : new.currentGenomeId.getD "" = genome.genomeId
  snapshot : editSnapshot sdk new genome = .ok result
  chapter : w'.personaGenomes = w.personaGenomes ∨
    (w.personaGenomes.get? genome.genomeId = none ∧ new.currentGenomeId = some genome.genomeId)

theorem currentForEdit_effect (companion : CompanionRow) :
    (currentForEdit companion).Ensures t (fun genome t' => t' = t ∧
      genome.genomeId = companion.currentGenomeId.getD "" ∧ genome.status = .committed ∧
        t.workspace.personaGenomes.get? genome.genomeId = some genome) := by
  simp only [currentForEdit, Tx.ensures_bind, ensures_getGenome, Tx.ensures_require]
  intro genome found
  obtain ⟨stored, committed⟩ := Option.filter_eq_some_iff.mp found
  have same : genome.genomeId = companion.currentGenomeId.getD "" := Table.key_of_get? stored
  rw [same]
  exact ⟨trivial, rfl, by simpa using committed, stored⟩

theorem PersonaWritten.configured {request : PersonaEditRequest}
    {companion configured : CompanionRow} {before : PersonaEditSnapshot}
    {genome : PersonaGenomeRow} {name : String} {revision : Int} {current : Option String}
    (read : editSnapshot sdk companion genome = .ok before)
    (preferences : draftPreferences sdk request before
      { companion with
        displayName := name
        revision := revision
        currentGenomeId := current } = .ok configured)
    (later : companion.revision ≤ revision)
    (guarded : (∀ preferences, request.preferences = some preferences →
        preferences = before.preferences) →
      permits.silent ∨ (revision = companion.revision →
        name = companion.displayName ∧ current = companion.currentGenomeId)) :
    PersonaWritten sdk permits companion configured ∧ configured.currentGenomeId = current ∧
      configured.companionId = companion.companionId ∧
      configured.metadataJson = companion.metadataJson := by
  rcases draftPreferences_ok sdk read preferences with ⟨rfl, kept⟩ | ⟨config, revised, rfl⟩
  · refine ⟨PersonaWritten.rewritten companion (.same rfl) later ?_, rfl, rfl, rfl⟩
    refine (guarded kept).imp_right ?_
    intro agrees same
    obtain ⟨sameName, sameGenome⟩ := agrees same
    exact ⟨sameName, sameGenome, rfl⟩
  · have advanced : companion.revision < revision + 1 := by omega
    refine ⟨PersonaWritten.rewritten companion revised (le_of_lt advanced) (Or.inr ?_), rfl, rfl,
      rfl⟩
    intro same
    exact absurd same (ne_of_gt advanced)

structure ChapterHeld (w w' : Workspace) (companion : CompanionRow) (draft : EditDraft)
    (base : Genome) (result : PersonaGenomeRow × CompanionRow) (name : String) (revision : Int)
    (pointer : Option String) : Prop where
  drafted : ChapterDrafted sdk permits w companion result.2 w'
  held : result.2 =
    { companion with
      displayName := name
      revision := revision
      currentGenomeId := pointer }
  later : companion.revision ≤ revision
  guarded : revision = companion.revision →
    pointer = companion.currentGenomeId ∧ draft.candidate.content = base.content
  pointed : pointer.getD "" = result.1.genomeId
  stored : w'.personaGenomes.get? result.1.genomeId = some result.1
  committed : result.1.status = .committed
  chapter : w'.personaGenomes = w.personaGenomes ∨
    (w.personaGenomes.get? result.1.genomeId = none ∧ pointer = some result.1.genomeId)

theorem draftChapter_effect {companion : CompanionRow} {draft : EditDraft} {name : String}
    {current : PersonaGenomeRow} (base : Genome)
    (currentId : current.genomeId = companion.currentGenomeId.getD "")
    (renamed : draft.companion = { companion with displayName := name })
    (found : t.workspace.personaGenomes.get? current.genomeId = some current)
    (committed : current.status = .committed) :
    (draftChapter sdk env draft current base).Ensures t (fun result t' => ∃ revision pointer,
      ChapterHeld sdk permits t.workspace t'.workspace companion draft base result name revision
        pointer) := by
  simp only [draftChapter, Tx.ensures_ite, Tx.ensures_done]
  constructor
  · intro _
    refine (appendPersona_effect sdk permits env t _ _ _ _ _ _).mono ?_
    intro reply t' appended
    obtain ⟨row, held⟩ := reply
    obtain ⟨genomes', stores, workspace⟩ := appended.workspace
    have heldRow : held = { draft.companion with
        currentGenomeId := some row.genomeId
        revision := draft.companion.revision + 1 } := appended.held
    rw [renamed] at heldRow
    refine ⟨companion.revision + 1, some row.genomeId, ?_⟩
    exact
      { drafted := appended.drafted sdk permits (by rw [renamed])
        held := heldRow
        later := by omega
        guarded := by
          intro same
          omega
        pointed := rfl
        stored := by
          rw [workspace]
          exact stores.self
        committed := appended.committed
        chapter := Or.inr ⟨appended.inserted.fresh, rfl⟩ }
  · intro unchanged
    refine ⟨companion.revision, companion.currentGenomeId, ?_⟩
    exact
      { drafted := .kept (by rw [renamed])
        held := renamed
        later := le_refl _
        guarded := fun _ => ⟨rfl, not_not.mp (fun different => unchanged (Or.inl different))⟩
        pointed := currentId.symm
        stored := found
        committed := committed
        chapter := Or.inl rfl }

theorem commitEdit_effect {request : PersonaEditRequest} {companion : CompanionRow}
    {receipts : JsonDict} (changeSummary : String)
    (found : t.workspace.companions.get? companion.companionId = some companion)
    (read : editReceipts companion.metadataJson = .ok receipts)
    (unused : companion.receipt? request.operationId = none)
    (guarded : permits.silent ∨
      ¬ t.workspace.RenamedSilently sdk companion.companionId request) :
    (commitEdit sdk env companion receipts request changeSummary).Ensures t (fun result t' =>
      ∃ new genome, EditCommitted sdk permits t.workspace t'.workspace companion request result
        new genome) := by
  simp only [commitEdit, Tx.ensures_bind, Tx.ensures_refuseIf, ensures_validated]
  refine (currentForEdit_effect t companion).mono ?_
  intro current t₁ outcome before beforeRead base preference
    content normalized
  obtain ⟨unchanged, currentId, committed, currentFound⟩ := outcome
  subst unchanged
  refine (draftEdit_effect sdk t₁).mono ?_
  intro draft t₂ drafted
  have renames : t₂ = t₁ ∧ ∃ name, draft.companion = { companion with displayName := name } ∧
      (draft.candidate.content = content.content →
        (∀ preferences, request.preferences = some preferences →
          preferences = before.preferences) →
        permits.silent ∨ name = companion.displayName) := by
    rcases drafted with ⟨unchanged, same⟩ | ⟨unchanged, name, action, named, renamed, candidate⟩
    · exact ⟨unchanged, companion.displayName, same, fun _ _ => Or.inr rfl⟩
    · refine ⟨unchanged, strip name, renamed, ?_⟩
      intro sameContent samePreferences
      refine guarded.imp_right ?_
      intro notSilent
      by_contra different
      rw [candidate] at sameContent
      rw [currentId] at currentFound
      exact notSilent ⟨companion, current, content, name, before, found, currentFound, normalized,
        beforeRead, unused, not_not.mp base, not_not.mp preference, action, named, sameContent,
        samePreferences, Ne.symm different⟩
  obtain ⟨unchanged, name, renamed, silently⟩ := renames
  subst unchanged
  refine (draftChapter_effect sdk permits env t₂ content currentId renamed currentFound
    committed).mono ?_
  intro reply t₃ outcome configured preferences result snapshot
  obtain ⟨genome, held⟩ := reply
  obtain ⟨revision, pointer, chapter⟩ := outcome
  have heldRow := chapter.held
  subst heldRow
  have quietly : (∀ preferences, request.preferences = some preferences →
      preferences = before.preferences) →
      permits.silent ∨ (revision = companion.revision →
        name = companion.displayName ∧ pointer = companion.currentGenomeId) := by
    intro samePreferences
    by_cases same : revision = companion.revision
    · obtain ⟨samePointer, sameContent⟩ := chapter.guarded same
      exact (silently sameContent samePreferences).imp_right
        (fun sameName _ => ⟨sameName, samePointer⟩)
    · exact Or.inr (fun equal => absurd equal same)
  obtain ⟨written, pointed, sameId, sameMetadata⟩ :=
    PersonaWritten.configured sdk permits beforeRead preferences chapter.later quietly
  have recorded := written.recorded read unused
    (.obj (editReceipt (sdk.editFingerprint request) result))
  rw [sameMetadata] at recorded ⊢
  have receipt : ∀ row : CompanionRow, row.metadataJson =
      companion.metadataJson.set personaOperationsKey (.obj (receipts.set request.operationId
        (.obj (editReceipt (sdk.editFingerprint request) result)))) →
      row.receipt? request.operationId =
        some (editReceipt (sdk.editFingerprint request) result) := by
    intro row metadata
    simp [CompanionRow.receipt?, metadata, JsonDict.get?_set, editReceipt]
  refine (writePersona_change sdk permits t₃ chapter.drafted rfl found recorded pointed).mono ?_
  intro _ t₄ outcome
  obtain ⟨change, stored, genomes⟩ := outcome
  simp only [ensures_addFact, Tx.pure_eq, Tx.ensures_done, Tables.workspace_addFact]
  have genomeStored : t₄.workspace.personaGenomes.get? genome.genomeId = some genome := by
    rw [genomes]
    exact chapter.stored
  have revised : preferenceRevision sdk companion.runtimeConfigJson =
      .ok before.preferenceRevision := by
    obtain ⟨_, _, _, revised, _⟩ := editSnapshot_ok sdk beforeRead
    exact revised
  rw [not_not.mp preference] at revised
  exact ⟨_, genome,
    { base := currentId.symm.trans (not_not.mp base)
      preference := revised
      change := change
      stored := stored
      written := recorded.stored
      receipt := receipt _ rfl
      genomeStored := genomeStored
      committed := chapter.committed
      pointed := (congrArg (Option.getD · "") pointed).trans chapter.pointed
      snapshot := snapshot
      chapter := by
        rw [genomes]
        exact chapter.chapter.imp_right (fun kept => ⟨kept.1, pointed.trans kept.2⟩) }⟩

theorem editPersona_effect (companionId : String) (request : PersonaEditRequest)
    (changeSummary : String)
    (guarded : permits.silent ∨ ¬ t.workspace.RenamedSilently sdk companionId request) :
    (editPersona sdk env companionId request changeSummary).Ensures t (fun result t' =>
      ∃ companion, t.workspace.companions.get? companionId = some companion ∧
        (companion.receipt? request.operationId ≠ none ∧ t' = t ∨
          companion.receipt? request.operationId = none ∧
            ∃ new genome, EditCommitted sdk permits t.workspace t'.workspace companion request
              result new genome)) := by
  simp only [editPersona, Tx.ensures_bind, ensures_validated]
  refine (companionForEdit_effect t companionId).mono ?_
  intro companion t₁ outcome receipts read
  obtain ⟨unchanged, found, named⟩ := outcome
  subst unchanged named
  have commits : companion.receipt? request.operationId = none →
      (commitEdit sdk env companion receipts request changeSummary).Ensures t₁ (fun result t' =>
        ∃ stored, t₁.workspace.companions.get? companion.companionId = some stored ∧
          (stored.receipt? request.operationId ≠ none ∧ t' = t₁ ∨
            stored.receipt? request.operationId = none ∧
              ∃ new genome, EditCommitted sdk permits t₁.workspace t'.workspace stored request
                result new genome)) := by
    intro unused
    refine (commitEdit_effect sdk permits env t₁ changeSummary found read unused guarded).mono ?_
    intro result t₂ committed
    exact ⟨companion, found, Or.inr ⟨unused, committed⟩⟩
  have lookup := receipt?_of_editReceipts read request.operationId
  split
  · next field rest receipt =>
      rw [receipt] at lookup
      refine (replayEdit_readOnly sdk t₁ _ _).mono ?_
      intro result t₂ unchanged
      refine ⟨companion, found, Or.inl ⟨?_, unchanged⟩⟩
      rw [lookup]
      exact Option.some_ne_none _
  · next other notReceipt stored =>
      rw [stored] at lookup
      simp only [Tx.ensures_ite, Tx.ensures_refuse]
      refine ⟨fun _ => trivial, fun _ => commits ?_⟩
      rw [lookup]
      split
      · next field rest same =>
          cases same
          exact absurd rfl (notReceipt field rest)
      · rfl
  · next absent =>
      rw [absent] at lookup
      exact commits lookup

theorem editPersona_changes (companionId : String) (request : PersonaEditRequest)
    (changeSummary : String)
    (guarded : permits.silent ∨ ¬ t.workspace.RenamedSilently sdk companionId request) :
    (editPersona sdk env companionId request changeSummary).Ensures t
      (fun _ t' => Changes sdk permits t.workspace t'.workspace) := by
  refine (editPersona_effect sdk permits env t companionId request changeSummary guarded).mono ?_
  rintro result t' ⟨companion, -, ⟨-, rfl⟩ | ⟨-, new, genome, committed⟩⟩
  · exact .refl
  · exact .single committed.change

def Workspace.PointsAt (w : Workspace) (companionId genomeId : String) : Prop :=
  ∃ companion, w.companions.get? companionId = some companion ∧
    companion.currentGenomeId = some genomeId

structure ChapterWritten (w w' : Workspace) (companionId : String) : Prop where
  change : Change sdk permits w w'
  fresh : ∀ {genomeId}, w'.PointsAt companionId genomeId → w.personaGenomes.get? genomeId = none

theorem appendWritten_effect {companion : CompanionRow} (name : String)
    (current : PersonaGenomeRow) (candidate : Genome) (source summary : String)
    (restoredFrom : Option PersonaGenomeRow)
    (found : t.workspace.companions.get? companion.companionId = some companion) :
    (appendPersona sdk env { companion with displayName := name } current candidate source summary
      restoredFrom).Ensures t (fun result t₁ => (writePersona result.2).Ensures t₁ (fun _ t' =>
        ChapterWritten sdk permits t.workspace t'.workspace companion.companionId)) := by
  refine (appendPersona_effect sdk permits env t _ _ _ _ _ _).mono ?_
  intro result t₁ appended
  have drafted : ChapterDrafted sdk permits t.workspace companion result.2 t₁.workspace :=
    appended.drafted sdk permits rfl
  refine (writePersona_change sdk permits t₁ drafted rfl found ?_ rfl).mono ?_
  · rw [appended.held]
    exact PersonaWritten.advanced companion
  · intro _ t' ⟨change, stored, _⟩
    refine ⟨change, ?_⟩
    rintro genomeId ⟨new, newFound, pointed⟩
    rw [newFound, Option.some.injEq] at stored
    rw [stored, CompanionRow.rewritten, appended.held, Option.some.injEq] at pointed
    rw [← pointed]
    exact appended.inserted.fresh

theorem changes_of_chapter {α : Type} {program : Session α} {companionId : String}
    (effect : program.Ensures t (fun _ t' => t' = t ∨
      ChapterWritten sdk permits t.workspace t'.workspace companionId)) :
    program.Ensures t (fun _ t' => Changes sdk permits t.workspace t'.workspace) := by
  refine effect.mono ?_
  rintro _ t' (unchanged | written)
  · rw [unchanged]
  · exact .single written.change

theorem renameCompanion_effect (companionId displayName : String) :
    (renameCompanion sdk env companionId displayName).Ensures t (fun _ t' => t' = t ∨
      ChapterWritten sdk permits t.workspace t'.workspace companionId) := by
  simp only [renameCompanion, Tx.ensures_bind, Tx.ensures_refuseIf, ensures_getCompanion]
  intro _
  cases found : t.workspace.companions.get? companionId with
  | none =>
      simp only [Tx.pure_eq, Tx.ensures_done]
      exact Or.inl trivial
  | some companion =>
      have named : companion.companionId = companionId := Table.key_of_get? found
      subst named
      simp only [Tx.ensures_bind, ensures_validated]
      refine (currentForEdit_readOnly t companion).mono ?_
      intro current t₁ unchanged base _
      subst unchanged
      simp only [Tx.ensures_ite, Tx.pure_eq, Tx.ensures_done, Tx.ensures_bind]
      refine ⟨fun _ => Or.inl trivial, fun _ => ?_⟩
      refine (appendWritten_effect sdk permits env t₁ _ current _ _ _ none found).mono ?_
      intro result t₂ writes
      refine writes.mono ?_
      intro _ t₃ written
      exact Or.inr written

theorem appendRestored_effect {companion : CompanionRow} (current target : PersonaGenomeRow)
    (summary : String)
    (found : t.workspace.companions.get? companion.companionId = some companion) :
    (appendRestored sdk env companion current target summary).Ensures t (fun _ t' => t' = t ∨
      ChapterWritten sdk permits t.workspace t'.workspace companion.companionId) := by
  simp only [appendRestored, Tx.ensures_ite, Tx.pure_eq, Tx.ensures_done, Tx.ensures_bind,
    ensures_validated]
  refine ⟨fun _ => Or.inl trivial, fun _ genome _ => ?_⟩
  refine (appendWritten_effect sdk permits env t companion.displayName current _ _ _ _ found).mono
    ?_
  intro result t₂ writes
  refine writes.mono ?_
  intro _ t₃ written
  exact Or.inr written

theorem restoreChapter_effect (companionId genomeId changeSummary : String)
    (ownerId : Option String) :
    (restoreChapter sdk env companionId genomeId changeSummary ownerId).Ensures t
      (fun _ t' => t' = t ∨ ChapterWritten sdk permits t.workspace t'.workspace companionId) := by
  simp only [restoreChapter, Tx.ensures_bind, Tx.ensures_refuseIf, ensures_getGenome,
    ensures_check]
  refine (companionForEdit_effect t companionId).mono ?_
  intro companion t₁ outcome _
  obtain ⟨unchanged, found, named⟩ := outcome
  subst unchanged named
  refine (currentForEdit_readOnly t₁ companion).mono ?_
  intro current t₂ unchanged target _
  subst unchanged
  exact appendRestored_effect sdk permits env t₂ current target changeSummary found

theorem resetToOrigin_effect (ownerId companionId : String) :
    (resetToOrigin sdk env ownerId companionId).Ensures t
      (fun _ t' => t' = t ∨ ChapterWritten sdk permits t.workspace t'.workspace companionId) := by
  simp only [resetToOrigin, Tx.ensures_bind, ensures_getGenome, Tx.ensures_require, Tx.ensures_read]
  refine (personaCompanion_effect t _ _).mono ?_
  intro companion t₁ outcome start _
  obtain ⟨unchanged, found, named, _⟩ := outcome
  subst unchanged named
  refine (currentForEdit_readOnly t₁ companion).mono ?_
  intro current t₂ unchanged
  subst unchanged
  exact appendRestored_effect sdk permits env t₂ current _ _ found

def Workspace.HasBase (w : Workspace) (companionId : String) (baseGenomeId : Option String) :
    Prop :=
  ∀ genomeId, baseGenomeId = some genomeId →
    ∃ genome, w.personaGenomes.get? genomeId = some genome ∧ genome.companionId = companionId

theorem checkBase_effect (companionId : String) (baseGenomeId : Option String) :
    (checkBase companionId baseGenomeId).Ensures t (fun _ t' =>
      t' = t ∧ t.workspace.HasBase companionId baseGenomeId) := by
  cases baseGenomeId with
  | none =>
      simp only [checkBase, Tx.ensures_done]
      refine ⟨trivial, ?_⟩
      intro genomeId named
      cases named
  | some base =>
      simp only [checkBase, Tx.ensures_bind, ensures_getGenome, Tx.ensures_refuseIf]
      intro accepted
      refine ⟨trivial, ?_⟩
      intro genomeId named
      cases named
      cases found : t.workspace.personaGenomes.get? base with
      | none => simp [found] at accepted
      | some genome => exact ⟨genome, rfl, by simpa [found] using accepted⟩

/-- `create_genome` would commit a genome of a stored Companion, which then
points at it under its old revision. -/
structure Workspace.CommitsSilently (w : Workspace) (request : GenomeRequest) : Prop where
  status : request.status = "committed"
  companion : ∃ companion, w.companions.get? request.companionId = some companion ∧
    companion.ownerId = request.ownerId
  base : w.HasBase request.companionId request.baseGenomeId
  fresh : w.personaGenomes.get? request.genomeId = none
  version : ∀ genome ∈ w.personaGenomes.rows, genome.companionId = request.companionId →
    genome.version ≠ request.version

theorem createGenome_changes (request : GenomeRequest)
    (permitted : permits.genomeIds request.genomeId)
    (guarded : permits.silent ∨ ¬ t.workspace.CommitsSilently request) :
    (createGenome sdk env request).Ensures t (fun _ t' => t'.workspace.Integrity →
      Changes sdk permits t.workspace t'.workspace) := by
  simp only [createGenome, Tx.ensures_bind, Tx.ensures_require, ensures_validated,
    ensures_insertGenome, Tx.ensures_ite, Tx.pure_eq, Tx.ensures_done, ensures_addFact,
    Tables.workspace_addFact]
  refine (personaCompanion_effect t _ _).mono ?_
  intro companion t₁ outcome
  obtain ⟨unchanged, found, named, owned⟩ := outcome
  subst unchanged
  refine (checkBase_effect t₁ _ _).mono ?_
  intro _ t₂ outcome status parsed row built fresh
  obtain ⟨unchanged, hasBase⟩ := outcome
  subst unchanged
  obtain ⟨genomeId, companionId, version, rowStatus, base, event, hashed⟩ :=
    GenomeSeed.row_fields sdk built
  simp only at genomeId companionId version rowStatus base event
  have stores := Table.stores_insert fresh
  have inserted : GenomeInserted sdk permits t₂.workspace row := by
    refine
      { fresh := fresh
        permitted := ?_
        hashed := hashed
        applied := ?_ }
    · rw [genomeId]
      exact permitted
    · intro committed
      rw [event, if_pos (rowStatus.symm.trans committed)]
      exact Option.some_ne_none _
  constructor
  · intro committed
    have own : row.companionId = companion.companionId := companionId.trans named.symm
    have drafted : ChapterDrafted sdk permits t₂.workspace companion
        { companion with currentGenomeId := some request.genomeId }
        { t₂.workspace with personaGenomes := t₂.workspace.personaGenomes.insert row } :=
      .appended row _ inserted own (rowStatus.trans committed) (by rw [genomeId]) stores
    refine (writePersona_effect _ rfl (by exact found) ?_).mono ?_
    · rfl
    intro _ t₃ outcome integrity
    obtain ⟨companions', companions, workspace⟩ := outcome
    rw [workspace] at integrity ⊢
    -- a version that is taken is refused by the commit
    have silent : permits.silent := by
      refine guarded.resolve_right (not_not.mpr ?_)
      refine
        { status := ?_
          companion := ⟨companion, by rw [← named]; exact found, owned⟩
          base := hasBase
          fresh := by rw [← genomeId]; exact fresh
          version := ?_ }
      · rw [← GenomeStatus.text_of_ofText? parsed, committed]
        rfl
      · intro genome member ownGenome sameVersion
        have genomeFound := (Table.mem_rows_iff _ genome).mp member
        have kept := Table.mem_of_get? (stores.kept fresh genomeFound)
        have column : some (genome.companionId, genome.version) =
            some (row.companionId, row.version) := by
          rw [ownGenome, sameVersion, companionId, version]
        have equal := integrity.genomeVersions.eq_of_mem kept (Table.mem_of_get? stores.self) column
          rfl
        rw [equal, key_genome, fresh] at genomeFound
        cases genomeFound
    have written : PersonaWritten sdk permits companion
        { companion with currentGenomeId := some request.genomeId } :=
      PersonaWritten.rewritten companion (.same rfl) (le_refl _) (Or.inl silent)
    exact .single (drafted.change found written.stored rfl companions)
  · intro notCommitted _
    exact .single (.genomeAdded row _ inserted (by rw [rowStatus]; exact notCommitted) stores)

theorem recordObservation_workspace (event : ObservationEvent) :
    (recordObservation env event).Ensures t (fun _ t' => t'.workspace = t.workspace) := by
  simp only [recordObservation, Tx.ensures_bind, ensures_addFact, Tables.workspace_addFact]
  refine (personaCompanion_effect t _ _).mono ?_
  intro companion t₁ outcome
  obtain ⟨unchanged, _⟩ := outcome
  rw [unchanged]

theorem createEvolutionProposal_changes (proposal : EvolutionProposal)
    (permitted : permits.genomeIds proposal.proposedGenomeId) :
    (createEvolutionProposal sdk env proposal).Ensures t
      (fun _ t' => Changes sdk permits t.workspace t'.workspace) := by
  simp only [createEvolutionProposal, Tx.ensures_bind, Tx.ensures_refuseIf, ensures_getGenome,
    Tx.ensures_require, ensures_validated, Tx.ensures_read, ensures_insertGenome, ensures_addFact,
    Tx.pure_eq, Tx.ensures_done, Tables.workspace_addFact]
  refine (personaCompanion_effect t _ _).mono ?_
  intro companion t₁ outcome _ base _ normalized _ _ _ row built fresh
  obtain ⟨unchanged, _⟩ := outcome
  subst unchanged
  obtain ⟨genomeId, -, -, rowStatus, -, -, hashed⟩ := GenomeSeed.row_fields sdk built
  have proposed : row.status ≠ .committed := by
    rw [rowStatus]
    simp
  have inserted : GenomeInserted sdk permits t₁.workspace row := by
    refine
      { fresh := fresh
        permitted := ?_
        hashed := hashed
        applied := fun committed => absurd committed proposed }
    rw [genomeId]
    exact permitted
  exact .single (.genomeAdded row _ inserted proposed (Table.stores_insert fresh))

structure EvolutionRead (w : Workspace) (companionId proposedGenomeId : String)
    (companion : CompanionRow) (proposal : PersonaGenomeRow) : Prop where
  companionFound : w.companions.get? companionId = some companion
  found : w.personaGenomes.get? proposedGenomeId = some proposal
  own : proposal.companionId = companionId
  proposed : proposal.status = .proposed

structure EvolutionApproved (w w' : Workspace) (companion : CompanionRow)
    (proposal : PersonaGenomeRow) (expectedBaseGenomeId : Option String) : Prop where
  base : companion.currentGenomeId = proposal.baseGenomeId
  expected : ∀ expected, expectedBaseGenomeId = some expected →
    proposal.baseGenomeId = some expected
  change : Change sdk permits w w'
  pointed : w'.PointsAt companion.companionId proposal.genomeId

/-- What an approval that comes too late records, and what it raises. -/
def evolutionDenial (ownerId companionId proposedGenomeId : String)
    (expectedBaseGenomeId : Option String) : AuditFact :=
  personaEvent env 0 ownerId companionId proposedGenomeId "persona.evolution.rejected"
    [("companion_id", .str companionId), ("genome_id", .str proposedGenomeId),
     ("expected_base_genome_id", Json.ofString? expectedBaseGenomeId),
     ("reason", .str "current genome changed before activation")] none .denied

def evolutionConflict (proposedGenomeId : String) : Error :=
  .personaGenomeConflict "current genome changed before activation" .currentChanged
    (some proposedGenomeId)

/-- An approval that comes too late: the proposal is stale, the denial is
recorded, and nothing else is written. -/
structure EvolutionDenied (t t' : Tables) (ownerId : String) (companion : CompanionRow)
    (proposal : PersonaGenomeRow) (expectedBaseGenomeId : Option String) : Prop where
  late : companion.currentGenomeId ≠ proposal.baseGenomeId ∨
    ∃ expected, expectedBaseGenomeId = some expected ∧ some expected ≠ proposal.baseGenomeId
  change : Change sdk permits t.workspace t'.workspace
  marked : Table.Stores t.workspace.personaGenomes t'.workspace.personaGenomes
    { proposal with status := .stale }
  written : t' = (t.mapWorkspace (fun w =>
    { w with personaGenomes := t'.workspace.personaGenomes })).addFact env.now
      (evolutionDenial env ownerId companion.companionId proposal.genomeId expectedBaseGenomeId)

/-- An approval commits, or comes too late. -/
theorem approveEvolution_effect (companionId ownerId proposedGenomeId : String)
    (expectedBaseGenomeId : Option String) :
    (approveEvolution sdk env companionId ownerId proposedGenomeId expectedBaseGenomeId).Ensures t
      (fun outcome t' => ∃ companion proposal,
        EvolutionRead t.workspace companionId proposedGenomeId companion proposal ∧
          ((∃ approved, outcome = .ok approved) ∧
              EvolutionApproved sdk permits t.workspace t'.workspace companion proposal
                expectedBaseGenomeId ∨
            outcome = .error (evolutionConflict proposedGenomeId) ∧
              EvolutionDenied sdk permits env t t' ownerId companion proposal
                expectedBaseGenomeId)) := by
  simp only [approveEvolution, Tx.ensures_bind, Tx.ensures_refuseIf, ensures_getGenome,
    Tx.ensures_require, Tx.ensures_ite, ensures_validated, ensures_addFact, Tx.pure_eq,
    Tx.ensures_done]
  refine (personaCompanion_effect t _ _).mono ?_
  intro companion t₁ outcome genome genomeFound status
  obtain ⟨unchanged, found, named, _⟩ := outcome
  subst unchanged
  obtain ⟨genomeStored, own⟩ := Option.filter_eq_some_iff.mp genomeFound
  have ownCompanion : genome.companionId = companionId := by
    simpa using own
  have proposed : genome.status = .proposed := by
    simpa using status
  have genomeId : genome.genomeId = proposedGenomeId := Table.key_of_get? genomeStored
  subst genomeId named
  have read : EvolutionRead t₁.workspace companion.companionId genome.genomeId companion genome :=
    { companionFound := found
      found := genomeStored
      own := ownCompanion
      proposed := proposed }
  constructor
  · intro late
    simp only [writeGenome, ensures_updateGenomeRow]
    refine ⟨companion, genome, read, Or.inr ⟨rfl, ?_⟩⟩
    have stores : Table.Stores t₁.workspace.personaGenomes
        (t₁.workspace.personaGenomes.modify genome.genomeId (fun row =>
          { row with
            status := .stale
            changeSummary := genome.changeSummary
            appliedEventId := genome.appliedEventId }) (fun _ => rfl))
        { genome with status := .stale } :=
      Table.stores_modify genomeStored
    exact
      { late := by
          refine late.imp_right ?_
          intro mismatch
          cases expected : expectedBaseGenomeId with
          | none => simp [expected] at mismatch
          | some expected' => exact ⟨expected', rfl, by simpa [expected] using mismatch⟩
        change := .genomeDecided genome { genome with status := .stale } _
          { found := genomeStored
            genomeId := rfl
            companionId := rfl
            version := rfl
            base := rfl
            document := rfl
            hash := rfl
            proposed := proposed
            decided := by simp
            applied := by simp [PersonaGenomeRow.Applied] }
          (by simp) stores
        marked := stores
        written := rfl }
  · intro current _ _ _ _ _ _ _ _
    refine (writeGenome_effect _ genome _ (by exact genomeStored) ?_ proposed ?_ ?_).mono ?_
    · rfl
    · simp
    · intro _
      exact Option.some_ne_none _
    intro _ t₂ outcome
    obtain ⟨row, genomes', decided, state, stores, workspace⟩ := outcome
    have base : companion.currentGenomeId = genome.baseGenomeId :=
      not_not.mp (fun different => current (Or.inl different))
    have drafted : ChapterDrafted sdk permits t₁.workspace companion
        { companion with
          currentGenomeId := some genome.genomeId
          revision := companion.revision + 1 } t₂.workspace := by
      rw [workspace]
      exact .approved genome row _ decided ownCompanion base state
        (by rw [decided.genomeId]) stores
    refine (writePersona_change sdk permits t₂ drafted rfl found
      (PersonaWritten.advanced companion) rfl).mono ?_
    intro _ t₃ outcome
    obtain ⟨change, pointed, _⟩ := outcome
    refine ⟨companion, genome, read, Or.inl ⟨⟨_, rfl⟩, ?_⟩⟩
    exact
      { base := base
        expected := by
          intro expected named
          by_contra different
          exact current (Or.inr (by simpa [named] using Ne.symm different))
        change := change
        pointed := ⟨_, pointed, rfl⟩ }

theorem rejectEvolution_changes (ownerId genomeId : String) (companionId : Option String)
    (reason : String) :
    (rejectEvolution env ownerId genomeId companionId reason).Ensures t
      (fun _ t' => Changes sdk permits t.workspace t'.workspace) := by
  simp only [rejectEvolution, Tx.ensures_bind, Tx.ensures_refuseIf, ensures_getGenome,
    Tx.ensures_require, ensures_addFact, Tx.pure_eq, Tx.ensures_done, Tables.workspace_addFact]
  intro genome genomeFound _
  have stored : genome.genomeId = genomeId := Table.key_of_get? genomeFound
  subst stored
  refine (personaCompanion_effect t _ _).mono ?_
  intro companion t₁ outcome status
  obtain ⟨unchanged, _⟩ := outcome
  subst unchanged
  have proposed : genome.status = .proposed := by
    simpa using status
  refine (writeGenome_effect t₁ genome _ genomeFound ?_ proposed ?_ ?_).mono ?_
  · rfl
  · simp
  · simp [PersonaGenomeRow.Applied]
  intro _ t₂ outcome
  obtain ⟨row, genomes', decided, state, stores, workspace⟩ := outcome
  rw [workspace]
  exact .single (.genomeDecided genome row _ decided (by rw [state]; simp) stores)

end EidolonData
