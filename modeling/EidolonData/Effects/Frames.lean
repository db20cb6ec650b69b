import EidolonData.Commands
import EidolonData.Library.Frame
import EidolonData.Workspace.Chapters

/-!
# What the commands leave alone

Every service writes the tables of its own aggregate.  The tables beside it
are a part of the database that no statement of its commands touches.
-/

namespace EidolonData

open Relational

section Rules

variable {α γ : Type} {part : Tables → γ}

@[simp] theorem keeps_check (outcome : Except Error α) (post : α → Prop) :
    (check outcome).Keeps part post ↔ ∀ value, outcome = .ok value → post value :=
  Tx.keeps_lift id outcome post

@[simp] theorem keeps_validated (outcome : Except String α) (post : α → Prop) :
    (validated outcome).Keeps part post ↔ ∀ value, outcome = .ok value → post value :=
  Tx.keeps_lift Error.validationError outcome post

@[simp] theorem keeps_effect (program : Session α) (post : Unit → Prop) :
    (effect program).Keeps part post ↔ program.Keeps part (fun _ => post ()) := by
  simp only [effect, Tx.keeps_bind, Tx.pure_eq, Tx.keeps_done]

theorem spares_effect {program : Session α} (spares : program.Spares part) :
    (effect program).Spares part :=
  ⟨(keeps_effect program _).mpr spares.all⟩

/-- What is kept of a part is kept of all that is read off it. -/
theorem spares_view {δ : Type} {program : Session α} (spares : program.Spares part)
    (view : γ → δ) : program.Spares (fun t => view (part t)) :=
  ⟨spares.all.view view⟩

@[simp] theorem keeps_getOwner (ownerId : String) (post : Option OwnerRow → Prop) :
    (getOwner ownerId).Keeps part post ↔ ∀ stored, post stored := Iff.rfl

@[simp] theorem keeps_getCompanion (companionId : String) (post : Option CompanionRow → Prop) :
    (getCompanion companionId).Keeps part post ↔ ∀ stored, post stored := Iff.rfl

@[simp] theorem keeps_getGenome (genomeId : String) (post : Option PersonaGenomeRow → Prop) :
    (getGenome genomeId).Keeps part post ↔ ∀ stored, post stored := Iff.rfl

@[simp] theorem keeps_getRealm (realmId : String) (post : Option MemoryRealmRow → Prop) :
    (getRealm realmId).Keeps part post ↔ ∀ stored, post stored := Iff.rfl

@[simp] theorem keeps_getBinding (bindingId : String) (post : Option GuardBindingRow → Prop) :
    (getBinding bindingId).Keeps part post ↔ ∀ stored, post stored := Iff.rfl

end Rules

def Workspace.personalRealms (w : Workspace) : List MemoryRealmRow :=
  w.memoryRealms.select (fun row => row.personId.isSome)

/-- What belongs to the Persons and the teams of the Owners. -/
structure Beside where
  people : People
  teams : Teams
  realms : List MemoryRealmRow

def Tables.beside (t : Tables) : Beside :=
  { people := t.people
    teams := t.teams
    realms := t.workspace.personalRealms }

/-- What the commands on Owners and Companions leave alone. -/
def Tables.besideWorkspace (t : Tables) : SmartHome × Beside := (t.home, t.beside)

/-- A part of the database that shows no more of the workspace than its
chapters and its personal realms. -/
class Tables.ShowsChapters {γ : Type} (part : Tables → γ) : Prop where
  workspace : ∀ (t : Tables) (change : Workspace → Workspace),
    (change t.workspace).chapters = t.workspace.chapters →
    (change t.workspace).personalRealms = t.workspace.personalRealms →
    part (t.mapWorkspace change) = part t
  fact : ∀ (t : Tables) (now : Timestamp) (fact : AuditFact), part (t.addFact now fact) = part t

/-- A part of the database that shows no more of the workspace than its
personal realms. -/
class Tables.ShowsRealms {γ : Type} (part : Tables → γ) : Prop where
  workspace : ∀ (t : Tables) (change : Workspace → Workspace),
    (change t.workspace).personalRealms = t.workspace.personalRealms →
    part (t.mapWorkspace change) = part t
  fact : ∀ (t : Tables) (now : Timestamp) (fact : AuditFact), part (t.addFact now fact) = part t

instance {γ : Type} {part : Tables → γ} [shows : Tables.ShowsRealms part] :
    Tables.ShowsChapters part where
  workspace t change _ same := shows.workspace t change same
  fact := shows.fact

section Workspace

theorem besideWorkspace_mapWorkspace (t : Tables) {change : Workspace → Workspace}
    (same : (change t.workspace).personalRealms = t.workspace.personalRealms) :
    (t.mapWorkspace change).besideWorkspace = t.besideWorkspace := by
  simp only [Tables.besideWorkspace, Tables.beside, Tables.workspace_mapWorkspace, same]
  rfl

theorem personalRealms_insert (w : Workspace) {realm : MemoryRealmRow}
    (shared : realm.personId = none) (fresh : w.memoryRealms.has realm.realmId = false) :
    ({ w with memoryRealms := w.memoryRealms.insert realm } : Workspace).personalRealms =
      w.personalRealms := by
  have none := Table.has_eq_false_iff.mp fresh
  simp only [Workspace.personalRealms, Table.select, Table.rows_insert none, List.filter_append]
  simp [shared]

instance : Tables.ShowsRealms Tables.besideWorkspace where
  workspace t _ same := besideWorkspace_mapWorkspace t same
  fact _ _ _ := rfl

instance : Tables.ShowsRealms Tables.beside where
  workspace t _ same := congrArg Prod.snd (besideWorkspace_mapWorkspace t same)
  fact _ _ _ := rfl

instance : Tables.ShowsRealms Tables.faces where
  workspace _ _ _ := rfl
  fact _ _ _ := rfl

section Rules

variable {post : Unit → Prop} {γ : Type} {part : Tables → γ}

section Aggregates

variable [shows : Tables.ShowsRealms part]

@[simp] theorem keeps_insertCompanion (row : CompanionRow) :
    (insertCompanion row).Keeps part post ↔ post () := by
  simp only [insertCompanion, Tx.keeps_attempt_guarded, and_iff_right_iff_imp]
  intro _ t _
  exact shows.workspace t _ rfl

@[simp] theorem keeps_insertGenome (row : PersonaGenomeRow) :
    (insertGenome row).Keeps part post ↔ post () := by
  simp only [insertGenome, Tx.keeps_attempt_guarded, and_iff_right_iff_imp]
  intro _ t _
  exact shows.workspace t _ rfl

@[simp] theorem keeps_updateCompanion (companionId : String)
    (change : CompanionRow → CompanionRow) (keeps : ∀ row, key (change row) = key row) :
    (updateCompanionRow companionId change keeps).Keeps part post ↔ post () := by
  simp only [updateCompanionRow, Tx.keeps_modify, and_iff_right_iff_imp]
  intro _ t
  exact shows.workspace t _ rfl

@[simp] theorem keeps_updateGenomeRow (genomeId : String)
    (change : PersonaGenomeRow → PersonaGenomeRow) (keeps : ∀ row, key (change row) = key row) :
    (updateGenomeRow genomeId change keeps).Keeps part post ↔ post () := by
  simp only [updateGenomeRow, Tx.keeps_modify, and_iff_right_iff_imp]
  intro _ t
  exact shows.workspace t _ rfl

end Aggregates

variable [shows : Tables.ShowsChapters part]

@[simp] theorem keeps_insertOwner (row : OwnerRow) :
    (insertOwner row).Keeps part post ↔ post () := by
  simp only [insertOwner, Tx.keeps_attempt_guarded, and_iff_right_iff_imp]
  intro _ t _
  exact shows.workspace t _ rfl rfl

theorem keeps_insertSharedRealm {row : MemoryRealmRow} (shared : row.personId = none) :
    (insertRealm row).Keeps part post ↔ post () := by
  simp only [insertRealm, Tx.keeps_attempt_guarded, and_iff_right_iff_imp]
  intro _ t absent
  apply shows.workspace t _ rfl
  exact personalRealms_insert t.workspace shared (by simpa using absent)

@[simp] theorem keeps_updateOwnerRow (ownerId : String) (change : OwnerRow → OwnerRow)
    (keeps : ∀ row, key (change row) = key row) :
    (updateOwnerRow ownerId change keeps).Keeps part post ↔ post () := by
  simp only [updateOwnerRow, Tx.keeps_modify, and_iff_right_iff_imp]
  intro _ t
  exact shows.workspace t _ rfl rfl

theorem keeps_updateCompanionRow (companionId : String)
    {change : CompanionRow → CompanionRow} {keeps : ∀ row, key (change row) = key row}
    (same : ∀ row, (change row).persona = row.persona) :
    (updateCompanionRow companionId change keeps).Keeps part post ↔ post () := by
  simp only [updateCompanionRow, Tx.keeps_modify, and_iff_right_iff_imp]
  intro _ t
  refine shows.workspace t _ ?_ rfl
  exact (t.workspace.chapters_modify companionId id same).trans (Chapters.rewrite_id _ _)

@[simp] theorem keeps_updateBindingRow (bindingId : String)
    (change : GuardBindingRow → GuardBindingRow) (keeps : ∀ row, key (change row) = key row) :
    (updateBindingRow bindingId change keeps).Keeps part post ↔ post () := by
  simp only [updateBindingRow, Tx.keeps_modify, and_iff_right_iff_imp]
  intro _ t
  exact shows.workspace t _ rfl rfl

@[simp] theorem keeps_addFact (env : Env) (fact : AuditFact) :
    (addFact env fact).Keeps part post ↔ post () := by
  simp only [addFact, Tx.keeps_modify, and_iff_right_iff_imp]
  intro _ t
  exact shows.fact t env.now fact

@[simp] theorem keeps_pointAtRealm (companionId realmId : String) :
    (pointAtRealm companionId realmId).Keeps part post ↔ post () :=
  keeps_updateCompanionRow companionId (fun _ => rfl)

@[simp] theorem keeps_writeLifecycle (companion : CompanionRow) :
    (writeLifecycle companion).Keeps part post ↔ post () :=
  keeps_updateCompanionRow companion.companionId (fun _ => rfl)

end Rules

section Owners

variable {γ : Type} {part : Tables → γ} [Tables.ShowsChapters part] (env : Env) (ownerId : String)

theorem createOwner_spares (displayName kind : String)
    (profileJson settingsJson : Option JsonDict) :
    (createOwner env ownerId displayName kind profileJson settingsJson).Spares part := by
  simp [createOwner]

theorem updateOwner_spares (displayName : Option String)
    (profileJson settingsJson : Option JsonDict) :
    (updateOwner env ownerId displayName profileJson settingsJson).Spares part := by
  simp [updateOwner]

theorem renameOwner_spares (displayName : String) :
    (renameOwner ownerId displayName).Spares part := by
  simp only [renameOwner, Tx.spares_iff, Tx.keeps_bind, keeps_getOwner]
  intro stored
  cases stored with
  | none => trivial
  | some owner => simp

end Owners

section Realms

variable {γ : Type} {part : Tables → γ} [Tables.ShowsChapters part] (env : Env)

theorem ensureMemoryRealmInSession_spares (companion : CompanionRow) (request : RealmRequest) :
    (ensureMemoryRealmInSession env companion request).Spares part := by
  simp only [ensureMemoryRealmInSession, Tx.spares_iff, Tx.keeps_bind, Tx.keeps_read]
  intro existing
  cases existing with
  | some realm => simp
  | none =>
      have inserts : ∀ ownerId realmId post,
          (insertRealm (request.row env.now ownerId realmId)).Keeps part post ↔ post () :=
        fun _ _ _ => keeps_insertSharedRealm rfl
      simp [createMemoryRealm, inserts]

theorem realmCataloged_spares (ownerId companionId : String) (realm : MemoryRealmRow) :
    (realmCataloged env ownerId companionId realm).Spares part := by
  simp [realmCataloged]

omit [Tables.ShowsChapters part] in
theorem ownedActiveCompanion_spares (ownerId companionId : String) :
    (ownedActiveCompanion ownerId companionId).Spares part := by
  simp [ownedActiveCompanion]

theorem ensureMemoryRealm_spares (ownerId companionId : String) (request : RealmRequest) :
    (ensureMemoryRealm env ownerId companionId request).Spares part := by
  refine Tx.spares_bind (ownedActiveCompanion_spares ownerId companionId) ?_
  intro companion
  refine Tx.spares_bind (ensureMemoryRealmInSession_spares env companion request) ?_
  rintro ⟨realm, created⟩
  cases created with
  | true => exact Tx.spares_bind (realmCataloged_spares env _ _ _) (fun _ => ⟨trivial⟩)
  | false => exact ⟨trivial⟩

end Realms

section Companions

variable (sdk : Sdk) (env : Env)

section Provisioning

variable {γ : Type} {part : Tables → γ} [Tables.ShowsRealms part]

theorem provisionWorkspaceInSession_spares (seed : WorkspaceSeed) :
    (provisionWorkspaceInSession sdk env seed).Spares part := by
  have ensured : ∀ companion, (ensureMemoryRealmInSession env companion seed.realm).Spares part :=
    fun companion => ensureMemoryRealmInSession_spares env companion seed.realm
  simp [provisionWorkspaceInSession, claimDefault, Tx.Spares.keeps (ensured _)]

theorem provisionWorkspace_spares (request : ProvisionWorkspaceRequest) :
    (provisionWorkspace sdk env request).Spares part := by
  simp only [provisionWorkspace, Tx.spares_iff, Tx.keeps_bind, keeps_check]
  intro seed _
  exact (provisionWorkspaceInSession_spares sdk env seed).all

omit [Tables.ShowsRealms part] in
theorem loadProvisionResult_spares (request : ProvisionRequest) (companion : CompanionRow) :
    (loadProvisionResult request companion).Spares part := by
  simp [loadProvisionResult, activeRealmForOwner]

theorem provisionCompanion_spares (request : ProvisionRequest) :
    (provisionCompanion sdk env request).Spares part := by
  simp only [provisionCompanion, Tx.spares_iff, Tx.keeps_bind, keeps_check, keeps_getCompanion]
  rintro ⟨kind, displayName⟩ _ stored
  cases stored with
  | some companion => exact (loadProvisionResult_spares request companion).all
  | none =>
      simp only [createProvision, activeRealmForOwner, Tx.keeps_bind, Tx.keeps_read,
        keeps_validated]
      intro realmBefore genome _
      exact Tx.Spares.keeps (provisionWorkspaceInSession_spares sdk env _) (fun _ => trivial)

end Provisioning

section Lifecycle

variable {γ : Type} {part : Tables → γ} [Tables.ShowsChapters part]

theorem setDefaultCompanion_spares (ownerId companionId : String) (expectedRevision : Option Int) :
    (setDefaultCompanion env ownerId companionId expectedRevision).Spares part := by
  refine Tx.spares_bind (ownedActiveCompanion_spares ownerId companionId) ?_
  intro companion
  have moves : ∀ owner, (moveDefault env owner companionId).Spares part := by
    intro owner
    simp [moveDefault, writeDefault]
  simp only [Tx.spares_iff, Tx.keeps_bind, Tx.keeps_refuseIf, keeps_getOwner, Tx.keeps_require]
  intro _ stored owner _ _
  refine Tx.Spares.keeps (moves owner) (fun _ => ?_)
  refine Tx.Spares.keeps (ensureMemoryRealmInSession_spares env companion {}) ?_
  rintro ⟨realm, created⟩
  cases created with
  | true => exact (realmCataloged_spares env _ _ _).keeps (fun _ => trivial)
  | false => trivial

variable (ownerId companionId : String) (expectedRevision : Option Int)

omit [Tables.ShowsChapters part] in
theorem ownedCompanion_spares :
    (ownedCompanion ownerId companionId).Spares part := by
  simp [ownedCompanion]

theorem retire_spares (companion : CompanionRow) (replacementCompanionId : Option String) :
    (retire sdk env ownerId companion expectedRevision replacementCompanionId).Spares part := by
  simp [retire, handOverDefault, eligibleReplacement, writeDefault]

theorem archive_spares (companion : CompanionRow) (loaded : Option OwnerRow) :
    (archive sdk env ownerId companion loaded expectedRevision).Spares part := by
  cases loaded with
  | some owner => simp [archive, getLoadedOwner]
  | none => simp [archive, getLoadedOwner]

theorem beginRetirement_spares (replacementCompanionId : Option String) :
    (beginRetirement sdk env ownerId companionId expectedRevision replacementCompanionId).Spares
      part := by
  refine Tx.spares_bind (ownedCompanion_spares ownerId companionId) ?_
  intro companion
  exact Tx.spares_bind (retire_spares sdk env _ _ _ _) (fun _ => ⟨trivial⟩)

theorem archiveCompanion_spares :
    (archiveCompanion sdk env ownerId companionId expectedRevision).Spares part :=
  Tx.spares_bind (ownedCompanion_spares ownerId companionId)
    (fun companion => archive_spares sdk env _ _ companion _)

theorem putAwayCompanion_spares (replacementCompanionId : Option String) :
    (putAwayCompanion sdk env ownerId companionId expectedRevision replacementCompanionId).Spares
      part := by
  refine Tx.spares_bind (ownedCompanion_spares ownerId companionId) ?_
  intro companion
  simp only [Tx.spares_iff, Tx.keeps_ite, Tx.keeps_bind, Tx.pure_eq, Tx.keeps_done, implies_true,
    and_true]
  intro _
  exact Tx.Spares.keeps (retire_spares sdk env _ _ _ _)
    (fun _ => (archive_spares sdk env _ _ _ _).all)

theorem restoreCompanion_spares :
    (restoreCompanion sdk env ownerId companionId expectedRevision).Spares part := by
  refine Tx.spares_bind (ownedCompanion_spares ownerId companionId) ?_
  intro companion
  simp

theorem bindGuard_spares (ownerId guardCompanionId deviceId policyId : String)
    (policyJson : Option JsonDict) (bindingId : Option String) :
    (bindGuard env ownerId guardCompanionId deviceId policyId policyJson bindingId).Spares
      part := by
  simp only [bindGuard, Tx.spares_iff, Tx.keeps_bind, keeps_check, keeps_getCompanion,
    Tx.keeps_attempt_guarded, keeps_addFact, Tx.keeps_read, Tx.keeps_refuseIf, Tx.pure_eq,
    Tx.keeps_done, implies_true, and_true]
  intros
  exact Tables.ShowsChapters.workspace _ _ rfl rfl

theorem updateGuardPolicy_spares (bindingId : String) (expectedRevision : Int) (policyId : String)
    (policyJson : JsonDict) :
    (updateGuardPolicy env bindingId expectedRevision policyId policyJson).Spares part := by
  simp [updateGuardPolicy]

theorem disableGuard_spares (bindingId : String) (revoke : Bool) :
    (disableGuard env bindingId revoke).Spares part := by
  simp [disableGuard]

end Lifecycle

section Genomes

variable {γ : Type} {part : Tables → γ} [Tables.ShowsRealms part] (ownerId companionId : String)

@[simp] theorem keeps_writePersona (companion : CompanionRow) {post : Unit → Prop} :
    (writePersona companion).Keeps part post ↔ post () := by
  simp [writePersona]

@[simp] theorem keeps_writeGenome (genome : PersonaGenomeRow) {post : Unit → Prop} :
    (writeGenome genome).Keeps part post ↔ post () := by
  simp [writeGenome]

theorem appendPersona_spares (companion : CompanionRow) (current : PersonaGenomeRow)
    (candidate : Genome) (source summary : String) (restoredFrom : Option PersonaGenomeRow) :
    (appendPersona sdk env companion current candidate source summary restoredFrom).Spares
      part := by
  cases restoredFrom with
  | some target => simp [appendPersona]
  | none => simp [appendPersona]

omit [Tables.ShowsRealms part] in
theorem draftEdit_spares (request : PersonaEditRequest) (companion : CompanionRow)
    (current : PersonaGenomeRow) (base : Genome) (changeSummary : String) :
    (draftEdit sdk request companion current base changeSummary).Spares part := by
  unfold draftEdit
  cases request.action with
  | rename => simp
  | restore => simp
  | author => simp

theorem draftChapter_spares (draft : EditDraft) (current : PersonaGenomeRow) (base : Genome) :
    (draftChapter sdk env draft current base).Spares part := by
  simp only [draftChapter, Tx.spares_iff, Tx.keeps_ite, Tx.keeps_done, implies_true, and_true]
  intro _
  exact (appendPersona_spares sdk env _ _ _ _ _ _).all

theorem commitEdit_spares (companion : CompanionRow) (receipts : JsonDict)
    (request : PersonaEditRequest) (changeSummary : String) :
    (commitEdit sdk env companion receipts request changeSummary).Spares part := by
  simp only [commitEdit, currentForEdit, Tx.spares_iff, Tx.keeps_bind, keeps_getGenome,
    Tx.keeps_require, keeps_validated, Tx.keeps_refuseIf]
  intros
  refine Tx.Spares.keeps (draftEdit_spares sdk _ _ _ _ _) (fun draft => ?_)
  refine Tx.Spares.keeps (draftChapter_spares sdk env _ _ _) ?_
  rintro ⟨current, companion⟩
  simp

omit [Tables.ShowsRealms part] in
theorem replayEdit_spares (receipt : JsonDict) (fingerprint : String) :
    (replayEdit sdk receipt fingerprint).Spares part := by
  simp [replayEdit]

theorem editPersona_spares (request : PersonaEditRequest) (changeSummary : String) :
    (editPersona sdk env companionId request changeSummary).Spares part := by
  simp only [editPersona, companionForEdit, Tx.spares_iff, Tx.keeps_bind, keeps_getCompanion,
    Tx.keeps_require, keeps_validated]
  intro _ companion _ receipts _
  split
  · exact (replayEdit_spares sdk _ _).all
  · rw [Tx.keeps_ite]
    exact ⟨fun _ => trivial, fun _ => (commitEdit_spares sdk env _ _ _ _).all⟩
  · exact (commitEdit_spares sdk env _ _ _ _).all

theorem renameCompanion_spares (displayName : String) :
    (renameCompanion sdk env companionId displayName).Spares part := by
  simp only [renameCompanion, Tx.spares_iff, Tx.keeps_bind, Tx.keeps_refuseIf, keeps_getCompanion]
  intro _ stored
  cases stored with
  | none => trivial
  | some companion =>
      simp only [currentForEdit, Tx.keeps_bind, keeps_getGenome, Tx.keeps_require, keeps_validated,
        Tx.keeps_ite, Tx.pure_eq, Tx.keeps_done]
      intros
      refine ⟨fun _ => trivial, fun _ => ?_⟩
      refine Tx.Spares.keeps (appendPersona_spares sdk env _ _ _ _ _ _) ?_
      rintro ⟨row, renamed⟩
      simp

theorem appendRestored_spares (companion : CompanionRow) (current target : PersonaGenomeRow)
    (summary : String) :
    (appendRestored sdk env companion current target summary).Spares part := by
  simp only [appendRestored, Tx.spares_iff, Tx.keeps_ite, Tx.keeps_bind,
    keeps_validated, Tx.pure_eq, Tx.keeps_done, implies_true, true_and]
  intros
  refine Tx.Spares.keeps (appendPersona_spares sdk env _ _ _ _ _ _) ?_
  rintro ⟨row, restored⟩
  simp

theorem restoreChapter_spares (genomeId changeSummary : String) (owner : Option String) :
    (restoreChapter sdk env companionId genomeId changeSummary owner).Spares part := by
  simp only [restoreChapter, companionForEdit, currentForEdit, Tx.spares_iff, Tx.keeps_bind,
    keeps_getCompanion, Tx.keeps_require, Tx.keeps_refuseIf, keeps_getGenome, keeps_check]
  intros
  exact (appendRestored_spares sdk env _ _ _ _).all

theorem rollbackToGenome_spares (genomeId : String) :
    (rollbackToGenome sdk env ownerId companionId genomeId).Spares part :=
  restoreChapter_spares sdk env companionId genomeId _ _

theorem resetToOrigin_spares :
    (resetToOrigin sdk env ownerId companionId).Spares part := by
  simp only [resetToOrigin, personaCompanion, currentForEdit, Tx.spares_iff, Tx.keeps_bind,
    keeps_getCompanion, Tx.keeps_require, keeps_getGenome, Tx.keeps_read]
  intros
  exact (appendRestored_spares sdk env _ _ _ _).all

omit [Tables.ShowsRealms part] in
theorem personaCompanion_spares :
    (personaCompanion ownerId companionId).Spares part := by
  simp [personaCompanion]

theorem createGenome_spares (request : GenomeRequest) :
    (createGenome sdk env request).Spares part := by
  refine Tx.spares_bind (personaCompanion_spares _ _) (fun companion => ?_)
  have base : (checkBase request.companionId request.baseGenomeId).Spares part := by
    cases request.baseGenomeId with
    | none => exact ⟨trivial⟩
    | some baseGenomeId => simp [checkBase]
  refine Tx.spares_bind base (fun _ => ?_)
  simp

theorem recordObservation_spares (event : ObservationEvent) :
    (recordObservation env event).Spares part := by
  refine Tx.spares_bind (personaCompanion_spares _ _) (fun companion => ?_)
  simp

theorem createEvolutionProposal_spares (proposal : EvolutionProposal) :
    (createEvolutionProposal sdk env proposal).Spares part := by
  refine Tx.spares_bind (personaCompanion_spares _ _) (fun companion => ?_)
  simp

theorem approveEvolution_spares (proposedGenomeId : String)
    (expectedBaseGenomeId : Option String) :
    (approveEvolution sdk env companionId ownerId proposedGenomeId expectedBaseGenomeId).Spares
      part := by
  refine Tx.spares_bind (personaCompanion_spares _ _) (fun companion => ?_)
  simp

theorem rejectEvolution_spares (genomeId : String) (companion : Option String)
    (reason : String) :
    (rejectEvolution env ownerId genomeId companion reason).Spares part := by
  simp only [rejectEvolution, personaCompanion, Tx.spares_iff, Tx.keeps_bind, keeps_getGenome,
    Tx.keeps_require, Tx.keeps_refuseIf, keeps_getCompanion]
  simp

end Genomes

end Companions

end Workspace

end EidolonData
