import EidolonData.Services.Owners
import EidolonData.Workspace.Persistence

/-!
# Effects of the Owner and provisioning commands

Each transaction is run symbolically and its writes are named as changes of
the workspace.
-/

namespace EidolonData

open Relational

theorem fieldFits_of_ownerId {ownerId value : String}
    (valid : validateOwnerId ownerId = .ok value) :
    fieldFits value 64 = true ∧ value = ownerId := by
  unfold validateOwnerId at valid
  simp only [ne_eq] at valid
  split at valid
  · cases valid
  · next accepted =>
      have same : strip ownerId = value := by simpa using valid
      simp only [not_or, not_not, Bool.not_eq_false] at accepted
      obtain ⟨unpadded, matched⟩ := accepted
      refine ⟨?_, by rw [← same, unpadded]⟩
      rw [same] at matched
      unfold matchesOwnerId matchesIdentifier at matched
      cases chars : value.toList with
      | nil => simp [chars] at matched
      | cons first rest =>
          rw [chars] at matched
          simp only [Bool.and_eq_true, decide_eq_true_eq] at matched
          have length : value.length = rest.length + 1 := by
            rw [← String.length_toList, chars, List.length_cons]
          simp only [fieldFits, length, Bool.and_eq_true, decide_eq_true_eq]
          omega

theorem fieldFits_of_matchesGeneratedId {value : String}
    (matched : matchesGeneratedId value = true) : fieldFits value 64 = true := by
  obtain ⟨-, nonempty, short⟩ := matchesGeneratedId_solid matched
  have positive : value.length ≠ 0 := by
    intro zero
    apply nonempty
    exact String.length_eq_zero_iff.mp zero
  simp only [fieldFits, Bool.and_eq_true, decide_eq_true_eq]
  omega

theorem matches_of_validateGeneratedId {label value : String} {checked : Unit}
    (valid : validateGeneratedId label value = .ok checked) :
    matchesGeneratedId value = true := by
  unfold validateGeneratedId at valid
  split at valid
  · next matched => exact matched
  · cases valid

section Owners

variable (sdk : Sdk) (permits : Permits) (env : Env) (t : Tables)

theorem createOwner_changes (ownerId displayName kind : String)
    (profileJson settingsJson : Option JsonDict) :
    (createOwner env ownerId displayName kind profileJson settingsJson).Ensures t
      (fun _ t' => Changes sdk permits t.workspace t'.workspace) := by
  simp [createOwner]
  intro value valid kind' _ fresh
  obtain ⟨fits, rfl⟩ := fieldFits_of_ownerId valid
  exact .single (.ownerCreated _ _ fresh rfl rfl fits (Table.stores_insert fresh))

theorem updateOwner_changes (ownerId : String) (displayName : Option String)
    (profileJson settingsJson : Option JsonDict) :
    (updateOwner env ownerId displayName profileJson settingsJson).Ensures t
      (fun _ t' => Changes sdk permits t.workspace t'.workspace) := by
  simp [updateOwner]
  intro owner found _ name _
  constructor
  · intros
    exact .refl
  · intro _
    have stored := Table.key_of_get? found
    subst stored
    refine .single (.ownerEdited owner _ _ found ?_ ?_ ?_ ?_ (Table.stores_modify found))
    · rfl
    · rfl
    · rfl
    · exact le_refl _

theorem renameOwner_changes (ownerId displayName : String) :
    (renameOwner ownerId displayName).Ensures t
      (fun _ t' => Changes sdk permits t.workspace t'.workspace) := by
  simp [renameOwner]
  cases found : t.workspace.owners.get? ownerId with
  | none =>
      simp
      exact .refl
  | some owner =>
      have stored := Table.key_of_get? found
      subst stored
      simp
      refine .single (.ownerEdited owner _ _ found ?_ ?_ ?_ ?_ (Table.stores_modify found))
      · rfl
      · rfl
      · rfl
      · exact le_refl _

/-- Archiving an Owner rewrites the workspace as its function says, or finds
it archived already. -/
theorem archiveOwner_effect (ownerId : String) :
    (archiveOwner env ownerId).Ensures t (fun _ t' =>
      t'.workspace = t.workspace ∨
        ∃ owner, t.workspace.owners.get? ownerId = some owner ∧ owner.status = .active ∧
          t'.workspace = t.workspace.archiveOwner env.now owner) := by
  simp [archiveOwner]
  intro owner found _ active
  exact Or.inr ⟨owner, found, active, rfl⟩

end Owners

section Provisioning

theorem oldestSharedRealm_some {realms : Table MemoryRealmRow} {ownerId : String}
    {realm : MemoryRealmRow} (found : oldestSharedRealm realms ownerId = some realm) :
    realms.get? realm.realmId = some realm ∧ realm.isShared ownerId = true := by
  have member : realm ∈ realms.select (fun row => row.isShared ownerId) :=
    List.argmin_mem found
  exact Table.mem_select.mp member

theorem RealmEnsured.refl {realms : Table MemoryRealmRow} {ownerId : String}
    {realm : MemoryRealmRow} (stored : realms.get? realm.realmId = some realm)
    (shared : realm.isShared ownerId = true) : RealmEnsured realms realms ownerId realm :=
  { stored := stored
    shared := shared
    kept := id
    added := Or.inl }

theorem RealmEnsured.insert {realms : Table MemoryRealmRow} {ownerId : String}
    {realm : MemoryRealmRow} (fresh : realms.get? realm.realmId = none)
    (shared : realm.isShared ownerId = true)
    (valid : matchesGeneratedId realm.realmId = true) :
    RealmEnsured realms (realms.insert realm) ownerId realm := by
  have stores : Table.Stores realms (realms.insert realm) realm := Table.stores_insert fresh
  refine ⟨stores.self, shared, ?_, ?_⟩
  · intro realmId row found
    rw [stores.other, found]
    rintro rfl
    exact absurd found (by simp [fresh])
  · intro realmId row found
    by_cases same : realmId = realm.realmId
    · subst same
      have stored : (realms.insert realm).get? realm.realmId = some realm := stores.self
      rw [stored] at found
      cases found
      exact Or.inr ⟨rfl, valid⟩
    · rw [stores.other same] at found
      exact Or.inl found

theorem RealmRequest.row_isShared (request : RealmRequest) (now : Timestamp)
    (ownerId realmId : String) : (request.row now ownerId realmId).isShared ownerId = true := by
  simp [RealmRequest.row, MemoryRealmRow.isShared]

@[simp] theorem RealmRequest.row_realmId (request : RealmRequest) (now : Timestamp)
    (ownerId realmId : String) : (request.row now ownerId realmId).realmId = realmId := rfl

variable (sdk : Sdk) (permits : Permits) (env : Env) (t : Tables)

/-- The Companion points at its Owner's realm, and nothing else has changed. -/
def RealmPointed (w w' : Workspace) (companion : CompanionRow) (realm : MemoryRealmRow) : Prop :=
  ∃ realms', RealmEnsured w.memoryRealms realms' companion.ownerId realm ∧
    w' = { w with
      companions := w.companions.modify companion.companionId (fun row =>
        { row with defaultMemoryRealmId := some realm.realmId })
      memoryRealms := realms' }

theorem ensureMemoryRealmInSession_effect (companion : CompanionRow) (request : RealmRequest) :
    (ensureMemoryRealmInSession env companion request).Ensures t (fun result t' =>
      RealmPointed t.workspace t'.workspace companion result.1 ∧
        (t.workspace.memoryRealms.get? result.1.realmId = some result.1 ∨
          result.1.realmId = orDefault request.realmId ("r_" ++ (env.uuid 0).hex))) := by
  simp only [ensureMemoryRealmInSession, Tx.ensures_bind, Tx.ensures_read]
  cases existing : oldestSharedRealm t.workspace.memoryRealms companion.ownerId with
  | some realm =>
      obtain ⟨stored, shared⟩ := oldestSharedRealm_some existing
      simp [pointAtRealm]
      refine ⟨⟨_, RealmEnsured.refl stored shared, rfl⟩, ?_⟩
      exact Or.inl stored
  | none =>
      simp [createMemoryRealm, pointAtRealm]
      intro _ valid fresh
      exact ⟨_, RealmEnsured.insert fresh (RealmRequest.row_isShared _ _ _ _)
        (matches_of_validateGeneratedId valid), rfl⟩

theorem RealmPointed.change {w w' : Workspace} {companion : CompanionRow}
    {realm : MemoryRealmRow} (pointed : RealmPointed w w' companion realm)
    (found : w.companions.get? companion.companionId = some companion)
    (active : companion.lifecycleState = .active) : Change sdk permits w w' := by
  obtain ⟨realms', ensured, rfl⟩ := pointed
  exact .realmPointed companion realm _ _ found active (Table.stores_modify found) ensured

theorem ownedActiveCompanion_effect (ownerId companionId : String) :
    (ownedActiveCompanion ownerId companionId).Ensures t (fun companion t' =>
      t' = t ∧ t.workspace.companions.get? companion.companionId = some companion ∧
        companion.companionId = companionId ∧ companion.ownerId = ownerId ∧
        companion.lifecycleState = .active) := by
  simp [ownedActiveCompanion]
  intro companion found owned active
  have stored : companion.companionId = companionId := Table.key_of_get? found
  subst stored
  exact ⟨found, rfl, owned, active⟩

theorem ensureMemoryRealm_changes (ownerId companionId : String) (request : RealmRequest) :
    (ensureMemoryRealm env ownerId companionId request).Ensures t
      (fun _ t' => Changes sdk permits t.workspace t'.workspace) := by
  simp only [ensureMemoryRealm, Tx.ensures_bind]
  refine (ownedActiveCompanion_effect t ownerId companionId).mono ?_
  rintro companion _ ⟨rfl, found, -, -, active⟩
  refine (ensureMemoryRealmInSession_effect env _ companion request).mono ?_
  intro reply t' outcome
  obtain ⟨realm, created⟩ := reply
  obtain ⟨pointed, _⟩ := outcome
  have changes := Relation.ReflTransGen.single
    (RealmPointed.change sdk permits pointed found active)
  cases created with
  | true => simpa [realmCataloged] using changes
  | false => simpa using changes

/-- What `_provision_workspace_in_session` leaves behind. -/
structure SeedPlanted (sdk : Sdk) (permits : Permits) (w w' : Workspace) (seed : WorkspaceSeed)
    (result : CompanionWorkspaceResult) : Prop where
  change : Change sdk permits w w'
  companion : w'.companions.get? seed.companionId = some result.companion
  genome : w'.personaGenomes.get? seed.genomeId = some result.personaGenome
  realm : w'.memoryRealms.get? result.memoryRealm.realmId = some result.memoryRealm
  companionOwner : result.companion.ownerId = seed.ownerId
  metadata : result.companion.metadataJson = seed.metadataJson.getD []
  genomeCompanion : result.personaGenome.companionId = seed.companionId
  realmShared : result.memoryRealm.isShared seed.ownerId = true
  realmFound : w.memoryRealms.get? result.memoryRealm.realmId = some result.memoryRealm ∨
    (seed.realmId ≠ "" → result.memoryRealm.realmId = seed.realmId)

theorem WorkspaceSeed.provisioned (seed : WorkspaceSeed) (now : Timestamp)
    (normalized : Genome) (realm : MemoryRealmRow) (event : String) {w : Workspace}
    {owner : OwnerRow} (stored : w.owners.get? owner.ownerId = some owner)
    (ownerId : owner.ownerId = seed.ownerId) (active : owner.status = .active)
    (companionFresh : w.companions.get? seed.companionId = none)
    (companionFits : fieldFits seed.companionId 64 = true)
    (config : ∃ preferences,
    validateRuntimeConfig sdk (seed.companion now owner).runtimeConfigJson =
      .ok preferences)
    (genomeFresh : w.personaGenomes.get? seed.genomeId = none)
    (genomePermitted : permits.genomeIds seed.genomeId) :
    Provisioned sdk permits w owner
      { seed.companion now owner with
        currentGenomeId := some seed.genomeId
        defaultMemoryRealmId := some realm.realmId }
      { seed.genome sdk normalized with appliedEventId := some event } realm :=
  { ownerStored := stored
    ownerActive := active
    companionFresh := companionFresh
    companionOwner := ownerId.symm
    companionActive := rfl
    companionFits := companionFits
    companionGenome := rfl
    companionRealm := rfl
    companionConfig := config
    genomeInserted :=
      { fresh := genomeFresh
        permitted := genomePermitted
        hashed := rfl
        applied := fun _ => Option.some_ne_none _ }
    genomeCompanion := rfl
    genomeCommitted := rfl }

/-- The pointer write of `claimDefault`, as it appears in the owners table. -/
theorem claimDefault_effect (owner : OwnerRow) (companion : CompanionRow)
    (found : t.workspace.owners.get? owner.ownerId = some owner) :
    (claimDefault owner companion).Ensures t (fun _ t' => ∃ owners',
      DefaultClaimed t.workspace.owners owners' owner companion ∧
        t'.workspace = { t.workspace with owners := owners' }) := by
  simp only [claimDefault, Tx.ensures_ite, ensures_updateOwnerRow, Tx.ensures_done]
  constructor
  · intro both
    obtain ⟨unset, notGuard⟩ := both
    exact ⟨_, Or.inr ⟨unset, notGuard, Table.stores_modify found⟩, rfl⟩
  · intro kept
    refine ⟨_, Or.inl ⟨rfl, ?_⟩, rfl⟩
    by_cases unset : owner.defaultCompanionId = none
    · right
      by_contra notGuard
      exact kept ⟨unset, notGuard⟩
    · left
      exact unset

theorem provisionWorkspaceInSession_effect (seed : WorkspaceSeed)
    (companionFits : fieldFits seed.companionId 64 = true)
    (genomePermitted : permits.genomeIds seed.genomeId) :
    (provisionWorkspaceInSession sdk env seed).Ensures t (fun result t' =>
      SeedPlanted sdk permits t.workspace t'.workspace seed result) := by
  simp only [provisionWorkspaceInSession, Tx.ensures_bind, ensures_getOwner, Tx.ensures_require,
    Tx.ensures_refuseIf, ensures_getCompanion, ensures_getGenome, ensures_getRealm,
    ensures_validated, ensures_insertCompanion]
  intro owner found active absent _ config companionFresh
  have ownerId : owner.ownerId = seed.ownerId := Table.key_of_get? found
  have stored : t.workspace.owners.get? owner.ownerId = some owner := by
    rw [ownerId]
    exact found
  refine (claimDefault_effect (t.mapWorkspace _) owner _ (by exact stored)).mono ?_
  intro _ t₁ outcome normalized _
  obtain ⟨owners', claimed, workspace₁⟩ := outcome
  simp only [ensures_insertGenome, ensures_updateCompanionRow]
  intro genomeFresh
  refine (ensureMemoryRealmInSession_effect env _ _ _).mono ?_
  intro reply t₂ outcome
  obtain ⟨realm, _⟩ := reply
  obtain ⟨⟨realms', ensured, workspace₂⟩, origin⟩ := outcome
  simp only [ensures_updateGenomeRow, ensures_addFact, Tx.pure_eq, Tx.ensures_done,
    Tables.workspace_addFact, Tables.workspace_mapWorkspace, workspace₁] at *
  have companions : Table.Stores t.workspace.companions t₂.workspace.companions
      { seed.companion env.now owner with
        currentGenomeId := some (seed.genome sdk normalized).genomeId
        defaultMemoryRealmId := some realm.realmId } := by
    rw [workspace₂]
    exact ((Table.stores_insert companionFresh).modify rfl).modify rfl
  have genomes : Table.Stores t.workspace.personaGenomes t₂.workspace.personaGenomes
      (seed.genome sdk normalized) := by
    rw [workspace₂]
    exact Table.stores_insert genomeFresh
  have rows := fun event => seed.provisioned sdk permits env.now normalized realm event stored
    ownerId (by simpa using active) companionFresh companionFits ⟨_, config⟩ genomeFresh
    genomePermitted
  have shared : RealmEnsured t.workspace.memoryRealms realms' owner.ownerId realm := by
    rw [ownerId]
    exact ensured
  rw [workspace₂] at companions genomes ⊢
  refine
    { change := .provisioned owner _ _ realm _ _ _ _ (rows _) claimed companions
        (genomes.modify rfl) shared
      companion := companions.self
      genome := (genomes.modify rfl).self
      realm := ensured.stored
      companionOwner := rfl
      metadata := rfl
      genomeCompanion := rfl
      realmShared := ensured.shared
      realmFound := origin.imp_right ?_ }
  intro created named
  simpa [WorkspaceSeed.realm, orDefault, named] using created

theorem ProvisionWorkspaceRequest.seed_valid {request : ProvisionWorkspaceRequest}
    {seed : WorkspaceSeed} (valid : request.seed env = .ok seed) :
    matchesGeneratedId seed.companionId = true ∧ matchesGeneratedId seed.genomeId = true := by
  simp only [ProvisionWorkspaceRequest.seed, Tx.checks_bind_iff] at valid
  obtain ⟨ownerId, -, kind, -, _, companionValid, _, genomeValid, _, -, built⟩ := valid
  cases built
  exact ⟨matches_of_validateGeneratedId companionValid,
    matches_of_validateGeneratedId genomeValid⟩

theorem provisionWorkspace_changes (request : ProvisionWorkspaceRequest) :
    (provisionWorkspace sdk env request).Ensures t
      (fun _ t' => Changes sdk permits t.workspace t'.workspace) := by
  simp only [provisionWorkspace, Tx.ensures_bind, ensures_check]
  intro seed valid
  obtain ⟨companionValid, genomeValid⟩ := ProvisionWorkspaceRequest.seed_valid env valid
  refine (provisionWorkspaceInSession_effect sdk permits env t seed
    (fieldFits_of_matchesGeneratedId companionValid)
    (permits.generated _ genomeValid)).mono ?_
  intro result t' planted
  exact .single planted.change

theorem canonical_of_validateOperationId {operationId value : String}
    (valid : validateOperationId operationId = .ok value) :
    isCanonicalUuid operationId = true ∧ value = operationId := by
  unfold validateOperationId at valid
  split at valid
  · next canonical =>
      cases valid
      exact ⟨canonical, rfl⟩
  · split at valid
    · cases valid
    · cases valid

theorem ProvisionRequest.canonical_of_validate {request : ProvisionRequest}
    {checked : CompanionKind × String} (valid : request.validate = .ok checked) :
    isCanonicalUuid request.operationId = true := by
  simp only [ProvisionRequest.validate, Tx.checks_bind_iff] at valid
  obtain ⟨_, -, _, operation, -⟩ := valid
  exact (canonical_of_validateOperationId operation).1

theorem matchesGeneratedId_operation {operationId : String}
    (canonical : isCanonicalUuid operationId = true) (start final : String)
    (startValid : matchesGeneratedId start = true)
    (finalValid : ∀ c ∈ final.toList, isNameChar c = true)
    (short : start.length + final.length ≤ 28) :
    matchesGeneratedId (start ++ uuidHex operationId ++ final) = true := by
  obtain ⟨names, bounded⟩ := isNameChar_uuidHex canonical
  refine matchesGeneratedId_append ?_ finalValid ?_
  · refine matchesGeneratedId_append startValid names ?_
    omega
  · rw [String.length_append]
    omega

def CompanionRow.Receipted (companion : CompanionRow) (name operationId fingerprint : String) :
    Prop :=
  ∃ receipt : JsonDict, companion.metadataJson.get? name = some (.obj receipt) ∧
    receipt.get? "operation_id" = some (.str operationId) ∧
    receipt.get? "request_fingerprint" = some (.str fingerprint)

/-- What a replayed provision is rebuilt from. -/
structure ProvisionLoaded (w : Workspace) (request : ProvisionRequest) (companion : CompanionRow)
    (result : ProvisionResult) : Prop where
  same : result.companion = companion
  owner : companion.ownerId = request.ownerId
  receipt : companion.Receipted provisionMetadataKey request.operationId result.requestFingerprint
  genome : w.personaGenomes.get? (provisionIds request.ownerId request.operationId).genomeId =
    some result.personaGenome
  realm : w.memoryRealms.get? result.memoryRealm.realmId = some result.memoryRealm
  realmShared : result.memoryRealm.isShared request.ownerId = true
  replayed : result.replayed = true
  realmCreated : result.memoryRealmCreated = false

theorem loadProvisionResult_effect (request : ProvisionRequest) (companion : CompanionRow) :
    (loadProvisionResult request companion).Ensures t (fun result t' =>
      t' = t ∧ ProvisionLoaded t.workspace request companion result) := by
  simp only [loadProvisionResult, activeRealmForOwner, Tx.ensures_bind, ensures_getGenome,
    Tx.ensures_require, Tx.ensures_refuseIf, Tx.ensures_read, Tx.pure_eq, Tx.ensures_done,
    Option.filter_eq_some_iff, Json.asDict?_eq_some_iff, Json.asString?_eq_some_iff,
    decide_eq_true_eq]
  intro genome genomeFound owned metadata named fingerprint held realm head
  obtain ⟨metadataFound, operation⟩ := named
  obtain ⟨fingerprintFound, _⟩ := held
  obtain ⟨realmFound, shared⟩ := Table.mem_select.mp (List.mem_of_head? head)
  refine ⟨trivial, ?_⟩
  exact
    { same := rfl
      owner := not_not.mp owned
      receipt := ⟨metadata, metadataFound, operation, fingerprintFound⟩
      genome := genomeFound
      realm := realmFound
      realmShared := shared
      replayed := rfl
      realmCreated := rfl }

/-- What the creating branch of `provision_companion` leaves behind. -/
structure ProvisionPlanted (sdk : Sdk) (permits : Permits) (w w' : Workspace)
    (request : ProvisionRequest) (result : ProvisionResult) : Prop where
  change : Change sdk permits w w'
  companion : w'.companions.get? (provisionIds request.ownerId request.operationId).companionId =
    some result.companion
  genome : w'.personaGenomes.get? (provisionIds request.ownerId request.operationId).genomeId =
    some result.personaGenome
  realm : w'.memoryRealms.get? result.memoryRealm.realmId = some result.memoryRealm
  companionOwner : result.companion.ownerId = request.ownerId
  receipt : result.companion.metadataJson.get? provisionMetadataKey =
    some (.obj (operationReceipt request.operationId request.requestFingerprint))
  genomeCompanion : result.personaGenome.companionId =
    (provisionIds request.ownerId request.operationId).companionId
  realmShared : result.memoryRealm.isShared request.ownerId = true
  fingerprint : result.requestFingerprint = request.requestFingerprint
  created : result.replayed = false
  realmCreated : result.memoryRealmCreated = true → ∀ {realmId realm},
    w.memoryRealms.get? realmId = some realm → realm.isShared request.ownerId = false

theorem createProvision_effect (request : ProvisionRequest) (kind : CompanionKind)
    (displayName : String) (canonical : isCanonicalUuid request.operationId = true) :
    (createProvision sdk env request kind displayName).Ensures t (fun result t' =>
      ProvisionPlanted sdk permits t.workspace t'.workspace request result) := by
  have companionValid : matchesGeneratedId
      (provisionIds request.ownerId request.operationId).companionId = true := by
    have operation := matchesGeneratedId_operation canonical "cp_" "" (by decide) (by simp)
      (by decide)
    simpa [provisionIds] using operation
  have genomeValid : matchesGeneratedId
      (provisionIds request.ownerId request.operationId).genomeId = true := by
    exact matchesGeneratedId_operation canonical "gp_" "_origin" (by decide)
      (by simp; decide) (by decide)
  simp only [createProvision, activeRealmForOwner, Tx.ensures_bind, Tx.ensures_read,
    ensures_validated]
  intro genome _
  refine (provisionWorkspaceInSession_effect sdk permits env t _ ?_ ?_).mono ?_
  · exact fieldFits_of_matchesGeneratedId companionValid
  · exact permits.generated _ genomeValid
  intro result t' planted
  simp only [Tx.pure_eq, Tx.ensures_done]
  exact
    { change := planted.change
      companion := planted.companion
      genome := planted.genome
      realm := planted.realm
      companionOwner := planted.companionOwner
      receipt := by
        rw [planted.metadata]
        simp [JsonDict.get?, provisionMetadataKey]
      genomeCompanion := planted.genomeCompanion
      realmShared := planted.realmShared
      fingerprint := rfl
      created := rfl
      realmCreated := by
        intro none realmId realm found
        simp only [Option.isNone_iff_eq_none, List.head?_eq_none_iff] at none
        by_contra shared
        have named : realm.realmId = realmId := Table.key_of_get? found
        subst named
        have member : realm ∈ t.workspace.memoryRealms.select
            (fun row => row.isShared request.ownerId) :=
          Table.mem_select.mpr ⟨found, by simpa using shared⟩
        rw [none] at member
        cases member }

/-- A provision either replays and leaves the database as it was, or creates. -/
theorem provisionCompanion_effect (request : ProvisionRequest) :
    (provisionCompanion sdk env request).Ensures t (fun result t' =>
      (t' = t ∧ ∃ companion, t.workspace.companions.get?
          (provisionIds request.ownerId request.operationId).companionId = some companion ∧
        ProvisionLoaded t.workspace request companion result) ∨
      ProvisionPlanted sdk permits t.workspace t'.workspace request result) := by
  simp only [provisionCompanion, Tx.ensures_bind, ensures_check, ensures_getCompanion]
  intro reply valid
  obtain ⟨kind, displayName⟩ := reply
  cases existing : t.workspace.companions.get?
      (provisionIds request.ownerId request.operationId).companionId with
  | some companion =>
      refine (loadProvisionResult_effect t request companion).mono ?_
      intro result t' outcome
      obtain ⟨unchanged, loaded⟩ := outcome
      exact Or.inl ⟨unchanged, companion, rfl, loaded⟩
  | none =>
      refine (createProvision_effect sdk permits env t request kind displayName
        (ProvisionRequest.canonical_of_validate valid)).mono ?_
      intro result t' planted
      exact Or.inr planted

theorem provisionCompanion_changes (request : ProvisionRequest) :
    (provisionCompanion sdk env request).Ensures t
      (fun _ t' => Changes sdk permits t.workspace t'.workspace) := by
  refine (provisionCompanion_effect sdk permits env t request).mono ?_
  intro result t' effect
  rcases effect with ⟨rfl, -⟩ | planted
  · exact .refl
  · exact .single planted.change

end Provisioning

end EidolonData
