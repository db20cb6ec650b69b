import EidolonData.Effects.Provisioning
import EidolonData.Effects.SmartHome
import EidolonData.Services.Onboarding

/-!
# Effects of the onboarding

The Owner and its first Companion are two changes of the workspace; the
packaged home is none.
-/

namespace EidolonData

open Relational

variable (sdk : Sdk) (permits : Permits) (env : Env) (t : Tables)

theorem initializeOwnerHome_workspace (ownerId traceId : String) :
    (initializeOwnerHome sdk env ownerId traceId).Ensures t
      (fun _ t' => t'.workspace = t.workspace) := by
  refine (initializeOwnerHome_effect sdk env t ownerId traceId).mono ?_
  rintro _ t' initialized
  obtain ⟨home, rfl⟩ := initialized.rest
  rfl

/-- What a replayed onboarding is rebuilt from. -/
structure OnboardingLoaded (w : Workspace) (operationId : String) (owner : OwnerRow)
    (result : InitializationResult) : Prop where
  same : result.owner = owner
  companion : w.companions.get? (onboardingIds operationId).companionId =
    some result.workspace.companion
  companionOwner : result.workspace.companion.ownerId = owner.ownerId
  receipt : result.workspace.companion.Receipted onboardingMetadataKey operationId
    result.requestFingerprint
  genome : w.personaGenomes.get? (onboardingIds operationId).genomeId =
    some result.workspace.personaGenome
  genomeCompanion : result.workspace.personaGenome.companionId =
    result.workspace.companion.companionId
  realm : w.memoryRealms.get? (onboardingIds operationId).realmId =
    some result.workspace.memoryRealm
  realmOwner : result.workspace.memoryRealm.ownerId = owner.ownerId

theorem loadOnboardingResult_effect (operationId : String) (fingerprint : Option String)
    (owner : OwnerRow) :
    (loadOnboardingResult operationId fingerprint owner).Ensures t (fun result t' =>
      t' = t ∧ OnboardingLoaded t.workspace operationId owner result) := by
  simp only [loadOnboardingResult, Tx.ensures_bind, ensures_getCompanion, ensures_getGenome,
    ensures_getRealm, Tx.ensures_require, Tx.ensures_refuseIf, Tx.pure_eq, Tx.ensures_done,
    Json.asDict?_eq_some_iff, Json.asString?_eq_some_iff]
  intro companion companionFound genome genomeFound realm realmFound metadata metadataFound
    operation stored storedFound _ consistent
  simp only [not_or, ne_eq, not_not] at consistent
  obtain ⟨companionOwner, genomeCompanion, realmOwner⟩ := consistent
  refine ⟨trivial, ?_⟩
  exact
    { same := rfl
      companion := companionFound
      companionOwner := companionOwner
      receipt := ⟨metadata, metadataFound, not_not.mp operation, storedFound⟩
      genome := genomeFound
      genomeCompanion := genomeCompanion
      realm := realmFound
      realmOwner := realmOwner }

theorem InitializationRequest.canonical_of_validate {request : InitializationRequest}
    {names : String × String} (valid : request.validate = .ok names) :
    isCanonicalUuid request.operationId = true := by
  simp only [InitializationRequest.validate, Tx.checks_bind_iff] at valid
  obtain ⟨_, operation, -⟩ := valid
  exact (canonical_of_validateOperationId operation).1

/-- What the creating branch of `initialize_owner_workspace` leaves behind. -/
structure OnboardingPlanted (sdk : Sdk) (permits : Permits) (w w' : Workspace)
    (request : InitializationRequest) (result : InitializationResult) : Prop where
  changes : Changes sdk permits w w'
  ownerFresh : w.owners.get? (onboardingIds request.operationId).ownerId = none
  owner : w'.owners.get? (onboardingIds request.operationId).ownerId = some result.owner
  companion : w'.companions.get? (onboardingIds request.operationId).companionId =
    some result.workspace.companion
  genome : w'.personaGenomes.get? (onboardingIds request.operationId).genomeId =
    some result.workspace.personaGenome
  realm : w'.memoryRealms.get? result.workspace.memoryRealm.realmId =
    some result.workspace.memoryRealm
  companionOwner :
    result.workspace.companion.ownerId = (onboardingIds request.operationId).ownerId
  receipt : result.workspace.companion.metadataJson.get? onboardingMetadataKey =
    some (.obj (operationReceipt request.operationId request.requestFingerprint))
  genomeCompanion : result.workspace.personaGenome.companionId =
    (onboardingIds request.operationId).companionId
  realmShared :
    result.workspace.memoryRealm.isShared (onboardingIds request.operationId).ownerId = true
  realmFound : w.memoryRealms.get? result.workspace.memoryRealm.realmId =
      some result.workspace.memoryRealm ∨
    result.workspace.memoryRealm.realmId = (onboardingIds request.operationId).realmId
  fingerprint : result.requestFingerprint = request.requestFingerprint

theorem createOnboarding_effect (request : InitializationRequest)
    (ownerName companionName : String) (canonical : isCanonicalUuid request.operationId = true) :
    (createOnboarding sdk env request ownerName companionName).Ensures t (fun result t' =>
      OnboardingPlanted sdk permits t.workspace t'.workspace request result) := by
  have ownerValid : matchesGeneratedId (onboardingIds request.operationId).ownerId = true := by
    have operation := matchesGeneratedId_operation canonical "owner_" "" (by decide) (by simp)
      (by decide)
    simpa [onboardingIds] using operation
  have companionValid :
      matchesGeneratedId (onboardingIds request.operationId).companionId = true := by
    have operation := matchesGeneratedId_operation canonical "c_" "" (by decide) (by simp)
      (by decide)
    simpa [onboardingIds] using operation
  have genomeValid : matchesGeneratedId (onboardingIds request.operationId).genomeId = true := by
    exact matchesGeneratedId_operation canonical "g_" "_origin" (by decide)
      (by simp; decide) (by decide)
  simp only [createOnboarding, Tx.ensures_bind, ensures_insertOwner, ensures_addFact]
  intro ownerFresh
  refine (initializeOwnerHome_workspace sdk env _ _ _).mono ?_
  intro _ t₁ workspace₁
  simp only [ensures_validated]
  intro genomeJson _
  refine (provisionWorkspaceInSession_effect sdk permits env _ _ ?_ ?_).mono ?_
  · exact fieldFits_of_matchesGeneratedId companionValid
  · exact permits.generated _ genomeValid
  intro workspace t₂ planted
  have first : Change sdk permits t.workspace t₁.workspace := by
    rw [workspace₁]
    refine .ownerCreated _ _ ownerFresh rfl rfl ?_ (Table.stores_insert ownerFresh)
    exact fieldFits_of_matchesGeneratedId ownerValid
  have ownerStored : t₁.workspace.owners.get? (onboardingIds request.operationId).ownerId =
      some
        { ownerId := (onboardingIds request.operationId).ownerId
          displayName := ownerName } := by
    rw [workspace₁]
    exact (Table.stores_insert ownerFresh).self
  simp only [ensures_getOwner, Tx.pure_eq, Tx.ensures_done]
  exact
    { changes := .tail (.single first) planted.change
      ownerFresh := ownerFresh
      owner := by
        obtain ⟨row, stored, -⟩ := planted.change.outlives.owners _ _ ownerStored
        rw [stored]
        rfl
      companion := planted.companion
      genome := planted.genome
      realm := planted.realm
      companionOwner := planted.companionOwner
      receipt := by
        rw [planted.metadata]
        simp [JsonDict.get?, onboardingMetadataKey]
      genomeCompanion := planted.genomeCompanion
      realmShared := planted.realmShared
      realmFound := by
        have found := planted.realmFound
        rw [workspace₁] at found
        refine found.imp_right ?_
        intro created
        apply created
        simp [onboardingIds]
      fingerprint := rfl }

/-- An onboarding either replays and leaves the database as it was, or creates. -/
theorem initializeOwnerWorkspace_effect (request : InitializationRequest) :
    (initializeOwnerWorkspace sdk env request).Ensures t (fun result t' =>
      (t' = t ∧ ∃ owner, t.workspace.owners.get? (onboardingIds request.operationId).ownerId =
          some owner ∧
        OnboardingLoaded t.workspace request.operationId owner result) ∨
      OnboardingPlanted sdk permits t.workspace t'.workspace request result) := by
  simp only [initializeOwnerWorkspace, Tx.ensures_bind, ensures_check, ensures_getOwner]
  intro reply valid
  obtain ⟨ownerName, companionName⟩ := reply
  cases existing : t.workspace.owners.get? (onboardingIds request.operationId).ownerId with
  | some owner =>
      refine (loadOnboardingResult_effect t _ _ owner).mono ?_
      intro result t' outcome
      obtain ⟨unchanged, loaded⟩ := outcome
      exact Or.inl ⟨unchanged, owner, rfl, loaded⟩
  | none =>
      refine (createOnboarding_effect sdk permits env t request ownerName companionName
        (InitializationRequest.canonical_of_validate valid)).mono ?_
      intro result t' planted
      exact Or.inr planted

theorem initializeOwnerWorkspace_changes (request : InitializationRequest) :
    (initializeOwnerWorkspace sdk env request).Ensures t
      (fun _ t' => Changes sdk permits t.workspace t'.workspace) := by
  refine (initializeOwnerWorkspace_effect sdk permits env t request).mono ?_
  intro result t' effect
  rcases effect with ⟨rfl, -⟩ | planted
  · exact .refl
  · exact planted.changes

end EidolonData
