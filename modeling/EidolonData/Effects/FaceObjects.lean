import EidolonData.Effects.Objects

/-!
# The objects of the faces

What the commands on the faces of Companions and on the photographs of Owners
do to the keys of the objects.
-/

namespace EidolonData

open Relational

variable {t : Tables}

theorem Tables.accounts_assets {t' : Tables} {receipt : KeyReceipt}
    (references : t'.faces.ownerFaceReferences = t.faces.ownerFaceReferences)
    (photos : t'.people.personFaces = t.people.personFaces)
    (account : Conserves
      (t.faces.companionFaceAssets.rows.flatMap (fun row => row.storageKeys))
      (t'.faces.companionFaceAssets.rows.flatMap (fun row => row.storageKeys))
      receipt.stored (receipt.released ++ receipt.dropped)) : t.Accounts t' receipt := by
  rw [Tables.Accounts, Tables.objectKeys_eq, Tables.objectKeys_eq, references, photos]
  have rest := (account.append (.refl (t.faces.ownerFaceReferences.rows.flatMap
    (fun row => [row.storageKey])))).append (.refl (t.people.personFaces.rows.flatMap
      (fun row => row.storageKey.toList)))
  simp only [List.append_nil] at rest
  exact rest

theorem Tables.accounts_references {t' : Tables} {receipt : KeyReceipt}
    (assets : t'.faces.companionFaceAssets = t.faces.companionFaceAssets)
    (photos : t'.people.personFaces = t.people.personFaces)
    (account : Conserves
      (t.faces.ownerFaceReferences.rows.flatMap (fun row => [row.storageKey]))
      (t'.faces.ownerFaceReferences.rows.flatMap (fun row => [row.storageKey]))
      receipt.stored (receipt.released ++ receipt.dropped)) : t.Accounts t' receipt := by
  rw [Tables.Accounts, Tables.objectKeys_eq, Tables.objectKeys_eq, assets, photos]
  have first : Conserves (t.faces.companionFaceAssets.rows.flatMap (fun row => row.storageKeys))
      _ [] [] := .refl _
  have rest := (first.append account).append (.refl (t.people.personFaces.rows.flatMap
    (fun row => row.storageKey.toList)))
  simp only [List.append_nil, List.nil_append] at rest
  exact rest

section Profiles

variable (rules : FaceProfileRules) (env : Env)

theorem createDraft_accounts (ownerId modelId preprocessingVersion : String) :
    (createDraft env ownerId modelId preprocessingVersion).Ensures t (fun _ t' =>
      t.Accounts t' {}) := by
  simp only [createDraft, Tx.ensures_bind, Tx.ensures_refuseIf, ensures_getOwner,
    Tx.ensures_require, ensures_latestProfileRevision, ensures_supersedeProfiles,
    ensures_insertProfileRevision, ensures_addFact, Tx.ensures_read, Tx.pure_eq, Tx.ensures_done]
  intros
  exact .refl t.objectKeys

theorem clearProfile_accounts (ownerId : String) :
    (clearProfile env ownerId).Ensures t (fun _ t' => t.Accounts t' {}) := by
  simp only [clearProfile, Tx.ensures_bind, Tx.ensures_refuseIf, ensures_getOwner,
    Tx.ensures_require, ensures_latestProfileRevision, ensures_supersedeProfiles,
    ensures_insertProfileRevision, ensures_addFact, Tx.ensures_read, Tx.pure_eq, Tx.ensures_done]
  intros
  exact .refl t.objectKeys

theorem activateProfile_accounts (profileRevisionId : String) :
    (activateProfile rules env profileRevisionId).Ensures t (fun _ t' => t.Accounts t' {}) := by
  simp only [activateProfile, Tx.ensures_bind, Tx.ensures_refuseIf, ensures_getProfileRevision,
    Tx.ensures_require, ensures_supersedeProfiles, Tx.ensures_modify, ensures_addFact,
    Tx.ensures_read, Tx.pure_eq, Tx.ensures_done]
  intros
  exact .refl t.objectKeys

theorem addReference_accounts (profileRevisionId pose contentType : String) (sizeBytes : Int)
    (sha256 storageKey : String) :
    (addReference rules env profileRevisionId pose contentType sizeBytes sha256
      storageKey).Ensures t (fun row t' => t.Accounts t' { stored := [row.storageKey] }) := by
  simp only [addReference, Tx.ensures_bind, ensures_check, Tx.ensures_refuseIf,
    ensures_getProfileRevision, Tx.ensures_require, ensures_insertReference, ensures_addFact,
    Tx.ensures_read, Tx.pure_eq, Tx.ensures_done]
  intro _ _ _ _ _ _ fresh _
  refine Tables.accounts_references rfl rfl ?_
  refine Table.conserves_insert ?_ _
  exact fresh

/-- The removal of superseded photographs gives up their keys. -/
theorem deleteSupersededReferences_accounts (ownerId : String) (referenceIds : List String) :
    (deleteSupersededReferences ownerId referenceIds).Ensures t (fun _ t' =>
      t.Accounts t' { released := t.faces.supersededKeys ownerId referenceIds }) := by
  simp only [deleteSupersededReferences, Tx.ensures_ite, Tx.ensures_bind, Tx.ensures_read,
    Tx.ensures_modify, Tx.pure_eq, Tx.ensures_done]
  constructor
  · intro unnamed
    have nothing : t.faces.supersededKeys ownerId referenceIds = [] := by
      rw [unnamed, Faces.supersededKeys, List.map_eq_nil_iff]
      apply List.filter_eq_nil_iff.mpr
      intro row _
      simp [Faces.isSupersededReference]
    rw [nothing]
    exact .refl t.objectKeys
  · intro _
    have given := Table.conserves_retain t.faces.ownerFaceReferences
      (fun row => !t.faces.isSupersededReference ownerId referenceIds row)
      (fun row => [row.storageKey])
    refine Tables.accounts_references rfl rfl (given.reorder (.refl _) ?_)
    rw [← List.map_eq_flatMap, List.append_nil]
    simp [Faces.supersededKeys]

end Profiles

section Companions

variable (env : Env)

theorem isSafeRelativePath_ne {storageKey : String} (safe : isSafeRelativePath storageKey = true) :
    storageKey ≠ "" := by
  rw [isSafeRelativePath, Bool.and_eq_true, Bool.and_eq_true] at safe
  exact of_decide_eq_true safe.1.1

theorem CompanionFaceAssetRow.storageKeys_supersede (companionId : String)
    (row : CompanionFaceAssetRow) : (row.supersede companionId).storageKeys = row.storageKeys := rfl

theorem Faces.conserves_newFace (f : Faces) (companionId : String) (row : CompanionFaceAssetRow)
    (fresh : (f.supersedeFaces companionId).companionFaceAssets.get? row.faceAssetId = none) :
    Conserves (f.companionFaceAssets.rows.flatMap (fun row => row.storageKeys))
      (((f.supersedeFaces companionId).companionFaceAssets.insert row).rows.flatMap
        (fun row => row.storageKeys)) row.storageKeys [] := by
  have before := Table.flatMap_update f.companionFaceAssets
    (CompanionFaceAssetRow.supersede companionId) (fun _ => rfl) (fun row => row.storageKeys)
    (CompanionFaceAssetRow.storageKeys_supersede companionId)
  rw [← before]
  exact Table.conserves_insert fresh _

theorem Faces.conserves_idleClip (f : Faces) {faceAssetId storageKey : String}
    {row : CompanionFaceAssetRow} (named : storageKey ≠ "")
    (found : f.companionFaceAssets.get? faceAssetId = some row) :
    Conserves (f.companionFaceAssets.rows.flatMap (fun row => row.storageKeys))
      ((f.companionFaceAssets.modify faceAssetId (fun row =>
        { row with idleStorageKey := some storageKey }) (fun _ => rfl)).rows.flatMap
          (fun row => row.storageKeys)) [storageKey] (f.idleKeys faceAssetId) := by
  have keyed : key row = faceAssetId := Table.key_of_get? found
  have stores : Table.Stores f.companionFaceAssets (f.companionFaceAssets.modify faceAssetId
      (fun row => { row with idleStorageKey := some storageKey }) (fun _ => rfl))
      { row with idleStorageKey := some storageKey } :=
    Table.stores_modify found
  have before : (f.companionFaceAssets.get? (key row)).toList.flatMap (fun row => row.storageKeys) =
      [row.condStorageKey].filter (· ≠ "") ++ f.idleKeys faceAssetId := by
    rw [keyed, Faces.idleKeys, found, Option.toList_some, List.flatMap_singleton]
    exact List.filter_append _ _
  have after :
      ({ row with idleStorageKey := some storageKey } : CompanionFaceAssetRow).storageKeys =
        [row.condStorageKey].filter (· ≠ "") ++ [storageKey] := by
    have single : [storageKey].filter (· ≠ "") = [storageKey] := by simp [named]
    rw [← single]
    exact List.filter_append _ _
  have changed := stores.conserves (fun row => row.storageKeys)
  rw [after] at changed
  exact (changed.reorder (.refl _) (.of_eq before)).cancel

theorem validateAssetInputs_safe {contentType sha256 storageKey : String} {sizeBytes : Int}
    {value : Unit}
    (accepted : validateAssetInputs contentType sizeBytes sha256 storageKey = .ok value) :
    isSafeRelativePath storageKey = true := by
  cases safe : isSafeRelativePath storageKey with
  | true => rfl
  | false =>
      simp only [validateAssetInputs, safe, if_true] at accepted
      split at accepted
      · cases accepted
      · split at accepted
        · cases accepted
        · split at accepted
          · cases accepted
          · cases accepted

theorem validateIdleClip_safe {sha256 storageKey : String} {sizeBytes : Int} {value : Unit}
    (accepted : validateIdleClip sizeBytes sha256 storageKey = .ok value) :
    isSafeRelativePath storageKey = true := by
  cases safe : isSafeRelativePath storageKey with
  | true => rfl
  | false =>
      simp only [validateIdleClip, safe, if_true] at accepted
      split at accepted
      · cases accepted
      · split at accepted
        · cases accepted
        · cases accepted

theorem setFace_accounts (companionId condStorageKey condContentType : String)
    (condSizeBytes : Int) (condSha256 : String) :
    (setFace env companionId condStorageKey condContentType condSizeBytes condSha256).Ensures t
      (fun row t' => t.Accounts t' { stored := [row.condStorageKey] }) := by
  simp only [setFace, Tx.ensures_bind, ensures_check, ensures_getCompanion, Tx.ensures_require,
    Tx.ensures_modify, Tx.ensures_read]
  intro _ accepted companion _
  refine (ensures_insert _).mpr ?_
  intro fresh
  simp only [ensures_addFact, Tx.ensures_refuseIf, Tx.pure_eq, Tx.ensures_done]
  intro _
  have named := isSafeRelativePath_ne (validateAssetInputs_safe accepted)
  have single : ([condStorageKey] ++ (none : Option String).toList).filter (· ≠ "") =
      [condStorageKey] := by
    simp [named]
  refine Tables.accounts_assets rfl rfl ?_
  show Conserves _ _ [condStorageKey] []
  rw [← single]
  exact t.faces.conserves_newFace companionId _ fresh

theorem setIdleClip_accounts (faceAssetId storageKey : String) (sizeBytes : Int)
    (sha256 : String) :
    (setIdleClip env faceAssetId storageKey sizeBytes sha256).Ensures t (fun row t' =>
      t.Accounts t'
        { stored := row.idleStorageKey.toList
          dropped := t.faces.idleKeys faceAssetId }) := by
  simp only [setIdleClip, Tx.ensures_bind, ensures_check, Tx.ensures_read, Tx.ensures_require,
    Tx.ensures_modify, ensures_addFact, Tx.pure_eq, Tx.ensures_done]
  intro _ accepted row found
  have named := isSafeRelativePath_ne (validateIdleClip_safe accepted)
  exact Tables.accounts_assets rfl rfl (t.faces.conserves_idleClip named found)

theorem clearFace_accounts (companionId : String) :
    (clearFace env companionId).Ensures t (fun _ t' => t.Accounts t' {}) := by
  simp only [clearFace, getActiveFace, Tx.ensures_bind, Tx.ensures_read]
  cases (t.faces.companionFaceAssets.select (fun row => row.isActiveOf companionId)).head? with
  | none =>
      simp only [Tx.pure_eq, Tx.ensures_done]
      exact .refl t.objectKeys
  | some row =>
      simp only [Tx.ensures_bind, Tx.ensures_modify, ensures_addFact, Tx.pure_eq, Tx.ensures_done]
      have same := Table.flatMap_modify t.faces.companionFaceAssets row.faceAssetId
        (fun row => { row with state := .superseded }) (fun _ => rfl)
        (fun row => row.storageKeys) (fun _ => rfl)
      exact Tables.accounts_assets rfl rfl (.of_perm (.of_eq same.symm))

end Companions

end EidolonData
