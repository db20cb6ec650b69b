import EidolonData.Effects.CompanionPruning
import EidolonData.Effects.FaceFrames
import EidolonData.Effects.Parts
import EidolonData.Effects.PeopleRuns

/-!
# The objects the rows name

What each command does to the keys of objects outside the database, as an
account: the keys it brings in and those it gives up.
-/

namespace EidolonData

open Relational

/-- What the keys of the objects are read off. -/
def Tables.objects (t : Tables) : Faces × Table PersonFaceRow := (t.faces, t.people.personFaces)

instance : Tables.ShowsRealms Tables.objects where
  workspace _ _ _ := rfl
  fact _ _ _ := rfl

instance : Tables.ShowsPhotos Tables.objects where
  people _ _ same := congrArg (Prod.mk _) same
  workspace _ _ _ := rfl
  fact _ _ _ := rfl

theorem objectKeys_of_objects {t t' : Tables} (same : t'.objects = t.objects) :
    t'.objectKeys = t.objectKeys := by
  have faces : t'.faces = t.faces := congrArg Prod.fst same
  have photos : t'.people.personFaces = t.people.personFaces := congrArg Prod.snd same
  rw [Tables.objectKeys, faces, photos]
  rfl

theorem Tables.objectKeys_eq (t : Tables) : t.objectKeys =
    t.faces.companionFaceAssets.rows.flatMap (fun row => row.storageKeys) ++
      t.faces.ownerFaceReferences.rows.flatMap (fun row => [row.storageKey]) ++
      t.people.personFaces.rows.flatMap (fun row => row.storageKey.toList) := by
  rw [Tables.objectKeys, Faces.objectKeys, List.map_eq_flatMap, List.filterMap_eq_flatMap_toList]

/-- The account of the objects from one state to another. -/
def Tables.Accounts (t t' : Tables) (receipt : KeyReceipt) : Prop :=
  Conserves t.objectKeys t'.objectKeys receipt.stored (receipt.released ++ receipt.dropped)

theorem Tables.accounts_of_objects {t t' : Tables} (same : t'.objects = t.objects) :
    t.Accounts t' {} := by
  rw [Tables.Accounts, objectKeys_of_objects same]
  exact .refl t.objectKeys

theorem Tables.accounts_retain {t t' : Tables} {assets : CompanionFaceAssetRow → Bool}
    {references : OwnerFaceReferenceRow → Bool} {photos : PersonFaceRow → Bool}
    (assetsKept : t'.faces.companionFaceAssets = t.faces.companionFaceAssets.retain assets)
    (referencesKept :
      t'.faces.ownerFaceReferences = t.faces.ownerFaceReferences.retain references)
    (photosKept : t'.people.personFaces = t.people.personFaces.retain photos) :
    Conserves t.objectKeys t'.objectKeys []
      ((t.faces.companionFaceAssets.select (fun row => !assets row)).flatMap
          (fun row => row.storageKeys) ++
        (t.faces.ownerFaceReferences.select (fun row => !references row)).map
          (fun row => row.storageKey) ++
        (t.people.personFaces.select (fun row => !photos row)).filterMap
          (fun row => row.storageKey)) := by
  rw [Tables.objectKeys_eq, Tables.objectKeys_eq, assetsKept, referencesKept, photosKept,
    List.map_eq_flatMap, List.filterMap_eq_flatMap_toList]
  exact ((Table.conserves_retain _ assets _).append
    (Table.conserves_retain _ references _)).append (Table.conserves_retain _ photos _)

section Deletions

variable {t : Tables} (env : Env)

theorem ownerReceipt_keys (t : Tables) (ownerId : String) :
    Conserves t.objectKeys (t.withoutRowsOf ownerId).objectKeys []
      (ownerReceipt ownerId t).objectStorageKeys := by
  have account : Conserves t.objectKeys (t.withoutRowsOf ownerId).objectKeys [] _ :=
    Tables.accounts_retain rfl rfl rfl
  simpa [ownerReceipt, Faces.referenceKeys] using account

/-- The deletion of an Owner that is not there changes nothing; of one that is,
it takes the rows. -/
theorem deleteOwner_removes (integrity : t.Integrity) (separate : t.Separate) (ownerId : String) :
    (deleteOwner env ownerId).Ensures t (fun result t' =>
      (t' = t ∧ result.objectStorageKeys = []) ∨
        ∃ fact, t' = (t.withoutRowsOf ownerId).addFact env.now fact ∧
          result = ownerReceipt ownerId t) := by
  simp only [deleteOwner, Tx.ensures_bind, ensures_getOwner]
  cases found : t.workspace.owners.get? ownerId with
  | none =>
      simp only [Tx.pure_eq, Tx.ensures_done]
      exact Or.inl ⟨trivial, trivial⟩
  | some owner =>
      simp only [Tx.ensures_bind, Tx.ensures_read, Tx.ensures_modify, ensures_addFact, Tx.pure_eq,
        Tx.ensures_done]
      have tree : (t.mapWorkspace (fun w => w.breakPointers ownerId)).deleteOwner ownerId =
          t.withoutRowsOf ownerId := withoutOwnerTree_eq integrity separate
      rw [tree]
      exact Or.inr ⟨_, rfl, trivial⟩

theorem deleteOwner_accounts (integrity : t.Integrity) (separate : t.Separate)
    (ownerId : String) :
    (deleteOwner env ownerId).Ensures t (fun result t' =>
      t.Accounts t' { released := result.objectStorageKeys }) := by
  refine (deleteOwner_removes env integrity separate ownerId).mono ?_
  rintro result t' (⟨rfl, nothing⟩ | ⟨fact, rfl, rfl⟩)
  · rw [nothing]
    exact Tables.accounts_of_objects rfl
  · rw [Tables.Accounts, List.append_nil]
    exact ownerReceipt_keys t ownerId

/-- A Companion's deletion names the keys of the removed faces. -/
theorem companionReceipt_keys (t : Tables) (ownerId companionId : String) :
    Conserves t.objectKeys (t.withoutRowsOfCompanion companionId).objectKeys []
      (companionReceipt ownerId companionId t).faceAssetStorageKeys := by
  rw [Tables.objectKeys_eq, Tables.objectKeys_eq]
  have account := Table.conserves_retain t.faces.companionFaceAssets
    (fun row => decide (row.companionId ≠ companionId)) (fun row => row.storageKeys)
  have rest := (account.append (.refl (t.faces.ownerFaceReferences.rows.flatMap
    (fun row => [row.storageKey])))).append (.refl (t.people.personFaces.rows.flatMap
      (fun row => row.storageKey.toList)))
  simpa [companionReceipt, Tables.withoutRowsOfCompanion] using rest

theorem deleteCompanion_accounts (integrity : t.Integrity) (separate : t.Separate)
    (ownerId companionId : String) (allowDefault : Bool) :
    (deleteCompanion env ownerId companionId allowDefault).Ensures t (fun result t' =>
      t.Accounts t' { released := result.faceAssetStorageKeys }) := by
  refine (deleteCompanion_removes env integrity separate ownerId companionId allowDefault).mono ?_
  intro result t' removed
  rw [removed.tables, removed.receipt, Tables.Accounts, List.append_nil]
  exact companionReceipt_keys t ownerId companionId

end Deletions

end EidolonData
