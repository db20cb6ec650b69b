import EidolonData.Services.CompanionFaces
import EidolonData.Services.ObjectStorage

/-!
# Object storage and the keys it takes

Every operation stays below the root of the store.  The checks of the face
references accept keys that name nothing there.
-/

namespace EidolonData

open Files

/-- A key passes the checks of a companion face or of an Owner's face reference. -/
def IsFaceKey (storageKey : String) : Prop :=
  (∃ contentType sizeBytes sha256,
    validateAssetInputs contentType sizeBytes sha256 storageKey = .ok ()) ∨
  ∃ pose contentType sizeBytes sha256,
    validateReference pose contentType sizeBytes sha256 storageKey = .ok ()

theorem safe_of_validateAssetInputs {contentType sha256 storageKey : String} {sizeBytes : Int}
    (valid : validateAssetInputs contentType sizeBytes sha256 storageKey = .ok ()) :
    isSafeRelativePath storageKey = true := by
  unfold validateAssetInputs at valid
  split at valid
  · cases valid
  · split at valid
    · cases valid
    · split at valid
      · cases valid
      · split at valid
        · cases valid
        · next safe => simpa using safe

theorem safe_of_validateReference {pose contentType sha256 storageKey : String} {sizeBytes : Int}
    (valid : validateReference pose contentType sizeBytes sha256 storageKey = .ok ()) :
    isSafeRelativePath storageKey = true := by
  unfold validateReference at valid
  split at valid
  · cases valid
  · split at valid
    · cases valid
    · split at valid
      · cases valid
      · split at valid
        · cases valid
        · split at valid
          · cases valid
          · next safe => simpa using safe

/-- A key that names an object: a segment of it is a name, and no character is
the null character. -/
def NamesObject (storageKey : String) : Prop :=
  (∃ segment ∈ storageKey.toList.splitOn '/', isName segment = true) ∧
    '\x00' ∉ storageKey.toList

namespace LocalObjectStorage

/-- Strictly below the root of the store. -/
def Holds (storage : LocalObjectStorage) (path : Path) : Prop :=
  storage.root <+: path ∧ path ≠ storage.root

/-- What the operations on a key may touch, and that a face key is one of the store. -/
structure Confines (storage : LocalObjectStorage) (sha256 : List UInt8 → String)
    (storageKey : String) : Prop where
  /-- A write refuses, or changes the object, its temporary neighbour and missing
  directories on the way. -/
  put : ∀ uuid files data expectedSha256,
    (∃ refusal, storage.put sha256 uuid files storageKey data expectedSha256 =
      (.error refusal, files)) ∨
    ∃ target temporary, storage.Holds target ∧ storage.Holds temporary ∧
      ∀ path, path ≠ target → path ≠ temporary →
        let written := (storage.put sha256 uuid files storageKey data expectedSha256).2
        written.entry path = files.entry path ∨
          (path <+: target ∧ files.entry path = none ∧ written.entry path = some .directory)
  get : ∀ files, (∃ refusal, storage.get files storageKey = .error refusal) ∨
    ∃ target, storage.Holds target ∧
      storage.get files storageKey = (files.read target).mapError StorageError.osError
  delete : ∀ files, (∃ refusal, storage.delete files storageKey = (.error refusal, files)) ∨
    ∃ target, storage.Holds target ∧ (storage.delete files storageKey).1 = .ok () ∧
      ∀ path ≠ target, (storage.delete files storageKey).2.entry path = files.entry path
  faces : IsFaceKey storageKey → ∃ path, storage.resolve storageKey = .ok path ∧
    storage.Holds path

variable {storage : LocalObjectStorage} {storageKey : String} {target : Path}

theorem holds_of_resolve (resolved : storage.resolve storageKey = .ok target) :
    storage.Holds target := by
  simp only [resolve] at resolved
  split at resolved
  · cases resolved
  · split at resolved
    · cases resolved
    · split at resolved
      · cases resolved
      · next inside =>
          cases resolved
          rw [not_or, not_not, mem_parents] at inside
          exact ⟨inside.2.1, inside.1⟩

theorem holds_temporary (uuid : Uuid) (below : storage.Holds target) :
    storage.Holds (temporary target uuid) := by
  obtain ⟨⟨rest, rfl⟩, proper⟩ := below
  have some : rest ≠ [] := by
    intro none
    apply proper
    rw [none, List.append_nil]
  have beside : temporary (storage.root ++ rest) uuid = storage.root ++ (rest.dropLast ++
      [['.'] ++ (storage.root ++ rest).getLastD [] ++ ['.'] ++ uuid.hex.toList ++
        ".tmp".toList]) := by
    unfold temporary
    rw [List.dropLast_append_of_ne_nil some, List.append_assoc]
  rw [beside]
  refine ⟨List.prefix_append _ _, ?_⟩
  intro same
  have empty := List.append_right_eq_self.mp same
  simp at empty

theorem cleanUp_agrees (target temporary : Path) (outcome : Except StorageError Unit)
    (files : ObjectFiles) :
    FileSystem.AgreesOff [target, temporary] files (cleanUp temporary outcome files).2 := by
  unfold cleanUp
  cases discarded : files.discard temporary with
  | error fault => exact fun _ _ => rfl
  | ok cleaned =>
      apply (FileSystem.discard_agrees discarded).1.mono
      simp

theorem writeAtomically_agrees (files : ObjectFiles) (target temporary : Path) (data : List UInt8) :
    FileSystem.AgreesOff [target, temporary] files
      (writeAtomically files target temporary data).2 := by
  unfold writeAtomically
  cases created : files.create temporary data with
  | error fault => exact cleanUp_agrees target temporary _ files
  | ok written =>
      have first : FileSystem.AgreesOff [target, temporary] files written := by
        apply (FileSystem.create_agrees created).mono
        simp
      apply first.trans
      cases replaced : written.replace temporary target with
      | error fault =>
          simp only [replaced]
          exact cleanUp_agrees target temporary _ written
      | ok moved =>
          simp only [replaced]
          apply FileSystem.AgreesOff.trans _ (cleanUp_agrees target temporary _ moved)
          apply (FileSystem.replace_agrees replaced).mono
          simp

theorem put_confined (sha256 : List UInt8 → String) (uuid : Uuid) (files : ObjectFiles)
    (storageKey : String) (data : List UInt8) (expectedSha256 : Option String) :
    (∃ refusal, storage.put sha256 uuid files storageKey data expectedSha256 =
      (.error refusal, files)) ∨
    ∃ target temporary, storage.Holds target ∧ storage.Holds temporary ∧
      ∀ path, path ≠ target → path ≠ temporary →
        let written := (storage.put sha256 uuid files storageKey data expectedSha256).2
        written.entry path = files.entry path ∨
          (path <+: target ∧ files.entry path = none ∧ written.entry path = some .directory) := by
  unfold put
  split
  · exact .inl ⟨_, rfl⟩
  · simp only
    split
    · exact .inl ⟨_, rfl⟩
    · cases resolved : storage.resolve storageKey with
      | error refusal => exact .inl ⟨refusal, rfl⟩
      | ok target =>
          cases made : files.makeDirectories target.dropLast with
          | error fault => exact .inl ⟨.osError fault, by simp only [made]⟩
          | ok directories =>
              have below := holds_of_resolve resolved
              refine .inr ⟨target, temporary target uuid, below, holds_temporary uuid below, ?_⟩
              intro path notTarget notTemporary
              simp only [made]
              have same := writeAtomically_agrees directories target (temporary target uuid) data
                path (by simp [notTarget, notTemporary])
              rw [same]
              apply (FileSystem.makeDirectories_entry made).imp_right
              intro missing
              exact ⟨missing.1.trans (List.dropLast_prefix target), missing.2⟩

theorem get_confined (files : ObjectFiles) (storageKey : String) :
    (∃ refusal, storage.get files storageKey = .error refusal) ∨
    ∃ target, storage.Holds target ∧
      storage.get files storageKey = (files.read target).mapError StorageError.osError := by
  cases resolved : storage.resolve storageKey with
  | error refusal => exact .inl ⟨refusal, by simp only [get, resolved]⟩
  | ok target => exact .inr ⟨target, holds_of_resolve resolved, by simp only [get, resolved]⟩

theorem delete_confined (files : ObjectFiles) (storageKey : String) :
    (∃ refusal, storage.delete files storageKey = (.error refusal, files)) ∨
    ∃ target, storage.Holds target ∧ (storage.delete files storageKey).1 = .ok () ∧
      ∀ path ≠ target, (storage.delete files storageKey).2.entry path = files.entry path := by
  unfold delete
  cases resolved : storage.resolve storageKey with
  | error refusal => exact .inl ⟨refusal, rfl⟩
  | ok target =>
      cases discarded : files.discard target with
      | error fault => exact .inl ⟨.osError fault, by simp only [discarded]⟩
      | ok cleaned =>
          refine .inr ⟨target, holds_of_resolve resolved, by simp only [discarded], ?_⟩
          intro path other
          simp only [discarded]
          exact (FileSystem.discard_agrees discarded).1 path (by simpa using other)

theorem resolve_of_names (safe : isSafeRelativePath storageKey = true) :
    (∃ path, storage.resolve storageKey = .ok path ∧ storage.Holds path) ↔
      NamesObject storageKey := by
  simp only [isSafeRelativePath, Bool.and_eq_true, decide_eq_true_eq] at safe
  obtain ⟨⟨filled, relative⟩, down⟩ := safe
  have walked := walk_descends storage.root down
  constructor
  · intro taken
    obtain ⟨path, resolved, below⟩ := taken
    have noNull : '\x00' ∉ storageKey.toList := by
      intro null
      simp [resolve, filled, relative, null] at resolved
    refine ⟨?_, noNull⟩
    by_contra nameless
    have empty : (storageKey.toList.splitOn '/').filter isName = [] := by
      apply List.filter_eq_nil_iff.mpr
      intro segment member named
      exact nameless ⟨segment, member, named⟩
    rw [empty, List.append_nil] at walked
    simp [resolve, filled, relative, noNull, walked] at resolved
  · intro names
    obtain ⟨⟨segment, member, named⟩, noNull⟩ := names
    have some : (storageKey.toList.splitOn '/').filter isName ≠ [] :=
      List.ne_nil_of_mem (List.mem_filter.mpr ⟨member, named⟩)
    have below : storage.Holds (storage.root ++ (storageKey.toList.splitOn '/').filter isName) := by
      refine ⟨List.prefix_append _ _, ?_⟩
      intro same
      exact some (List.append_right_eq_self.mp same)
    refine ⟨_, ?_, below⟩
    have inside := mem_parents.mpr ⟨below.1, below.2.symm⟩
    simp only [resolve, filled, relative, or_self, if_false, noNull, walked, below.2, inside,
      not_true_eq_false]

end LocalObjectStorage

/-- The operations stay below the root on every key; a face key is one of the
store exactly when it names an object. -/
theorem object_keys_confined (storage : LocalObjectStorage) (sha256 : List UInt8 → String)
    (storageKey : String) :
    storage.Confines sha256 storageKey ↔ (IsFaceKey storageKey → NamesObject storageKey) := by
  have safe : IsFaceKey storageKey → isSafeRelativePath storageKey = true := by
    intro accepted
    rcases accepted with ⟨contentType, sizeBytes, sha256, valid⟩ |
      ⟨pose, contentType, sizeBytes, sha256, valid⟩
    · exact safe_of_validateAssetInputs valid
    · exact safe_of_validateReference valid
  constructor
  · intro confines accepted
    exact (LocalObjectStorage.resolve_of_names (safe accepted)).mp (confines.faces accepted)
  · intro names
    exact {
      put := fun uuid files data expectedSha256 =>
        LocalObjectStorage.put_confined sha256 uuid files storageKey data expectedSha256
      get := fun files => LocalObjectStorage.get_confined files storageKey
      delete := fun files => LocalObjectStorage.delete_confined files storageKey
      faces := fun accepted =>
        (LocalObjectStorage.resolve_of_names (safe accepted)).mpr (names accepted) }

/-- A key that names the root passes the check of a companion face. -/
theorem root_key_accepted :
    let storage := LocalObjectStorage.ofPath "/var/lib/objects"
    let sha256 := String.ofList (List.replicate 64 '0')
    validateAssetInputs "image/jpeg" 1 sha256 "." = .ok () ∧
      storage.resolve "." = .error (.valueError "storage key must stay inside the object store") ∧
      ¬ storage.Confines (fun _ => sha256) "." := by
  intro storage sha256
  have accepted : validateAssetInputs "image/jpeg" 1 sha256 "." = .ok () := by decide +kernel
  have refused : storage.resolve "." =
      .error (.valueError "storage key must stay inside the object store") := by decide +kernel
  refine ⟨accepted, refused, ?_⟩
  intro confines
  obtain ⟨path, resolved, -⟩ := confines.faces (.inl ⟨_, _, _, accepted⟩)
  rw [refused] at resolved
  cases resolved

end EidolonData
