import EidolonData.Effects.ObjectFiles
import EidolonData.Services.StoredPhotos

/-!
# The files of the photos

The key of a photo names a file of its own, apart from those of the other
photos and from the temporary ones.
-/

namespace EidolonData

open Files LocalObjectStorage

/-- The key `_change` draws for a photo. -/
def photoKey (uuid : Uuid) : String := "person-faces/" ++ uuid.hex ++ ".jpg"

def photoName (uuid : Uuid) : List Char := uuid.hex.toList ++ ".jpg".toList

def LocalObjectStorage.photoPath (storage : LocalObjectStorage) (uuid : Uuid) : Path :=
  storage.root ++ ["person-faces".toList, photoName uuid]

theorem photoKey_toList (uuid : Uuid) :
    (photoKey uuid).toList = "person-faces".toList ++ '/' :: photoName uuid := by
  simp [photoKey, photoName, String.toList_append]

theorem photoKey_ne_empty (uuid : Uuid) : photoKey uuid ≠ "" := by
  intro same
  have empty := congrArg String.toList same
  rw [photoKey_toList] at empty
  simp at empty

theorem mem_photoName {uuid : Uuid} {c : Char} (member : c ∈ photoName uuid) :
    isLowerHex c = true ∨ c ∈ ".jpg".toList := by
  rcases List.mem_append.mp member with hex | suffix
  · exact Or.inl (List.all_eq_true.mp uuid.wellFormed.2 c hex)
  · exact Or.inr suffix

theorem not_mem_photoName {uuid : Uuid} {c : Char} (notHex : isLowerHex c = false)
    (notSuffix : c ∉ ".jpg".toList) : c ∉ photoName uuid := by
  intro member
  rcases mem_photoName member with hex | suffix
  · rw [notHex] at hex
    cases hex
  · exact notSuffix suffix

theorem length_photoName (uuid : Uuid) : (photoName uuid).length = 36 := by
  rw [photoName, List.length_append, uuid.wellFormed.1]
  rfl

theorem resolve_photoKey (storage : LocalObjectStorage) (uuid : Uuid) :
    storage.resolve (photoKey uuid) = .ok (storage.photoPath uuid) := by
  have slash : '/' ∉ photoName uuid := not_mem_photoName (by decide) (by decide)
  have null : '\x00' ∉ photoName uuid := not_mem_photoName (by decide) (by decide)
  have folderSlash : ∀ c ∈ "person-faces".toList, (c == '/') = false := by
    intro c member
    rw [beq_eq_false_iff_ne]
    rintro rfl
    exact absurd member (by decide)
  have split : (photoKey uuid).toList.splitOn '/' = ["person-faces".toList, photoName uuid] := by
    rw [photoKey_toList, List.splitOn,
      List.splitOnP_append_cons_of_forall_mem folderSlash '/' (by decide) (photoName uuid),
      List.splitOnP_eq_singleton]
    intro c member
    rw [beq_eq_false_iff_ne]
    rintro rfl
    exact slash member
  have down : ['.', '.'] ∉ (photoKey uuid).toList.splitOn '/' := by
    rw [split]
    intro member
    have lengths := congrArg List.length ((List.mem_pair.mp member).resolve_left (by decide))
    rw [length_photoName] at lengths
    cases lengths
  have named : isName (photoName uuid) = true := by
    have long : ∀ short : List Char, short.length < 36 → photoName uuid ≠ short := by
      rintro short shorter rfl
      rw [length_photoName] at shorter
      omega
    simp [isName, long [] (by decide), long ['.'] (by decide)]
  have walked : walk storage.root ((photoKey uuid).toList.splitOn '/') =
      storage.photoPath uuid := by
    have folder : isName "person-faces".toList = true := by decide
    rw [walk_descends _ down, split, photoPath, List.filter_cons_of_pos folder,
      List.filter_cons_of_pos named, List.filter_nil]
  have below : storage.root <+: storage.photoPath uuid ∧ storage.root ≠ storage.photoPath uuid := by
    refine ⟨List.prefix_append _ _, ?_⟩
    intro same
    have length := congrArg List.length same
    simp [photoPath] at length
  have relative : (photoKey uuid).toList.head? ≠ some '/' := by
    rw [photoKey_toList]
    intro first
    cases first
  have noNull : '\x00' ∉ (photoKey uuid).toList := by
    rw [photoKey_toList]
    simp [null]
  have inside := mem_parents.mpr below
  simp only [resolve, photoKey_ne_empty, relative, or_self, if_false, noNull, walked,
    Ne.symm below.2, inside, not_true_eq_false]

theorem photoName_injective {uuid other : Uuid} (same : photoName uuid = photoName other) :
    uuid = other := by
  have hex : uuid.hex.toList = other.hex.toList := by
    simpa [photoName] using same
  cases uuid
  cases other
  exact (Uuid.mk.injEq _ _ _ _).mpr (String.toList_injective hex)

theorem photoKey_injective {uuid other : Uuid} (same : photoKey uuid = photoKey other) :
    uuid = other := by
  have lists := congrArg String.toList same
  rw [photoKey_toList, photoKey_toList] at lists
  exact photoName_injective (List.cons.inj (List.append_cancel_left lists)).2

theorem photoPath_injective (storage : LocalObjectStorage) {uuid other : Uuid}
    (same : storage.photoPath uuid = storage.photoPath other) : uuid = other := by
  have names := List.append_cancel_left same
  exact photoName_injective (List.cons.inj (List.cons.inj names).2).1

/-- A temporary name begins with a dot, a photo's with a digit. -/
theorem photoPath_ne_temporary (storage : LocalObjectStorage) (uuid other fresh : Uuid) :
    storage.photoPath uuid ≠ temporary (storage.photoPath other) fresh := by
  intro same
  have last := congrArg (fun path => path.getLast?) same
  simp only [photoPath, temporary, List.getLast?_append, List.getLast?_singleton,
    List.getLast?_cons_cons, Option.some_or, Option.some.injEq] at last
  have dotted : '.' :: _ = photoName uuid := last.symm
  have first : '.' ∈ (photoName uuid).take 32 := by
    rw [← dotted]
    simp
  rw [photoName, List.take_append_of_le_length (by rw [uuid.wellFormed.1])] at first
  have hex := List.all_eq_true.mp uuid.wellFormed.2 '.' (List.mem_of_mem_take first)
  exact absurd hex (by decide)

/-- The same bytes are read under a key. -/
def LocalObjectStorage.Same (storage : LocalObjectStorage) (files files' : ObjectFiles)
    (storageKey : String) : Prop :=
  ∀ data, storage.get files' storageKey = .ok data ↔ storage.get files storageKey = .ok data

section Requests

variable {storage : LocalObjectStorage} {sdk : Sdk} (call : PhotoCall) {files files' : ObjectFiles}
  {uuid other : Uuid}

theorem LocalObjectStorage.Same.refl (files : ObjectFiles) (storageKey : String) :
    storage.Same files files storageKey :=
  fun _ => Iff.rfl

theorem LocalObjectStorage.Same.trans {files'' : ObjectFiles} {storageKey : String}
    (first : storage.Same files files' storageKey)
    (second : storage.Same files' files'' storageKey) : storage.Same files files'' storageKey :=
  fun data => (second data).trans (first data)

theorem same_of_keepsFiles {paths : List Path} (kept : files.KeepsFiles paths files')
    (apart : storage.photoPath other ∉ paths) : storage.Same files files' (photoKey other) := by
  have resolved := resolve_photoKey storage other
  intro data
  rw [get_ok_iff resolved, get_ok_iff resolved]
  exact kept (storage.photoPath other) apart data

namespace PhotoCall

theorem put_same (data : List UInt8) (apart : other ≠ uuid) :
    storage.Same files (call.put storage sdk files (photoKey uuid) data).2 (photoKey other) := by
  have resolved := resolve_photoKey storage uuid
  have target : storage.photoPath other ∉ [storage.photoPath uuid] := by
    rw [List.mem_singleton]
    intro same
    exact apart (photoPath_injective storage same)
  have beside : storage.photoPath other ∉
      [temporary (storage.photoPath uuid) (call.env.uuid 2)] := by
    rw [List.mem_singleton]
    exact photoPath_ne_temporary storage other uuid (call.env.uuid 2)
  have kept : storage.Same files (storage.put sdk.sha256 (call.env.uuid 2) files (photoKey uuid)
      data .none).2 (photoKey other) := by
    by_cases passes : Acceptable sdk.sha256 data .none ∧
        Writable files (storage.photoPath uuid) (call.env.uuid 2)
    · obtain ⟨written, wrote, -, keeps⟩ := put_writes resolved passes.1 passes.2
      rw [wrote]
      exact same_of_keepsFiles keeps target
    · obtain ⟨refusal, written, refused, keeps, -⟩ := put_refuses resolved passes
      rw [refused]
      exact same_of_keepsFiles keeps beside
  unfold put
  cases call.faults.put with
  | none => exact kept
  | before => exact .refl files _
  | after => exact kept

theorem put_stored {data : List UInt8}
    (done : (call.put storage sdk files (photoKey uuid) data).1 = true) :
    storage.get (call.put storage sdk files (photoKey uuid) data).2 (photoKey uuid) =
      .ok data := by
  have resolved := resolve_photoKey storage uuid
  unfold put at done ⊢
  cases fault : call.faults.put with
  | none =>
      rw [fault] at done
      by_cases passes : Acceptable sdk.sha256 data .none ∧
          Writable files (storage.photoPath uuid) (call.env.uuid 2)
      · obtain ⟨written, wrote, here, -⟩ := put_writes resolved passes.1 passes.2
        rw [wrote, get_ok_iff resolved, FileSystem.read_ok_iff, here]
      · obtain ⟨refusal, written, refused, -⟩ := put_refuses resolved passes
        rw [refused] at done
        cases done
  | before =>
      rw [fault] at done
      cases done
  | after =>
      rw [fault] at done
      cases done

theorem deleteKey_photo :
    call.deleteKey storage files (some (photoKey uuid)) =
      call.delete storage files (photoKey uuid) := by
  have named : (some (photoKey uuid)).filter (fun name => decide (name ≠ "")) =
      some (photoKey uuid) := by
    rw [Option.filter_some, if_pos (decide_eq_true (photoKey_ne_empty uuid))]
  rw [deleteKey, named]

theorem deleteKey_same {storageKey : Option String}
    (drawn : ∀ name, storageKey = some name → ∃ uuid, name = photoKey uuid)
    (apart : storageKey ≠ some (photoKey other)) :
    storage.Same files (call.deleteKey storage files storageKey).2 (photoKey other) := by
  cases storageKey with
  | none => exact .refl files _
  | some name =>
      obtain ⟨uuid, rfl⟩ := drawn name rfl
      have different : storage.photoPath other ∉ [storage.photoPath uuid] := by
        rw [List.mem_singleton]
        intro same
        exact apart (congrArg (fun uuid => some (photoKey uuid))
          (photoPath_injective storage same).symm)
      rw [deleteKey_photo, delete]
      split
      · exact .refl files _
      · exact same_of_keepsFiles (delete_keepsFiles (resolve_photoKey storage uuid)) different

theorem deleteKey_gone
    (done : (call.deleteKey storage files (some (photoKey uuid))).1 = true) (data : List UInt8) :
    storage.get (call.deleteKey storage files (some (photoKey uuid))).2 (photoKey uuid) ≠
      .ok data := by
  have resolved := resolve_photoKey storage uuid
  rw [deleteKey_photo, delete] at done ⊢
  split at done
  · cases done
  · next faultless =>
      rw [if_neg faultless]
      simp only [LocalObjectStorage.delete, resolved] at done ⊢
      cases discarded : files.discard (storage.photoPath uuid) with
      | error fault =>
          rw [discarded] at done
          cases done
      | ok cleaned =>
          intro read
          rw [get_ok_iff resolved, FileSystem.read_ok_iff,
            (FileSystem.discard_agrees discarded).2] at read
          cases read

theorem delete_failed {storageKey : String}
    (failed : (call.delete storage files storageKey).1 = false) :
    (call.delete storage files storageKey).2 = files := by
  unfold delete at failed ⊢
  split at failed
  · next fault => rw [if_pos fault]
  · next faultless =>
      rw [if_neg faultless]
      unfold LocalObjectStorage.delete at failed ⊢
      cases resolved : storage.resolve storageKey with
      | error refusal => rfl
      | ok target =>
          rw [resolved] at failed
          cases discarded : files.discard target with
          | error fault => simp only [discarded]
          | ok cleaned =>
              simp only [discarded] at failed
              cases failed

theorem deleteKey_failed {storageKey : Option String}
    (failed : (call.deleteKey storage files storageKey).1 = false) :
    (call.deleteKey storage files storageKey).2 = files := by
  unfold deleteKey at failed ⊢
  cases named : storageKey.filter (· ≠ "") with
  | none => rfl
  | some name =>
      rw [named] at failed
      exact call.delete_failed failed

end PhotoCall

end Requests

end EidolonData
