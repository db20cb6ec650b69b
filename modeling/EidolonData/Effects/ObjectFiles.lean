import EidolonData.Services.ObjectStorage

/-!
# What the object store writes

A put either stores the bytes under its key or leaves every object as it was;
it never shows a part of them.
-/

namespace EidolonData

open Files

namespace LocalObjectStorage

variable {storage : LocalObjectStorage} {storageKey : String} {target : Path}

/-- Nothing stands in the way of a write to this path. -/
structure Writable (files : ObjectFiles) (target : Path) (uuid : Uuid) : Prop where
  free : files.isBlocked target.dropLast = false
  file : files.entry target ≠ some .directory
  fresh : files.entry (temporary target uuid) = none

theorem dropLast_temporary (target : Path) (uuid : Uuid) :
    (temporary target uuid).dropLast = target.dropLast := by
  rw [temporary, List.dropLast_concat]

/-- The temporary name is longer than the name it stands for. -/
theorem temporary_ne (target : Path) (uuid : Uuid) : temporary target uuid ≠ target := by
  intro same
  have last := congrArg (fun path => (path.getLastD []).length) same
  simp [temporary] at last
  omega

theorem writeAtomically_ok {files : ObjectFiles} {uuid : Uuid} (data : List UInt8)
    (stands : files.entry target.dropLast = some .directory)
    (file : files.entry target ≠ some .directory)
    (fresh : files.entry (temporary target uuid) = none) :
    ∃ written, writeAtomically files target (temporary target uuid) data = (.ok (), written) ∧
      written.entry target = some (.file data) ∧
        FileSystem.AgreesOff [target] files written := by
  have beside : files.entry (temporary target uuid).dropLast = some .directory := by
    rw [dropLast_temporary]
    exact stands
  obtain ⟨created, create, there, off⟩ := FileSystem.create_ok fresh beside data
  have stillFile : created.entry target ≠ some .directory := by
    rw [off target (by simpa using (temporary_ne target uuid).symm)]
    exact file
  have above : target.dropLast ≠ temporary target uuid := by
    intro same
    rw [← same, stands] at fresh
    cases fresh
  have proper : target.dropLast ≠ target := by
    intro same
    rw [same] at stands
    exact file stands
  have stillStands : created.entry target.dropLast = some .directory := by
    rw [off target.dropLast (by simpa using above), stands]
  obtain ⟨moved, move, here, gone, agrees⟩ :=
    FileSystem.replace_ok (temporary_ne target uuid) there stillFile stillStands
  have inside : moved.entry (temporary target uuid).dropLast = some .directory := by
    rw [dropLast_temporary, agrees target.dropLast (by simp [above, proper]), stillStands]
  refine ⟨moved, ?_, here, ?_⟩
  · simp only [writeAtomically, create, move, cleanUp, FileSystem.discard_missing gone inside]
  · intro other outside
    rw [List.mem_singleton] at outside
    by_cases isTemporary : other = temporary target uuid
    · rw [isTemporary, gone, fresh]
    · rw [agrees other (by simp [outside, isTemporary]), off other (by simp [isTemporary])]

/-- A write that fails leaves the other files as they were; one that already
stood under the temporary name may go. -/
theorem writeAtomically_error {files : ObjectFiles} {uuid : Uuid} (data : List UInt8)
    (stands : files.entry target.dropLast = some .directory)
    (blocked : ¬ (files.entry target ≠ some .directory ∧
      files.entry (temporary target uuid) = none)) :
    ∃ fault written, writeAtomically files target (temporary target uuid) data =
        (.error (.osError fault), written) ∧
      FileSystem.AgreesOff [temporary target uuid] files written ∧
      (written.entry (temporary target uuid) = files.entry (temporary target uuid) ∨
        written.entry (temporary target uuid) = none) := by
  cases fresh : files.entry (temporary target uuid) with
  | some node =>
      have refused : files.create (temporary target uuid) data = .error .alreadyExists := by
        rw [FileSystem.create, fresh]
      cases discarded : files.discard (temporary target uuid) with
      | error fault =>
          refine ⟨fault, files, ?_, fun _ _ => rfl, Or.inl fresh⟩
          simp only [writeAtomically, refused, cleanUp, discarded]
      | ok cleaned =>
          obtain ⟨agrees, gone⟩ := FileSystem.discard_agrees discarded
          refine ⟨.alreadyExists, cleaned, ?_, agrees, Or.inr gone⟩
          simp only [writeAtomically, refused, cleanUp, discarded]
  | none =>
      have directory : files.entry target = some .directory := by
        by_contra file
        exact blocked ⟨file, fresh⟩
      have beside : files.entry (temporary target uuid).dropLast = some .directory := by
        rw [dropLast_temporary]
        exact stands
      obtain ⟨created, create, there, off⟩ := FileSystem.create_ok fresh beside data
      have still : created.entry target = some .directory := by
        rw [off target (by simpa using (temporary_ne target uuid).symm), directory]
      have refused := FileSystem.replace_directory (temporary_ne target uuid) there still
      obtain ⟨cleaned, discarded, gone, agrees⟩ := FileSystem.discard_ok there
      refine ⟨.isDirectory, cleaned, ?_, off.trans agrees, Or.inr gone⟩
      simp only [writeAtomically, create, refused, cleanUp, discarded]

theorem not_prefix_dropLast {path : Path} (notTop : path ≠ []) : ¬ path <+: path.dropLast := by
  intro within
  have length := within.length_le
  have positive := List.length_pos_iff.mpr notTop
  rw [List.length_dropLast] at length
  omega

section Get

variable {files : ObjectFiles} {content : List UInt8}

theorem get_ok_iff (resolved : storage.resolve storageKey = .ok target) :
    storage.get files storageKey = .ok content ↔ files.read target = .ok content := by
  simp only [get, resolved]
  cases files.read target with
  | error fault => simp [Except.mapError]
  | ok bytes => simp [Except.mapError]

theorem delete_keepsFiles (resolved : storage.resolve storageKey = .ok target) :
    files.KeepsFiles [target] (storage.delete files storageKey).2 := by
  simp only [delete, resolved]
  cases discarded : files.discard target with
  | error fault => exact fun _ _ _ => Iff.rfl
  | ok cleaned => exact (FileSystem.discard_agrees discarded).1.keepsFiles

theorem delete_stored (resolved : storage.resolve storageKey = .ok target)
    (stored : files.entry target = some (.file content)) :
    ∃ cleaned, storage.delete files storageKey = (.ok (), cleaned) ∧
      ∀ bytes, storage.get cleaned storageKey ≠ .ok bytes := by
  obtain ⟨cleaned, discarded, gone, -⟩ := FileSystem.discard_ok stored
  refine ⟨cleaned, by simp only [delete, resolved, discarded], ?_⟩
  intro bytes read
  rw [get_ok_iff resolved, FileSystem.read_ok_iff, gone] at read
  cases read

end Get

section Put

variable {sha256 : List UInt8 → String} {uuid : Uuid} {files : ObjectFiles} {data : List UInt8}
  {expectedSha256 : Option String}

/-- The bytes pass the checks of `put`. -/
def Acceptable (sha256 : List UInt8 → String) (data : List UInt8)
    (expectedSha256 : Option String) : Prop :=
  data ≠ [] ∧ ∀ expected, expectedSha256 = some expected → expected = sha256 data

theorem digest_expected (accepted : Acceptable sha256 data expectedSha256) :
    ¬ expectedSha256.any (fun expected => sha256 data ≠ expected) = true := by
  rw [Option.any_eq_true]
  rintro ⟨expected, given, other⟩
  rw [accepted.2 expected given] at other
  simp at other

/-- A put that nothing stands in the way of. -/
theorem put_writes (resolved : storage.resolve storageKey = .ok target)
    (accepted : Acceptable sha256 data expectedSha256) (writable : Writable files target uuid) :
    ∃ written, storage.put sha256 uuid files storageKey data expectedSha256 =
        (.ok (sha256 data), written) ∧
      written.entry target = some (.file data) ∧ files.KeepsFiles [target] written := by
  obtain ⟨made, makes, stands, others⟩ := FileSystem.makeDirectories_ok writable.free
  have notTop : target ≠ [] := by
    rintro rfl
    exact writable.file files.top
  have file : made.entry target ≠ some .directory := by
    rw [others target (not_prefix_dropLast notTop)]
    exact writable.file
  have fresh : made.entry (temporary target uuid) = none := by
    rw [← dropLast_temporary target uuid] at others
    rw [others _ (not_prefix_dropLast (by simp [temporary]))]
    exact writable.fresh
  obtain ⟨written, wrote, here, agrees⟩ := writeAtomically_ok data stands file fresh
  refine ⟨written, ?_, here, ?_⟩
  · simp only [put, if_neg accepted.1, if_neg (digest_expected accepted), resolved, makes, wrote]
    rfl
  · have directories := FileSystem.makeDirectories_keepsFiles makes
    intro other outside content
    exact (agrees.keepsFiles other outside content).trans
      (directories other List.not_mem_nil content)

/-- Any other put is refused, and the objects stay but for one under the
temporary name. -/
theorem put_refuses (resolved : storage.resolve storageKey = .ok target)
    (stopped : ¬ (Acceptable sha256 data expectedSha256 ∧ Writable files target uuid)) :
    ∃ refusal written, storage.put sha256 uuid files storageKey data expectedSha256 =
        (.error refusal, written) ∧ files.KeepsFiles [temporary target uuid] written ∧
        ∀ content, written.read (temporary target uuid) = .ok content →
          files.read (temporary target uuid) = .ok content := by
  have untouched : files.KeepsFiles [temporary target uuid] files ∧
      ∀ content, files.read (temporary target uuid) = .ok content →
        files.read (temporary target uuid) = .ok content :=
    ⟨fun _ _ _ => Iff.rfl, fun _ read => read⟩
  by_cases nothing : data = []
  · exact ⟨_, files, by rw [put, if_pos nothing], untouched⟩
  by_cases unexpected : expectedSha256.any (fun expected => sha256 data ≠ expected) = true
  · exact ⟨_, files, by rw [put, if_neg nothing, if_pos unexpected], untouched⟩
  cases blocked : files.isBlocked target.dropLast with
  | true =>
      obtain ⟨fault, refused⟩ := FileSystem.makeDirectories_blocked blocked
      refine ⟨.osError fault, files, ?_, untouched⟩
      simp only [put, if_neg nothing, if_neg unexpected, resolved, refused]
  | false =>
      obtain ⟨made, makes, stands, -⟩ := FileSystem.makeDirectories_ok blocked
      have still : ¬ (made.entry target ≠ some .directory ∧
          made.entry (temporary target uuid) = none) := by
        rintro ⟨file, fresh⟩
        apply stopped
        refine ⟨⟨nothing, ?_⟩, ⟨blocked, ?_, ?_⟩⟩
        · intro expected given
          by_contra other
          exact unexpected (by simp [given, Ne.symm other])
        · rcases FileSystem.makeDirectories_entry makes with same | ⟨-, -, directory⟩
          · rw [← same]
            exact file
          · exact absurd directory file
        · rcases FileSystem.makeDirectories_entry makes with same | ⟨-, missing, -⟩
          · rw [← same, fresh]
          · exact missing
      obtain ⟨fault, written, wrote, agrees, temporaryEntry⟩ :=
        writeAtomically_error data stands still
      have directories := FileSystem.makeDirectories_keepsFiles makes
      refine ⟨.osError fault, written, ?_, ?_, ?_⟩
      · simp only [put, if_neg nothing, if_neg unexpected, resolved, makes, wrote]
        rfl
      · intro other outside content
        exact (agrees.keepsFiles other outside content).trans
          (directories other List.not_mem_nil content)
      · intro content read
        apply (directories _ List.not_mem_nil content).mp
        rw [FileSystem.read_ok_iff] at read ⊢
        rcases temporaryEntry with same | gone
        · rw [← same, read]
        · rw [gone] at read
          cases read

theorem put_unresolved {refusal : StorageError}
    (refused : storage.resolve storageKey = .error refusal) :
    ∃ error, storage.put sha256 uuid files storageKey data expectedSha256 =
      (.error error, files) := by
  by_cases nothing : data = []
  · exact ⟨_, by rw [put, if_pos nothing]⟩
  by_cases unexpected : expectedSha256.any (fun expected => sha256 data ≠ expected) = true
  · exact ⟨_, by rw [put, if_neg nothing, if_pos unexpected]⟩
  exact ⟨refusal, by simp only [put, if_neg nothing, if_neg unexpected, refused]⟩

end Put

end LocalObjectStorage

end EidolonData
