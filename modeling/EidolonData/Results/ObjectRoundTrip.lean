import EidolonData.Effects.ObjectFiles

/-!
# Objects read back

Exactly when a put goes through, what is read afterwards, and that no other
object changes, whether it goes through or not.
-/

namespace EidolonData

open Files LocalObjectStorage

/-- A key that is refused does nothing.  For any other, a put goes through
exactly when its bytes pass and nothing stands in the way; then they are read
back and can be deleted.  Neither a put nor a delete changes another object;
a put that fails changes none, but one that stands under its temporary name
may be gone. -/
theorem object_storage_round_trip (storage : LocalObjectStorage)
    (sha256 : List UInt8 → String) (uuid : Uuid) (files : ObjectFiles) (storageKey : String)
    (data : List UInt8) (expectedSha256 : Option String) :
    let outcome := storage.put sha256 uuid files storageKey data expectedSha256
    (∀ refusal, storage.resolve storageKey = .error refusal →
      (∃ error, outcome = (.error error, files)) ∧
        storage.get files storageKey = .error refusal ∧
        storage.delete files storageKey = (.error refusal, files)) ∧
    ∀ target, storage.resolve storageKey = .ok target →
      ((∃ digest, outcome.1 = .ok digest) ↔
        Acceptable sha256 data expectedSha256 ∧ Writable files target uuid) ∧
      (∀ digest, outcome.1 = .ok digest →
        digest = sha256 data ∧ storage.get outcome.2 storageKey = .ok data ∧
          ∃ cleaned, storage.delete outcome.2 storageKey = (.ok (), cleaned) ∧
            ∀ bytes, storage.get cleaned storageKey ≠ .ok bytes) ∧
      (∀ other path bytes, storage.resolve other = .ok path →
        (path = target → ∀ digest, outcome.1 ≠ .ok digest) →
        (storage.get outcome.2 other = .ok bytes → storage.get files other = .ok bytes) ∧
        (path ≠ temporary target uuid →
          storage.get files other = .ok bytes → storage.get outcome.2 other = .ok bytes)) ∧
      ∀ other path bytes, storage.resolve other = .ok path → path ≠ target →
        (storage.get (storage.delete files storageKey).2 other = .ok bytes ↔
          storage.get files other = .ok bytes) := by
  intro outcome
  constructor
  · intro refusal refused
    refine ⟨put_unresolved refused, ?_, ?_⟩
    · simp only [LocalObjectStorage.get, refused]
    · simp only [LocalObjectStorage.delete, refused]
  intro target resolved
  have deletes : ∀ other path bytes, storage.resolve other = .ok path → path ≠ target →
      (storage.get (storage.delete files storageKey).2 other = .ok bytes ↔
        storage.get files other = .ok bytes) := by
    intro other path bytes named apart
    rw [get_ok_iff named, get_ok_iff named]
    exact delete_keepsFiles resolved path (by simpa using apart) bytes
  by_cases passes : Acceptable sha256 data expectedSha256 ∧ Writable files target uuid
  · obtain ⟨written, wrote, here, kept⟩ := put_writes resolved passes.1 passes.2
    have stored : outcome = (.ok (sha256 data), written) := wrote
    rw [stored]
    refine ⟨⟨fun _ => passes, fun _ => ⟨sha256 data, rfl⟩⟩, ?_, ?_, deletes⟩
    · rintro digest ⟨⟩
      refine ⟨rfl, ?_, delete_stored resolved here⟩
      rw [get_ok_iff resolved, FileSystem.read_ok_iff, here]
    · intro other path bytes named failed
      have apart : path ≠ target := fun same => failed same _ rfl
      have same := kept path (by simpa using apart) bytes
      rw [get_ok_iff named, get_ok_iff named]
      exact ⟨same.mp, fun _ => same.mpr⟩
  · obtain ⟨refusal, written, refused, kept, temporaryRead⟩ := put_refuses resolved passes
    have failed : outcome = (.error refusal, written) := refused
    rw [failed]
    refine ⟨⟨?_, fun also => absurd also passes⟩, ?_, ?_, deletes⟩
    · rintro ⟨digest, ⟨⟩⟩
    · rintro digest ⟨⟩
    · intro other path bytes named _
      rw [get_ok_iff named, get_ok_iff named]
      constructor
      · by_cases isTemporary : path = temporary target uuid
        · rw [isTemporary]
          exact temporaryRead bytes
        · exact (kept path (by simpa using isTemporary) bytes).mp
      · intro apart
        exact (kept path (by simpa using apart) bytes).mpr

/-- A first object, stored, read and deleted; a key outside the store is
refused. -/
theorem object_storage_round_trip_first :
    let storage := ofPath "/var/lib/objects"
    let outcome := storage.put (fun _ => "") (.ofNat 1) .empty "person-faces/a.jpg" [255] none
    storage.get outcome.2 "person-faces/a.jpg" = .ok [255] ∧
      (∃ cleaned, storage.delete outcome.2 "person-faces/a.jpg" = (.ok (), cleaned) ∧
        ∀ bytes, storage.get cleaned "person-faces/a.jpg" ≠ .ok bytes) ∧
      ∃ error, storage.put (fun _ => "") (.ofNat 1) .empty "../a.jpg" [255] none =
        (.error error, .empty) := by
  intro storage outcome
  have resolved : storage.resolve "person-faces/a.jpg" =
      .ok ["var".toList, "lib".toList, "objects".toList, "person-faces".toList,
        "a.jpg".toList] := by
    decide +kernel
  have refused : storage.resolve "../a.jpg" =
      .error (.valueError "storage key must stay inside the object store") := by
    decide +kernel
  have stored : outcome.1 = .ok "" := by
    decide +kernel
  have first := ((object_storage_round_trip storage (fun _ => "") (.ofNat 1) .empty
    "person-faces/a.jpg" [255] none).2 _ resolved).2.1 "" stored
  exact ⟨first.2.1, first.2.2, ((object_storage_round_trip storage (fun _ => "") (.ofNat 1) .empty
    "../a.jpg" [255] none).1 _ refused).1⟩

end EidolonData
