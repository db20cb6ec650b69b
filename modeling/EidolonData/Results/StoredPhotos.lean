import EidolonData.Invariants.StoredPhotos

/-!
# Photos that can be read

Whatever fails on a run, the photo a row names is read back with its digest
unless an archive of its Person was abandoned after it had removed the object.
-/

namespace EidolonData

open Relational

/-- A row's photo is read back exactly when no archive has lost its object. -/
theorem photos_stay_readable (storage : LocalObjectStorage) (sdk : Sdk) (calls : List PhotoCall)
    (fresh : (calls.map (fun call => call.env.uuid 1)).Nodup) :
    let world := replayPhotos storage sdk calls .empty
    ∀ row ∈ world.db.tables.people.personFaces.rows, ∀ storageKey,
      row.storageKey = some storageKey →
      ((∃ data, storage.get world.files storageKey = .ok data ∧
          row.sha256 = some (sdk.sha256 data)) ↔
        storageKey ∉ photosLost storage sdk calls .empty) := by
  intro world row stored storageKey named
  obtain ⟨drawn, sound⟩ := photosSound_empty.run calls fresh (fun _ _ => List.not_mem_nil)
  exact sound.readable_iff row stored storageKey named

/-- A photo like that of a camera. -/
def photographing : Sdk := { Sdk.plain with normalizeImage := fun _ => .ok [255, 216] }

/-- A Person is photographed; its archive removes the object and fails. -/
def abandonedArchive : List PhotoCall :=
  [{ env := { uuid := fun site => .ofNat site, now := 0 }
     command := .createOwner "owner" "" "person" none none },
   { env := { uuid := fun site => .ofNat (16 + site), now := 1 }
     command := .createPerson 0 "owner" { personId := "person", displayName := "" } },
   { env := { uuid := fun site => .ofNat (32 + site), now := 2 }
     command := .replaceFace "owner" "person" 0 "" },
   { env := { uuid := fun site => .ofNat (48 + site), now := 3 }
     faults := { commit := true }
     command := .archivePerson "owner" "person" 1 }]

def sampleStorage : LocalObjectStorage := LocalObjectStorage.ofPath "/var/lib/objects"

def abandonedWorld : PhotoWorld :=
  replayPhotos sampleStorage photographing abandonedArchive .empty

theorem abandonedWorld_rows :
    abandonedWorld.db.tables.people.personFaces.rows.map (fun row => row.storageKey) =
      [some "person-faces/12000000000000000000000000000000.jpg"] := by
  decide +kernel

theorem photos_stay_readable_abandoned :
    ∃ row ∈ abandonedWorld.db.tables.people.personFaces.rows, ∃ storageKey,
      row.storageKey = some storageKey ∧
        ¬ ∃ data, sampleStorage.get abandonedWorld.files storageKey = .ok data ∧
          row.sha256 = some (photographing.sha256 data) := by
  have fresh : (abandonedArchive.map (fun call => call.env.uuid 1)).Nodup := by
    decide +kernel
  have lost : photosLost sampleStorage photographing abandonedArchive .empty =
      ["person-faces/12000000000000000000000000000000.jpg"] := by
    decide +kernel
  obtain ⟨row, rows, named⟩ := List.map_eq_singleton_iff.mp abandonedWorld_rows
  have member : row ∈ abandonedWorld.db.tables.people.personFaces.rows := by
    rw [rows]
    exact List.mem_singleton_self row
  refine ⟨row, member, _, named, ?_⟩
  intro readable
  apply (photos_stay_readable sampleStorage photographing abandonedArchive fresh row member _
    named).mp readable
  rw [lost]
  exact List.mem_singleton_self _

end EidolonData
