import EidolonData.Schema.Workspace

/-!
# Faces, the smart home and teams

The rows that hang off an Owner or a Companion without being part of the
Companion aggregates: display faces, Owner face profiles, the smart-home
registry and the saved teams.  Media bytes live outside the database; a row
keeps the storage key.
-/

namespace EidolonData

open Relational

inductive FaceAssetState where
  | active
  | superseded
  deriving DecidableEq, Repr

structure CompanionFaceAssetRow where
  faceAssetId : String
  companionId : String
  ownerId : String
  version : Int
  state : FaceAssetState := .active
  condStorageKey : String
  condSizeBytes : Int
  condSha256 : String
  idleStorageKey : Option String := none
  deriving DecidableEq, Repr

inductive FaceProfileState where
  | draft
  | desired
  | superseded
  deriving DecidableEq, Repr

/-- What a revision asks for: a set of references, or that there be none. -/
inductive FaceProfileTarget where
  | active
  | cleared
  deriving DecidableEq, Repr

structure OwnerFaceProfileRevisionRow where
  profileRevisionId : String
  profileId : String
  ownerId : String
  revision : Int
  state : FaceProfileState := .draft
  desiredState : FaceProfileTarget := .active
  modelId : Option String
  preprocessingVersion : Option String
  activatedAt : Option Timestamp := none
  deriving DecidableEq, Repr

structure OwnerFaceReferenceRow where
  referenceId : String
  profileRevisionId : String
  pose : String
  contentType : String
  sizeBytes : Int
  sha256 : String
  storageKey : String
  deriving DecidableEq, Repr

instance : HasKey CompanionFaceAssetRow String := ⟨CompanionFaceAssetRow.faceAssetId⟩
instance : HasKey OwnerFaceProfileRevisionRow String :=
  ⟨OwnerFaceProfileRevisionRow.profileRevisionId⟩
instance : HasKey OwnerFaceReferenceRow String := ⟨OwnerFaceReferenceRow.referenceId⟩

structure Faces where
  companionFaceAssets : Table CompanionFaceAssetRow := ∅
  ownerFaceProfileRevisions : Table OwnerFaceProfileRevisionRow := ∅
  ownerFaceReferences : Table OwnerFaceReferenceRow := ∅

/-- The Owner's registry revision; absent until the first write. -/
structure SmartHomeRegistryRow where
  ownerId : String
  revision : Int := 1
  deriving DecidableEq, Repr

structure SmartHomeAreaRow where
  ownerId : String
  areaId : String
  name : String
  sortOrder : Int := 0
  position : Int
  deriving DecidableEq, Repr

structure SmartHomeDeviceRow where
  ownerId : String
  deviceId : String
  name : String
  aliasesJson : List String := []
  deviceType : String
  areaId : Option String := none
  provider : String := "virtual"
  providerRef : Option String := none
  /-- `NULL` where the type's preset is meant. -/
  traitsJson : Option (List String) := none
  limitsJson : Option JsonDict := none
  source : String := "manual"
  overridesJson : List String := []
  syncedAtMs : Option Int := none
  orphaned : Bool := false
  position : Int
  deriving DecidableEq, Repr

structure SmartHomeSceneRow where
  ownerId : String
  sceneId : String
  name : String
  provider : Option String := none
  providerRef : Option String := none
  position : Int
  deriving DecidableEq, Repr

structure SmartHomeSceneActionRow where
  ownerId : String
  sceneId : String
  position : Int
  deviceId : String
  trait : String
  command : String
  paramsJson : JsonDict := []
  deriving DecidableEq, Repr

structure SmartHomePlacementRow where
  ownerId : String
  deviceRef : String
  areaId : String
  deriving DecidableEq, Repr

instance : HasKey SmartHomeRegistryRow String := ⟨SmartHomeRegistryRow.ownerId⟩
instance : HasKey SmartHomeAreaRow (String × String) :=
  ⟨fun row => (row.ownerId, row.areaId)⟩
instance : HasKey SmartHomeDeviceRow (String × String) :=
  ⟨fun row => (row.ownerId, row.deviceId)⟩
instance : HasKey SmartHomeSceneRow (String × String) :=
  ⟨fun row => (row.ownerId, row.sceneId)⟩
instance : HasKey SmartHomeSceneActionRow (String × String × Int) :=
  ⟨fun row => (row.ownerId, row.sceneId, row.position)⟩
instance : HasKey SmartHomePlacementRow (String × String) :=
  ⟨fun row => (row.ownerId, row.deviceRef)⟩

structure SmartHome where
  registries : Table SmartHomeRegistryRow := ∅
  areas : Table SmartHomeAreaRow := ∅
  devices : Table SmartHomeDeviceRow := ∅
  scenes : Table SmartHomeSceneRow := ∅
  sceneActions : Table SmartHomeSceneActionRow := ∅
  placements : Table SmartHomePlacementRow := ∅

structure TeamRow where
  ownerId : String
  teamId : String
  hostId : String
  activeSessionId : Option String := none
  deleted : Bool := false
  revision : Int
  deriving DecidableEq, Repr

structure TeamRevisionRow where
  ownerId : String
  teamId : String
  revision : Int
  configuration : JsonDict
  deriving DecidableEq, Repr

/-- Durable start identity, not a claim that media is running. -/
structure TeamStartRow where
  ownerId : String
  sessionId : String
  teamId : String
  revision : Int
  closed : Bool := false
  selection : Option JsonDict := none
  terminalStatus : Option JsonDict := none
  deriving DecidableEq, Repr

instance : HasKey TeamRow (String × String) := ⟨fun row => (row.ownerId, row.teamId)⟩
instance : HasKey TeamRevisionRow (String × String × Int) :=
  ⟨fun row => (row.ownerId, row.teamId, row.revision)⟩
instance : HasKey TeamStartRow (String × String) :=
  ⟨fun row => (row.ownerId, row.sessionId)⟩

structure Teams where
  teams : Table TeamRow := ∅
  teamRevisions : Table TeamRevisionRow := ∅
  teamStarts : Table TeamStartRow := ∅

end EidolonData
