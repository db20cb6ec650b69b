import Mathlib.Tactic.MkIffOfInductiveProp
import EidolonData.Library.Constraint
import EidolonData.Library.Transaction
import EidolonData.Schema.Assets
import EidolonData.Schema.Audit
import EidolonData.Schema.People

/-!
# The database

The tables together, the constraints the schema puts on them, and the
deletion of a row with the `ON DELETE` actions it sets off.  A `Database` is
a set of tables that meets the constraints: what a commit leaves behind.
-/

namespace EidolonData

open Relational

structure Tables where
  workspace : Workspace := {}
  faces : Faces := {}
  home : SmartHome := {}
  people : People := {}
  teams : Teams := {}
  auditOutbox : Table AuditOutboxRow := ∅

/-- A reference that may be `NULL`. -/
def nullable (reference : Option String) (stored : String → Bool) : Bool :=
  reference.all stored

section References

variable (workspace : Workspace) (people : People)

/-- `FOREIGN KEY (owner_id, companion_id)` of the rows that name both. -/
def Workspace.hasOwnedCompanion (ownerId companionId : String) : Bool :=
  (workspace.companions.get? companionId).any (fun row => row.ownerId = ownerId)

/-- `FOREIGN KEY (owner_id, person_id)` of the rows that name both. -/
def People.hasOwnedPerson (ownerId personId : String) : Bool :=
  (people.persons.get? personId).any (fun row => row.ownerId = ownerId)

end References

/-- The constraints of the Owner and Companion aggregates. -/
@[mk_iff]
structure Workspace.Integrity (w : Workspace) : Prop where
  ownerRevision : w.owners.All (fun row => 0 < row.revision)
  ownerDefault : w.owners.All (fun row => nullable row.defaultCompanionId w.companions.has)
  companionOwner : w.companions.All (fun row => w.owners.has row.ownerId)
  companionRevision : w.companions.All (fun row => 0 < row.revision)
  companionGenome :
    w.companions.All (fun row => nullable row.currentGenomeId w.personaGenomes.has)
  companionRealm :
    w.companions.All (fun row => nullable row.defaultMemoryRealmId w.memoryRealms.has)
  genomeCompanion : w.personaGenomes.All (fun row => w.companions.has row.companionId)
  genomeBase : w.personaGenomes.All (fun row => nullable row.baseGenomeId w.personaGenomes.has)
  genomeVersion : w.personaGenomes.All (fun row => 0 < row.version)
  genomeCurrent : w.personaGenomes.All (fun row =>
    row.schemaVersion = "eidolon.persona_genome" &&
      row.realizerVersion = "eidolon.persona_realizer")
  genomeVersions : w.personaGenomes.UniqueOn (fun row => some (row.companionId, row.version))
  realmOwner : w.memoryRealms.All (fun row => w.owners.has row.ownerId)
  /-- `uq_memory_realms_owner_active` -/
  realmShared : w.memoryRealms.UniqueOn
    (fun row => if row.isShared row.ownerId then some row.ownerId else none)
  /-- `uq_memory_realms_person` -/
  realmPerson : w.memoryRealms.UniqueOn
    (fun row => row.personId.map (fun person => (row.ownerId, person)))
  bindingOwner : w.guardBindings.All (fun row => w.owners.has row.ownerId)
  bindingCompanion :
    w.guardBindings.All (fun row => w.hasOwnedCompanion row.ownerId row.guardCompanionId)
  bindingRevision : w.guardBindings.All (fun row => 0 < row.policyRevision)
  /-- `uq_guard_bindings_guard_companion_active` -/
  bindingPerCompanion : w.guardBindings.UniqueOn
    (fun row => if row.state = .active then some row.guardCompanionId else none)
  /-- `uq_guard_bindings_device_active` -/
  bindingPerDevice : w.guardBindings.UniqueOn
    (fun row => if row.state = .active then some row.deviceId else none)

@[mk_iff]
structure Faces.Integrity (w : Workspace) (f : Faces) : Prop where
  assetOwner : f.companionFaceAssets.All (fun row => w.owners.has row.ownerId)
  assetCompanion :
    f.companionFaceAssets.All (fun row => w.hasOwnedCompanion row.ownerId row.companionId)
  assetSizes : f.companionFaceAssets.All (fun row => 0 < row.version && 0 < row.condSizeBytes)
  assetVersions : f.companionFaceAssets.UniqueOn (fun row => some (row.companionId, row.version))
  /-- `uq_companion_face_asset_active` -/
  assetActive : f.companionFaceAssets.UniqueOn
    (fun row => if row.state = .active then some row.companionId else none)
  assetKeys : f.companionFaceAssets.UniqueOn (fun row => some row.condStorageKey)
  assetIdleKeys : f.companionFaceAssets.UniqueOn (fun row => row.idleStorageKey)
  profileOwner : f.ownerFaceProfileRevisions.All (fun row => w.owners.has row.ownerId)
  profileRevision : f.ownerFaceProfileRevisions.All (fun row => 0 < row.revision)
  profileRevisions :
    f.ownerFaceProfileRevisions.UniqueOn (fun row => some (row.profileId, row.revision))
  ownerRevisions :
    f.ownerFaceProfileRevisions.UniqueOn (fun row => some (row.ownerId, row.revision))
  /-- `uq_owner_face_profile_owner_desired` -/
  profileDesired : f.ownerFaceProfileRevisions.UniqueOn
    (fun row => if row.state = .desired then some row.ownerId else none)
  /-- `owner_face_profile_model_state` -/
  profileModel : f.ownerFaceProfileRevisions.All (fun row =>
    match row.desiredState with
    | .active => row.modelId.isSome && row.preprocessingVersion.isSome
    | .cleared => row.modelId.isNone && row.preprocessingVersion.isNone)
  referenceProfile : f.ownerFaceReferences.All
    (fun row => f.ownerFaceProfileRevisions.has row.profileRevisionId)
  referencePoses :
    f.ownerFaceReferences.UniqueOn (fun row => some (row.profileRevisionId, row.pose))
  referencePose : f.ownerFaceReferences.All
    (fun row => row.pose ∈ ["front", "left", "right", "down", "up"] && 0 < row.sizeBytes)
  referenceType : f.ownerFaceReferences.All (fun row => row.contentType = "image/jpeg")
  referenceKeys : f.ownerFaceReferences.UniqueOn (fun row => some row.storageKey)

@[mk_iff]
structure SmartHome.Integrity (w : Workspace) (h : SmartHome) : Prop where
  registryOwner : h.registries.All (fun row => w.owners.has row.ownerId && 0 < row.revision)
  areaOwner : h.areas.All (fun row => w.owners.has row.ownerId)
  areaNames : h.areas.UniqueOn (fun row => some (row.ownerId, row.name))
  deviceOwner : h.devices.All (fun row => w.owners.has row.ownerId)
  deviceArea : h.devices.All
    (fun row => nullable row.areaId (fun area => h.areas.has (row.ownerId, area)))
  sceneOwner : h.scenes.All (fun row => w.owners.has row.ownerId)
  actionOwner : h.sceneActions.All (fun row => w.owners.has row.ownerId)
  actionScene : h.sceneActions.All (fun row => h.scenes.has (row.ownerId, row.sceneId))
  actionDevice : h.sceneActions.All (fun row => h.devices.has (row.ownerId, row.deviceId))
  placementOwner : h.placements.All (fun row => w.owners.has row.ownerId)
  placementArea : h.placements.All (fun row => h.areas.has (row.ownerId, row.areaId))

@[mk_iff]
structure People.Integrity (w : Workspace) (p : People) : Prop where
  personOwner : p.persons.All (fun row => w.owners.has row.ownerId && 0 < row.revision)
  deletionOwner : p.personDeletions.All (fun row => w.owners.has row.ownerId)
  faceOf : p.personFaces.All (fun row => p.hasOwnedPerson row.ownerId row.personId)
  faceKeys : p.personFaces.UniqueOn (fun row => row.storageKey)
  profileOwner : p.speakerProfiles.All (fun row => w.owners.has row.ownerId)
  profileOf : p.speakerProfiles.All (fun row => p.hasOwnedPerson row.ownerId row.personId)
  profilePerPerson : p.speakerProfiles.UniqueOn (fun row => some (row.ownerId, row.personId))
  profileSource : p.speakerProfiles.All (fun row => nullable row.sourceObservationId
    p.candidateVoiceObservations.has)
  /-- `speaker_profile_origin` -/
  profileOrigin : p.speakerProfiles.All (fun row =>
    match row.origin with
    | .enrollment => row.enrollmentId.isSome && row.sourceObservationId.isNone
    | .observation => row.enrollmentId.isNone && row.sourceObservationId.isSome)
  recordingProfile : p.speakerRecordings.All (fun row => p.speakerProfiles.has row.profileId)
  enrollmentOwner : p.voiceEnrollments.All (fun row => w.owners.has row.ownerId)
  enrollmentOf : p.voiceEnrollments.All (fun row => p.hasOwnedPerson row.ownerId row.personId)
  observationOf :
    p.candidateVoiceObservations.All (fun row => p.hasOwnedPerson row.ownerId row.personId)
  observationTurns : p.candidateVoiceObservations.UniqueOn
    (fun row => some (row.ownerId, row.sessionId, row.turnId))
  observationAudio :
    p.candidateVoiceObservations.UniqueOn (fun row => some (row.ownerId, row.audioSha256))

@[mk_iff]
structure Teams.Integrity (w : Workspace) (t : Teams) : Prop where
  teamOwner : t.teams.All (fun row => w.owners.has row.ownerId)
  teamRevision : t.teams.All (fun row => 0 < row.revision)
  revisionTeam : t.teamRevisions.All (fun row => t.teams.has (row.ownerId, row.teamId))
  savedRevision : t.teamRevisions.All (fun row => 0 < row.revision)
  startRevision : t.teamStarts.All
    (fun row => t.teamRevisions.has (row.ownerId, row.teamId, row.revision))

/-- The constraints of the whole schema. -/
@[mk_iff]
structure Tables.Integrity (t : Tables) : Prop where
  workspace : t.workspace.Integrity
  faces : t.faces.Integrity t.workspace
  home : t.home.Integrity t.workspace
  people : t.people.Integrity t.workspace
  teams : t.teams.Integrity t.workspace
  events : t.auditOutbox.UniqueOn (fun row => some row.fact.eventId)

instance (w : Workspace) : Decidable w.Integrity :=
  decidable_of_iff _ (Workspace.integrity_iff w).symm

instance (w : Workspace) (f : Faces) : Decidable (f.Integrity w) :=
  decidable_of_iff _ (Faces.integrity_iff w f).symm

instance (w : Workspace) (h : SmartHome) : Decidable (h.Integrity w) :=
  decidable_of_iff _ (SmartHome.integrity_iff w h).symm

instance (w : Workspace) (p : People) : Decidable (p.Integrity w) :=
  decidable_of_iff _ (People.integrity_iff w p).symm

instance (w : Workspace) (t : Teams) : Decidable (t.Integrity w) :=
  decidable_of_iff _ (Teams.integrity_iff w t).symm

instance (t : Tables) : Decidable t.Integrity :=
  decidable_of_iff _ (Tables.integrity_iff t).symm

/-- A committed state. -/
abbrev Database := { tables : Tables // tables.Integrity }

abbrev Database.tables (db : Database) : Tables := db.val

/-- The schema as `init_schema` creates it. -/
def Database.empty : Database := ⟨{}, by decide⟩

/-- The rows left once those whose `ON DELETE CASCADE` parent is gone are
removed and the `ON DELETE SET NULL` references to removed rows are cleared. -/
def Workspace.cascade (w : Workspace) : Workspace :=
  let companions := w.companions.retain (fun row => w.owners.has row.ownerId)
  let personaGenomes := w.personaGenomes.retain (fun row => companions.has row.companionId)
  let memoryRealms := w.memoryRealms.retain (fun row => w.owners.has row.ownerId)
  { owners := w.owners.update (fun row =>
      { row with defaultCompanionId := row.defaultCompanionId.filter companions.has })
    companions := companions.update (fun row =>
      { row with
        currentGenomeId := row.currentGenomeId.filter personaGenomes.has
        defaultMemoryRealmId := row.defaultMemoryRealmId.filter memoryRealms.has })
    personaGenomes := personaGenomes.update (fun row =>
      { row with baseGenomeId := row.baseGenomeId.filter personaGenomes.has })
    memoryRealms := memoryRealms
    guardBindings := w.guardBindings.retain (fun row =>
      w.owners.has row.ownerId &&
        { w with companions := companions }.hasOwnedCompanion row.ownerId row.guardCompanionId) }

def Faces.cascade (w : Workspace) (f : Faces) : Faces :=
  let revisions := f.ownerFaceProfileRevisions.retain (fun row => w.owners.has row.ownerId)
  { companionFaceAssets := f.companionFaceAssets.retain (fun row =>
      w.owners.has row.ownerId && w.hasOwnedCompanion row.ownerId row.companionId)
    ownerFaceProfileRevisions := revisions
    ownerFaceReferences :=
      f.ownerFaceReferences.retain (fun row => revisions.has row.profileRevisionId) }

/-- The registry rows also reference one another without a cascade; such a
reference is left to the constraints. -/
def SmartHome.cascade (w : Workspace) (h : SmartHome) : SmartHome :=
  let scenes := h.scenes.retain (fun row => w.owners.has row.ownerId)
  { registries := h.registries.retain (fun row => w.owners.has row.ownerId)
    areas := h.areas.retain (fun row => w.owners.has row.ownerId)
    devices := h.devices.retain (fun row => w.owners.has row.ownerId)
    scenes := scenes
    sceneActions := h.sceneActions.retain (fun row =>
      w.owners.has row.ownerId && scenes.has (row.ownerId, row.sceneId))
    placements := h.placements.retain (fun row => w.owners.has row.ownerId) }

def People.cascade (w : Workspace) (p : People) : People :=
  let persons := p.persons.retain (fun row => w.owners.has row.ownerId)
  let hasOwnedPerson := { p with persons := persons }.hasOwnedPerson
  let observations := p.candidateVoiceObservations.retain (fun row =>
    hasOwnedPerson row.ownerId row.personId)
  let profiles := p.speakerProfiles.retain (fun row =>
    w.owners.has row.ownerId && hasOwnedPerson row.ownerId row.personId &&
      nullable row.sourceObservationId observations.has)
  { persons := persons
    personDeletions := p.personDeletions.retain (fun row => w.owners.has row.ownerId)
    personFaces := p.personFaces.retain (fun row => hasOwnedPerson row.ownerId row.personId)
    speakerProfiles := profiles
    speakerRecordings := p.speakerRecordings.retain (fun row => profiles.has row.profileId)
    voiceEnrollments := p.voiceEnrollments.retain (fun row =>
      w.owners.has row.ownerId && hasOwnedPerson row.ownerId row.personId)
    candidateVoiceObservations := observations }

/-- `ON DELETE` over the whole schema; the teams reference their Owner
without an action. -/
def Tables.cascade (t : Tables) : Tables :=
  let workspace := t.workspace.cascade
  { t with
    workspace := workspace
    faces := t.faces.cascade workspace
    home := t.home.cascade workspace
    people := t.people.cascade workspace }

def Workspace.withoutOwner (w : Workspace) (ownerId : String) : Workspace :=
  { w with owners := w.owners.retain (fun row => row.ownerId ≠ ownerId) }

def Workspace.withoutCompanion (w : Workspace) (companionId : String) : Workspace :=
  { w with companions := w.companions.retain (fun row => row.companionId ≠ companionId) }

/-- `DELETE FROM memory_realms WHERE ...`, and the Companion pointers it clears. -/
def Workspace.withoutRealms (w : Workspace) (erased : MemoryRealmRow → Bool) : Workspace :=
  let memoryRealms := w.memoryRealms.retain (fun row => !erased row)
  { w with
    memoryRealms := memoryRealms
    companions := w.companions.update (fun row =>
      { row with defaultMemoryRealmId := row.defaultMemoryRealmId.filter memoryRealms.has }) }

/-- `DELETE FROM owners WHERE owner_id = ...`. -/
def Tables.deleteOwner (t : Tables) (ownerId : String) : Tables :=
  { t with workspace := t.workspace.withoutOwner ownerId }.cascade

/-- `DELETE FROM companions WHERE companion_id = ...`. -/
def Tables.deleteCompanion (t : Tables) (companionId : String) : Tables :=
  { t with workspace := t.workspace.withoutCompanion companionId }.cascade

end EidolonData
