import EidolonData.Effects.Deletion
import EidolonData.Effects.Integrity

/-!
# What the `ON DELETE` actions leave to the constraints

Every reference to a removed row is cleared or removes its own row, with the
teams alone excepted: the deletion of an Owner is accepted exactly when no
team is stored for it.
-/

namespace EidolonData

open Relational

/-- A reference cleared when its row is gone points to a stored row. -/
theorem nullable_filter (reference : Option String) (stored : String → Bool) :
    nullable (reference.filter stored) stored = true := by
  cases reference with
  | none => rfl
  | some k =>
      cases kept : stored k with
      | true => simp only [Option.filter, kept, nullable, Option.all_some, if_true]
      | false => simp only [Option.filter, kept, nullable, Option.all_none, if_false,
          Bool.false_eq_true]

theorem nullable_mono {reference : Option String} {stored stored' : String → Bool}
    (points : nullable reference stored = true)
    (kept : ∀ k, stored k = true → stored' k = true) : nullable reference stored' = true := by
  cases reference with
  | none => rfl
  | some k => exact kept k points

section Workspace

variable {w : Workspace}

@[simp] theorem Workspace.has_cascade_owners : w.cascade.owners.has = w.owners.has := by
  simp [Workspace.cascade]

@[simp] theorem Workspace.has_cascade_companions :
    w.cascade.companions.has = w.ownedCompanions.has := by
  simp [Workspace.cascade, Workspace.ownedCompanions]

@[simp] theorem Workspace.has_cascade_genomes :
    w.cascade.personaGenomes.has = w.ownedGenomes.has := by
  simp [Workspace.cascade, Workspace.ownedGenomes, Workspace.ownedCompanions]

@[simp] theorem Workspace.cascade_realms : w.cascade.memoryRealms = w.ownedRealms := rfl

/-- The pairs of Owner and Companion the `ON DELETE` actions spare. -/
theorem Workspace.hasOwnedCompanion_cascade (ownerId companionId : String) :
    w.cascade.hasOwnedCompanion ownerId companionId =
      (w.ownedCompanions.get? companionId).any (fun row => row.ownerId = ownerId) := by
  rw [Workspace.hasOwnedCompanion, Workspace.cascade_companion]
  cases w.ownedCompanions.get? companionId with
  | none => rfl
  | some row => rfl

/-- The constraints on the rows of a workspace that no reference is part of. -/
structure Workspace.Checked (w : Workspace) : Prop where
  ownerRevision : w.owners.All (fun row => 0 < row.revision)
  companionRevision : w.companions.All (fun row => 0 < row.revision)
  genomeVersion : w.personaGenomes.All (fun row => 0 < row.version)
  genomeCurrent : w.personaGenomes.All (fun row =>
    row.schemaVersion = "eidolon.persona_genome" &&
      row.realizerVersion = "eidolon.persona_realizer")
  genomeVersions : w.personaGenomes.UniqueOn (fun row => some (row.companionId, row.version))
  realmShared : w.memoryRealms.UniqueOn
    (fun row => if row.isShared row.ownerId then some row.ownerId else none)
  realmPerson : w.memoryRealms.UniqueOn
    (fun row => row.personId.map (fun person => (row.ownerId, person)))
  bindingRevision : w.guardBindings.All (fun row => 0 < row.policyRevision)
  bindingPerCompanion : w.guardBindings.UniqueOn
    (fun row => if row.state = .active then some row.guardCompanionId else none)
  bindingPerDevice : w.guardBindings.UniqueOn
    (fun row => if row.state = .active then some row.deviceId else none)

/-- The `ON DELETE` actions restore every reference. -/
theorem Workspace.Checked.cascade (checked : w.Checked) : w.cascade.Integrity := by
  have ownersKept : w.ownedCompanions.All (fun row => w.owners.has row.ownerId) :=
    Table.all_retain _ _
  have genomesKept : w.ownedGenomes.All (fun row => w.ownedCompanions.has row.companionId) :=
    Table.all_retain _ _
  refine
    { ownerRevision := ?_, ownerDefault := ?_, companionOwner := ?_, companionRevision := ?_,
      companionGenome := ?_, companionRealm := ?_, genomeCompanion := ?_, genomeBase := ?_,
      genomeVersion := ?_, genomeCurrent := ?_, genomeVersions := ?_, realmOwner := ?_,
      realmShared := ?_, realmPerson := ?_, bindingOwner := ?_, bindingCompanion := ?_,
      bindingRevision := ?_, bindingPerCompanion := ?_, bindingPerDevice := ?_ }
  · exact checked.ownerRevision.update (fun _ _ held => held)
  · rw [Workspace.has_cascade_companions]
    exact checked.ownerRevision.update (fun _ _ _ => nullable_filter _ _)
  · rw [Workspace.has_cascade_owners]
    exact ownersKept.update (fun _ _ held => held)
  · exact (checked.companionRevision.retain _).update (fun _ _ held => held)
  · rw [Workspace.has_cascade_genomes]
    exact ownersKept.update (fun _ _ _ => nullable_filter _ _)
  · exact ownersKept.update (fun _ _ _ => nullable_filter _ _)
  · rw [Workspace.has_cascade_companions]
    exact genomesKept.update (fun _ _ held => held)
  · rw [Workspace.has_cascade_genomes]
    exact genomesKept.update (fun _ _ _ => nullable_filter _ _)
  · exact (checked.genomeVersion.retain _).update (fun _ _ held => held)
  · exact (checked.genomeCurrent.retain _).update (fun _ _ held => held)
  · refine (checked.genomeVersions.retain _).update ?_ (by intro _; rfl)
    intro row
    rfl
  · rw [Workspace.has_cascade_owners]
    exact Table.all_retain _ _
  · exact checked.realmShared.retain _
  · exact checked.realmPerson.retain _
  · rw [Workspace.has_cascade_owners]
    refine (Table.all_retain w.guardBindings _).mono ?_
    intro row _ kept
    exact (Bool.and_eq_true_iff.mp kept).1
  · refine (Table.all_retain w.guardBindings _).mono ?_
    intro row _ kept
    rw [Workspace.hasOwnedCompanion_cascade]
    exact (Bool.and_eq_true_iff.mp kept).2
  · exact checked.bindingRevision.retain _
  · exact checked.bindingPerCompanion.retain _
  · exact checked.bindingPerDevice.retain _

theorem Workspace.Integrity.checked (integrity : w.Integrity) (ownerId : String) :
    ((w.breakPointers ownerId).withoutOwner ownerId).Checked :=
  { ownerRevision := integrity.ownerRevision.retain _
    companionRevision := integrity.companionRevision.update (by
      intro row _ held
      split
      · exact held
      · exact held) (by intro row; split <;> rfl)
    genomeVersion := integrity.genomeVersion
    genomeCurrent := integrity.genomeCurrent
    genomeVersions := integrity.genomeVersions
    realmShared := integrity.realmShared
    realmPerson := integrity.realmPerson
    bindingRevision := integrity.bindingRevision
    bindingPerCompanion := integrity.bindingPerCompanion
    bindingPerDevice := integrity.bindingPerDevice }

end Workspace

section Dependents

variable (w : Workspace)

theorem Faces.Integrity.cascade {w₀ : Workspace} {f : Faces} (integrity : f.Integrity w₀) :
    (f.cascade w).Integrity w := by
  have assets : (f.cascade w).companionFaceAssets.All (fun row =>
      w.owners.has row.ownerId && w.hasOwnedCompanion row.ownerId row.companionId) :=
    Table.all_retain _ _
  exact
    { assetOwner := assets.mono (fun _ _ kept => (Bool.and_eq_true_iff.mp kept).1)
      assetCompanion := assets.mono (fun _ _ kept => (Bool.and_eq_true_iff.mp kept).2)
      assetSizes := integrity.assetSizes.retain _
      assetVersions := integrity.assetVersions.retain _
      assetActive := integrity.assetActive.retain _
      assetKeys := integrity.assetKeys.retain _
      assetIdleKeys := integrity.assetIdleKeys.retain _
      profileOwner := Table.all_retain _ _
      profileRevision := integrity.profileRevision.retain _
      profileRevisions := integrity.profileRevisions.retain _
      ownerRevisions := integrity.ownerRevisions.retain _
      profileDesired := integrity.profileDesired.retain _
      profileModel := integrity.profileModel.retain _
      referenceProfile := Table.all_retain _ _
      referencePoses := integrity.referencePoses.retain _
      referencePose := integrity.referencePose.retain _
      referenceType := integrity.referenceType.retain _
      referenceKeys := integrity.referenceKeys.retain _ }

theorem has_retain_owned {ρ : Type} [HasKey ρ (String × String)] (table : Table ρ)
    (owned : ρ → Bool) {ownerId name : String} (kept : ∀ row, key row = (ownerId, name) →
      owned row = true) (found : table.has (ownerId, name) = true) :
    (table.retain owned).has (ownerId, name) = true := by
  obtain ⟨row, stored⟩ := Table.has_iff.mp found
  apply Table.has_iff.mpr
  refine ⟨row, ?_⟩
  rw [Table.get?_retain, stored, Option.filter_some_pos (kept row (Table.key_of_get? stored))]

theorem SmartHome.Integrity.cascade {w₀ : Workspace} {h : SmartHome}
    (integrity : h.Integrity w₀) : (h.cascade w).Integrity w := by
  have actions : (h.cascade w).sceneActions.All (fun row =>
      w.owners.has row.ownerId && (h.cascade w).scenes.has (row.ownerId, row.sceneId)) :=
    Table.all_retain _ _
  have area : ∀ {ownerId areaId : String}, w.owners.has ownerId = true →
      h.areas.has (ownerId, areaId) = true →
      (h.cascade w).areas.has (ownerId, areaId) = true := by
    intro ownerId areaId kept
    apply has_retain_owned
    rintro row ⟨⟩
    exact kept
  have device : ∀ {ownerId deviceId : String}, w.owners.has ownerId = true →
      h.devices.has (ownerId, deviceId) = true →
      (h.cascade w).devices.has (ownerId, deviceId) = true := by
    intro ownerId deviceId kept
    apply has_retain_owned
    rintro row ⟨⟩
    exact kept
  refine
    { registryOwner := ?_
      areaOwner := Table.all_retain _ _
      areaNames := integrity.areaNames.retain _
      deviceOwner := Table.all_retain _ _
      deviceArea := ?_
      sceneOwner := Table.all_retain _ _
      actionOwner := actions.mono (fun _ _ kept => (Bool.and_eq_true_iff.mp kept).1)
      actionScene := actions.mono (fun _ _ kept => (Bool.and_eq_true_iff.mp kept).2)
      actionDevice := ?_
      placementOwner := Table.all_retain _ _
      placementArea := ?_ }
  · intro row member
    obtain ⟨stored, kept⟩ := Table.mem_retain.mp member
    have positive := (Bool.and_eq_true_iff.mp (integrity.registryOwner row stored)).2
    exact Bool.and_eq_true_iff.mpr ⟨kept, positive⟩
  · intro row member
    obtain ⟨stored, kept⟩ := Table.mem_retain.mp member
    exact nullable_mono (integrity.deviceArea row stored) (fun _ => area kept)
  · intro row member
    obtain ⟨stored, kept⟩ := Table.mem_retain.mp member
    exact device (Bool.and_eq_true_iff.mp kept).1 (integrity.actionDevice row stored)
  · intro row member
    obtain ⟨stored, kept⟩ := Table.mem_retain.mp member
    exact area kept (integrity.placementArea row stored)

theorem People.Integrity.cascade {w₀ : Workspace} {p : People} (integrity : p.Integrity w₀) :
    (p.cascade w).Integrity w := by
  have person : ∀ ownerId personId,
      (p.cascade w).hasOwnedPerson ownerId personId =
        { p with persons := (p.cascade w).persons }.hasOwnedPerson ownerId personId :=
    fun _ _ => rfl
  have profiles : (p.cascade w).speakerProfiles.All (fun row =>
      w.owners.has row.ownerId && (p.cascade w).hasOwnedPerson row.ownerId row.personId &&
        nullable row.sourceObservationId (p.cascade w).candidateVoiceObservations.has) :=
    Table.all_retain _ _
  have enrollments : (p.cascade w).voiceEnrollments.All (fun row =>
      w.owners.has row.ownerId && (p.cascade w).hasOwnedPerson row.ownerId row.personId) :=
    Table.all_retain _ _
  refine
    { personOwner := ?_
      deletionOwner := Table.all_retain _ _
      faceOf := Table.all_retain _ _
      faceKeys := integrity.faceKeys.retain _
      profileOwner := ?_
      profileOf := ?_
      profilePerPerson := integrity.profilePerPerson.retain _
      profileSource := profiles.mono (fun _ _ kept => (Bool.and_eq_true_iff.mp kept).2)
      profileOrigin := integrity.profileOrigin.retain _
      recordingProfile := Table.all_retain _ _
      enrollmentOwner := enrollments.mono (fun _ _ kept => (Bool.and_eq_true_iff.mp kept).1)
      enrollmentOf := enrollments.mono (fun _ _ kept => (Bool.and_eq_true_iff.mp kept).2)
      observationOf := Table.all_retain _ _
      observationTurns := integrity.observationTurns.retain _
      observationAudio := integrity.observationAudio.retain _ }
  · intro row member
    obtain ⟨stored, kept⟩ := Table.mem_retain.mp member
    have positive := (Bool.and_eq_true_iff.mp (integrity.personOwner row stored)).2
    exact Bool.and_eq_true_iff.mpr ⟨kept, positive⟩
  · refine profiles.mono ?_
    intro row _ kept
    obtain ⟨owned, -⟩ := Bool.and_eq_true_iff.mp kept
    exact (Bool.and_eq_true_iff.mp owned).1
  · refine profiles.mono ?_
    intro row _ kept
    obtain ⟨owned, -⟩ := Bool.and_eq_true_iff.mp kept
    exact (Bool.and_eq_true_iff.mp owned).2

end Dependents

section Owner

variable (t : Tables) (ownerId : String)

/-- The tables once the pointers are broken and the Owner's row is deleted. -/
def Tables.withoutOwnerTree : Tables :=
  (t.mapWorkspace (fun w => w.breakPointers ownerId)).deleteOwner ownerId

@[simp] theorem Tables.teams_withoutOwnerTree :
    (t.withoutOwnerTree ownerId).teams = t.teams := rfl

@[simp] theorem Tables.auditOutbox_withoutOwnerTree :
    (t.withoutOwnerTree ownerId).auditOutbox = t.auditOutbox := rfl

theorem Tables.has_withoutOwnerTree (other : String) :
    (t.withoutOwnerTree ownerId).workspace.owners.has other = true ↔
      t.workspace.owners.has other = true ∧ other ≠ ownerId := by
  show (Workspace.cascade _).owners.has other = true ↔ _
  rw [Workspace.has_cascade_owners]
  simp only [Table.has_iff, Workspace.withoutOwner, Workspace.breakPointers, Table.get?_retain,
    Option.filter_eq_some_iff, Tables.workspace_mapWorkspace]
  constructor
  · rintro ⟨row, found, different⟩
    have same : row.ownerId = other := Table.key_of_get? found
    rw [same] at different
    exact ⟨⟨row, found⟩, of_decide_eq_true different⟩
  · rintro ⟨⟨row, found⟩, different⟩
    have same : row.ownerId = other := Table.key_of_get? found
    refine ⟨row, found, ?_⟩
    rw [same]
    exact decide_eq_true different

theorem Tables.Integrity.withoutOwnerTree_iff {t : Tables} (integrity : t.Integrity)
    (ownerId : String) :
    (t.withoutOwnerTree ownerId).Integrity ↔
      ∀ row ∈ t.teams.teams.rows, row.ownerId ≠ ownerId := by
  constructor
  · intro accepted row member
    have stored := accepted.teams.teamOwner row member
    exact ((Tables.has_withoutOwnerTree t ownerId row.ownerId).mp stored).2
  · intro noTeam
    exact
      { workspace := (integrity.workspace.checked ownerId).cascade
        faces := integrity.faces.cascade _
        home := integrity.home.cascade _
        people := integrity.people.cascade _
        teams :=
          { integrity.teams with
            teamOwner := by
              intro row member
              have stored := integrity.teams.teamOwner row member
              exact (Tables.has_withoutOwnerTree t ownerId row.ownerId).mpr
                ⟨stored, noTeam row member⟩ }
        events := integrity.events }

end Owner

end EidolonData
