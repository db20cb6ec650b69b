import EidolonData.Effects.PeopleCascade
import EidolonData.Invariants.Shared
import EidolonData.Invariants.Runtime

/-!
# What a deletion takes and what it leaves

Where the rows of an Owner reference rows of the same Owner only, the
`ON DELETE` actions take exactly what belongs to the deleted row and leave
every other row as it is.
-/

namespace EidolonData

open Relational

attribute [ext] Faces SmartHome People

/-- No reference leads from one Owner to another, nor a genome's base from one
Companion to another. -/
structure Tables.Separate (t : Tables) : Prop where
  defaultOwned : t.workspace.DefaultOwned
  current : ∀ {companionId companion}, t.workspace.companions.get? companionId = some companion →
    t.workspace.HasGenome companion
  pointed : ∀ {companionId companion realmId},
    t.workspace.companions.get? companionId = some companion →
    companion.defaultMemoryRealmId = some realmId →
    t.workspace.SharesRealm companion.ownerId realmId
  based : ∀ {genomeId genome baseGenomeId},
    t.workspace.personaGenomes.get? genomeId = some genome →
    genome.baseGenomeId = some baseGenomeId →
    ∃ base, t.workspace.personaGenomes.get? baseGenomeId = some base ∧
      base.companionId = genome.companionId
  sourced : t.people.Sourced

theorem filter_has_of_stays {reference : Option String} {stored : String → Bool}
    (stays : ∀ k, reference = some k → stored k = true) : reference.filter stored = reference := by
  cases reference with
  | none => rfl
  | some k => exact Option.filter_some_pos (stays k rfl)

def Faces.withoutRowsOf (f : Faces) (ownerId : String) : Faces :=
  { companionFaceAssets := f.companionFaceAssets.retain (fun row => row.ownerId ≠ ownerId)
    ownerFaceProfileRevisions :=
      f.ownerFaceProfileRevisions.retain (fun row => row.ownerId ≠ ownerId)
    ownerFaceReferences := f.ownerFaceReferences.retain (fun row =>
      !(f.ownerFaceProfileRevisions.get? row.profileRevisionId).any
        (fun revision => revision.ownerId = ownerId)) }

def Workspace.withoutRowsOf (w : Workspace) (ownerId : String) : Workspace :=
  { owners := w.owners.retain (fun row => row.ownerId ≠ ownerId)
    companions := w.companions.retain (fun row => row.ownerId ≠ ownerId)
    personaGenomes :=
      w.personaGenomes.retain (fun row => !w.hasOwnedCompanion ownerId row.companionId)
    memoryRealms := w.memoryRealms.retain (fun row => row.ownerId ≠ ownerId)
    guardBindings := w.guardBindings.retain (fun row => row.ownerId ≠ ownerId) }

def SmartHome.withoutRowsOf (h : SmartHome) (ownerId : String) : SmartHome :=
  { registries := h.registries.retain (fun row => row.ownerId ≠ ownerId)
    areas := h.areas.retain (fun row => row.ownerId ≠ ownerId)
    devices := h.devices.retain (fun row => row.ownerId ≠ ownerId)
    scenes := h.scenes.retain (fun row => row.ownerId ≠ ownerId)
    sceneActions := h.sceneActions.retain (fun row => row.ownerId ≠ ownerId)
    placements := h.placements.retain (fun row => row.ownerId ≠ ownerId) }

def People.withoutRowsOf (p : People) (ownerId : String) : People :=
  { persons := p.persons.retain (fun row => row.ownerId ≠ ownerId)
    personDeletions := p.personDeletions.retain (fun row => row.ownerId ≠ ownerId)
    personFaces := p.personFaces.retain (fun row => row.ownerId ≠ ownerId)
    speakerProfiles := p.speakerProfiles.retain (fun row => row.ownerId ≠ ownerId)
    speakerRecordings := p.speakerRecordings.retain (fun row =>
      !(p.speakerProfiles.get? row.profileId).any (fun profile => profile.ownerId = ownerId))
    voiceEnrollments := p.voiceEnrollments.retain (fun row => row.ownerId ≠ ownerId)
    candidateVoiceObservations :=
      p.candidateVoiceObservations.retain (fun row => row.ownerId ≠ ownerId) }

/-- The database without the rows of one Owner, the teams and the audit left
out. -/
def Tables.withoutRowsOf (t : Tables) (ownerId : String) : Tables :=
  { t with
    workspace := t.workspace.withoutRowsOf ownerId
    faces := t.faces.withoutRowsOf ownerId
    home := t.home.withoutRowsOf ownerId
    people := t.people.withoutRowsOf ownerId }

section Owner

variable {t : Tables} {ownerId : String}

/-- The workspace of a deletion before the `ON DELETE` actions. -/
abbrev Workspace.unowned (w : Workspace) (ownerId : String) : Workspace :=
  (w.breakPointers ownerId).withoutOwner ownerId

theorem unowned_owner {other : String} (stored : t.workspace.owners.has other = true) :
    (t.workspace.unowned ownerId).owners.has other = decide (other ≠ ownerId) := by
  rw [← has_left stored]
  exact (congrFun Workspace.has_cascade_owners other).symm

theorem hasOwnedCompanion_of_get? {w : Workspace} {companionId : String} {companion : CompanionRow}
    (found : w.companions.get? companionId = some companion) :
    w.hasOwnedCompanion ownerId companionId = decide (companion.ownerId = ownerId) := by
  rw [Workspace.hasOwnedCompanion, found]
  rfl

theorem breakPointers_companion (ownerId : String) {w : Workspace} {companionId : String}
    {companion : CompanionRow} (found : w.companions.get? companionId = some companion) :
    ∃ broken, (w.breakPointers ownerId).companions.get? companionId = some broken ∧
      broken.ownerId = companion.ownerId := by
  simp only [Workspace.breakPointers, Table.get?_update, found, Option.map_some,
    Option.some.injEq, exists_eq_left']
  split
  · rfl
  · rfl

theorem unowned_companion (integrity : t.Integrity) {companionId : String}
    {companion : CompanionRow}
    (found : t.workspace.companions.get? companionId = some companion) :
    (t.workspace.unowned ownerId).ownedCompanions.has companionId =
      decide (companion.ownerId ≠ ownerId) := by
  obtain ⟨broken, stored, same⟩ := breakPointers_companion ownerId found
  have owner := integrity.workspace.companionOwner companion (Table.mem_of_get? found)
  have left : (t.workspace.unowned ownerId).owners.has broken.ownerId =
      decide (companion.ownerId ≠ ownerId) := by
    rw [same]
    exact unowned_owner owner
  rw [← left]
  show (((t.workspace.breakPointers ownerId).companions.retain _).get? companionId).isSome = _
  rw [Table.get?_retain, stored]
  cases kept : (t.workspace.unowned ownerId).owners.has broken.ownerId with
  | true =>
      rw [Option.filter_some, if_pos kept]
      rfl
  | false =>
      rw [Option.filter_some, if_neg (by simp [kept])]
      rfl

theorem unowned_genome (integrity : t.Integrity) {genomeId : String} {genome : PersonaGenomeRow}
    (found : t.workspace.personaGenomes.get? genomeId = some genome) :
    (t.workspace.unowned ownerId).ownedCompanions.has genome.companionId =
      !t.workspace.hasOwnedCompanion ownerId genome.companionId := by
  have stored := integrity.workspace.genomeCompanion genome (Table.mem_of_get? found)
  obtain ⟨companion, companionFound⟩ := Table.has_iff.mp stored
  rw [unowned_companion integrity companionFound, hasOwnedCompanion_of_get? companionFound,
    ← decide_not]

theorem companion_stays (integrity : t.Integrity) {companionId : String}
    {companion : CompanionRow}
    (found : t.workspace.companions.get? companionId = some companion)
    (other : companion.ownerId ≠ ownerId) :
    (t.workspace.unowned ownerId).ownedCompanions.has companionId = true := by
  rw [unowned_companion integrity found]
  exact decide_eq_true other

theorem genome_stays (integrity : t.Integrity) {genomeId : String} {genome : PersonaGenomeRow}
    (found : t.workspace.personaGenomes.get? genomeId = some genome)
    (other : t.workspace.hasOwnedCompanion ownerId genome.companionId = false) :
    (t.workspace.unowned ownerId).ownedGenomes.has genomeId = true := by
  refine Table.has_iff.mpr ⟨genome, ?_⟩
  show ((t.workspace.personaGenomes).retain _).get? genomeId = _
  rw [Table.get?_retain, found, Option.filter_some, if_pos]
  rw [unowned_genome integrity found, other]
  rfl

theorem realm_stays (integrity : t.Integrity) {realmId : String} {realm : MemoryRealmRow}
    (found : t.workspace.memoryRealms.get? realmId = some realm)
    (other : realm.ownerId ≠ ownerId) :
    (t.workspace.unowned ownerId).ownedRealms.has realmId = true := by
  refine Table.has_iff.mpr ⟨realm, ?_⟩
  show ((t.workspace.memoryRealms).retain _).get? realmId = _
  rw [Table.get?_retain, found, Option.filter_some, if_pos]
  rw [unowned_owner (integrity.workspace.realmOwner realm (Table.mem_of_get? found))]
  exact decide_eq_true other

theorem withoutOwnerTree_owners (integrity : t.Integrity) (separate : t.Separate) :
    (t.withoutOwnerTree ownerId).workspace.owners =
      t.workspace.owners.retain (fun row => row.ownerId ≠ ownerId) := by
  refine Table.update_eq_self ?_ ?_
  · intro _
    rfl
  · intro owner member
    obtain ⟨stored, other⟩ := Table.mem_retain.mp member
    have found := (Table.mem_rows_iff _ owner).mp stored
    have same : owner.defaultCompanionId.filter
        (t.workspace.unowned ownerId).ownedCompanions.has = owner.defaultCompanionId := by
      apply filter_has_of_stays
      intro companionId pointed
      obtain ⟨companion, companionFound, own, -⟩ := separate.defaultOwned found pointed
      apply companion_stays integrity companionFound
      rw [own]
      exact of_decide_eq_true other
    exact congrArg (fun reference => { owner with defaultCompanionId := reference }) same

theorem withoutOwnerTree_companions (integrity : t.Integrity) (separate : t.Separate) :
    (t.withoutOwnerTree ownerId).workspace.companions =
      t.workspace.companions.retain (fun row => row.ownerId ≠ ownerId) := by
  refine Table.update_retain_update ?_ ?_ ?_ ?_
  · intro row
    split
    · rfl
    · rfl
  · intro _
    rfl
  · intro companion member
    have owner := integrity.workspace.companionOwner companion member
    rw [← unowned_owner owner]
    split
    · rfl
    · rfl
  · intro companion member other
    have found : t.workspace.companions.get? companion.companionId = some companion :=
      (Table.mem_rows_iff _ companion).mp member
    have different : companion.ownerId ≠ ownerId := of_decide_eq_true other
    rw [if_neg different]
    have genome : companion.currentGenomeId.filter
        (t.workspace.unowned ownerId).ownedGenomes.has = companion.currentGenomeId := by
      apply filter_has_of_stays
      intro genomeId current
      obtain ⟨row, rowFound, points, own, -⟩ := separate.current found
      rw [points] at current
      cases current
      apply genome_stays integrity rowFound
      rw [own, hasOwnedCompanion_of_get? found]
      exact decide_eq_false different
    have realm : companion.defaultMemoryRealmId.filter
        (t.workspace.unowned ownerId).ownedRealms.has = companion.defaultMemoryRealmId := by
      apply filter_has_of_stays
      intro realmId pointed
      obtain ⟨row, rowFound, own, -⟩ := separate.pointed found pointed
      apply realm_stays integrity rowFound
      rw [own]
      exact different
    exact congrArg₂ (fun genomeId realmId =>
      { companion with currentGenomeId := genomeId, defaultMemoryRealmId := realmId }) genome realm

theorem withoutOwnerTree_genomes (integrity : t.Integrity) (separate : t.Separate) :
    (t.withoutOwnerTree ownerId).workspace.personaGenomes =
      t.workspace.personaGenomes.retain
        (fun row => !t.workspace.hasOwnedCompanion ownerId row.companionId) := by
  have kept : (t.workspace.unowned ownerId).ownedGenomes =
      t.workspace.personaGenomes.retain
        (fun row => !t.workspace.hasOwnedCompanion ownerId row.companionId) := by
    apply Table.retain_congr
    intro genome member
    exact unowned_genome integrity ((Table.mem_rows_iff _ genome).mp member)
  rw [← kept]
  refine Table.update_eq_self ?_ ?_
  · intro _
    rfl
  · intro genome member
    obtain ⟨stored, left⟩ := Table.mem_retain.mp member
    have found := (Table.mem_rows_iff _ genome).mp stored
    have same : genome.baseGenomeId.filter (t.workspace.unowned ownerId).ownedGenomes.has =
        genome.baseGenomeId := by
      apply filter_has_of_stays
      intro baseGenomeId links
      obtain ⟨base, baseFound, own⟩ := separate.based found links
      apply genome_stays integrity baseFound
      rw [own]
      have spared := (unowned_genome integrity found).symm.trans left
      simpa using spared
    exact congrArg (fun reference => { genome with baseGenomeId := reference }) same

theorem withoutOwnerTree_bindings (integrity : t.Integrity) :
    (t.withoutOwnerTree ownerId).workspace.guardBindings =
      t.workspace.guardBindings.retain (fun row => row.ownerId ≠ ownerId) := by
  apply Table.retain_congr
  intro binding member
  have owner := integrity.workspace.bindingOwner binding member
  obtain ⟨companion, found, own⟩ := (Option.any_eq_true _ _).mp
    (integrity.workspace.bindingCompanion binding member)
  have same : companion.ownerId = binding.ownerId := of_decide_eq_true own
  obtain ⟨broken, stored, brokenOwner⟩ := breakPointers_companion ownerId found
  have left : (t.workspace.unowned ownerId).owners.has binding.ownerId =
      decide (binding.ownerId ≠ ownerId) := unowned_owner owner
  show ((t.workspace.unowned ownerId).owners.has binding.ownerId &&
    ((t.workspace.unowned ownerId).ownedCompanions.get? binding.guardCompanionId).any
      (fun row => row.ownerId = binding.ownerId)) = decide (binding.ownerId ≠ ownerId)
  rw [left]
  cases other : decide (binding.ownerId ≠ ownerId) with
  | false => rw [Bool.false_and]
  | true =>
      rw [other] at left
      have kept : (t.workspace.unowned ownerId).ownedCompanions.get? binding.guardCompanionId =
          some broken := by
        show ((t.workspace.breakPointers ownerId).companions.retain _).get? _ = _
        rw [Table.get?_retain, stored, Option.filter_some, if_pos]
        rw [brokenOwner, same]
        exact left
      rw [Bool.true_and, kept]
      exact decide_eq_true (brokenOwner.trans same)

theorem withoutOwnerTree_workspace (integrity : t.Integrity) (separate : t.Separate) :
    (t.withoutOwnerTree ownerId).workspace = t.workspace.withoutRowsOf ownerId := by
  have realms : (t.withoutOwnerTree ownerId).workspace.memoryRealms =
      t.workspace.memoryRealms.retain (fun row => row.ownerId ≠ ownerId) := by
    apply Table.retain_congr
    intro realm member
    exact unowned_owner (integrity.workspace.realmOwner realm member)
  rw [Workspace.withoutRowsOf, ← withoutOwnerTree_owners integrity separate,
    ← withoutOwnerTree_companions integrity separate, ← withoutOwnerTree_genomes integrity separate,
    ← withoutOwnerTree_bindings integrity, ← realms]

theorem withoutOwnerTree_faces (integrity : t.Integrity) :
    (t.withoutOwnerTree ownerId).faces = t.faces.withoutRowsOf ownerId := by
  have revisionsLeft : ∀ row ∈ t.faces.ownerFaceProfileRevisions.rows,
      (t.withoutOwnerTree ownerId).workspace.owners.has row.ownerId =
        decide (row.ownerId ≠ ownerId) :=
    fun row member => has_left (integrity.faces.profileOwner row member)
  have assets : (t.withoutOwnerTree ownerId).faces.companionFaceAssets =
      t.faces.companionFaceAssets.retain (fun row => row.ownerId ≠ ownerId) := by
    apply Table.retain_congr
    intro asset member
    have left : (t.withoutOwnerTree ownerId).workspace.owners.has asset.ownerId =
        decide (asset.ownerId ≠ ownerId) := has_left (integrity.faces.assetOwner asset member)
    obtain ⟨companion, found, own⟩ := (Option.any_eq_true _ _).mp
      (integrity.faces.assetCompanion asset member)
    have same : companion.ownerId = asset.ownerId := of_decide_eq_true own
    obtain ⟨broken, stored, brokenOwner⟩ := breakPointers_companion ownerId found
    show ((t.withoutOwnerTree ownerId).workspace.owners.has asset.ownerId &&
      (t.workspace.unowned ownerId).cascade.hasOwnedCompanion asset.ownerId asset.companionId) = _
    rw [left]
    cases other : decide (asset.ownerId ≠ ownerId) with
    | false => rw [Bool.false_and]
    | true =>
        have kept : (t.workspace.unowned ownerId).ownedCompanions.get? asset.companionId =
            some broken := by
          show ((t.workspace.breakPointers ownerId).companions.retain _).get? _ = _
          rw [Table.get?_retain, stored, Option.filter_some, if_pos]
          rw [brokenOwner, same, unowned_owner (integrity.faces.assetOwner asset member)]
          exact other
        rw [Bool.true_and, Workspace.hasOwnedCompanion_cascade, kept]
        exact decide_eq_true (brokenOwner.trans same)
  have revisions : (t.withoutOwnerTree ownerId).faces.ownerFaceProfileRevisions =
      t.faces.ownerFaceProfileRevisions.retain (fun row => row.ownerId ≠ ownerId) :=
    Table.retain_congr revisionsLeft
  have references : (t.withoutOwnerTree ownerId).faces.ownerFaceReferences =
      t.faces.ownerFaceReferences.retain (fun row =>
        !(t.faces.ownerFaceProfileRevisions.get? row.profileRevisionId).any
          (fun revision => revision.ownerId = ownerId)) := by
    apply Table.retain_congr
    intro reference member
    show (t.withoutOwnerTree ownerId).faces.ownerFaceProfileRevisions.has _ = _
    obtain ⟨revision, found⟩ :=
      Table.has_iff.mp (integrity.faces.referenceProfile reference member)
    rw [revisions, Table.has, Table.get?_retain, found, Option.filter_some, Option.any_some]
    by_cases owned : revision.ownerId = ownerId
    · simp [owned]
    · simp [owned]
  exact Faces.ext assets revisions references

theorem withoutOwnerTree_home (integrity : t.Integrity) :
    (t.withoutOwnerTree ownerId).home = t.home.withoutRowsOf ownerId := by
  have registries : (t.withoutOwnerTree ownerId).home.registries =
      t.home.registries.retain (fun row => row.ownerId ≠ ownerId) := by
    apply Table.retain_congr
    intro row member
    exact has_left (Bool.and_eq_true_iff.mp (integrity.home.registryOwner row member)).1
  have areas : (t.withoutOwnerTree ownerId).home.areas =
      t.home.areas.retain (fun row => row.ownerId ≠ ownerId) :=
    Table.retain_congr (fun row member => has_left (integrity.home.areaOwner row member))
  have devices : (t.withoutOwnerTree ownerId).home.devices =
      t.home.devices.retain (fun row => row.ownerId ≠ ownerId) :=
    Table.retain_congr (fun row member => has_left (integrity.home.deviceOwner row member))
  have scenes : (t.withoutOwnerTree ownerId).home.scenes =
      t.home.scenes.retain (fun row => row.ownerId ≠ ownerId) :=
    Table.retain_congr (fun row member => has_left (integrity.home.sceneOwner row member))
  have placements : (t.withoutOwnerTree ownerId).home.placements =
      t.home.placements.retain (fun row => row.ownerId ≠ ownerId) :=
    Table.retain_congr (fun row member => has_left (integrity.home.placementOwner row member))
  have actions : (t.withoutOwnerTree ownerId).home.sceneActions =
      t.home.sceneActions.retain (fun row => row.ownerId ≠ ownerId) := by
    apply Table.retain_congr
    intro row member
    have left : (t.withoutOwnerTree ownerId).workspace.owners.has row.ownerId =
        decide (row.ownerId ≠ ownerId) := has_left (integrity.home.actionOwner row member)
    obtain ⟨scene, found⟩ := Table.has_iff.mp (integrity.home.actionScene row member)
    have own : scene.ownerId = row.ownerId := congrArg Prod.fst (Table.key_of_get? found)
    show ((t.withoutOwnerTree ownerId).workspace.owners.has row.ownerId &&
      (t.withoutOwnerTree ownerId).home.scenes.has (row.ownerId, row.sceneId)) = _
    rw [left, scenes, Table.has, Table.get?_retain, found, Option.filter_some, own]
    by_cases owned : row.ownerId = ownerId
    · simp [owned]
    · simp [owned]
  exact SmartHome.ext registries areas devices scenes actions placements

theorem withoutOwnerTree_persons (integrity : t.Integrity) :
    (t.withoutOwnerTree ownerId).people.persons =
      t.people.persons.retain (fun row => row.ownerId ≠ ownerId) := by
  apply Table.retain_congr
  intro row member
  exact has_left (Bool.and_eq_true_iff.mp (integrity.people.personOwner row member)).1

theorem person_left (integrity : t.Integrity) {rowOwner personId : String}
    (owned : t.people.hasOwnedPerson rowOwner personId = true) :
    (t.withoutOwnerTree ownerId).people.persons.has personId = decide (rowOwner ≠ ownerId) := by
  obtain ⟨person, found, same⟩ := (Option.any_eq_true _ _).mp owned
  have own : person.ownerId = rowOwner := of_decide_eq_true same
  rw [withoutOwnerTree_persons integrity, Table.has, Table.get?_retain, found, Option.filter_some,
    own]
  by_cases taken : rowOwner = ownerId
  · simp [taken]
  · simp [taken]

theorem withoutOwnerTree_people (integrity : t.Integrity) (separate : t.Separate) :
    (t.withoutOwnerTree ownerId).people = t.people.withoutRowsOf ownerId := by
  have pruned : VoicesPruned t.people (t.withoutOwnerTree ownerId).people :=
    cascade_pruned integrity.people separate.sourced rfl (fun _ _ stored => stored)
  have receipts : (t.withoutOwnerTree ownerId).people.personDeletions =
      t.people.personDeletions.retain (fun row => row.ownerId ≠ ownerId) :=
    Table.retain_congr (fun row member => has_left (integrity.people.deletionOwner row member))
  have faces : (t.withoutOwnerTree ownerId).people.personFaces =
      t.people.personFaces.retain (fun row => row.ownerId ≠ ownerId) :=
    pruned.faces.trans (Table.retain_congr
      (fun row member => person_left integrity (integrity.people.faceOf row member)))
  have profiles : (t.withoutOwnerTree ownerId).people.speakerProfiles =
      t.people.speakerProfiles.retain (fun row => row.ownerId ≠ ownerId) :=
    pruned.profiles.trans (Table.retain_congr
      (fun row member => person_left integrity (integrity.people.profileOf row member)))
  have enrollments : (t.withoutOwnerTree ownerId).people.voiceEnrollments =
      t.people.voiceEnrollments.retain (fun row => row.ownerId ≠ ownerId) :=
    pruned.enrollments.trans (Table.retain_congr
      (fun row member => person_left integrity (integrity.people.enrollmentOf row member)))
  have observations : (t.withoutOwnerTree ownerId).people.candidateVoiceObservations =
      t.people.candidateVoiceObservations.retain (fun row => row.ownerId ≠ ownerId) :=
    pruned.observations.trans (Table.retain_congr
      (fun row member => person_left integrity (integrity.people.observationOf row member)))
  have recordings : (t.withoutOwnerTree ownerId).people.speakerRecordings =
      t.people.speakerRecordings.retain (fun row =>
        !(t.people.speakerProfiles.get? row.profileId).any
          (fun profile => profile.ownerId = ownerId)) := by
    refine pruned.recordings.trans (Table.retain_congr ?_)
    intro recording member
    obtain ⟨profile, found⟩ :=
      Table.has_iff.mp (integrity.people.recordingProfile recording member)
    rw [profiles, Table.has, Table.get?_retain, found, Option.filter_some, Option.any_some]
    by_cases owned : profile.ownerId = ownerId
    · simp [owned]
    · simp [owned]
  exact People.ext (withoutOwnerTree_persons integrity) receipts faces profiles recordings
    enrollments observations

theorem withoutOwnerTree_eq (integrity : t.Integrity) (separate : t.Separate) :
    t.withoutOwnerTree ownerId = t.withoutRowsOf ownerId := by
  rw [Tables.withoutRowsOf, ← withoutOwnerTree_workspace integrity separate,
    ← withoutOwnerTree_faces integrity, ← withoutOwnerTree_home integrity,
    ← withoutOwnerTree_people integrity separate]
  rfl

end Owner

end EidolonData
