import EidolonData.Effects.Pruning

/-!
# What the deletion of a Companion takes and what it leaves

Its genomes, bindings and faces go with it, and its Owner's pointer to it; the
`ON DELETE` actions reach nothing else.
-/

namespace EidolonData

open Relational

def OwnerRow.release (companionId : String) (row : OwnerRow) : OwnerRow :=
  { row with
    defaultCompanionId := row.defaultCompanionId.filter (· ≠ companionId)
    revision := if row.defaultCompanionId = some companionId then row.revision + 1
      else row.revision }

theorem OwnerRow.key_release (companionId : String) (row : OwnerRow) :
    key (row.release companionId) = key row := rfl

theorem OwnerRow.release_of_ne {companionId : String} {row : OwnerRow}
    (other : row.defaultCompanionId ≠ some companionId) : row.release companionId = row := by
  have same : row.defaultCompanionId.filter (· ≠ companionId) = row.defaultCompanionId := by
    apply filter_has_of_stays
    intro k pointed
    rw [pointed, ne_eq, Option.some.injEq] at other
    exact decide_eq_true other
  rw [OwnerRow.release, if_neg other, same]

theorem OwnerRow.release_of_eq {companionId : String} {row : OwnerRow}
    (pointed : row.defaultCompanionId = some companionId) :
    row.release companionId =
      { row with
        defaultCompanionId := none
        revision := row.revision + 1 } := by
  rw [OwnerRow.release, if_pos pointed, pointed]
  simp

def Workspace.withoutRowsOfCompanion (w : Workspace) (companionId : String) : Workspace :=
  { w with
    owners := w.owners.update (OwnerRow.release companionId) (OwnerRow.key_release companionId)
    companions := w.companions.retain (fun row => row.companionId ≠ companionId)
    personaGenomes := w.personaGenomes.retain (fun row => row.companionId ≠ companionId)
    guardBindings := w.guardBindings.retain (fun row => row.guardCompanionId ≠ companionId) }

def Tables.withoutRowsOfCompanion (t : Tables) (companionId : String) : Tables :=
  { t with
    workspace := t.workspace.withoutRowsOfCompanion companionId
    faces :=
      { t.faces with
        companionFaceAssets :=
          t.faces.companionFaceAssets.retain (fun row => row.companionId ≠ companionId) } }

theorem has_of_person {p : People} {ownerId personId : String}
    (owned : p.hasOwnedPerson ownerId personId = true) : p.persons.has personId = true := by
  obtain ⟨person, found, -⟩ := (Option.any_eq_true _ _).mp owned
  exact Table.has_of_get? found

section Companion

variable {t : Tables} {companion : CompanionRow}

theorem CompanionRow.key_unpointed (row : CompanionRow) :
    key { row with currentGenomeId := none, defaultMemoryRealmId := none } = key row := rfl

/-- The workspace once the pointers of a Companion are broken. -/
def Workspace.released (w : Workspace) (companionId : String) : Workspace :=
  { w with
    owners := w.owners.update (OwnerRow.release companionId) (OwnerRow.key_release companionId)
    companions := w.companions.modify companionId (fun row =>
      { row with
        currentGenomeId := none
        defaultMemoryRealmId := none }) CompanionRow.key_unpointed }

theorem Tables.Separate.pointing (separate : t.Separate)
    (found : t.workspace.companions.get? companion.companionId = some companion) {owner : OwnerRow}
    (member : owner ∈ t.workspace.owners.rows)
    (pointed : owner.defaultCompanionId = some companion.companionId) :
    t.workspace.owners.get? companion.ownerId = some owner := by
  have stored : t.workspace.owners.get? owner.ownerId = some owner :=
    (Table.mem_rows_iff _ owner).mp member
  obtain ⟨other, otherFound, own, -⟩ := separate.defaultOwned stored pointed
  rw [found] at otherFound
  cases otherFound
  rw [own]
  exact stored

theorem breakCompanionPointers_releases (separate : t.Separate)
    (found : t.workspace.companions.get? companion.companionId = some companion) :
    (breakCompanionPointers (t.workspace.owners.get? companion.ownerId)
      companion.companionId).Ensures t (fun _ t' =>
        t' = t.mapWorkspace (fun w => w.released companion.companionId)) := by
  have unpointed : (∀ owner ∈ t.workspace.owners.rows,
      owner.defaultCompanionId ≠ some companion.companionId) →
      t.workspace.owners.update (OwnerRow.release companion.companionId)
        (OwnerRow.key_release companion.companionId) = t.workspace.owners := by
    intro others
    exact Table.update_eq_self _ (fun owner member => OwnerRow.release_of_ne (others owner member))
  cases ownerFound : t.workspace.owners.get? companion.ownerId with
  | none =>
      have same := unpointed (by
        intro owner member pointed
        rw [separate.pointing found member pointed] at ownerFound
        cases ownerFound)
      simp only [breakCompanionPointers, Tx.ensures_bind, Tx.ensures_done,
        ensures_updateCompanionRow, Tables.mapWorkspace, Workspace.released, same]
  | some owner =>
      simp only [breakCompanionPointers, Tx.ensures_bind, Tx.ensures_ite, ensures_updateOwnerRow,
        Tx.ensures_done, ensures_updateCompanionRow]
      constructor
      · intro pointed
        have named : owner.ownerId = companion.ownerId := Table.key_of_get? ownerFound
        have same : t.workspace.owners.modify owner.ownerId (fun row =>
            { row with
              defaultCompanionId := none
              revision := owner.revision + 1 }) =
            t.workspace.owners.update (OwnerRow.release companion.companionId)
              (OwnerRow.key_release companion.companionId) := by
          apply Table.ext
          apply List.map_congr_left
          intro row member
          by_cases own : row.ownerId = owner.ownerId
          · have stored : t.workspace.owners.get? row.ownerId = some row :=
              (Table.mem_rows_iff _ row).mp member
            rw [own, named, ownerFound] at stored
            cases stored
            rw [OwnerRow.release_of_eq pointed]
            exact if_pos rfl
          · have other : row.defaultCompanionId ≠ some companion.companionId := by
              intro also
              have stored := separate.pointing found member also
              rw [ownerFound] at stored
              cases stored
              exact own rfl
            rw [OwnerRow.release_of_ne other]
            exact if_neg own
        simp only [Tables.mapWorkspace, Workspace.released, same]
      · intro notPointed
        have same := unpointed (by
          intro other member pointed
          rw [separate.pointing found member pointed] at ownerFound
          cases ownerFound
          exact notPointed pointed)
        simp only [Tables.mapWorkspace, Workspace.released, same]

theorem released_companions (companionId : String) :
    ((t.workspace.released companionId).withoutCompanion companionId).companions =
      t.workspace.companions.retain (fun row => row.companionId ≠ companionId) := by
  apply Table.ext
  show (t.workspace.companions.rows.map _).filter _ = t.workspace.companions.rows.filter _
  rw [List.filter_map]
  have chosen : ∀ row ∈ t.workspace.companions.rows, decide (row.companionId ≠ companionId) =
      ((fun row : CompanionRow => decide (row.companionId ≠ companionId)) ∘
        fun row : CompanionRow => if key row = companionId then
          { row with
            currentGenomeId := none
            defaultMemoryRealmId := none }
        else row) row := by
    intro row _
    simp only [Function.comp]
    split
    · rfl
    · rfl
  rw [← List.filter_congr chosen]
  conv => rhs; rw [← List.map_id (t.workspace.companions.rows.filter _)]
  apply List.map_congr_left
  intro row member
  have other : key row ≠ companionId := of_decide_eq_true (List.mem_filter.mp member).2
  exact if_neg other

/-- The workspace of a deletion before the `ON DELETE` actions. -/
abbrev Workspace.unhoused (w : Workspace) (companionId : String) : Workspace :=
  (w.released companionId).withoutCompanion companionId

theorem unhoused_owner {companionId other : String}
    (stored : t.workspace.owners.has other = true) :
    (t.workspace.unhoused companionId).owners.has other = true := by
  show (t.workspace.owners.update _ (OwnerRow.key_release companionId)).has other = true
  rw [Table.has_update]
  exact stored

theorem unhoused_companions (integrity : t.Integrity) (companionId : String) :
    (t.workspace.unhoused companionId).ownedCompanions =
      t.workspace.companions.retain (fun row => row.companionId ≠ companionId) := by
  rw [Workspace.ownedCompanions, released_companions]
  refine Table.retain_eq_self ?_
  intro row member
  obtain ⟨stored, -⟩ := Table.mem_retain.mp member
  exact unhoused_owner (integrity.workspace.companionOwner row stored)

theorem unhoused_has (integrity : t.Integrity) {companionId other : String}
    (stored : t.workspace.companions.has other = true) :
    (t.workspace.unhoused companionId).ownedCompanions.has other =
      decide (other ≠ companionId) := by
  obtain ⟨row, found⟩ := Table.has_iff.mp stored
  have named : row.companionId = other := Table.key_of_get? found
  rw [unhoused_companions integrity, Table.has, Table.get?_retain, found, Option.filter_some, named]
  by_cases taken : other = companionId
  · simp [taken]
  · simp [taken]

theorem unhoused_owned (integrity : t.Integrity) {companionId ownerId other : String}
    (owned : t.workspace.hasOwnedCompanion ownerId other = true) :
    (t.workspace.unhoused companionId).cascade.hasOwnedCompanion ownerId other =
      decide (other ≠ companionId) := by
  obtain ⟨row, found, own⟩ := (Option.any_eq_true _ _).mp owned
  have named : row.companionId = other := Table.key_of_get? found
  rw [Workspace.hasOwnedCompanion_cascade, unhoused_companions integrity, Table.get?_retain, found,
    Option.filter_some, named]
  by_cases taken : other = companionId
  · simp [taken]
  · simp [taken, of_decide_eq_true own]

variable {companionId : String}

theorem unhoused_genomes (integrity : t.Integrity) :
    (t.workspace.unhoused companionId).ownedGenomes =
      t.workspace.personaGenomes.retain (fun row => row.companionId ≠ companionId) := by
  apply Table.retain_congr
  intro genome member
  exact unhoused_has integrity (integrity.workspace.genomeCompanion genome member)

theorem unhoused_genome (integrity : t.Integrity) {genomeId : String} {genome : PersonaGenomeRow}
    (found : t.workspace.personaGenomes.get? genomeId = some genome)
    (other : genome.companionId ≠ companionId) :
    (t.workspace.unhoused companionId).ownedGenomes.has genomeId = true := by
  rw [unhoused_genomes integrity]
  refine Table.has_iff.mpr ⟨genome, ?_⟩
  rw [Table.get?_retain, found, Option.filter_some, if_pos (decide_eq_true other)]

theorem unhoused_realms (integrity : t.Integrity) :
    (t.workspace.unhoused companionId).ownedRealms = t.workspace.memoryRealms := by
  refine Table.retain_eq_self ?_
  intro realm member
  exact unhoused_owner (integrity.workspace.realmOwner realm member)

theorem unhoused_cascade_owners (integrity : t.Integrity) (separate : t.Separate) :
    (t.workspace.unhoused companionId).cascade.owners =
      t.workspace.owners.update (OwnerRow.release companionId)
        (OwnerRow.key_release companionId) := by
  refine Table.update_eq_self ?_ ?_
  · intro _
    rfl
  · intro owner member
    have released : owner ∈ (t.workspace.owners.update (OwnerRow.release companionId)
        (OwnerRow.key_release companionId)).rows := member
    obtain ⟨row, stored, rfl⟩ := Table.mem_update.mp released
    have found : t.workspace.owners.get? row.ownerId = some row :=
      (Table.mem_rows_iff _ row).mp stored
    have same : (row.release companionId).defaultCompanionId.filter
        (t.workspace.unhoused companionId).ownedCompanions.has =
          (row.release companionId).defaultCompanionId := by
      apply filter_has_of_stays
      intro other pointed
      obtain ⟨pointedBefore, different⟩ := Option.filter_eq_some_iff.mp pointed
      obtain ⟨target, targetFound, -⟩ := separate.defaultOwned found pointedBefore
      rw [unhoused_has integrity (Table.has_of_get? targetFound)]
      exact different
    exact congrArg
      (fun reference => { row.release companionId with defaultCompanionId := reference }) same

theorem unhoused_cascade_companions (integrity : t.Integrity) (separate : t.Separate) :
    (t.workspace.unhoused companionId).cascade.companions =
      t.workspace.companions.retain (fun row => row.companionId ≠ companionId) := by
  rw [← unhoused_companions integrity]
  refine Table.update_eq_self ?_ ?_
  · intro _
    rfl
  · intro row member
    have kept : row ∈ (t.workspace.unhoused companionId).ownedCompanions.rows := member
    rw [unhoused_companions integrity] at kept
    obtain ⟨stored, other⟩ := Table.mem_retain.mp kept
    have found : t.workspace.companions.get? row.companionId = some row :=
      (Table.mem_rows_iff _ row).mp stored
    have genome : row.currentGenomeId.filter
        (t.workspace.unhoused companionId).ownedGenomes.has = row.currentGenomeId := by
      apply filter_has_of_stays
      intro genomeId current
      obtain ⟨genome, genomeFound, points, own, -⟩ := separate.current found
      rw [points] at current
      cases current
      apply unhoused_genome integrity genomeFound
      rw [own]
      exact of_decide_eq_true other
    have realm : row.defaultMemoryRealmId.filter
        (t.workspace.unhoused companionId).ownedRealms.has = row.defaultMemoryRealmId := by
      apply filter_has_of_stays
      intro realmId pointed
      obtain ⟨realm, realmFound, -⟩ := separate.pointed found pointed
      rw [unhoused_realms integrity]
      exact Table.has_of_get? realmFound
    exact congrArg₂ (fun genomeId realmId =>
      { row with currentGenomeId := genomeId, defaultMemoryRealmId := realmId }) genome realm

theorem unhoused_cascade_genomes (integrity : t.Integrity) (separate : t.Separate) :
    (t.workspace.unhoused companionId).cascade.personaGenomes =
      t.workspace.personaGenomes.retain (fun row => row.companionId ≠ companionId) := by
  rw [← unhoused_genomes integrity]
  refine Table.update_eq_self ?_ ?_
  · intro _
    rfl
  · intro genome member
    have kept : genome ∈ (t.workspace.unhoused companionId).ownedGenomes.rows := member
    rw [unhoused_genomes integrity] at kept
    obtain ⟨stored, other⟩ := Table.mem_retain.mp kept
    have same : genome.baseGenomeId.filter
        (t.workspace.unhoused companionId).ownedGenomes.has = genome.baseGenomeId := by
      apply filter_has_of_stays
      intro baseGenomeId links
      obtain ⟨base, baseFound, own⟩ :=
        separate.based ((Table.mem_rows_iff _ genome).mp stored) links
      apply unhoused_genome integrity baseFound
      rw [own]
      exact of_decide_eq_true other
    exact congrArg (fun reference => { genome with baseGenomeId := reference }) same

theorem unhoused_cascade_bindings (integrity : t.Integrity) :
    (t.workspace.unhoused companionId).cascade.guardBindings =
      t.workspace.guardBindings.retain (fun row => row.guardCompanionId ≠ companionId) := by
  apply Table.retain_congr
  intro binding member
  have owner : (t.workspace.unhoused companionId).owners.has binding.ownerId = true :=
    unhoused_owner (integrity.workspace.bindingOwner binding member)
  have pair : (t.workspace.unhoused companionId).cascade.hasOwnedCompanion binding.ownerId
      binding.guardCompanionId = decide (binding.guardCompanionId ≠ companionId) :=
    unhoused_owned integrity (integrity.workspace.bindingCompanion binding member)
  rw [Workspace.hasOwnedCompanion_cascade] at pair
  show ((t.workspace.unhoused companionId).owners.has binding.ownerId &&
    ((t.workspace.unhoused companionId).ownedCompanions.get? binding.guardCompanionId).any
      (fun row => row.ownerId = binding.ownerId)) = _
  rw [owner, Bool.true_and]
  exact pair

theorem unhoused_workspace (integrity : t.Integrity) (separate : t.Separate) :
    (t.workspace.unhoused companionId).cascade =
      t.workspace.withoutRowsOfCompanion companionId := by
  have realms : (t.workspace.unhoused companionId).cascade.memoryRealms =
      t.workspace.memoryRealms := unhoused_realms integrity
  rw [Workspace.withoutRowsOfCompanion, ← unhoused_cascade_owners integrity separate,
    ← unhoused_cascade_companions integrity separate, ← unhoused_cascade_genomes integrity separate,
    ← unhoused_cascade_bindings integrity, ← realms]

theorem unhoused_left {other : String} (stored : t.workspace.owners.has other = true) :
    (t.workspace.unhoused companionId).cascade.owners.has other = true := by
  rw [Workspace.has_cascade_owners]
  exact unhoused_owner stored

theorem unhoused_faces (integrity : t.Integrity) :
    t.faces.cascade (t.workspace.unhoused companionId).cascade =
      { t.faces with
        companionFaceAssets :=
          t.faces.companionFaceAssets.retain (fun row => row.companionId ≠ companionId) } := by
  have assets : (t.faces.cascade (t.workspace.unhoused companionId).cascade).companionFaceAssets =
      t.faces.companionFaceAssets.retain (fun row => row.companionId ≠ companionId) := by
    apply Table.retain_congr
    intro asset member
    rw [unhoused_left (integrity.faces.assetOwner asset member), Bool.true_and]
    exact unhoused_owned integrity (integrity.faces.assetCompanion asset member)
  have revisions : (t.faces.cascade
      (t.workspace.unhoused companionId).cascade).ownerFaceProfileRevisions =
      t.faces.ownerFaceProfileRevisions := by
    refine Table.retain_eq_self ?_
    intro row member
    exact unhoused_left (integrity.faces.profileOwner row member)
  have references : (t.faces.cascade
      (t.workspace.unhoused companionId).cascade).ownerFaceReferences =
      t.faces.ownerFaceReferences := by
    refine Table.retain_eq_self ?_
    intro row member
    show (t.faces.cascade _).ownerFaceProfileRevisions.has _ = true
    rw [revisions]
    exact integrity.faces.referenceProfile row member
  exact Faces.ext assets revisions references

theorem unhoused_home (integrity : t.Integrity) :
    t.home.cascade (t.workspace.unhoused companionId).cascade = t.home := by
  have registries : (t.home.cascade (t.workspace.unhoused companionId).cascade).registries =
      t.home.registries := by
    refine Table.retain_eq_self ?_
    intro row member
    exact unhoused_left (Bool.and_eq_true_iff.mp (integrity.home.registryOwner row member)).1
  have scenes : (t.home.cascade (t.workspace.unhoused companionId).cascade).scenes =
      t.home.scenes :=
    Table.retain_eq_self (fun row member => unhoused_left (integrity.home.sceneOwner row member))
  have areas : (t.home.cascade (t.workspace.unhoused companionId).cascade).areas = t.home.areas :=
    Table.retain_eq_self (fun row member => unhoused_left (integrity.home.areaOwner row member))
  have devices : (t.home.cascade (t.workspace.unhoused companionId).cascade).devices =
      t.home.devices :=
    Table.retain_eq_self (fun row member => unhoused_left (integrity.home.deviceOwner row member))
  have placements : (t.home.cascade (t.workspace.unhoused companionId).cascade).placements =
      t.home.placements :=
    Table.retain_eq_self
      (fun row member => unhoused_left (integrity.home.placementOwner row member))
  have actions : (t.home.cascade (t.workspace.unhoused companionId).cascade).sceneActions =
      t.home.sceneActions := by
    refine Table.retain_eq_self ?_
    intro row member
    rw [unhoused_left (integrity.home.actionOwner row member), Bool.true_and]
    show (t.home.cascade _).scenes.has _ = true
    rw [scenes]
    exact integrity.home.actionScene row member
  exact SmartHome.ext registries areas devices scenes actions placements

theorem unhoused_people (integrity : t.Integrity) (separate : t.Separate) :
    t.people.cascade (t.workspace.unhoused companionId).cascade = t.people := by
  have pruned : VoicesPruned t.people
      (t.people.cascade (t.workspace.unhoused companionId).cascade) :=
    cascade_pruned integrity.people separate.sourced rfl (fun _ _ stored => stored)
  have persons : (t.people.cascade (t.workspace.unhoused companionId).cascade).persons =
      t.people.persons := by
    refine Table.retain_eq_self ?_
    intro row member
    exact unhoused_left (Bool.and_eq_true_iff.mp (integrity.people.personOwner row member)).1
  have receipts : (t.people.cascade (t.workspace.unhoused companionId).cascade).personDeletions =
      t.people.personDeletions :=
    Table.retain_eq_self (fun row member =>
      unhoused_left (integrity.people.deletionOwner row member))
  have left : ∀ {ownerId personId}, t.people.hasOwnedPerson ownerId personId = true →
      (t.people.cascade (t.workspace.unhoused companionId).cascade).persons.has personId =
        true := by
    intro ownerId personId owned
    rw [persons]
    exact has_of_person owned
  have faces := pruned.faces.trans
    (Table.retain_eq_self (fun row member => left (integrity.people.faceOf row member)))
  have profiles := pruned.profiles.trans
    (Table.retain_eq_self (fun row member => left (integrity.people.profileOf row member)))
  have enrollments := pruned.enrollments.trans
    (Table.retain_eq_self (fun row member => left (integrity.people.enrollmentOf row member)))
  have observations := pruned.observations.trans
    (Table.retain_eq_self (fun row member => left (integrity.people.observationOf row member)))
  have recordings := pruned.recordings.trans (Table.retain_eq_self (by
    intro row member
    rw [profiles]
    exact integrity.people.recordingProfile row member))
  exact People.ext persons receipts faces profiles recordings enrollments observations

theorem deleteCompanion_parts :
    (t.mapWorkspace (fun w => w.released companionId)).deleteCompanion companionId =
      { t with
        workspace := (t.workspace.unhoused companionId).cascade
        faces := t.faces.cascade (t.workspace.unhoused companionId).cascade
        home := t.home.cascade (t.workspace.unhoused companionId).cascade
        people := t.people.cascade (t.workspace.unhoused companionId).cascade } := rfl

/-- The deletion of a Companion takes its rows and the pointer to it, and
leaves the rest as it is. -/
theorem deleteCompanion_eq (integrity : t.Integrity) (separate : t.Separate) :
    (t.mapWorkspace (fun w => w.released companionId)).deleteCompanion companionId =
      t.withoutRowsOfCompanion companionId := by
  rw [deleteCompanion_parts, unhoused_faces integrity, unhoused_home integrity,
    unhoused_people integrity separate, unhoused_workspace integrity separate]
  rfl

/-- No constraint stands in the way of the deletion of a Companion. -/
theorem Tables.Integrity.withoutRowsOfCompanion (integrity : t.Integrity) (separate : t.Separate) :
    (t.withoutRowsOfCompanion companionId).Integrity := by
  have checked : (t.workspace.unhoused companionId).Checked :=
    { ownerRevision := by
        refine integrity.workspace.ownerRevision.update ?_ (OwnerRow.key_release companionId)
        intro owner _ positive
        rw [decide_eq_true_eq] at positive ⊢
        show 0 < if owner.defaultCompanionId = some companionId then owner.revision + 1
          else owner.revision
        split
        · omega
        · exact positive
      companionRevision := by
        have kept : ((t.workspace.released companionId).withoutCompanion
            companionId).companions.All (fun row => 0 < row.revision) := by
          rw [released_companions]
          exact integrity.workspace.companionRevision.retain _
        exact kept
      genomeVersion := integrity.workspace.genomeVersion
      genomeCurrent := integrity.workspace.genomeCurrent
      genomeVersions := integrity.workspace.genomeVersions
      realmShared := integrity.workspace.realmShared
      realmPerson := integrity.workspace.realmPerson
      bindingRevision := integrity.workspace.bindingRevision
      bindingPerCompanion := integrity.workspace.bindingPerCompanion
      bindingPerDevice := integrity.workspace.bindingPerDevice }
  rw [← deleteCompanion_eq integrity separate, deleteCompanion_parts]
  exact
    { workspace := checked.cascade
      faces := integrity.faces.cascade _
      home := integrity.home.cascade _
      people := integrity.people.cascade _
      teams :=
        { integrity.teams with
          teamOwner := by
            intro row member
            rw [Workspace.has_cascade_owners]
            exact unhoused_owner (integrity.teams.teamOwner row member) }
      events := integrity.events }

/-- What `delete_companion` counts and returns, read before the deletion. -/
def companionReceipt (ownerId companionId : String) (t : Tables) : CompanionDeletionResult :=
  { ownerId := ownerId
    companionId := companionId
    faceAssetStorageKeys := (t.faces.companionFaceAssets.select (fun row =>
      row.companionId = companionId)).flatMap (fun row => row.storageKeys)
    deletedRows :=
      [("companions", .int 1),
       ("persona_genomes", .int (t.workspace.personaGenomes.select (fun row =>
         row.companionId = companionId)).length),
       ("companion_face_assets", .int (t.faces.companionFaceAssets.select (fun row =>
         row.companionId = companionId)).length),
       ("guard_bindings", .int (t.workspace.guardBindings.select (fun row =>
         row.guardCompanionId = companionId)).length)] }

def companionDeletedFact (env : Env) (receipt : CompanionDeletionResult) : AuditFact :=
  governanceFact (env.uuid 0) env.now receipt.ownerId "companion" receipt.companionId
    "companion.deleted" [("deleted_rows", .obj receipt.deletedRows)]

/-- A deletion that runs to its end. -/
structure CompanionRemoved (env : Env) (t t' : Tables) (ownerId companionId : String)
    (allowDefault : Bool) (result : CompanionDeletionResult) : Prop where
  receipt : result = companionReceipt ownerId companionId t
  tables : t' = (t.withoutRowsOfCompanion companionId).addFact env.now
    (companionDeletedFact env result)
  owned : t.workspace.hasOwnedCompanion ownerId companionId = true
  allowed : (t.workspace.owners.get? ownerId).any
    (fun row => row.defaultCompanionId = some companionId) = true → allowDefault = true

theorem deleteCompanion_removes (env : Env) (integrity : t.Integrity) (separate : t.Separate)
    (ownerId companionId : String) (allowDefault : Bool) :
    (deleteCompanion env ownerId companionId allowDefault).Ensures t (fun result t' =>
      CompanionRemoved env t t' ownerId companionId allowDefault result) := by
  simp only [deleteCompanion, Tx.ensures_bind, ensures_getCompanion, Tx.ensures_require,
    ensures_getOwner, Tx.ensures_refuseIf, Tx.ensures_read, Tx.ensures_modify, ensures_addFact,
    Tx.pure_eq, Tx.ensures_done]
  intro companion named refused
  obtain ⟨found, own⟩ := Option.filter_eq_some_iff.mp named
  have sameId : companion.companionId = companionId := Table.key_of_get? found
  have sameOwner : companion.ownerId = ownerId := of_decide_eq_true own
  subst sameId sameOwner
  refine (breakCompanionPointers_releases separate found).mono ?_
  intro _ t₁ broken
  rw [broken, deleteCompanion_eq integrity separate]
  exact
    { receipt := rfl
      tables := rfl
      owned := by
        rw [Workspace.hasOwnedCompanion, found]
        exact decide_eq_true rfl
      allowed := by
        intro isDefault
        cases allowDefault with
        | true => rfl
        | false => exact absurd ⟨isDefault, rfl⟩ refused }

end Companion

end EidolonData
