import EidolonData.Results.ProvisionReceipt
import EidolonData.Effects.Cascade

/-!
# The deletion of an Owner

A deletion that commits leaves no row of the Owner, nor of its Companions,
realms and Persons; it commits exactly when no team is stored for the Owner,
whose rows no `ON DELETE` action reaches.
-/

namespace EidolonData

open Relational

/-- `FOREIGN KEY (realm_id)` of a realm of this Owner. -/
def Workspace.hasOwnedRealm (w : Workspace) (ownerId realmId : String) : Bool :=
  (w.memoryRealms.get? realmId).any (fun row => row.ownerId = ownerId)

/-- Nothing in the second tables is the Owner's, nor belongs to a Companion, a
realm, a face profile, a Person or a voiceprint it had in the first; the audit
outbox is left out. -/
structure Tables.Cleared (t t' : Tables) (ownerId : String) : Prop where
  owner : t'.workspace.owners.All (fun row => row.ownerId ≠ ownerId &&
    nullable row.defaultCompanionId (fun companion =>
      !t.workspace.hasOwnedCompanion ownerId companion))
  companion : t'.workspace.companions.All (fun row => row.ownerId ≠ ownerId &&
    nullable row.defaultMemoryRealmId (fun realm => !t.workspace.hasOwnedRealm ownerId realm))
  genome : t'.workspace.personaGenomes.All
    (fun row => !t.workspace.hasOwnedCompanion ownerId row.companionId)
  realm : t'.workspace.memoryRealms.All (fun row => row.ownerId ≠ ownerId)
  binding : t'.workspace.guardBindings.All (fun row => row.ownerId ≠ ownerId &&
    !t.workspace.hasOwnedCompanion ownerId row.guardCompanionId)
  asset : t'.faces.companionFaceAssets.All (fun row => row.ownerId ≠ ownerId &&
    !t.workspace.hasOwnedCompanion ownerId row.companionId)
  faceProfile : t'.faces.ownerFaceProfileRevisions.All (fun row => row.ownerId ≠ ownerId)
  reference : t'.faces.ownerFaceReferences.All (fun row =>
    !(t.faces.ownerFaceProfileRevisions.get? row.profileRevisionId).any
      (fun revision => revision.ownerId = ownerId))
  registry : t'.home.registries.All (fun row => row.ownerId ≠ ownerId)
  area : t'.home.areas.All (fun row => row.ownerId ≠ ownerId)
  device : t'.home.devices.All (fun row => row.ownerId ≠ ownerId)
  scene : t'.home.scenes.All (fun row => row.ownerId ≠ ownerId)
  action : t'.home.sceneActions.All (fun row => row.ownerId ≠ ownerId)
  placement : t'.home.placements.All (fun row => row.ownerId ≠ ownerId)
  person : t'.people.persons.All (fun row => row.ownerId ≠ ownerId)
  receipt : t'.people.personDeletions.All (fun row => row.ownerId ≠ ownerId)
  face : t'.people.personFaces.All (fun row => row.ownerId ≠ ownerId &&
    !t.people.hasOwnedPerson ownerId row.personId)
  profile : t'.people.speakerProfiles.All (fun row => row.ownerId ≠ ownerId &&
    !t.people.hasOwnedPerson ownerId row.personId)
  recording : t'.people.speakerRecordings.All (fun row =>
    !(t.people.speakerProfiles.get? row.profileId).any (fun profile => profile.ownerId = ownerId))
  enrollment : t'.people.voiceEnrollments.All (fun row => row.ownerId ≠ ownerId &&
    !t.people.hasOwnedPerson ownerId row.personId)
  observation : t'.people.candidateVoiceObservations.All (fun row => row.ownerId ≠ ownerId &&
    !t.people.hasOwnedPerson ownerId row.personId)
  team : t'.teams.teams.All (fun row => row.ownerId ≠ ownerId)
  teamRevision : t'.teams.teamRevisions.All (fun row => row.ownerId ≠ ownerId)
  teamStart : t'.teams.teamStarts.All (fun row => row.ownerId ≠ ownerId)

def OwnersKept {ρ : Type} [HasKey ρ String] (ownerOf : ρ → String) (table table' : Table ρ) :
    Prop :=
  ∀ k row', table'.get? k = some row' →
    ∃ row, table.get? k = some row ∧ ownerOf row = ownerOf row'

theorem OwnersKept.not_any {ρ : Type} [HasKey ρ String] {ownerOf : ρ → String}
    {table table' : Table ρ} (kept : OwnersKept ownerOf table table') {ownerId k : String}
    (others : table'.All (fun row => ownerOf row ≠ ownerId)) (stored : table'.has k = true) :
    (!(table.get? k).any (fun row => ownerOf row = ownerId)) = true := by
  obtain ⟨row', found'⟩ := Table.has_iff.mp stored
  obtain ⟨row, found, same⟩ := kept k row' found'
  have other := others row' (Table.mem_of_get? found')
  simp only [← same, decide_eq_true_eq] at other
  simp [found, other]

theorem ownersKept_retain {ρ : Type} [HasKey ρ String] (ownerOf : ρ → String) (table : Table ρ)
    (kept : ρ → Bool) : OwnersKept ownerOf table (table.retain kept) := by
  intro k row found
  rw [Table.get?_retain, Option.filter_eq_some_iff] at found
  exact ⟨row, found.1, rfl⟩

/-- A row that passes a check on its stored parent has one. -/
theorem has_of_any {ρ : Type} [HasKey ρ String] {table : Table ρ} {k : String} {owned : ρ → Bool}
    (passed : (table.get? k).any owned = true) : table.has k = true := by
  obtain ⟨row, found, -⟩ := (Option.any_eq_true _ _).mp passed
  exact Table.has_of_get? found

/-- The Owner a stored parent is checked to have is another one. -/
theorem other_of_any {ρ : Type} [HasKey ρ String] {ownerOf : ρ → String} {table : Table ρ}
    {ownerId ownerId' k : String} (others : table.All (fun row => ownerOf row ≠ ownerId))
    (passed : (table.get? k).any (fun row => ownerOf row = ownerId') = true) :
    decide (ownerId' ≠ ownerId) = true := by
  obtain ⟨row, found, same⟩ := (Option.any_eq_true _ _).mp passed
  have different := others row (Table.mem_of_get? found)
  simp only [decide_eq_true_eq] at same different
  rw [← same]
  exact decide_eq_true different

section Tree

variable {t : Tables} {ownerId : String}

theorem ownersKept_companions :
    OwnersKept CompanionRow.ownerId t.workspace.companions
      (t.withoutOwnerTree ownerId).workspace.companions := by
  intro companionId row' found
  have stays : (Workspace.cascade _).companions.get? companionId = some row' := found
  rw [Workspace.cascade_companion, Option.map_eq_some_iff] at stays
  obtain ⟨middle, kept, rfl⟩ := stays
  obtain ⟨broken, -⟩ := (Workspace.ownedCompanions_iff _).mp kept
  simp only [Workspace.withoutOwner, Workspace.breakPointers, Tables.workspace_mapWorkspace,
    Table.get?_update, Option.map_eq_some_iff] at broken
  obtain ⟨row, stored, rfl⟩ := broken
  refine ⟨row, stored, ?_⟩
  split
  · rfl
  · rfl

theorem Tables.Integrity.cleared (accepted : (t.withoutOwnerTree ownerId).Integrity) :
    t.Cleared (t.withoutOwnerTree ownerId) ownerId := by
  have other : ∀ {ownerId'}, (t.withoutOwnerTree ownerId).workspace.owners.has ownerId' = true →
      decide (ownerId' ≠ ownerId) = true := by
    intro ownerId' stored
    exact decide_eq_true ((Tables.has_withoutOwnerTree t ownerId ownerId').mp stored).2
  have companions := accepted.workspace.companionOwner.mono (fun _ _ => other)
  have realms := accepted.workspace.realmOwner.mono (fun _ _ => other)
  have revisions := accepted.faces.profileOwner.mono (fun _ _ => other)
  have persons := accepted.people.personOwner.mono
    (fun _ _ stored => other (Bool.and_eq_true_iff.mp stored).1)
  have profiles := accepted.people.profileOwner.mono (fun _ _ => other)
  have companionFree : ∀ {companionId},
      (t.withoutOwnerTree ownerId).workspace.companions.has companionId = true →
      (!t.workspace.hasOwnedCompanion ownerId companionId) = true :=
    ownersKept_companions.not_any companions
  have realmFree : ∀ {realmId},
      (t.withoutOwnerTree ownerId).workspace.memoryRealms.has realmId = true →
      (!t.workspace.hasOwnedRealm ownerId realmId) = true :=
    OwnersKept.not_any (ownersKept_retain MemoryRealmRow.ownerId _ _) realms
  have personFree : ∀ {personId},
      (t.withoutOwnerTree ownerId).people.persons.has personId = true →
      (!t.people.hasOwnedPerson ownerId personId) = true :=
    OwnersKept.not_any (ownersKept_retain PersonRow.ownerId _ _) persons
  have personOwned : ∀ {ownerId' personId},
      (t.withoutOwnerTree ownerId).people.hasOwnedPerson ownerId' personId = true →
      (decide (ownerId' ≠ ownerId) && !t.people.hasOwnedPerson ownerId personId) = true := by
    intro ownerId' personId owned
    exact Bool.and_eq_true_iff.mpr ⟨other_of_any persons owned, personFree (has_of_any owned)⟩
  have companionOwned : ∀ {ownerId' companionId},
      (t.withoutOwnerTree ownerId).workspace.hasOwnedCompanion ownerId' companionId = true →
      (decide (ownerId' ≠ ownerId) &&
        !t.workspace.hasOwnedCompanion ownerId companionId) = true := by
    intro ownerId' companionId owned
    exact Bool.and_eq_true_iff.mpr
      ⟨other_of_any companions owned, companionFree (has_of_any owned)⟩
  have teams := accepted.teams.teamOwner.mono (fun _ _ => other)
  have teamRevisions : (t.withoutOwnerTree ownerId).teams.teamRevisions.All
      (fun row => row.ownerId ≠ ownerId) := by
    intro row member
    obtain ⟨team, found⟩ := Table.has_iff.mp (accepted.teams.revisionTeam row member)
    have same : team.ownerId = row.ownerId := congrArg Prod.fst (Table.key_of_get? found)
    have different := teams team (Table.mem_of_get? found)
    simpa only [same] using different
  have teamStarts : (t.withoutOwnerTree ownerId).teams.teamStarts.All
      (fun row => row.ownerId ≠ ownerId) := by
    intro row member
    obtain ⟨revision, found⟩ := Table.has_iff.mp (accepted.teams.startRevision row member)
    have same : revision.ownerId = row.ownerId := congrArg Prod.fst (Table.key_of_get? found)
    have different := teamRevisions revision (Table.mem_of_get? found)
    simpa only [same] using different
  exact
    { owner := by
        intro row member
        have self := (Table.mem_rows_iff _ row).mp member
        have pointed := accepted.workspace.ownerDefault row member
        exact Bool.and_eq_true_iff.mpr ⟨other (Table.has_of_get? self),
          nullable_mono pointed (fun _ => companionFree)⟩
      companion := by
        intro row member
        have pointed := accepted.workspace.companionRealm row member
        exact Bool.and_eq_true_iff.mpr ⟨companions row member,
          nullable_mono pointed (fun _ => realmFree)⟩
      genome := accepted.workspace.genomeCompanion.mono (fun _ _ => companionFree)
      realm := realms
      binding := accepted.workspace.bindingCompanion.mono (fun _ _ => companionOwned)
      asset := accepted.faces.assetCompanion.mono (fun _ _ => companionOwned)
      faceProfile := revisions
      reference := accepted.faces.referenceProfile.mono (fun _ _ =>
        OwnersKept.not_any (ownersKept_retain OwnerFaceProfileRevisionRow.ownerId _ _) revisions)
      registry := accepted.home.registryOwner.mono
        (fun _ _ stored => other (Bool.and_eq_true_iff.mp stored).1)
      area := accepted.home.areaOwner.mono (fun _ _ => other)
      device := accepted.home.deviceOwner.mono (fun _ _ => other)
      scene := accepted.home.sceneOwner.mono (fun _ _ => other)
      action := accepted.home.actionOwner.mono (fun _ _ => other)
      placement := accepted.home.placementOwner.mono (fun _ _ => other)
      person := persons
      receipt := accepted.people.deletionOwner.mono (fun _ _ => other)
      face := accepted.people.faceOf.mono (fun _ _ => personOwned)
      profile := accepted.people.profileOf.mono (fun _ _ => personOwned)
      recording := accepted.people.recordingProfile.mono (fun _ _ =>
        OwnersKept.not_any (ownersKept_retain SpeakerProfileRow.ownerId _ _) profiles)
      enrollment := accepted.people.enrollmentOf.mono (fun _ _ => personOwned)
      observation := accepted.people.observationOf.mono (fun _ _ => personOwned)
      team := teams
      teamRevision := teamRevisions
      teamStart := teamStarts }

end Tree

def ownerDeletedFact (env : Env) (ownerId : String) (receipt : OwnerDeletionResult) : AuditFact :=
  governanceFact (env.uuid 0) env.now ownerId "owner" ownerId "owner.deleted"
    [("realm_ids", .arr (receipt.realmIds.map .str)),
     ("deleted_rows", .obj receipt.deletedRows)]

theorem run_deleteOwner {env : Env} {ownerId : String} {t : Tables} {owner : OwnerRow}
    (found : t.workspace.owners.get? ownerId = some owner) :
    (deleteOwner env ownerId).run t =
      .ok (ownerReceipt ownerId t, (t.withoutOwnerTree ownerId).addFact env.now
        (ownerDeletedFact env ownerId (ownerReceipt ownerId t))) := by
  simp only [deleteOwner, getOwner, Tx.run_read_bind, found]
  rfl

/-- The deletion of an Owner commits and leaves nothing of it exactly when no
team is stored for it and the event id drawn is new. -/
theorem owner_deletion_complete (db : Database) (env : Env) (ownerId : String) (owner : OwnerRow)
    (found : db.tables.workspace.owners.get? ownerId = some owner) :
    (∃ result db', db.transact (deleteOwner env ownerId) = .ok (result, db') ∧
        result.deleted = true ∧ db.tables.Cleared db'.tables ownerId) ↔
      (∀ row ∈ db.tables.teams.teams.rows, row.ownerId ≠ ownerId) ∧
        ¬ db.tables.HasEvent ("audit-" ++ (env.uuid 0).hex) := by
  have ran : (deleteOwner env ownerId).run db.tables = _ := run_deleteOwner found
  have tree := db.property.withoutOwnerTree_iff ownerId
  constructor
  · rintro ⟨result, db', deleted, -, -⟩
    rw [Database.transact_ok_iff, ran] at deleted
    obtain ⟨-, final⟩ := Prod.mk.inj (Except.ok.inj deleted)
    have accepted : db'.tables.Integrity := db'.property
    rw [← final] at accepted
    have noTeam : ∀ row ∈ db.tables.teams.teams.rows, row.ownerId ≠ ownerId := by
      intro row member
      have stored := accepted.teams.teamOwner row member
      exact ((Tables.has_withoutOwnerTree db.tables ownerId row.ownerId).mp stored).2
    exact ⟨noTeam, ((tree.mpr noTeam).addFact_iff _ _).mp accepted⟩
  · rintro ⟨noTeam, newEvent⟩
    have kept := tree.mpr noTeam
    have accepted := (kept.addFact_iff env.now
      (ownerDeletedFact env ownerId (ownerReceipt ownerId db.tables))).mpr newEvent
    refine ⟨_, ⟨_, accepted⟩, Database.transact_ok_iff.mpr ran, rfl, ?_⟩
    exact { kept.cleared with }

theorem owner_deletion_complete_first :
    (replay .plain (numbered firstDefaultCommands) .empty).tables.workspace.owners.has "owner" =
        true ∧
      ∃ result db', (replay .plain (numbered firstDefaultCommands) .empty).transact
          (deleteOwner secondEnv "owner") = .ok (result, db') ∧ result.deleted = true ∧
        (replay .plain (numbered firstDefaultCommands) .empty).tables.Cleared db'.tables
          "owner" := by
  have stored : (replay .plain (numbered firstDefaultCommands)
      .empty).tables.workspace.owners.has "owner" = true := by
    decide +kernel
  have free : (∀ row ∈ (replay .plain (numbered firstDefaultCommands)
      .empty).tables.teams.teams.rows, row.ownerId ≠ "owner") ∧
      ¬ ∃ row ∈ (replay .plain (numbered firstDefaultCommands) .empty).tables.auditOutbox.rows,
        row.fact.eventId = "audit-" ++ (secondEnv.uuid 0).hex := by
    decide +kernel
  obtain ⟨owner, found⟩ := Table.has_iff.mp stored
  exact ⟨stored, (owner_deletion_complete _ secondEnv "owner" owner found).mpr free⟩

def savedTeamCommands : List Command :=
  firstDefaultCommands ++
    [.saveTeam "owner" "host" "team" 0 { memberCompanionIds := ["c_owner"], document := [] }]

/-- The Owner of a saved team is refused its deletion by the foreign key. -/
theorem owner_deletion_refused :
    let db := replay .plain (numbered savedTeamCommands) .empty
    db.tables.workspace.owners.has "owner" = true ∧
      db.tables.teams.teams.has ("owner", "team") = true ∧
      (db.transact (deleteOwner secondEnv "owner")).map (fun _ => ()) =
        .error .integrityError := by
  decide +kernel

end EidolonData
