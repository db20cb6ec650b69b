import EidolonData.Results.FaceProfiles
import EidolonData.Results.OwnerDeletion
import EidolonData.Effects.Objects
import EidolonData.Invariants.Store

/-!
# The receipts of the deletions

After any run a deletion removes exactly the rows of its aggregate and changes
no other row.  Its receipt lists every key and every realm that went, each as
often as a row named it, and counts the rows.
-/

namespace EidolonData

open Relational

def lostRows {ρ : Type} [HasKey ρ String] (table table' : Table ρ) : Json :=
  .int ((table.rows.length : Int) - table'.rows.length)

theorem lostRows_retain {ρ : Type} [HasKey ρ String] (table : Table ρ) (kept : ρ → Bool) :
    lostRows table (table.retain kept) = .int (table.select (fun row => !kept row)).length := by
  have split := List.length_eq_length_filter_add (l := table.rows) kept
  have lengths : (table.rows.length : Int) - (table.retain kept).rows.length =
      (table.select (fun row => !kept row)).length := by
    show (table.rows.length : Int) - (table.rows.filter kept).length =
      (table.rows.filter (fun row => !kept row)).length
    omega
  rw [lostRows, lengths]

theorem lostRows_delete {ρ : Type} [HasKey ρ String] {table : Table ρ} {k : String}
    (stored : table.has k = true) :
    lostRows table (table.retain (fun row => key row ≠ k)) = .int 1 := by
  obtain ⟨row, found⟩ := Table.has_iff.mp stored
  have split := (table.rows_perm_retain k).length_eq
  rw [found, List.length_append] at split
  have one : (some row).toList.length = 1 := rfl
  rw [lostRows]
  congr 1
  omega

structure OwnerDeleted (env : Env) (t t' : Tables) (ownerId : String)
    (result : OwnerDeletionResult) : Prop where
  tables : t' = (t.withoutRowsOf ownerId).addFact env.now (ownerDeletedFact env ownerId result)
  objects : t.objectKeys.Perm (result.objectStorageKeys ++ t'.objectKeys)
  realms : (t.workspace.memoryRealms.rows.map (fun row => row.realmId)).Perm
    (result.realmIds ++ t'.workspace.memoryRealms.rows.map (fun row => row.realmId))
  rows : result.deletedRows =
    [("owners", lostRows t.workspace.owners t'.workspace.owners),
     ("companions", lostRows t.workspace.companions t'.workspace.companions),
     ("persona_genomes", lostRows t.workspace.personaGenomes t'.workspace.personaGenomes),
     ("memory_realms", lostRows t.workspace.memoryRealms t'.workspace.memoryRealms),
     ("companion_face_assets",
       lostRows t.faces.companionFaceAssets t'.faces.companionFaceAssets),
     ("guard_bindings", lostRows t.workspace.guardBindings t'.workspace.guardBindings),
     ("owner_face_profile_revisions",
       lostRows t.faces.ownerFaceProfileRevisions t'.faces.ownerFaceProfileRevisions),
     ("owner_face_references",
       lostRows t.faces.ownerFaceReferences t'.faces.ownerFaceReferences)]

structure CompanionDeleted (env : Env) (t t' : Tables) (ownerId companionId : String)
    (result : CompanionDeletionResult) : Prop where
  named : result.ownerId = ownerId ∧ result.companionId = companionId
  tables : t' = (t.withoutRowsOfCompanion companionId).addFact env.now
    (companionDeletedFact env result)
  objects : t.objectKeys.Perm (result.faceAssetStorageKeys ++ t'.objectKeys)
  rows : result.deletedRows =
    [("companions", lostRows t.workspace.companions t'.workspace.companions),
     ("persona_genomes", lostRows t.workspace.personaGenomes t'.workspace.personaGenomes),
     ("companion_face_assets",
       lostRows t.faces.companionFaceAssets t'.faces.companionFaceAssets),
     ("guard_bindings", lostRows t.workspace.guardBindings t'.workspace.guardBindings)]

section Owner

variable {t : Tables} {ownerId : String}

/-- The ids `delete_owner` collects are those of the Owner's Companions. -/
theorem mem_companionIds {companionId : String} :
    companionId ∈ (t.workspace.companions.select (fun row => row.ownerId = ownerId)).map
        (fun row => row.companionId) ↔
      t.workspace.hasOwnedCompanion ownerId companionId = true := by
  rw [List.mem_map, Workspace.hasOwnedCompanion, Option.any_eq_true]
  constructor
  · rintro ⟨row, member, rfl⟩
    obtain ⟨stored, own⟩ := Table.mem_select.mp member
    exact ⟨row, stored, own⟩
  · rintro ⟨row, found, own⟩
    have named : row.companionId = companionId := Table.key_of_get? found
    refine ⟨row, Table.mem_select.mpr ⟨?_, own⟩, named⟩
    rw [← named] at found
    exact found

theorem ownerReceipt_rows (stored : t.workspace.owners.has ownerId = true) :
    (ownerReceipt ownerId t).deletedRows =
      [("owners", lostRows t.workspace.owners (t.withoutRowsOf ownerId).workspace.owners),
       ("companions",
         lostRows t.workspace.companions (t.withoutRowsOf ownerId).workspace.companions),
       ("persona_genomes",
         lostRows t.workspace.personaGenomes (t.withoutRowsOf ownerId).workspace.personaGenomes),
       ("memory_realms",
         lostRows t.workspace.memoryRealms (t.withoutRowsOf ownerId).workspace.memoryRealms),
       ("companion_face_assets",
         lostRows t.faces.companionFaceAssets
           (t.withoutRowsOf ownerId).faces.companionFaceAssets),
       ("guard_bindings",
         lostRows t.workspace.guardBindings (t.withoutRowsOf ownerId).workspace.guardBindings),
       ("owner_face_profile_revisions",
         lostRows t.faces.ownerFaceProfileRevisions
           (t.withoutRowsOf ownerId).faces.ownerFaceProfileRevisions),
       ("owner_face_references",
         lostRows t.faces.ownerFaceReferences
           (t.withoutRowsOf ownerId).faces.ownerFaceReferences)] := by
  have owners : lostRows t.workspace.owners (t.withoutRowsOf ownerId).workspace.owners = .int 1 :=
    lostRows_delete stored
  have genomes : (t.workspace.personaGenomes.select (fun row =>
      row.companionId ∈ (t.workspace.companions.select (fun row => row.ownerId = ownerId)).map
        (fun row => row.companionId))) =
      t.workspace.personaGenomes.select
        (fun row => t.workspace.hasOwnedCompanion ownerId row.companionId) := by
    apply List.filter_congr
    intro row _
    rw [Bool.eq_iff_iff, decide_eq_true_eq]
    exact mem_companionIds
  rw [owners]
  simp only [ownerReceipt, Tables.withoutRowsOf, Workspace.withoutRowsOf, Faces.withoutRowsOf,
    lostRows_retain, genomes, Faces.referenceKeys, List.length_map]
  simp

theorem ownerDeleted (env : Env) (integrity : t.Integrity) (separate : t.Separate)
    (stored : t.workspace.owners.has ownerId = true) {result : OwnerDeletionResult} {t' : Tables}
    (ran : (deleteOwner env ownerId).run t = .ok (result, t')) :
    OwnerDeleted env t t' ownerId result := by
  obtain ⟨owner, found⟩ := Table.has_iff.mp stored
  rw [run_deleteOwner found] at ran
  obtain ⟨rfl, rfl⟩ := Prod.mk.inj (Except.ok.inj ran)
  rw [withoutOwnerTree_eq integrity separate]
  have realms := Table.conserves_retain t.workspace.memoryRealms
    (fun row => decide (row.ownerId ≠ ownerId)) (fun row => [row.realmId])
  exact
    { tables := rfl
      objects := by
        have keys := ownerReceipt_keys t ownerId
        rw [Conserves, List.append_nil] at keys
        exact keys
      realms := by
        rw [Conserves, List.append_nil, ← List.map_eq_flatMap, ← List.map_eq_flatMap,
          ← List.map_eq_flatMap] at realms
        simpa [ownerReceipt, Tables.withoutRowsOf, Workspace.withoutRowsOf] using realms
      rows := ownerReceipt_rows stored }

theorem run_deleteOwner_gone (env : Env) (gone : t.workspace.owners.get? ownerId = none) :
    (deleteOwner env ownerId).run t =
      .ok ({ ownerId := ownerId, deleted := false, realmIds := [], objectStorageKeys := [],
             deletedRows := [] }, t) := by
  simp only [deleteOwner, getOwner, Tx.run_read_bind, gone]
  rfl

end Owner

/-- The deletion of an Owner takes exactly its rows, and its receipt lists what
went; a second deletion finds nothing. -/
theorem owner_deletion_exact (sdk : Sdk) (rules : FaceProfileRules) (calls : List StoreCall)
    (env : Env) (ownerId : String) (result : OwnerDeletionResult) (db' : Database)
    (stored : (replayStore sdk rules calls .empty).tables.workspace.owners.has ownerId = true)
    (deleted : (replayStore sdk rules calls .empty).transact (deleteOwner env ownerId) =
      .ok (result, db')) :
    OwnerDeleted env (replayStore sdk rules calls .empty).tables db'.tables ownerId result ∧
      ∀ env', db'.transact (deleteOwner env' ownerId) =
        .ok ({ ownerId := ownerId, deleted := false, realmIds := [], objectStorageKeys := [],
               deletedRows := [] }, db') := by
  have sound : StoreSound sdk (replayStore sdk rules calls .empty).tables := replayStore_sound calls
  have separate := sound.separate
  have exact := ownerDeleted env (replayStore sdk rules calls .empty).property separate stored
    (Database.transact_ok_iff.mp deleted)
  refine ⟨exact, ?_⟩
  intro env'
  apply Database.transact_ok_iff.mpr
  apply run_deleteOwner_gone
  rw [exact.tables]
  show ((replayStore sdk rules calls .empty).tables.workspace.owners.retain _).get? ownerId = none
  rw [Table.get?_retain, Option.filter_eq_none_iff]
  intro owner found other
  exact of_decide_eq_true other (Table.key_of_get? found)

/-- An Owner, a Companion with a face, a photograph of the Owner and one of
another Person. -/
def photographedCommands : List StoreCommand :=
  [.service (.createOwner "owner" "" "person" none none),
    .service (.provisionWorkspace { ownerId := "owner" }),
    .setFace "c_owner" "face.jpg" "image/jpeg" 1
      "e3b0c44298fc1c149afbf4c8996fb92427ae41e4649b934ca495991b7852b855",
    .faceProfile (.createDraft "owner" "model" "preprocessing"),
    .faceProfile (samplePhotograph ("ofpr_" ++ (Uuid.ofNat 49).hex) "front" "front.jpg"),
    .service (.createPerson 0 "owner" { personId := "person", displayName := "" }),
    .service (.replaceFace "owner" "person" 0 "")]

theorem owner_deletion_exact_photographed :
    ∃ result db', (replayStore .plain sampleFaceRules (numberedStore photographedCommands)
        .empty).transact (deleteOwner secondEnv "owner") = .ok (result, db') ∧
      result.objectStorageKeys =
        ["face.jpg", "front.jpg", "person-faces/16000000000000000000000000000000.jpg"] ∧
      OwnerDeleted secondEnv (replayStore .plain sampleFaceRules
        (numberedStore photographedCommands) .empty).tables db'.tables "owner" result := by
  have deletes : ((replayStore .plain sampleFaceRules (numberedStore photographedCommands)
      .empty).transact (deleteOwner secondEnv "owner")).toOption.map (fun deleted =>
        deleted.1.objectStorageKeys) =
      some ["face.jpg", "front.jpg", "person-faces/16000000000000000000000000000000.jpg"] := by
    decide +kernel
  have stored : (replayStore .plain sampleFaceRules (numberedStore photographedCommands)
      .empty).tables.workspace.owners.has "owner" = true := by
    decide +kernel
  obtain ⟨⟨result, db'⟩, transacted, keys⟩ := Option.map_eq_some_iff.mp deletes
  have deleted := Tx.ok_of_toOption transacted
  exact ⟨result, db', deleted, keys, (owner_deletion_exact .plain sampleFaceRules
    (numberedStore photographedCommands) secondEnv "owner" result db' stored deleted).1⟩

section Companion

variable {t : Tables} {ownerId companionId : String} {allowDefault : Bool}

/-- `delete_companion` lets the request pass. -/
def Workspace.AllowsDeletion (w : Workspace) (ownerId companionId : String)
    (allowDefault : Bool) : Prop :=
  w.hasOwnedCompanion ownerId companionId = true ∧
    ((w.owners.get? ownerId).any (fun row => row.defaultCompanionId = some companionId) = true →
      allowDefault = true)

theorem companionReceipt_rows (owned : t.workspace.hasOwnedCompanion ownerId companionId = true) :
    (companionReceipt ownerId companionId t).deletedRows =
      [("companions", lostRows t.workspace.companions
         (t.withoutRowsOfCompanion companionId).workspace.companions),
       ("persona_genomes", lostRows t.workspace.personaGenomes
         (t.withoutRowsOfCompanion companionId).workspace.personaGenomes),
       ("companion_face_assets", lostRows t.faces.companionFaceAssets
         (t.withoutRowsOfCompanion companionId).faces.companionFaceAssets),
       ("guard_bindings", lostRows t.workspace.guardBindings
         (t.withoutRowsOfCompanion companionId).workspace.guardBindings)] := by
  have companions : lostRows t.workspace.companions
      (t.withoutRowsOfCompanion companionId).workspace.companions = .int 1 :=
    lostRows_delete (has_of_any owned)
  rw [companions]
  simp [companionReceipt, Tables.withoutRowsOfCompanion, Workspace.withoutRowsOfCompanion,
    lostRows_retain]

theorem CompanionRemoved.deleted {env : Env} {t' : Tables} {result : CompanionDeletionResult}
    (removed : CompanionRemoved env t t' ownerId companionId allowDefault result) :
    CompanionDeleted env t t' ownerId companionId result := by
  obtain ⟨rfl, rfl, owned, -⟩ := removed
  exact
    { named := ⟨rfl, rfl⟩
      tables := rfl
      objects := by
        have keys := companionReceipt_keys t ownerId companionId
        rw [Conserves, List.append_nil] at keys
        exact keys
      rows := companionReceipt_rows owned }

theorem deleteCompanion_runs (env : Env)
    (allows : t.workspace.AllowsDeletion ownerId companionId allowDefault) :
    (deleteCompanion env ownerId companionId allowDefault).Raises t (fun _ => False) := by
  obtain ⟨owned, allowed⟩ := allows
  obtain ⟨companion, found, own⟩ := (Option.any_eq_true _ _).mp owned
  have named : (t.workspace.companions.get? companionId).filter (fun row => row.ownerId = ownerId) =
      some companion := by
    rw [found, Option.filter_some, if_pos own]
  simp only [deleteCompanion, getCompanion, getOwner, Tx.raises_bind, Tx.raises_read,
    Tx.ensures_read, Tx.raises_require, Tx.ensures_require, Tx.raises_refuseIf,
    Tx.ensures_refuseIf, true_and, named, reduceCtorEq, IsEmpty.forall_iff]
  rintro _ -
  refine ⟨?_, ?_⟩
  · rintro ⟨isDefault, unallowed⟩
    rw [allowed isDefault] at unallowed
    cases unallowed
  · intro _
    refine ⟨?_, ?_⟩
    · unfold breakCompanionPointers
      split
      · split
        · simp [updateOwnerRow, updateCompanionRow]
        · simp [updateCompanionRow]
      · simp [updateCompanionRow]
    · refine (Tx.ensures_true _ _).mono ?_
      intro _ t₁ _
      simp [addFact]

theorem run_deleteCompanion_gone (env : Env) (ownerId : String) (allowDefault : Bool)
    (gone : t.workspace.companions.get? companionId = none) :
    (deleteCompanion env ownerId companionId allowDefault).run t =
      .error (.companionDeletionError "companion not found for owner") := by
  simp only [deleteCompanion, getCompanion, Tx.run_read_bind, gone, Option.filter_none,
    Tx.run_require_none]

end Companion

/-- The deletion of a Companion commits exactly when it is let pass and its
event is new; it takes exactly the rows of the Companion and the pointer of its
Owner, and its receipt lists what went. -/
theorem companion_deletion_exact (sdk : Sdk) (rules : FaceProfileRules) (calls : List StoreCall)
    (env : Env) (ownerId companionId : String) (allowDefault : Bool) :
    let db := replayStore sdk rules calls .empty
    ((∃ result db', db.transact (deleteCompanion env ownerId companionId allowDefault) =
        .ok (result, db')) ↔
      db.tables.workspace.AllowsDeletion ownerId companionId allowDefault ∧
        ¬ db.tables.HasEvent ("audit-" ++ (env.uuid 0).hex)) ∧
      ∀ result db', db.transact (deleteCompanion env ownerId companionId allowDefault) =
          .ok (result, db') →
        CompanionDeleted env db.tables db'.tables ownerId companionId result ∧
          ∀ env' allowDefault', db'.transact (deleteCompanion env' ownerId companionId
            allowDefault') = .error (.companionDeletionError "companion not found for owner") := by
  intro db
  have sound : StoreSound sdk db.tables := replayStore_sound calls
  have separate := sound.separate
  have kept : (db.tables.withoutRowsOfCompanion companionId).Integrity :=
    db.property.withoutRowsOfCompanion separate
  have removes := deleteCompanion_removes env db.property separate ownerId companionId allowDefault
  refine ⟨⟨?_, ?_⟩, ?_⟩
  · rintro ⟨result, db', deleted⟩
    have removed := removes result db'.tables (Database.transact_ok_iff.mp deleted)
    refine ⟨⟨removed.owned, removed.allowed⟩, ?_⟩
    have accepted : db'.tables.Integrity := db'.property
    rw [removed.tables] at accepted
    exact (kept.addFact_iff _ _).mp accepted
  · rintro ⟨allows, newEvent⟩
    cases ran : (deleteCompanion env ownerId companionId allowDefault).run db.tables with
    | error error => exact (deleteCompanion_runs env allows error ran).elim
    | ok finished =>
        obtain ⟨result, t'⟩ := finished
        have removed := removes result t' ran
        have accepted : t'.Integrity := by
          rw [removed.tables]
          exact (kept.addFact_iff _ _).mpr newEvent
        exact ⟨result, ⟨t', accepted⟩, Database.transact_ok_iff.mpr ran⟩
  · intro result db' deleted
    have removed := removes result db'.tables (Database.transact_ok_iff.mp deleted)
    refine ⟨removed.deleted, ?_⟩
    intro env' allowDefault'
    apply Database.transact_of_error
    apply run_deleteCompanion_gone
    rw [removed.tables]
    show (db.tables.workspace.companions.retain _).get? companionId = none
    rw [Table.get?_retain, Option.filter_eq_none_iff]
    intro companion found other
    exact of_decide_eq_true other (Table.key_of_get? found)

theorem companion_deletion_exact_photographed :
    ∃ result db', (replayStore .plain sampleFaceRules (numberedStore photographedCommands)
        .empty).transact (deleteCompanion secondEnv "owner" "c_owner" true) = .ok (result, db') ∧
      result.faceAssetStorageKeys = ["face.jpg"] ∧
      CompanionDeleted secondEnv (replayStore .plain sampleFaceRules
        (numberedStore photographedCommands) .empty).tables db'.tables "owner" "c_owner"
        result := by
  have deletes : ((replayStore .plain sampleFaceRules (numberedStore photographedCommands)
      .empty).transact (deleteCompanion secondEnv "owner" "c_owner" true)).toOption.map
        (fun deleted => deleted.1.faceAssetStorageKeys) = some ["face.jpg"] := by
    decide +kernel
  obtain ⟨⟨result, db'⟩, transacted, keys⟩ := Option.map_eq_some_iff.mp deletes
  have deleted := Tx.ok_of_toOption transacted
  exact ⟨result, db', deleted, keys, ((companion_deletion_exact .plain sampleFaceRules
    (numberedStore photographedCommands) secondEnv "owner" "c_owner" true).2 result db'
      deleted).1⟩

end EidolonData
