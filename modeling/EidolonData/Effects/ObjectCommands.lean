import EidolonData.Effects.FaceObjects
import EidolonData.Effects.PeopleRuns
import EidolonData.Invariants.Store

/-!
# The objects of the commands

Every command keeps its account of the keys, so every step of the store does.
-/

namespace EidolonData

open Relational

instance : Tables.HidesPeople Tables.faces where
  people _ _ := rfl
  workspace _ _ _ := rfl
  fact _ _ _ := rfl

section Photos

variable {t : Tables} (sdk : Sdk) (env : Env)

theorem Tables.accounts_photos {t' : Tables} {receipt : KeyReceipt}
    (faces : t'.faces = t.faces)
    (account : Conserves
      (t.people.personFaces.rows.flatMap (fun row => row.storageKey.toList))
      (t'.people.personFaces.rows.flatMap (fun row => row.storageKey.toList))
      receipt.stored (receipt.released ++ receipt.dropped)) : t.Accounts t' receipt := by
  rw [Tables.Accounts, Tables.objectKeys_eq, Tables.objectKeys_eq, faces]
  have first : Conserves (t.faces.companionFaceAssets.rows.flatMap (fun row => row.storageKeys) ++
      t.faces.ownerFaceReferences.rows.flatMap (fun row => [row.storageKey])) _ [] [] := .refl _
  exact first.append account

theorem photoKeys_eq (personId : String) :
    (t.people.personFaces.get? personId).toList.flatMap (fun row => row.storageKey.toList) =
      t.photoKeys personId := by
  unfold Tables.photoKeys
  cases t.people.personFaces.get? personId with
  | none => rfl
  | some row => exact List.append_nil _

theorem archivePerson_accounts (ownerId personId : String) (expectedRevision : Int) :
    (archivePerson sdk env ownerId personId expectedRevision).Ensures t (fun _ t' =>
      t.Accounts t' { released := t.photoKeys personId }) := by
  have faces : (archivePerson sdk env ownerId personId expectedRevision).Spares Tables.faces :=
    archivePerson_spares sdk env ownerId personId expectedRevision
  refine ((faces.ensures t).and
    (archivePerson_erases sdk env ownerId personId expectedRevision)).mono ?_
  rintro _ t' ⟨same, erased⟩
  have photos : t'.people.personFaces =
      t.people.personFaces.retain (fun row => row.personId ≠ personId) :=
    congrArg Voices.faces erased
  refine Tables.accounts_photos same ?_
  rw [photos, List.append_nil, ← photoKeys_eq]
  exact Table.conserves_delete t.people.personFaces personId _

theorem People.cascade_photos {p : People} {w w₀ : Workspace} {personId : String}
    (integrity : p.Integrity w₀)
    (housed : ∀ ownerId, w₀.owners.has ownerId = true → w.owners.has ownerId = true)
    (bare : ∀ other row, p.personFaces.get? other = some row → row.personId ≠ personId) :
    (People.cascade w { p with
      persons := p.persons.retain (fun person => person.personId ≠ personId) }).personFaces =
        p.personFaces := by
  refine Table.retain_eq_self ?_
  intro face member
  obtain ⟨person, named, own⟩ := (Option.any_eq_true _ _).mp (integrity.faceOf face member)
  have keyed : person.personId = face.personId := Table.key_of_get? named
  have other : person.personId ≠ personId := by
    rw [keyed]
    exact bare face.personId face ((Table.mem_rows_iff _ face).mp member)
  have known := (Bool.and_eq_true_iff.mp
    (integrity.personOwner person (Table.mem_of_get? named))).1
  show (((p.persons.retain _).retain _).get? face.personId).any _ = true
  rw [Table.get?_retain, Table.get?_retain, named, Option.filter_some,
    if_pos (decide_eq_true other), Option.filter_some, if_pos (housed _ known)]
  exact own

theorem permanentlyDelete_photos (integrity : t.Integrity) (sound : t.PeopleSound sdk)
    (ownerId personId : String) (expectedRevision : Int) (complete : Bool) :
    (permanentlyDelete env ownerId personId expectedRevision complete).Ensures t (fun _ t' =>
      t'.people.personFaces = t.people.personFaces) := by
  simp only [permanentlyDelete, getPersonDeletion, getPerson, Tx.ensures_bind, Tx.ensures_read]
  refine (requireActiveOwner_effect t ownerId).mono ?_
  rintro owner t₁ ⟨unchanged, -⟩
  rw [unchanged]
  cases stored : t.people.personDeletions.get? personId with
  | none =>
      simp only [Tx.ensures_bind, Tx.ensures_refuseIf]
      intro _
      refine ((requestDeletion_voices env ownerId personId expectedRevision).ensures t).mono ?_
      intro _ t' same
      exact congrArg Voices.faces same
  | some receipt =>
      simp only [Tx.ensures_bind, Tx.ensures_read, Tx.ensures_refuseIf, Tx.ensures_ite, Tx.pure_eq,
        Tx.ensures_done, Tx.ensures_require]
      intro _ _
      refine ⟨fun _ => trivial, fun _ => ⟨?_, fun _ => trivial⟩⟩
      intro _ row found
      simp only [completeDeletion, Tx.ensures_bind, ensures_auditPerson, Tx.ensures_modify,
        Tx.pure_eq, Tx.ensures_done]
      have archived : row.deleted = true := by
        obtain ⟨realm, held, -⟩ := (sound.filed personId).of_person found
        have receipts : (t.file personId).receipt = some receipt := stored
        exact ((sound.marked personId row realm _ held).received (receipts ▸ rfl)).1
      have bare := sound.erased personId row found archived
      exact People.cascade_photos integrity.people (fun _ housed => housed) bare.faces

theorem permanentlyDelete_accounts (integrity : t.Integrity) (sound : t.PeopleSound sdk)
    (ownerId personId : String) (expectedRevision : Int) (complete : Bool) :
    (permanentlyDelete env ownerId personId expectedRevision complete).Ensures t (fun _ t' =>
      t.Accounts t' {}) := by
  have faces : (permanentlyDelete env ownerId personId expectedRevision complete).Spares
      Tables.faces :=
    permanentlyDelete_spares env ownerId personId expectedRevision complete
  refine ((faces.ensures t).and (permanentlyDelete_photos sdk env integrity sound ownerId personId
    expectedRevision complete)).mono ?_
  rintro _ t' ⟨sameFaces, samePhotos⟩
  exact Tables.accounts_of_objects (Prod.ext sameFaces samePhotos)

/-- A change of a photo stores the row it returns. -/
structure SlotChanged (t t' : Tables) (personId : String) (data : Option (List UInt8))
    (row : PersonFaceRow) : Prop where
  person : row.personId = personId
  storageKey : row.storageKey =
    data.map (fun _ => "person-faces/" ++ (env.uuid 1).hex ++ ".jpg")
  sha256 : row.sha256 = data.map sdk.sha256
  stores : Table.Stores t.people.personFaces t'.people.personFaces row
  faces : t'.faces = t.faces

theorem changeFace_changes (ownerId personId : String) (expectedRevision : Int)
    (data : Option (List UInt8)) :
    (changeFace sdk env ownerId personId expectedRevision data).Ensures t (fun row t' =>
      SlotChanged sdk env t t' personId data row) := by
  simp only [changeFace, requirePerson, getPerson, getFace, storeFace, Tx.ensures_bind,
    Tx.ensures_require, Tx.ensures_refuseIf, Tx.ensures_read, Tx.ensures_modify,
    ensures_auditPerson, Tx.pure_eq, Tx.ensures_done]
  refine (requireActiveOwner_effect t ownerId).mono ?_
  rintro owner t₁ ⟨unchanged, -⟩ person _ _ _
  rw [unchanged]
  let row : PersonFaceRow := (t.people.personFaces.get? personId).getD
    { personId := personId, ownerId := ownerId, revision := 0 }
  let changed : PersonFaceRow :=
    { row with
      storageKey := data.map (fun _ => "person-faces/" ++ (env.uuid 1).hex ++ ".jpg")
      sha256 := data.map sdk.sha256
      revision := row.revision + 1 }
  have keyed : changed.personId = personId := by
    show row.personId = personId
    cases found : t.people.personFaces.get? personId with
    | none => simp only [row, found, Option.getD_none]
    | some face =>
        have named : face.personId = personId := Table.key_of_get? found
        simpa only [row, found, Option.getD_some] using named
  have stores := stores_face t.people.personFaces changed (by
    intro face found
    rw [keyed] at found
    simp only [changed, row, found, Option.getD_some])
  exact
    { person := keyed
      storageKey := rfl
      sha256 := rfl
      stores := stores
      faces := rfl }

theorem SlotChanged.accounts {t' : Tables} {personId : String} {data : Option (List UInt8)}
    {row : PersonFaceRow} (changed : SlotChanged sdk env t t' personId data row) :
    t.Accounts t' { stored := row.storageKey.toList, released := t.photoKeys personId } := by
  have account := changed.stores.conserves (fun row => row.storageKey.toList)
  have given : (t.people.personFaces.get? (key row)).toList.flatMap
      (fun row => row.storageKey.toList) = t.photoKeys personId := by
    show (t.people.personFaces.get? row.personId).toList.flatMap _ = _
    rw [changed.person]
    exact photoKeys_eq personId
  rw [given] at account
  exact Tables.accounts_photos changed.faces
    (account.reorder (.refl _) (.of_eq (List.append_nil _).symm))

theorem replaceFace_changes (ownerId personId : String) (expectedRevision : Int)
    (imageBase64 : String) :
    (replaceFace sdk env ownerId personId expectedRevision imageBase64).Ensures t (fun row t' =>
      ∃ data, sdk.normalizeImage imageBase64 = .ok data ∧
        SlotChanged sdk env t t' personId (some data) row) := by
  simp only [replaceFace, requirePerson, getPerson, Tx.ensures_bind, Tx.ensures_read,
    Tx.ensures_require, Tx.ensures_lift]
  refine (requireActiveOwner_effect t ownerId).mono ?_
  rintro owner t₁ ⟨unchanged, -⟩ _ _ data normalized
  rw [unchanged]
  refine (changeFace_changes sdk env ownerId personId expectedRevision (some data)).mono ?_
  intro row t' changed
  exact ⟨data, normalized, changed⟩

theorem replaceFace_accounts (ownerId personId : String) (expectedRevision : Int)
    (imageBase64 : String) :
    (replaceFace sdk env ownerId personId expectedRevision imageBase64).Ensures t (fun row t' =>
      t.Accounts t' { stored := row.storageKey.toList, released := t.photoKeys personId }) := by
  refine (replaceFace_changes sdk env ownerId personId expectedRevision imageBase64).mono ?_
  rintro row t' ⟨data, -, changed⟩
  exact changed.accounts

theorem deleteFace_accounts (ownerId personId : String) (expectedRevision : Int) :
    (deleteFace sdk env ownerId personId expectedRevision).Ensures t (fun _ t' =>
      t.Accounts t' { released := t.photoKeys personId }) := by
  refine (changeFace_changes sdk env ownerId personId expectedRevision none).mono ?_
  intro row t' changed
  have account := changed.accounts
  rw [changed.storageKey] at account
  exact account

end Photos

section Commands

variable {sdk : Sdk} {rules : FaceProfileRules} (env : Env)

theorem Command.spares_objects (command : Command) (other : command.handlesObjects = false) :
    (command.session sdk env).Spares Tables.objects := by
  have confined := command.session_confined sdk env
  cases written : command.aggregate with
  | workspace => exact command.spares_workspace sdk env written
  | people => exact command.spares_voices sdk env written other
  | teams =>
      rw [written] at confined
      exact spares_view confined Tables.objects
  | home =>
      rw [written] at confined
      exact spares_view confined Tables.objects
  | several =>
      rcases Command.of_several written with ⟨ownerId, rfl⟩ | ⟨ownerId, rfl⟩ | ⟨request, rfl⟩ |
        ⟨ownerId, companionId, allowDefault, rfl⟩
      · exact spares_effect (archiveOwner_outside env (fun _ _ => rfl) (fun _ _ _ => rfl) ownerId)
      · cases other
      · exact spares_effect (initializeOwnerWorkspace_spares sdk env (fun _ => rfl) request)
      · cases other

theorem Command.keyReceipt_of_others (command : Command) (db : Database)
    (other : command.handlesObjects = false) : command.keyReceipt sdk env db = {} := by
  cases command with
  | deleteOwner | deleteCompanion | archivePerson | permanentlyDelete | replaceFace
  | deleteFace => cases other
  | _ => rfl

theorem Database.accounts_after {α : Type} (db : Database) {program : Session α}
    {receipt : α → KeyReceipt}
    (accounts : program.Ensures db.tables (fun value t' =>
      db.tables.Accounts t' (receipt value))) :
    db.tables.Accounts (db.after (effect program)).tables (db.settled program receipt) := by
  rw [Database.after_effect]
  unfold Database.after Database.settled
  cases transacted : db.transact program with
  | error error => exact .refl db.tables.objectKeys
  | ok finished =>
      obtain ⟨value, db'⟩ := finished
      exact accounts value db'.tables (Database.transact_ok_iff.mp transacted)

theorem Database.accounts_nothing {α : Type} (db : Database) {program : Session α}
    (accounts : program.Ensures db.tables (fun _ t' => db.tables.Accounts t' {})) :
    db.tables.Accounts (db.after (effect program)).tables {} := by
  rw [Database.after_effect]
  refine Database.after_induct (motive := fun db' => db.tables.Accounts db'.tables {})
    (.refl _) ?_
  intro value db' ran
  exact accounts value db'.tables ran

theorem Command.accounts (command : Command) (db : Database) (sound : StoreSound sdk db.tables) :
    db.tables.Accounts (db.after (command.session sdk env)).tables
      (command.keyReceipt sdk env db) := by
  have integrity : db.tables.Integrity := db.property
  cases other : command.handlesObjects with
  | false =>
      rw [command.keyReceipt_of_others env db other]
      refine Database.after_induct (motive := fun db' => db.tables.Accounts db'.tables {})
        (.refl _) ?_
      intro value db' ran
      exact Tables.accounts_of_objects
        ((command.spares_objects env other).ensures db.tables value _ ran)
  | true =>
      cases command with
      | deleteOwner ownerId =>
          exact db.accounts_after (deleteOwner_accounts env integrity sound.separate ownerId)
      | deleteCompanion ownerId companionId allowDefault =>
          exact db.accounts_after (deleteCompanion_accounts env integrity sound.separate ownerId
            companionId allowDefault)
      | archivePerson ownerId personId expectedRevision =>
          exact db.accounts_after (archivePerson_accounts sdk env ownerId personId
            expectedRevision)
      | permanentlyDelete ownerId personId expectedRevision complete =>
          exact db.accounts_nothing (permanentlyDelete_accounts sdk env integrity sound.people
            ownerId personId expectedRevision complete)
      | replaceFace ownerId personId expectedRevision imageBase64 =>
          exact db.accounts_after (replaceFace_accounts sdk env ownerId personId
            expectedRevision imageBase64)
      | deleteFace ownerId personId expectedRevision =>
          exact db.accounts_after (deleteFace_accounts sdk env ownerId personId expectedRevision)
      | _ => cases other

theorem FaceProfileCommand.accounts (command : FaceProfileCommand) (db : Database) :
    db.tables.Accounts (db.after (FaceProfileCall.session rules ⟨env, command⟩)).tables
      (command.keyReceipt rules env db) := by
  cases command with
  | createDraft ownerId modelId preprocessingVersion =>
      exact db.accounts_nothing (createDraft_accounts env ownerId modelId preprocessingVersion)
  | addReference profileRevisionId pose contentType sizeBytes sha256 storageKey =>
      exact db.accounts_after (addReference_accounts rules env profileRevisionId pose contentType
        sizeBytes sha256 storageKey)
  | activate profileRevisionId =>
      exact db.accounts_nothing (activateProfile_accounts rules env profileRevisionId)
  | clear ownerId => exact db.accounts_nothing (clearProfile_accounts env ownerId)
  | deleteSupersededReferences ownerId referenceIds =>
      exact db.accounts_after (deleteSupersededReferences_accounts ownerId referenceIds)

theorem StoreCall.accounts (call : StoreCall) (db : Database) (sound : StoreSound sdk db.tables) :
    db.tables.Accounts (call.step sdk rules db).tables (call.keyReceipt sdk rules db) := by
  obtain ⟨env, command⟩ := call
  cases command with
  | service command => exact command.accounts env db sound
  | faceProfile command => exact command.accounts env db
  | setFace companionId condStorageKey condContentType condSizeBytes condSha256 =>
      exact db.accounts_after (setFace_accounts env companionId condStorageKey condContentType
        condSizeBytes condSha256)
  | setIdleClip faceAssetId storageKey sizeBytes sha256 =>
      exact db.accounts_after (setIdleClip_accounts env faceAssetId storageKey sizeBytes sha256)
  | clearFace companionId => exact db.accounts_nothing (clearFace_accounts env companionId)

end Commands

end EidolonData
