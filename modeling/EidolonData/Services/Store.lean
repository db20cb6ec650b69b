import EidolonData.Commands
import EidolonData.Library.Ledger
import EidolonData.Services.CompanionFaces

/-!
# The store and its objects

The commands of the services together with those of the face repositories,
and their runs.  The rows name objects that lie outside the database; a call
brings keys in, and hands the keys of removed rows to whoever clears the
objects away.
-/

namespace EidolonData

open Relational

/-- A command of a service or of a repository of faces. -/
inductive StoreCommand where
  | service (command : Command)
  | faceProfile (command : FaceProfileCommand)
  | setFace (companionId condStorageKey condContentType : String) (condSizeBytes : Int)
      (condSha256 : String)
  | setIdleClip (faceAssetId storageKey : String) (sizeBytes : Int) (sha256 : String)
  | clearFace (companionId : String)

structure StoreCall where
  env : Env
  command : StoreCommand

def StoreCall.session (sdk : Sdk) (rules : FaceProfileRules) (call : StoreCall) : Session Unit :=
  match call.command with
  | .service command => command.session sdk call.env
  | .faceProfile command => FaceProfileCall.session rules ⟨call.env, command⟩
  | .setFace companionId condStorageKey condContentType condSizeBytes condSha256 =>
      effect (setFace call.env companionId condStorageKey condContentType condSizeBytes condSha256)
  | .setIdleClip faceAssetId storageKey sizeBytes sha256 =>
      effect (setIdleClip call.env faceAssetId storageKey sizeBytes sha256)
  | .clearFace companionId => effect (clearFace call.env companionId)

def StoreCall.step (sdk : Sdk) (rules : FaceProfileRules) (db : Database) (call : StoreCall) :
    Database :=
  db.after (call.session sdk rules)

/-- The state a run of the store leads to. -/
def replayStore (sdk : Sdk) (rules : FaceProfileRules) (calls : List StoreCall) (db : Database) :
    Database :=
  calls.foldl (StoreCall.step sdk rules) db

@[simp] theorem replayStore_nil (sdk : Sdk) (rules : FaceProfileRules) (db : Database) :
    replayStore sdk rules [] db = db := rfl

@[simp] theorem replayStore_cons (sdk : Sdk) (rules : FaceProfileRules) (call : StoreCall)
    (calls : List StoreCall) (db : Database) :
    replayStore sdk rules (call :: calls) db =
      replayStore sdk rules calls (call.step sdk rules db) := rfl

/-- Store commands in order, each with uuids of its own. -/
def numberedStore (commands : List StoreCommand) : List StoreCall :=
  commands.zipIdx.map (fun (command, number) =>
    { env := { uuid := fun site => .ofNat (16 * number + site), now := number }
      command := command })

/-- The keys the rows of the faces name. -/
def Faces.objectKeys (f : Faces) : List String :=
  f.companionFaceAssets.rows.flatMap (fun row => row.storageKeys) ++
    f.ownerFaceReferences.rows.map (fun row => row.storageKey)

/-- The keys the rows of the database name. -/
def Tables.objectKeys (t : Tables) : List String :=
  t.faces.objectKeys ++ t.people.personFaces.rows.filterMap (fun row => row.storageKey)

/-- The key of a Person's photo. -/
def Tables.photoKeys (t : Tables) (personId : String) : List String :=
  ((t.people.personFaces.get? personId).bind (fun row => row.storageKey)).toList

/-- What a call does with the keys of objects: those it brings in, those it
clears away or reports, and those it overwrites without a word. -/
structure KeyReceipt where
  stored : List String := []
  released : List String := []
  dropped : List String := []
  deriving DecidableEq, Repr

/-- The receipt of a program that commits. -/
def Database.settled {α : Type} (db : Database) (program : Session α)
    (receipt : α → KeyReceipt) : KeyReceipt :=
  match db.transact program with
  | .ok (value, _) => receipt value
  | .error _ => {}

def Command.keyReceipt (sdk : Sdk) (env : Env) (db : Database) : Command → KeyReceipt
  | deleteOwner ownerId =>
      db.settled (EidolonData.deleteOwner env ownerId) (fun result =>
        { released := result.objectStorageKeys })
  | deleteCompanion ownerId companionId allowDefault =>
      db.settled (EidolonData.deleteCompanion env ownerId companionId allowDefault) (fun result =>
        { released := result.faceAssetStorageKeys })
  | archivePerson ownerId personId expectedRevision =>
      db.settled (EidolonData.archivePerson sdk env ownerId personId expectedRevision) (fun _ =>
        { released := db.tables.photoKeys personId })
  | replaceFace ownerId personId expectedRevision imageBase64 =>
      db.settled (EidolonData.replaceFace sdk env ownerId personId expectedRevision imageBase64)
        (fun row =>
          { stored := row.storageKey.toList
            released := db.tables.photoKeys personId })
  | deleteFace ownerId personId expectedRevision =>
      db.settled (EidolonData.deleteFace sdk env ownerId personId expectedRevision) (fun _ =>
        { released := db.tables.photoKeys personId })
  | _ => {}

/-- The keys of the references a cleaner asked to have removed, which it
listed before. -/
def Faces.supersededKeys (f : Faces) (ownerId : String) (referenceIds : List String) :
    List String :=
  (f.ownerFaceReferences.select (f.isSupersededReference ownerId referenceIds)).map
    (fun row => row.storageKey)

def FaceProfileCommand.keyReceipt (rules : FaceProfileRules) (env : Env) (db : Database) :
    FaceProfileCommand → KeyReceipt
  | addReference profileRevisionId pose contentType sizeBytes sha256 storageKey =>
      db.settled (EidolonData.addReference rules env profileRevisionId pose contentType sizeBytes
        sha256 storageKey) (fun row => { stored := [row.storageKey] })
  | deleteSupersededReferences ownerId referenceIds =>
      db.settled (EidolonData.deleteSupersededReferences ownerId referenceIds) (fun _ =>
        { released := db.tables.faces.supersededKeys ownerId referenceIds })
  | _ => {}

/-- The clip that `set_idle_clip` overwrites. -/
def Faces.idleKeys (f : Faces) (faceAssetId : String) : List String :=
  ((f.companionFaceAssets.get? faceAssetId).bind (fun row => row.idleStorageKey)).toList.filter
    (· ≠ "")

def StoreCall.keyReceipt (sdk : Sdk) (rules : FaceProfileRules) (db : Database)
    (call : StoreCall) : KeyReceipt :=
  match call.command with
  | .service command => command.keyReceipt sdk call.env db
  | .faceProfile command => command.keyReceipt rules call.env db
  | .setFace companionId condStorageKey condContentType condSizeBytes condSha256 =>
      db.settled (setFace call.env companionId condStorageKey condContentType condSizeBytes
        condSha256) (fun row => { stored := [row.condStorageKey] })
  | .setIdleClip faceAssetId storageKey sizeBytes sha256 =>
      db.settled (setIdleClip call.env faceAssetId storageKey sizeBytes sha256) (fun row =>
        { stored := row.idleStorageKey.toList
          dropped := db.tables.faces.idleKeys faceAssetId })
  | .clearFace _ => {}

section Runs

variable (sdk : Sdk) (rules : FaceProfileRules) (calls : List StoreCall) (db : Database)

/-- The keys a run brings in. -/
def keysStored : List String :=
  along (StoreCall.step sdk rules) (fun db call => (call.keyReceipt sdk rules db).stored) calls db

/-- The keys a run clears away or reports. -/
def keysReleased : List String :=
  along (StoreCall.step sdk rules) (fun db call => (call.keyReceipt sdk rules db).released) calls
    db

/-- The keys a run overwrites. -/
def keysDropped : List String :=
  along (StoreCall.step sdk rules) (fun db call => (call.keyReceipt sdk rules db).dropped) calls db

end Runs

end EidolonData
