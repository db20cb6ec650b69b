import EidolonData.Commands
import EidolonData.Library.Ledger
import EidolonData.Services.ObjectStorage

/-!
# Photos and their objects

`PersonFaces` and `Persons.archive` write the rows and the object store in one
request, without a transaction over both.  A put, a delete or a commit may
fail, and the request goes on as the source says.
-/

namespace EidolonData

open Relational Files

/-- How a put comes to fail: before it writes, or after it has moved the new
object into place. -/
inductive PutFault where
  | none
  | before
  | after
  deriving DecidableEq

/-- What fails in a request. -/
structure PhotoFaults where
  put : PutFault := .none
  delete : Bool := false
  commit : Bool := false
  deriving DecidableEq

/-- The rows and the files of the objects. -/
structure PhotoWorld where
  db : Database
  files : ObjectFiles

/-- Nothing is stored. -/
def PhotoWorld.empty : PhotoWorld := { db := .empty, files := .empty }

structure PhotoCall where
  env : Env
  faults : PhotoFaults := {}
  command : Command

namespace PhotoCall

section Requests

variable (storage : LocalObjectStorage) (sdk : Sdk) (call : PhotoCall)

/-- `put` under a fault: whether it returns, and the files it leaves. -/
def put (files : ObjectFiles) (storageKey : String) (data : List UInt8) : Bool × ObjectFiles :=
  let outcome := storage.put sdk.sha256 (call.env.uuid 2) files storageKey data .none
  match call.faults.put with
  | .none => (outcome.1.isOk, outcome.2)
  | .before => (false, files)
  | .after => (false, outcome.2)

/-- `delete` under a fault. -/
def delete (files : ObjectFiles) (storageKey : String) : Bool × ObjectFiles :=
  if call.faults.delete then (false, files)
  else
    let outcome := storage.delete files storageKey
    (outcome.1.isOk, outcome.2)

/-- `if key: storage.delete(key)` -/
def deleteKey (files : ObjectFiles) (storageKey : Option String) : Bool × ObjectFiles :=
  match storageKey.filter (· ≠ "") with
  | some storageKey => call.delete storage files storageKey
  | .none => (true, files)

/-- The commit under a fault. -/
def commit (t : Tables) : Option Database :=
  if call.faults.commit then .none
  else if accepted : t.Integrity then some ⟨t, accepted⟩
  else .none

/-- The key a Person's row names. -/
def oldKey (world : PhotoWorld) (personId : String) : Option String :=
  (world.db.tables.people.personFaces.get? personId).bind (fun row => row.storageKey)

/-- The end of `PersonFaces._change`: the new object goes when the change
fails, the old one when it is committed. -/
def settle (world : PhotoWorld) (personId : String) (newKey : Option String) (t : Tables)
    (written : Bool × ObjectFiles) : PhotoWorld :=
  let committed := if written.1 then call.commit t else .none
  match committed with
  | some db =>
      { db := db
        files := (call.deleteKey storage written.2 (oldKey world personId)).2 }
  | .none => { world with files := (call.deleteKey storage written.2 newKey).2 }

/-- `PersonFaces.replace`. -/
def replaceFace (world : PhotoWorld) (ownerId personId : String) (expectedRevision : Int)
    (imageBase64 : String) : PhotoWorld :=
  match (EidolonData.replaceFace sdk call.env ownerId personId expectedRevision imageBase64).run
      world.db.tables, sdk.normalizeImage imageBase64 with
  | .ok (row, t), .ok data =>
      let storageKey := row.storageKey.getD ""
      call.settle storage world personId row.storageKey t
        (call.put storage sdk world.files storageKey data)
  | _, _ => world

/-- `PersonFaces.delete`. -/
def deleteFace (world : PhotoWorld) (ownerId personId : String) (expectedRevision : Int) :
    PhotoWorld :=
  match (EidolonData.deleteFace sdk call.env ownerId personId expectedRevision).run
      world.db.tables with
  | .ok (_, t) => call.settle storage world personId .none t (true, world.files)
  | .error _ => world

/-- `Persons.archive` deletes the object before it commits. -/
def archivePerson (world : PhotoWorld) (ownerId personId : String) (expectedRevision : Int) :
    PhotoWorld :=
  match (EidolonData.archivePerson sdk call.env ownerId personId expectedRevision).run
      world.db.tables with
  | .ok (_, t) =>
      let deleted := call.deleteKey storage world.files (oldKey world personId)
      match if deleted.1 then call.commit t else .none with
      | some db => { db := db, files := deleted.2 }
      | .none => { world with files := deleted.2 }
  | .error _ => world

end Requests

def step (storage : LocalObjectStorage) (sdk : Sdk) (world : PhotoWorld) (call : PhotoCall) :
    PhotoWorld :=
  match call.command with
  | .replaceFace ownerId personId expectedRevision imageBase64 =>
      call.replaceFace storage sdk world ownerId personId expectedRevision imageBase64
  | .deleteFace ownerId personId expectedRevision =>
      call.deleteFace storage sdk world ownerId personId expectedRevision
  | .archivePerson ownerId personId expectedRevision =>
      call.archivePerson storage sdk world ownerId personId expectedRevision
  | command =>
      { world with
        db := if call.faults.commit then world.db else Call.step sdk world.db ⟨call.env, command⟩ }

end PhotoCall

/-- The key whose object an archive has removed when its rows stay after all. -/
def PhotoCall.lostKeys (storage : LocalObjectStorage) (sdk : Sdk) (world : PhotoWorld)
    (call : PhotoCall) : List String :=
  match call.command with
  | .archivePerson ownerId personId expectedRevision =>
      match (EidolonData.archivePerson sdk call.env ownerId personId expectedRevision).run
          world.db.tables with
      | .ok (_, t) =>
          if (call.deleteKey storage world.files (PhotoCall.oldKey world personId)).1 ∧
              call.commit t = .none then
            (PhotoCall.oldKey world personId).toList
          else []
      | .error _ => []
  | _ => []

/-- The world a run leads to. -/
def replayPhotos (storage : LocalObjectStorage) (sdk : Sdk) (calls : List PhotoCall)
    (world : PhotoWorld) : PhotoWorld :=
  calls.foldl (PhotoCall.step storage sdk) world

/-- The keys a run has lost the objects of. -/
def photosLost (storage : LocalObjectStorage) (sdk : Sdk) (calls : List PhotoCall)
    (world : PhotoWorld) : List String :=
  along (PhotoCall.step storage sdk) (PhotoCall.lostKeys storage sdk) calls world

end EidolonData
