import EidolonData.Library.Files
import EidolonData.Services.OwnerFaceProfiles

/-!
# Local object storage

`LocalObjectStorage`: the files behind the storage keys that SQL keeps.
-/

namespace EidolonData

open Files

inductive StorageError where
  | valueError (message : String)
  | osError (fault : FileError)
  deriving DecidableEq

/-- The bytes of the stored objects. -/
abbrev ObjectFiles := FileSystem (List UInt8)

/-- The resolved root directory of a store. -/
structure LocalObjectStorage where
  root : Path
  resolved : ∀ name ∈ root, isName name = true ∧ name ≠ ['.', '.']

namespace LocalObjectStorage

/-- `__init__`, for an absolute path. -/
def ofPath (root : String) : LocalObjectStorage :=
  { root := walk [] (root.toList.splitOn '/')
    resolved := walk_isName [] _ (fun _ member => absurd member List.not_mem_nil) }

variable (storage : LocalObjectStorage)

/-- `_resolve`; the standard library refuses a null byte. -/
def resolve (storageKey : String) : Except StorageError Path :=
  if storageKey = "" ∨ storageKey.toList.head? = some '/' then
    .error (.valueError "storage key must be a safe relative path")
  else if '\x00' ∈ storageKey.toList then
    .error (.valueError "lstat: embedded null character in path")
  else
    let candidate := walk storage.root (storageKey.toList.splitOn '/')
    if candidate = storage.root ∨ storage.root ∉ parents candidate then
      .error (.valueError "storage key must stay inside the object store")
    else
      .ok candidate

/-- `target.with_name(f".{target.name}.{uuid4().hex}.tmp")` -/
def temporary (target : Path) (uuid : Uuid) : Path :=
  target.dropLast ++
    [['.'] ++ target.getLastD [] ++ ['.'] ++ uuid.hex.toList ++ ".tmp".toList]

/-- The end of a write: the temporary file goes, whatever came of it. -/
def cleanUp (temporary : Path) (outcome : Except StorageError Unit) (files : ObjectFiles) :
    Except StorageError Unit × ObjectFiles :=
  match files.discard temporary with
  | .error fault => (.error (.osError fault), files)
  | .ok cleaned => (outcome, cleaned)

/-- Write beside the target and move over it. -/
def writeAtomically (files : ObjectFiles) (target temporary : Path) (data : List UInt8) :
    Except StorageError Unit × ObjectFiles :=
  match files.create temporary data with
  | .error fault => cleanUp temporary (.error (.osError fault)) files
  | .ok written =>
      match written.replace temporary target with
      | .error fault => cleanUp temporary (.error (.osError fault)) written
      | .ok replaced => cleanUp temporary (.ok ()) replaced

def put (sha256 : List UInt8 → String) (uuid : Uuid) (files : ObjectFiles) (storageKey : String)
    (data : List UInt8) (expectedSha256 : Option String) :
    Except StorageError String × ObjectFiles :=
  if data = [] then
    (.error (.valueError "storage object must not be empty"), files)
  else
    let digest := sha256 data
    if expectedSha256.any (fun expected => digest ≠ expected) then
      (.error (.valueError "storage object sha256 does not match content"), files)
    else
      match storage.resolve storageKey with
      | .error refusal => (.error refusal, files)
      | .ok target =>
          match files.makeDirectories target.dropLast with
          | .error fault => (.error (.osError fault), files)
          | .ok made =>
              let written := writeAtomically made target (temporary target uuid) data
              (written.1.map (fun _ => digest), written.2)

def get (files : ObjectFiles) (storageKey : String) : Except StorageError (List UInt8) :=
  match storage.resolve storageKey with
  | .error refusal => .error refusal
  | .ok target => (files.read target).mapError StorageError.osError

def delete (files : ObjectFiles) (storageKey : String) : Except StorageError Unit × ObjectFiles :=
  match storage.resolve storageKey with
  | .error refusal => (.error refusal, files)
  | .ok target =>
      match files.discard target with
      | .error fault => (.error (.osError fault), files)
      | .ok cleaned => (.ok (), cleaned)

end LocalObjectStorage

end EidolonData
