import EidolonData.Library.Ordering
import EidolonData.Services.Session

/-!
# Owner face profiles

`OwnerFaceProfilesRepository`: the governance metadata of an Owner's face
profile.  Activation records what is desired; the devices are told elsewhere.
-/

namespace EidolonData

open Relational

/-- What the SDK publishes about a face profile: `OWNER_FACE_PROFILE_MIN_REFERENCES`,
`OWNER_FACE_PROFILE_MAX_REFERENCES` and `OWNER_FACE_PROFILE_REQUIRED_POSES`. -/
structure FaceProfileRules where
  minReferences : Nat
  maxReferences : Nat
  requiredPoses : List String

/-- `_POSES` -/
def poses : List String := ["front", "left", "right", "down", "up"]

/-- `_SHA256_RE`. -/
def matchesSha256 (text : String) : Bool :=
  text.toList.length = 64 && text.toList.all isLowerHex

/-- A storage key that stays inside the store. -/
def isSafeRelativePath (storageKey : String) : Bool :=
  storageKey ≠ "" && storageKey.toList.head? ≠ some '/' &&
    ['.', '.'] ∉ storageKey.toList.splitOn '/'

/-- `_validate_reference`. -/
def validateReference (pose contentType : String) (sizeBytes : Int) (sha256 storageKey : String) :
    Except Error Unit :=
  if pose ∉ poses then
    .error (.valueError ("unsupported owner face pose: " ++ pose))
  else if contentType ≠ "image/jpeg" then
    .error (.valueError "owner face reference must be image/jpeg")
  else if sizeBytes ≤ 0 then
    .error (.valueError "owner face reference size must be positive")
  else if matchesSha256 sha256 = false then
    .error (.valueError "owner face reference sha256 must be lowercase hexadecimal")
  else if isSafeRelativePath storageKey = false then
    .error (.valueError "owner face reference storage key must be a safe relative path")
  else
    .ok ()

def Tables.mapFaces (t : Tables) (change : Faces → Faces) : Tables :=
  { t with faces := change t.faces }

@[simp] theorem Tables.faces_mapFaces (t : Tables) (change : Faces → Faces) :
    (t.mapFaces change).faces = change t.faces := rfl

@[simp] theorem Tables.faces_addFact (t : Tables) (now : Timestamp) (fact : AuditFact) :
    (t.addFact now fact).faces = t.faces := rfl

@[simp] theorem Tables.workspace_mapFaces (t : Tables) (change : Faces → Faces) :
    (t.mapFaces change).workspace = t.workspace := rfl

/-- The revisions of an Owner's profile, the latest first. -/
def Faces.profileRevisionsOf (f : Faces) (ownerId : String) : List OwnerFaceProfileRevisionRow :=
  orderBy (fun row => -row.revision)
    (f.ownerFaceProfileRevisions.select (fun row => row.ownerId = ownerId))

/-- The row after `UPDATE ... SET state = 'superseded'` of an Owner's rows in
some states. -/
def OwnerFaceProfileRevisionRow.supersede (ownerId : String) (states : List FaceProfileState)
    (row : OwnerFaceProfileRevisionRow) : OwnerFaceProfileRevisionRow :=
  { row with
    state := if row.ownerId = ownerId ∧ row.state ∈ states then .superseded else row.state }

def Faces.supersede (f : Faces) (ownerId : String) (states : List FaceProfileState) : Faces :=
  { f with
    ownerFaceProfileRevisions :=
      f.ownerFaceProfileRevisions.update (OwnerFaceProfileRevisionRow.supersede ownerId states)
        (fun _ => rfl) }

def Faces.references (f : Faces) (profileRevisionId : String) : List OwnerFaceReferenceRow :=
  f.ownerFaceReferences.select (fun row => row.profileRevisionId = profileRevisionId)

section Statements

def latestProfileRevision (ownerId : String) : Session (Option OwnerFaceProfileRevisionRow) :=
  Tx.read (fun t => (t.faces.profileRevisionsOf ownerId).head?)

def getProfileRevision (profileRevisionId : String) :
    Session (Option OwnerFaceProfileRevisionRow) :=
  Tx.read (fun t => t.faces.ownerFaceProfileRevisions.get? profileRevisionId)

def supersedeProfiles (ownerId : String) (states : List FaceProfileState) : Session Unit :=
  Tx.modify (fun t => t.mapFaces (fun f => f.supersede ownerId states))

/-- The flush of a new revision: an `IntegrityError` is answered by `refusal`. -/
def insertProfileRevision (row : OwnerFaceProfileRevisionRow) (refusal : Error) : Session Unit :=
  Tx.attempt (fun t =>
    if t.faces.ownerFaceProfileRevisions.has row.profileRevisionId then .error refusal
    else .ok (t.mapFaces (fun f =>
      { f with ownerFaceProfileRevisions := f.ownerFaceProfileRevisions.insert row })))

def insertReference (row : OwnerFaceReferenceRow) (refusal : Error) : Session Unit :=
  Tx.attempt (fun t =>
    if t.faces.ownerFaceReferences.has row.referenceId then .error refusal
    else .ok (t.mapFaces (fun f =>
      { f with ownerFaceReferences := f.ownerFaceReferences.insert row })))

@[simp] theorem ensures_latestProfileRevision (t : Tables) (ownerId : String)
    (post : Option OwnerFaceProfileRevisionRow → Tables → Prop) :
    (latestProfileRevision ownerId).Ensures t post ↔
      post (t.faces.profileRevisionsOf ownerId).head? t :=
  Tx.ensures_read _ t post

@[simp] theorem ensures_getProfileRevision (t : Tables) (profileRevisionId : String)
    (post : Option OwnerFaceProfileRevisionRow → Tables → Prop) :
    (getProfileRevision profileRevisionId).Ensures t post ↔
      post (t.faces.ownerFaceProfileRevisions.get? profileRevisionId) t :=
  Tx.ensures_read _ t post

@[simp] theorem ensures_supersedeProfiles (t : Tables) (ownerId : String)
    (states : List FaceProfileState) (post : Unit → Tables → Prop) :
    (supersedeProfiles ownerId states).Ensures t post ↔
      post () (t.mapFaces (fun f => f.supersede ownerId states)) :=
  Tx.ensures_modify _ t post

@[simp] theorem ensures_insertProfileRevision (t : Tables) (row : OwnerFaceProfileRevisionRow)
    (refusal : Error) (post : Unit → Tables → Prop) :
    (insertProfileRevision row refusal).Ensures t post ↔
      (t.faces.ownerFaceProfileRevisions.get? row.profileRevisionId = none →
        post () (t.mapFaces (fun f =>
          { f with ownerFaceProfileRevisions := f.ownerFaceProfileRevisions.insert row }))) :=
  ensures_insert t

@[simp] theorem ensures_insertReference (t : Tables) (row : OwnerFaceReferenceRow)
    (refusal : Error) (post : Unit → Tables → Prop) :
    (insertReference row refusal).Ensures t post ↔
      (t.faces.ownerFaceReferences.get? row.referenceId = none →
        post () (t.mapFaces (fun f =>
          { f with ownerFaceReferences := f.ownerFaceReferences.insert row }))) :=
  ensures_insert t

/-- A governance fact of a face profile. -/
def faceProfileFact (uuid : Uuid) (now : Timestamp) (ownerId profileId action : String)
    (payload : JsonDict) : AuditFact :=
  { governanceFact uuid now ownerId "owner_face_profile" profileId action payload with
    dataClassification := "sensitive" }

end Statements

/-- The refusal of a revision that someone else numbered first. -/
def profileChanged : Error := .valueError "owner face profile changed concurrently; retry"

def createDraft (env : Env) (ownerId modelId preprocessingVersion : String) :
    Session OwnerFaceProfileRevisionRow := do
  Tx.refuseIf (modelId = "" ∨ preprocessingVersion = "")
    (.valueError "owner face profile requires model compatibility metadata")
  let owner ← getOwner ownerId
  let _ ← Tx.require owner (.keyError ("owner not found: " ++ ownerId))
  let latest ← latestProfileRevision ownerId
  let profileId := (latest.map (fun row => row.profileId)).getD ("ofp_" ++ (env.uuid 0).hex)
  let revision := (latest.map (fun row => row.revision)).getD 0 + 1
  supersedeProfiles ownerId [.draft]
  let row : OwnerFaceProfileRevisionRow :=
    { profileRevisionId := "ofpr_" ++ (env.uuid 1).hex
      profileId := profileId
      ownerId := ownerId
      revision := revision
      state := .draft
      desiredState := .active
      modelId := some modelId
      preprocessingVersion := some preprocessingVersion }
  insertProfileRevision row profileChanged
  addFact env (faceProfileFact (env.uuid 2) env.now ownerId profileId
    "owner_face_profile.draft_created"
    [("revision", .int revision), ("model_id", .str modelId),
     ("preprocessing_version", .str preprocessingVersion)])
  let accepted ← Tx.read (fun t => decide t.Integrity)
  Tx.refuseIf (accepted = false) profileChanged
  return row

def addReference (rules : FaceProfileRules) (env : Env)
    (profileRevisionId pose contentType : String)
    (sizeBytes : Int) (sha256 storageKey : String) : Session OwnerFaceReferenceRow := do
  let taken := Error.valueError "owner face pose or storage key is already present"
  check (validateReference pose contentType sizeBytes sha256 storageKey)
  let stored ← getProfileRevision profileRevisionId
  let profile ← Tx.require stored
    (.keyError ("owner face profile revision not found: " ++ profileRevisionId))
  Tx.refuseIf (profile.state ≠ .draft)
    (.valueError "owner face references can only be added to a draft")
  let count ← Tx.read (fun t => (t.faces.references profileRevisionId).length)
  Tx.refuseIf (rules.maxReferences ≤ count)
    (.valueError "owner face profile already has five references")
  let row : OwnerFaceReferenceRow :=
    { referenceId := "ofr_" ++ (env.uuid 0).hex
      profileRevisionId := profileRevisionId
      pose := pose
      contentType := contentType
      sizeBytes := sizeBytes
      sha256 := sha256
      storageKey := storageKey }
  insertReference row taken
  addFact env (faceProfileFact (env.uuid 1) env.now profile.ownerId profile.profileId
    "owner_face_profile.reference_added"
    [("revision", .int profile.revision), ("reference_id", .str row.referenceId),
     ("pose", .str pose)])
  let accepted ← Tx.read (fun t => decide t.Integrity)
  Tx.refuseIf (accepted = false) taken
  return row

def activateProfile (rules : FaceProfileRules) (env : Env) (profileRevisionId : String) :
    Session OwnerFaceProfileRevisionRow := do
  let stored ← getProfileRevision profileRevisionId
  let profile ← Tx.require stored
    (.keyError ("owner face profile revision not found: " ++ profileRevisionId))
  Tx.refuseIf (profile.state ≠ .draft ∨ profile.desiredState ≠ .active)
    (.valueError "only an active draft owner face profile can be activated")
  let references ← Tx.read (fun t => t.faces.references profileRevisionId)
  Tx.refuseIf
    (¬ (rules.minReferences ≤ references.length ∧ references.length ≤ rules.maxReferences))
    (.valueError "owner face profile requires three to five references")
  Tx.refuseIf (¬ rules.requiredPoses ⊆ references.map (fun row => row.pose))
    (.valueError "owner face profile requires front, left, and right references")
  supersedeProfiles profile.ownerId [.desired]
  Tx.modify (fun t => t.mapFaces (fun f =>
    { f with
      ownerFaceProfileRevisions := f.ownerFaceProfileRevisions.modify profileRevisionId (fun row =>
        { row with
          state := .desired
          activatedAt := some env.now }) (by intro _; rfl) }))
  addFact env (faceProfileFact (env.uuid 0) env.now profile.ownerId profile.profileId
    "owner_face_profile.desired"
    [("revision", .int profile.revision), ("reference_count", .int references.length)])
  return { profile with
    state := .desired
    activatedAt := some env.now }

def clearProfile (env : Env) (ownerId : String) : Session OwnerFaceProfileRevisionRow := do
  let owner ← getOwner ownerId
  let _ ← Tx.require owner (.keyError ("owner not found: " ++ ownerId))
  let latest ← latestProfileRevision ownerId
  let profileId := (latest.map (fun row => row.profileId)).getD ("ofp_" ++ (env.uuid 0).hex)
  let revision := (latest.map (fun row => row.revision)).getD 0 + 1
  supersedeProfiles ownerId [.draft, .desired]
  let row : OwnerFaceProfileRevisionRow :=
    { profileRevisionId := "ofpr_" ++ (env.uuid 1).hex
      profileId := profileId
      ownerId := ownerId
      revision := revision
      state := .desired
      desiredState := .cleared
      modelId := none
      preprocessingVersion := none
      activatedAt := some env.now }
  insertProfileRevision row profileChanged
  addFact env (faceProfileFact (env.uuid 2) env.now ownerId profileId "owner_face_profile.cleared"
    [("revision", .int revision)])
  let accepted ← Tx.read (fun t => decide t.Integrity)
  Tx.refuseIf (accepted = false) profileChanged
  return row

/-- The references `delete_superseded_references` removes: those named that
hang off a superseded revision of the Owner. -/
def Faces.isSupersededReference (f : Faces) (ownerId : String) (referenceIds : List String)
    (row : OwnerFaceReferenceRow) : Bool :=
  row.referenceId ∈ referenceIds &&
    (f.ownerFaceProfileRevisions.get? row.profileRevisionId).any
      (fun revision => revision.ownerId = ownerId && revision.state = .superseded)

def deleteSupersededReferences (ownerId : String) (referenceIds : List String) : Session Nat := do
  if referenceIds = [] then
    return 0
  else
    let removed ← Tx.read (fun t =>
      t.faces.ownerFaceReferences.select (t.faces.isSupersededReference ownerId referenceIds))
    Tx.modify (fun t => t.mapFaces (fun f =>
      { f with
        ownerFaceReferences := f.ownerFaceReferences.retain
          (fun row => !f.isSupersededReference ownerId referenceIds row) }))
    return removed.length

/-- The commands on an Owner's face profile. -/
inductive FaceProfileCommand where
  | createDraft (ownerId modelId preprocessingVersion : String)
  | addReference (profileRevisionId pose contentType : String) (sizeBytes : Int)
      (sha256 storageKey : String)
  | activate (profileRevisionId : String)
  | clear (ownerId : String)
  | deleteSupersededReferences (ownerId : String) (referenceIds : List String)
  deriving DecidableEq

structure FaceProfileCall where
  env : Env
  command : FaceProfileCommand

def FaceProfileCall.session (rules : FaceProfileRules) (call : FaceProfileCall) : Session Unit :=
  match call.command with
  | .createDraft ownerId modelId preprocessingVersion =>
      effect (createDraft call.env ownerId modelId preprocessingVersion)
  | .addReference profileRevisionId pose contentType sizeBytes sha256 storageKey =>
      effect (addReference rules call.env profileRevisionId pose contentType sizeBytes sha256
        storageKey)
  | .activate profileRevisionId => effect (activateProfile rules call.env profileRevisionId)
  | .clear ownerId => effect (clearProfile call.env ownerId)
  | .deleteSupersededReferences ownerId referenceIds =>
      effect (deleteSupersededReferences ownerId referenceIds)

def FaceProfileCall.step (rules : FaceProfileRules) (db : Database) (call : FaceProfileCall) :
    Database :=
  db.after (call.session rules)

def replayFaceProfiles (rules : FaceProfileRules) (calls : List FaceProfileCall) (db : Database) :
    Database :=
  calls.foldl (FaceProfileCall.step rules) db

end EidolonData
