import EidolonData.Effects.Frames
import EidolonData.Services.Store

/-!
# What the face repositories leave alone

A write of a face or of a face profile touches the faces and the audit outbox.
-/

namespace EidolonData

open Relational

def Tables.besideFaces (t : Tables) : Tables := { t with faces := {}, auditOutbox := ∅ }

@[simp] theorem besideFaces_mapFaces (t : Tables) (change : Faces → Faces) :
    (t.mapFaces change).besideFaces = t.besideFaces := rfl

@[simp] theorem besideFaces_addFact (t : Tables) (now : Timestamp) (fact : AuditFact) :
    (t.addFact now fact).besideFaces = t.besideFaces := rfl

section Rules

variable {post : Unit → Prop}

@[simp] theorem besideFaces_supersedeProfiles (ownerId : String)
    (states : List FaceProfileState) :
    (supersedeProfiles ownerId states).Keeps Tables.besideFaces post ↔ post () := by
  simp [supersedeProfiles]

@[simp] theorem besideFaces_insertProfileRevision (row : OwnerFaceProfileRevisionRow)
    (refusal : Error) :
    (insertProfileRevision row refusal).Keeps Tables.besideFaces post ↔ post () := by
  simp [insertProfileRevision]

@[simp] theorem besideFaces_insertReference (row : OwnerFaceReferenceRow) (refusal : Error) :
    (insertReference row refusal).Keeps Tables.besideFaces post ↔ post () := by
  simp [insertReference]

@[simp] theorem besideFaces_factAdded (env : Env) (fact : AuditFact) :
    (addFact env fact).Keeps Tables.besideFaces post ↔ post () := by
  simp [addFact]

end Rules

variable (rules : FaceProfileRules) (env : Env)

theorem FaceProfileCall.session_spares (call : FaceProfileCall) :
    (call.session rules).Spares Tables.besideFaces := by
  unfold FaceProfileCall.session
  cases call.command with
  | createDraft => exact spares_effect (by simp [createDraft, latestProfileRevision])
  | addReference => exact spares_effect (by simp [addReference, getProfileRevision])
  | activate => exact spares_effect (by simp [activateProfile, getProfileRevision])
  | clear => exact spares_effect (by simp [clearProfile, latestProfileRevision])
  | deleteSupersededReferences =>
      exact spares_effect (by simp [EidolonData.deleteSupersededReferences])

theorem setFace_spares (companionId condStorageKey condContentType : String)
    (condSizeBytes : Int) (condSha256 : String) :
    (setFace env companionId condStorageKey condContentType condSizeBytes condSha256).Spares
      Tables.besideFaces := by
  simp [setFace]

theorem setIdleClip_spares (faceAssetId storageKey : String) (sizeBytes : Int)
    (sha256 : String) :
    (setIdleClip env faceAssetId storageKey sizeBytes sha256).Spares Tables.besideFaces := by
  simp [setIdleClip]

theorem clearFace_spares (companionId : String) :
    (clearFace env companionId).Spares Tables.besideFaces := by
  simp only [clearFace, getActiveFace, Tx.spares_iff, Tx.keeps_bind, Tx.keeps_read]
  intro active
  cases active with
  | none => trivial
  | some row => simp

/-- A call of a face repository is rolled back, or writes the faces. -/
theorem StoreCall.step_beside (sdk : Sdk) (call : StoreCall) (db : Database)
    (faces : ∀ command, call.command ≠ .service command) :
    (call.step sdk rules db).tables.besideFaces = db.tables.besideFaces := by
  have spares : (call.session sdk rules).Spares Tables.besideFaces := by
    obtain ⟨env, command⟩ := call
    cases command with
    | service command => exact absurd rfl (faces command)
    | faceProfile command => exact FaceProfileCall.session_spares rules ⟨env, command⟩
    | setFace => exact spares_effect (setFace_spares env _ _ _ _ _)
    | setIdleClip => exact spares_effect (setIdleClip_spares env _ _ _ _)
    | clearFace => exact spares_effect (clearFace_spares env _)
  unfold StoreCall.step
  refine Database.after_induct (motive := fun db' =>
    db'.tables.besideFaces = db.tables.besideFaces) rfl ?_
  intro value db' ran
  exact spares.ensures db.tables value _ ran

end EidolonData
