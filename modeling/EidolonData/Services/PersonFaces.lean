import EidolonData.Services.Persons

/-!
# Person photos

The one versioned photo slot of a Person.  The image bytes live in the object
store; the row keeps their key and their digest.
-/

namespace EidolonData

open Relational

def getFace (personId : String) : Session (Option PersonFaceRow) :=
  Tx.read (fun t => t.people.personFaces.get? personId)

/-- The photo slot with its next version. -/
def storeFace (row : PersonFaceRow) : Session Unit :=
  Tx.modify (fun t => t.mapPeople (fun p =>
    { p with
      personFaces :=
        if p.personFaces.has row.personId then
          p.personFaces.modify row.personId (fun face =>
            { face with
              storageKey := row.storageKey
              sha256 := row.sha256
              revision := row.revision })
        else p.personFaces.insert row }))

/-- `PersonFaces._change`, with the image to keep or none. -/
def changeFace (sdk : Sdk) (env : Env) (ownerId personId : String) (expectedRevision : Int)
    (data : Option (List UInt8)) : Session PersonFaceRow := do
  let person ← requirePerson ownerId personId
  Tx.refuseIf (data.isSome ∧ person.status ≠ .active) (.personConflict "person is inactive")
  let stored ← getFace personId
  let row : PersonFaceRow := stored.getD { personId := personId, ownerId := ownerId, revision := 0 }
  Tx.refuseIf (row.revision ≠ expectedRevision)
    (.personConflict "face profile changed; refresh before retrying")
  let changed : PersonFaceRow :=
    { row with
      storageKey := data.map (fun _ => "person-faces/" ++ (env.uuid 1).hex ++ ".jpg")
      sha256 := data.map sdk.sha256
      revision := row.revision + 1 }
  storeFace changed
  auditPerson env 0 person (if data.isSome then "person.face_saved" else "person.face_deleted")
  return changed

/-- `PersonFaces.replace`. -/
def replaceFace (sdk : Sdk) (env : Env) (ownerId personId : String) (expectedRevision : Int)
    (imageBase64 : String) : Session PersonFaceRow := do
  let _ ← requirePerson ownerId personId
  let data ← Tx.lift .personFaceInvalid (sdk.normalizeImage imageBase64)
  changeFace sdk env ownerId personId expectedRevision (some data)

/-- `PersonFaces.delete`. -/
def deleteFace (sdk : Sdk) (env : Env) (ownerId personId : String) (expectedRevision : Int) :
    Session PersonFaceRow :=
  changeFace sdk env ownerId personId expectedRevision none

end EidolonData
