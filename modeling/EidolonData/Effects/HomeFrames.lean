import EidolonData.Effects.PersonFrames

/-!
# What the registry commands leave alone

A write of the registry touches the home of its Owner and the audit outbox.
-/

namespace EidolonData

open Relational

def Tables.besideHome (t : Tables) : Tables := { t with home := {}, auditOutbox := ∅ }

@[simp] theorem besideHome_mapHome (t : Tables) (change : SmartHome → SmartHome) :
    (t.mapHome change).besideHome = t.besideHome := rfl

@[simp] theorem besideHome_addFact (t : Tables) (now : Timestamp) (fact : AuditFact) :
    (t.addFact now fact).besideHome = t.besideHome := rfl

variable (sdk : Sdk) (env : Env) (ownerId : String)

section Rules

variable {post : Unit → Prop}

@[simp] theorem besideHome_writeRows (write : SmartHome → Option SmartHome) :
    (writeRows write).Keeps Tables.besideHome post ↔ post () := by
  simp only [writeRows, Tx.keeps_attempt, and_iff_right_iff_imp]
  intro _ t t' written
  split at written
  · cases written
    rfl
  · cases written

@[simp] theorem besideHome_factAdded (fact : AuditFact) :
    (addFact env fact).Keeps Tables.besideHome post ↔ post () := by
  simp [addFact]

end Rules

theorem loadRegistry_spares (revision : Int) :
    (loadRegistry sdk ownerId revision).Spares Tables.besideHome := by
  simp only [loadRegistry, Tx.spares_iff, Tx.keeps_bind, Tx.keeps_read]
  intro areas devices scenes actions
  split
  · trivial
  · simp

theorem advanceRevision_spares (expectedRevision : Int) :
    (advanceRevision ownerId expectedRevision).Spares Tables.besideHome := by
  simp only [advanceRevision, openRegistry, Tx.spares_iff, Tx.keeps_ite, Tx.keeps_bind,
    Tx.keeps_read, Tx.pure_eq, Tx.keeps_done]
  refine ⟨?_, ?_⟩
  · intro _ existing
    cases existing with
    | some row => trivial
    | none => simp
  · intro _
    simp only [Tx.keeps_attempt_allowed, besideHome_mapHome, implies_true, true_and]

theorem changeRegistry_spares {expectedRevision : Int} {change target : String}
    {body : HomeChange → Session Registry}
    (spares : ∀ c, (body c).Spares Tables.besideHome) :
    (changeRegistry sdk env ownerId expectedRevision change target body).Spares
      Tables.besideHome := by
  simp only [changeRegistry, Tx.spares_iff, Tx.keeps_bind, Tx.keeps_refuseIf, keeps_getOwner]
  intro _ owner _
  refine (advanceRevision_spares ownerId expectedRevision).keeps (fun revision => ?_)
  refine (loadRegistry_spares sdk ownerId expectedRevision).keeps (fun current => ?_)
  refine (spares _).keeps (fun proposed => ?_)
  simp

theorem editHome_spares (edit : HomeEdit) (expectedRevision : Int) :
    (editHome sdk env ownerId edit expectedRevision).Spares Tables.besideHome := by
  cases edit with
  | createArea area =>
      unfold editHome createArea
      refine changeRegistry_spares sdk env ownerId (fun c => ?_)
      simp [nextPosition, HomeChange.propose]
  | updateArea area =>
      unfold editHome updateArea
      refine changeRegistry_spares sdk env ownerId (fun c => ?_)
      simp [getArea, HomeChange.propose]
  | deleteArea areaId =>
      unfold editHome deleteArea
      refine changeRegistry_spares sdk env ownerId (fun c => ?_)
      simp [getArea, HomeChange.propose]
  | createDevice device =>
      unfold editHome createDevice
      refine changeRegistry_spares sdk env ownerId (fun c => ?_)
      simp [nextPosition, HomeChange.propose]
  | updateDevice device =>
      unfold editHome updateDevice
      refine changeRegistry_spares sdk env ownerId (fun c => ?_)
      simp [getDevice, HomeChange.propose]
  | deleteDevice deviceId =>
      unfold editHome deleteDevice
      refine changeRegistry_spares sdk env ownerId (fun c => ?_)
      simp [getDevice, HomeChange.propose]
  | createScene scene =>
      unfold editHome createScene
      refine changeRegistry_spares sdk env ownerId (fun c => ?_)
      simp [nextPosition, HomeChange.propose]
  | updateScene scene =>
      unfold editHome updateScene
      refine changeRegistry_spares sdk env ownerId (fun c => ?_)
      simp [getScene, HomeChange.propose]
  | deleteScene sceneId =>
      unfold editHome deleteScene
      refine changeRegistry_spares sdk env ownerId (fun c => ?_)
      simp [getScene, HomeChange.propose]
  | setPlacement placement =>
      unfold editHome setPlacement
      refine changeRegistry_spares sdk env ownerId (fun c => ?_)
      simp [getPlacement, HomeChange.propose]
  | clearPlacement deviceRef =>
      unfold editHome clearPlacement
      refine changeRegistry_spares sdk env ownerId (fun c => ?_)
      simp [getPlacement, HomeChange.propose]

theorem populateSample_spares (sample : Registry) (c : HomeChange) :
    (populateSample sdk sample c).Spares Tables.besideHome := by
  simp [populateSample, HomeChange.propose]

theorem loadSample_spares (name : String) (expectedRevision : Int) :
    (loadSample sdk env ownerId name expectedRevision).Spares Tables.besideHome := by
  simp only [loadSample, Tx.spares_iff, Tx.keeps_bind, Tx.keeps_require]
  intro sample _
  exact (changeRegistry_spares sdk env ownerId (populateSample_spares sdk sample)).all

theorem HomeWrite.session_spares (write : HomeWrite) :
    (write.session sdk env ownerId).Spares Tables.besideHome := by
  cases write with
  | edit change expectedRevision => exact editHome_spares sdk env ownerId change expectedRevision
  | loadSample name expectedRevision =>
      exact loadSample_spares sdk env ownerId name expectedRevision
  | initializeDefault => exact loadSample_spares sdk env ownerId "apartment" 0

theorem initializeOwnerHome_spares (traceId : String) :
    (initializeOwnerHome sdk env ownerId traceId).Spares Tables.besideHome := by
  refine Tx.spares_bind (advanceRevision_spares ownerId 0) (fun revision => ?_)
  refine Tx.spares_bind (populateSample_spares sdk _ _) (fun proposed => ?_)
  simp

end EidolonData
