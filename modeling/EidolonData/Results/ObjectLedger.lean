import EidolonData.Results.DeletionReceipts
import EidolonData.Effects.ObjectCommands

/-!
# The ledger of the objects

Rows name objects that lie outside the database, and whoever clears the
objects away knows only the keys the calls hand over.  Along every run nothing
is lost but the clip that another clip overwrites.
-/

namespace EidolonData

open Relational

section Runs

variable (sdk : Sdk) (rules : FaceProfileRules) (calls : List StoreCall)

/-- What a run brings in it gives up or holds. -/
theorem replayStore_conserves :
    Conserves [] (replayStore sdk rules calls .empty).tables.objectKeys
      (keysStored sdk rules calls .empty)
      (keysReleased sdk rules calls .empty ++ keysDropped sdk rules calls .empty) := by
  have kept : ∀ (db : Database) (call : StoreCall), StoreSound sdk db.tables →
      StoreSound sdk (call.step sdk rules db).tables :=
    fun db call sound => call.step_sound db sound
  have run := Conserves.run kept (fun db call sound => call.accounts db sound) calls .empty
    (storeSound_empty sdk)
  exact run.reorder (.refl _) (along_append _ _ _ _ _)

theorem Database.settled_dropped {α : Type} {db : Database} {program : Session α}
    {receipt : α → KeyReceipt} (nothing : ∀ value, (receipt value).dropped = []) :
    (db.settled program receipt).dropped = [] := by
  unfold Database.settled
  split
  · exact nothing _
  · rfl

theorem StoreCall.dropped_eq_nil {sdk : Sdk} {rules : FaceProfileRules} {db : Database}
    {call : StoreCall}
    (unclipped : ∀ faceAssetId storageKey sizeBytes sha256,
      call.command = .setIdleClip faceAssetId storageKey sizeBytes sha256 →
      db.tables.faces.idleKeys faceAssetId = []) :
    (call.keyReceipt sdk rules db).dropped = [] := by
  obtain ⟨env, command⟩ := call
  cases command with
  | service command =>
      cases command with
      | deleteOwner | deleteCompanion | archivePerson | replaceFace | deleteFace =>
          exact Database.settled_dropped (fun _ => rfl)
      | _ => rfl
  | faceProfile command =>
      cases command with
      | addReference | deleteSupersededReferences =>
          exact Database.settled_dropped (fun _ => rfl)
      | _ => rfl
  | setFace => exact Database.settled_dropped (fun _ => rfl)
  | setIdleClip faceAssetId storageKey sizeBytes sha256 =>
      exact Database.settled_dropped (fun _ =>
        unclipped faceAssetId storageKey sizeBytes sha256 rfl)
  | clearFace => rfl

end Runs

/-- What a run brings in is what it hands over for removal, what a clip
overwrites and what the rows name, each as often; keys brought in once are not
both handed over and named, and a run that sets no clip over another loses
none. -/
theorem object_keys_accounted (sdk : Sdk) (rules : FaceProfileRules) (calls : List StoreCall) :
    (keysStored sdk rules calls .empty).Perm
        ((keysReleased sdk rules calls .empty ++ keysDropped sdk rules calls .empty) ++
          (replayStore sdk rules calls .empty).tables.objectKeys) ∧
      ((keysStored sdk rules calls .empty).Nodup →
        (keysReleased sdk rules calls .empty).Disjoint
          (replayStore sdk rules calls .empty).tables.objectKeys) ∧
      ((∀ earlier env faceAssetId storageKey sizeBytes sha256 later,
          calls = earlier ++ ⟨env, .setIdleClip faceAssetId storageKey sizeBytes sha256⟩ :: later →
          (replayStore sdk rules earlier .empty).tables.faces.idleKeys faceAssetId = []) →
        keysDropped sdk rules calls .empty = []) := by
  have conserves := replayStore_conserves sdk rules calls
  refine ⟨conserves, ?_, ?_⟩
  · intro once
    have apart := conserves.disjoint once
    intro key released held
    exact apart (List.mem_append_left _ released) held
  · intro unclipped
    apply along_eq_nil
    intro earlier call later split
    apply StoreCall.dropped_eq_nil
    intro faceAssetId storageKey sizeBytes sha256 clip
    apply unclipped earlier call.env faceAssetId storageKey sizeBytes sha256 later
    rw [split, ← clip]

/-- A Person's photo is replaced. -/
def rephotographedCommands : List StoreCommand :=
  photographedCommands ++ [.service (.replaceFace "owner" "person" 1 "")]

theorem object_keys_accounted_rephotographed :
    keysReleased .plain sampleFaceRules (numberedStore rephotographedCommands) .empty =
        ["person-faces/16000000000000000000000000000000.jpg"] ∧
      (keysReleased .plain sampleFaceRules (numberedStore rephotographedCommands) .empty).Disjoint
        (replayStore .plain sampleFaceRules (numberedStore rephotographedCommands)
          .empty).tables.objectKeys := by
  have once : (keysStored .plain sampleFaceRules (numberedStore rephotographedCommands)
      .empty).Nodup := by
    decide +kernel
  refine ⟨by decide +kernel, ?_⟩
  exact (object_keys_accounted .plain sampleFaceRules (numberedStore rephotographedCommands)).2.1
    once

end EidolonData
