import EidolonData.Effects.ChapterCommands
import EidolonData.Effects.FaceFrames
import EidolonData.Effects.Pruning
import EidolonData.Invariants.People

/-!
# Runs of the store

What the commands of the services keep holds along the runs that also edit
the faces: the face repositories write neither the workspace nor the people.
-/

namespace EidolonData

open Relational

variable {sdk : Sdk} {rules : FaceProfileRules}

/-- What every command keeps, of the parts the face repositories leave alone. -/
structure StoreSound (sdk : Sdk) (t : Tables) : Prop where
  people : t.PeopleSound sdk
  runtime : t.workspace.RuntimeSound sdk .all
  shared : t.workspace.SharedSound
  defaultOwned : t.workspace.DefaultOwned
  chapters : t.chapters.Sound sdk False

theorem storeSound_empty (sdk : Sdk) : StoreSound sdk Database.empty.tables :=
  { people := peopleSound_empty sdk
    runtime := runtimeSound_empty
    shared := sharedSound_empty
    defaultOwned := defaultOwned_empty
    chapters := chaptersSound_empty }

/-- The parts are read off all but the faces. -/
theorem StoreSound.of_beside {t t' : Tables} (sound : StoreSound sdk t)
    (same : t'.besideFaces = t.besideFaces) : StoreSound sdk t' := by
  have workspace : t'.besideFaces.workspace = t.besideFaces.workspace := by rw [same]
  have people : t'.besideFaces.people = t.besideFaces.people := by rw [same]
  change t'.workspace = t.workspace at workspace
  change t'.people = t.people at people
  have chapters : t'.chapters = t.chapters := congrArg Workspace.chapters workspace
  have files : ∀ personId, t'.file personId = t.file personId := by
    intro personId
    rw [Tables.file, workspace, people]
    rfl
  exact
    { people :=
        { filed := fun personId => (files personId).symm ▸ sound.people.filed personId
          sourced := people.symm ▸ sound.people.sourced
          inactive := fun personId => (files personId).symm ▸ sound.people.inactive personId
          marked := fun personId => (files personId).symm ▸ sound.people.marked personId
          erased := people.symm ▸ sound.people.erased
          enrolled := people.symm ▸ sound.people.enrolled
          observed := people.symm ▸ sound.people.observed }
      runtime := workspace.symm ▸ sound.runtime
      shared := workspace.symm ▸ sound.shared
      defaultOwned := workspace.symm ▸ sound.defaultOwned
      chapters := chapters.symm ▸ sound.chapters }

theorem Call.step_storeSound (call : Call) (db : Database) (sound : StoreSound sdk db.tables) :
    StoreSound sdk (call.step sdk db).tables := by
  have heeded : Heeds sdk (fun w command => command.Permitted sdk .all w) [call] db :=
    heeds_all sdk [call] db
  exact
    { people := call.step_sound db sound.people
      runtime := runtimeSound_invariant.replay [call] db heeded sound.runtime
      shared := sharedSound_invariant.replay [call] db heeded sound.shared
      defaultOwned := defaultOwned_invariant.replay [call] db heeded sound.defaultOwned
      chapters := (call.step_chapters False.elim False.elim db sound.runtime).sound sound.chapters
        db.property.workspace.housed (call.step sdk db).property.workspace.housed }

theorem StoreCall.step_sound (call : StoreCall) (db : Database)
    (sound : StoreSound sdk db.tables) : StoreSound sdk (call.step sdk rules db).tables := by
  by_cases service : ∃ command, call.command = .service command
  · obtain ⟨env, command⟩ := call
    obtain ⟨command, rfl⟩ := service
    exact Call.step_storeSound ⟨env, command⟩ db sound
  · exact sound.of_beside (call.step_beside rules sdk db (fun command same =>
      service ⟨command, same⟩))

theorem replayStore_sound (calls : List StoreCall) :
    StoreSound sdk (replayStore sdk rules calls .empty).tables := by
  suffices run : ∀ db : Database, StoreSound sdk db.tables →
      StoreSound sdk (replayStore sdk rules calls db).tables from
    run .empty (storeSound_empty sdk)
  induction calls with
  | nil =>
      intro db sound
      exact sound
  | cons call calls induction =>
      intro db sound
      exact induction _ (call.step_sound db sound)

theorem StoreSound.separate {t : Tables} (sound : StoreSound sdk t) : t.Separate :=
  { defaultOwned := sound.defaultOwned
    current := sound.runtime.current
    pointed := sound.shared.pointed
    based := sound.chapters.based
    sourced := sound.people.sourced }

end EidolonData
