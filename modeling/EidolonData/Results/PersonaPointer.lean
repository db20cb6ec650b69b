import EidolonData.Results.DefaultPointer
import EidolonData.Invariants.Pointer

/-!
# The persona pointer never comes back

Along any run in which a Companion lasts, it is never again at a genome it
has left.  What the restoring commands bring back is a genome that was not
there before.
-/

namespace EidolonData

open Relational

def Command.Appends (companionId : String) : Command → Prop
  | editPersona edited _ => edited = companionId
  | renameCompanion renamed _ => renamed = companionId
  | restoreChapter restored _ _ => restored = companionId
  | rollbackToGenome _ restored _ => restored = companionId
  | resetToOrigin _ restored => restored = companionId
  | _ => False

theorem EditCommitted.appends {sdk : Sdk} {permits : Permits} {w w' : Workspace}
    {companion new : CompanionRow} {request : PersonaEditRequest} {result : PersonaEditSnapshot}
    {genome : PersonaGenomeRow}
    (found : w.companions.get? companion.companionId = some companion)
    (committed : EditCommitted sdk permits w w' companion request result new genome)
    {genomeId : String} (points : w'.PointsAt companion.companionId genomeId) :
    w.PointsAt companion.companionId genomeId ∨ w.personaGenomes.get? genomeId = none := by
  obtain ⟨row, stored, pointed⟩ := points
  have sameRow : row = new := Option.some.inj (stored.symm.trans committed.stored)
  subst sameRow
  rcases committed.chapter with unchanged | ⟨fresh, current⟩
  · left
    have named : row.companionId = companion.companionId := Table.key_of_get? stored
    cases committed.change.companion_origin stored with
    | stored old oldFound _ _ _ _ _ pointer _ =>
        rw [named, found, Option.some.injEq] at oldFound
        subst oldFound
        cases pointer with
        | same same => exact ⟨companion, found, same.symm.trans pointed⟩
        | advanced next _ nextStored _ nextCommitted uncommitted =>
            rw [unchanged] at nextStored
            obtain ⟨proposed, -⟩ := uncommitted next nextStored
            rw [nextCommitted] at proposed
            cases proposed
    | moved old target oldFound same _ _ =>
        rw [named, found, Option.some.injEq] at oldFound
        subst oldFound
        rw [same] at pointed
        exact ⟨companion, found, pointed⟩
    | provisioned owner first realm rows _ _ _ =>
        have fresh := rows.companionFresh
        rw [named, found] at fresh
        cases fresh
  · right
    rw [pointed, Option.some.injEq] at current
    rw [current]
    exact fresh

/-- A command that writes a chapter leaves the pointer, or moves it to a
genome that is new. -/
theorem Call.step_appends {sdk : Sdk} (call : Call) (db : Database) {companionId genomeId : String}
    (appends : call.command.Appends companionId)
    (points : (call.step sdk db).tables.workspace.PointsAt companionId genomeId) :
    db.tables.workspace.PointsAt companionId genomeId ∨
      db.tables.workspace.personaGenomes.get? genomeId = none := by
  obtain ⟨env, command⟩ := call
  have unchanged : ∀ {db' : Database}, db'.tables = db.tables →
      db'.tables.workspace.PointsAt companionId genomeId →
      db.tables.workspace.PointsAt companionId genomeId ∨
        db.tables.workspace.personaGenomes.get? genomeId = none := by
    intro db' same points
    rw [same] at points
    exact Or.inl points
  have written : ∀ (call : Call) {α : Type} {program : Session α},
      call.command.session sdk call.env = effect program →
      (program.Ensures db.tables (fun _ t' => t' = db.tables ∨
        ChapterWritten sdk .all db.tables.workspace t'.workspace companionId)) →
      (call.step sdk db).tables.workspace.PointsAt companionId genomeId →
      db.tables.workspace.PointsAt companionId genomeId ∨
        db.tables.workspace.personaGenomes.get? genomeId = none := by
    intro call α program runs ensures points
    rcases call.step_ensures db runs ensures with same | same | written
    · exact unchanged (congrArg Database.tables same) points
    · exact unchanged same points
    · exact Or.inr (written.fresh points)
  cases command with
  | editPersona edited request =>
      have same : edited = companionId := appends
      subst same
      have edits : (editPersona sdk env edited request).Ensures db.tables (fun _ t' =>
          t'.workspace.PointsAt edited genomeId →
            db.tables.workspace.PointsAt edited genomeId ∨
              db.tables.workspace.personaGenomes.get? genomeId = none) := by
        refine (editPersona_effect sdk .all env db.tables edited request _ (Or.inl trivial)).mono ?_
        rintro result t' ⟨companion, found, ⟨-, same⟩ | ⟨-, new, genome, committed⟩⟩ points
        · rw [same] at points
          exact Or.inl points
        · have named : companion.companionId = edited := Table.key_of_get? found
          subst named
          exact committed.appends found points
      rcases Call.step_ensures { env := env, command := .editPersona edited request } db rfl edits
        with same | moves
      · exact unchanged (congrArg Database.tables same) points
      · exact moves points
  | renameCompanion renamed name =>
      have same : renamed = companionId := appends
      subst same
      exact written { env := env, command := .renameCompanion renamed name } rfl
        (renameCompanion_effect sdk .all env db.tables renamed name) points
  | restoreChapter restored target ownerId =>
      have same : restored = companionId := appends
      subst same
      exact written { env := env, command := .restoreChapter restored target ownerId } rfl
        (restoreChapter_effect sdk .all env db.tables restored target _ ownerId) points
  | rollbackToGenome ownerId restored target =>
      have same : restored = companionId := appends
      subst same
      exact written { env := env, command := .rollbackToGenome ownerId restored target } rfl
        (restoreChapter_effect sdk .all env db.tables restored target _ (some ownerId)) points
  | resetToOrigin ownerId restored =>
      have same : restored = companionId := appends
      subst same
      exact written { env := env, command := .resetToOrigin ownerId restored } rfl
        (resetToOrigin_effect sdk .all env db.tables ownerId restored) points
  | _ => cases appends

/-- Along any run in which a Companion lasts: a genome it pointed at and
points at no more is never current again, nor is any committed genome of its
own that it does not point at; and what an edit, a rename or a restore moves
it to was not stored before. -/
theorem persona_pointer_never_returns (sdk : Sdk) (calls first second : List Call)
    (companionId genomeId : String)
    (lastsFirst : CompanionLasts sdk companionId first (replay sdk calls .empty))
    (lastsSecond : CompanionLasts sdk companionId second
      (replay sdk first (replay sdk calls .empty)))
    (middle : (replay sdk first (replay sdk calls .empty)).tables.workspace.companions.has
      companionId = true) :
    ((replay sdk calls .empty).tables.workspace.PointsAt companionId genomeId →
      ¬ (replay sdk first (replay sdk calls .empty)).tables.workspace.PointsAt companionId
        genomeId →
      ¬ (replay sdk second (replay sdk first (replay sdk calls .empty))).tables.workspace.PointsAt
        companionId genomeId) ∧
    (∀ genome, (replay sdk calls .empty).tables.workspace.personaGenomes.get? genomeId =
        some genome → genome.companionId = companionId → genome.status = .committed →
      ¬ (replay sdk calls .empty).tables.workspace.PointsAt companionId genomeId →
      ¬ (replay sdk first (replay sdk calls .empty)).tables.workspace.PointsAt companionId
        genomeId) ∧
    (∀ call : Call, call.command.Appends companionId →
      (call.step sdk (replay sdk calls .empty)).tables.workspace.PointsAt companionId genomeId →
      (replay sdk calls .empty).tables.workspace.PointsAt companionId genomeId ∨
        (replay sdk calls .empty).tables.workspace.personaGenomes.get? genomeId = none) := by
  have sound : (replay sdk calls .empty).tables.workspace.RuntimeSound sdk .all :=
    runtimeSound_invariant.replay calls .empty (heeds_all sdk calls .empty) runtimeSound_empty
  have soundMiddle : (replay sdk first (replay sdk calls .empty)).tables.workspace.RuntimeSound sdk
      .all :=
    runtimeSound_invariant.replay first _ (heeds_all sdk first _) sound
  refine ⟨?_, ?_, ?_⟩
  · intro pointed moved
    rcases (replay_advances sound lastsFirst middle).pointed pointed with still | left
    · exact absurd still moved
    · exact replay_apart soundMiddle lastsSecond left
  · intro genome stored own committed apart
    exact replay_apart sound lastsFirst ⟨⟨genome, stored, own, committed⟩, apart⟩
  · intro call appends points
    exact call.step_appends _ appends points

theorem Workspace.pointsAt_iff {w : Workspace} {companionId genomeId : String} :
    w.PointsAt companionId genomeId ↔
      (w.companions.get? companionId).bind (fun row => row.currentGenomeId) = some genomeId := by
  rw [Option.bind_eq_some_iff]
  rfl

/-- A rename of the first Companion, and one that takes the name back. -/
def renamedCall : Call :=
  { env := { uuid := fun site => .ofNat (512 + site), now := 32 }
    command := .renameCompanion "c_owner" "Sunny" }

def renamedBackCall : Call :=
  { env := { uuid := fun site => .ofNat (528 + site), now := 33 }
    command := .renameCompanion "c_owner" "owner" }

theorem persona_pointer_never_returns_renamed :
    ¬ (replay .plain [renamedBackCall] (replay .plain [renamedCall]
      (replay .plain (numbered firstDefaultCommands) .empty))).tables.workspace.PointsAt "c_owner"
        "g_31000000000000000000000000000000" := by
  have stored : (replay .plain (numbered firstDefaultCommands)
      .empty).tables.workspace.companions.has "c_owner" = true := by
    decide +kernel
  have stays : (replay .plain [renamedCall] (replay .plain (numbered firstDefaultCommands)
      .empty)).tables.workspace.companions.has "c_owner" = true := by
    decide +kernel
  have pointed : ((replay .plain (numbered firstDefaultCommands)
      .empty).tables.workspace.companions.get? "c_owner").bind (fun row => row.currentGenomeId) =
      some "g_31000000000000000000000000000000" := by
    decide +kernel
  have moved : ((replay .plain [renamedCall] (replay .plain (numbered firstDefaultCommands)
      .empty)).tables.workspace.companions.get? "c_owner").bind (fun row => row.currentGenomeId) ≠
      some "g_31000000000000000000000000000000" := by
    decide +kernel
  exact (persona_pointer_never_returns .plain (numbered firstDefaultCommands) [renamedCall]
    [renamedBackCall] "c_owner" "g_31000000000000000000000000000000" ⟨stored, trivial⟩
    ⟨stays, trivial⟩ stays).1 (Workspace.pointsAt_iff.mpr pointed)
    (fun points => moved (Workspace.pointsAt_iff.mp points))

end EidolonData
