import EidolonData.Invariants.People
import EidolonData.Invariants.ProfileIds

/-!
# The voices along a run

Every stored observation was added by one call of the run, stays as long as
its Person, and an unused profile id is used only once it is drawn.
-/

namespace EidolonData

open Relational

variable {sdk : Sdk}

theorem replay_snoc (sdk : Sdk) (calls : List Call) (call : Call) (db : Database) :
    replay sdk (calls ++ [call]) db = call.step sdk (replay sdk calls db) := by
  rw [replay_append]
  rfl

section Observations

structure CandidateVoiceObservationRow.AddedAt (sdk : Sdk) (first : List Call) (call : Call)
    (row : CandidateVoiceObservationRow) : Prop where
  added : ObservationAdded sdk call.env (replay sdk first .empty).tables row call.command
  unstored : row ∉ (replay sdk first .empty).tables.people.candidateVoiceObservations.rows
  stored : row ∈
    (replay sdk (first ++ [call]) .empty).tables.people.candidateVoiceObservations.rows

theorem observation_added (sdk : Sdk) (calls : List Call) :
    ∀ row ∈ (replay sdk calls .empty).tables.people.candidateVoiceObservations.rows,
      ∃ first call rest, calls = first ++ call :: rest ∧ row.AddedAt sdk first call := by
  induction calls using List.reverseRecOn with
  | nil =>
      intro row member
      cases member
  | append_singleton calls call induction =>
      have earlier : ∀ row ∈
          (replay sdk calls .empty).tables.people.candidateVoiceObservations.rows,
          ∃ first adding rest, calls ++ [call] = first ++ adding :: rest ∧
            row.AddedAt sdk first adding := by
        intro row member
        obtain ⟨first, adding, rest, split, added⟩ := induction row member
        exact ⟨first, adding, rest ++ [call], by rw [split, List.append_assoc]; rfl, added⟩
      rcases call.step_people _ (peopleSound_replay sdk calls) with same | stepped
      · rw [replay_snoc, same]
        exact earlier
      · rw [← replay_snoc] at stepped
        rcases stepped.moved.voices.observations with fewer | ⟨row, fresh, added, inserted⟩
        · exact fun row member => earlier row (fewer row member)
        · intro other member
          have inserting := member
          rw [inserted] at inserting
          rcases Table.mem_insert inserting with rfl | old
          · refine ⟨calls, call, [], rfl, added, ?_, member⟩
            intro stored
            have found := (Table.mem_rows_iff _ _).mp stored
            exact absurd (fresh.symm.trans found) (by simp)
          · exact earlier other old

theorem replay_observation_stays {row : CandidateVoiceObservationRow} (calls : List Call)
    (db : Database) (sound : db.tables.PeopleSound sdk)
    (lasts : PersonLasts sdk row.personId calls db)
    (stored : row ∈ db.tables.people.candidateVoiceObservations.rows) :
    row ∈ (replay sdk calls db).tables.people.candidateVoiceObservations.rows := by
  induction calls generalizing db with
  | nil => exact stored
  | cons call calls induction =>
      refine induction (call.step sdk db) (call.step_sound db sound) lasts.step ?_
      rcases call.step_people db sound with same | stepped
      · rw [same]
        exact stored
      · obtain ⟨person, found⟩ :=
          Option.isSome_iff_exists.mp (lasts.step [] List.nil_prefix)
        exact stepped.moved.voices.observation_stays stored (Table.has_of_get? found)

end Observations

section Profiles

variable {profileId : String}

theorem replay_unused (calls : List Call) (db : Database) (sound : db.tables.PeopleSound sdk)
    (undrawn : ∀ call ∈ calls, call.command.drawnProfile call.env ≠ some profileId)
    {ownerId personId : String} (unused : ¬ db.tables.people.Uses profileId ownerId personId) :
    ¬ (replay sdk calls db).tables.people.Uses profileId ownerId personId := by
  induction calls generalizing db with
  | nil => exact unused
  | cons call calls induction =>
      refine induction (call.step sdk db) (call.step_sound db sound)
        (fun later member => undrawn later (List.mem_cons_of_mem _ member)) ?_
      rcases call.step_people db sound with same | stepped
      · rw [same]
        exact unused
      · intro uses
        rcases stepped.moved.voices.uses uses with before | ⟨drawn, -⟩
        · exact unused before
        · exact undrawn call List.mem_cons_self drawn

end Profiles

end EidolonData
