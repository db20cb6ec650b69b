import EidolonData.Invariants.Teams

/-!
# Runs of one team exclude each other
-/

namespace EidolonData

open Relational

def Teams.OpenRun (teams : Teams) (ownerId teamId sessionId : String) : Prop :=
  ∃ start, teams.teamStarts.get? (ownerId, sessionId) = some start ∧
    start.teamId = teamId ∧ start.closed = false

variable {ι : Type} [DecidableEq ι]

theorem openRun_iff_active (sdk : Sdk) (calls : ι → Call) (schedule : List (Turn ι))
    (ownerId teamId sessionId : String) :
    (teamsAfter sdk calls schedule).OpenRun ownerId teamId sessionId ↔
      ∃ team, (teamsAfter sdk calls schedule).teams.get? (ownerId, teamId) = some team ∧
        team.activeSessionId = some sessionId := by
  have exclusive := teamsAfter_exclusive sdk calls schedule
  constructor
  · rintro ⟨start, found, rfl, running⟩
    exact exclusive.held ownerId sessionId start found running
  · rintro ⟨team, found, active⟩
    exact exclusive.named ownerId teamId team sessionId found active

/-- Whatever the clients do in between, a team has at most one open run, the one
its row names; a deleted team has none, and a start that was closed stays
closed, with its team. -/
theorem team_runs_exclude_each_other (sdk : Sdk) (calls : ι → Call)
    (first second : List (Turn ι)) (ownerId teamId sessionId : String) :
    let teams := teamsAfter sdk calls first
    let later := teamsAfter sdk calls (first ++ second)
    (∀ other, teams.OpenRun ownerId teamId sessionId → teams.OpenRun ownerId teamId other →
      other = sessionId) ∧
    (teams.OpenRun ownerId teamId sessionId ↔
      ∃ team, teams.teams.get? (ownerId, teamId) = some team ∧
        team.activeSessionId = some sessionId) ∧
    (∀ team, teams.teams.get? (ownerId, teamId) = some team → team.deleted = true →
      ¬ teams.OpenRun ownerId teamId sessionId) ∧
    (∀ start, teams.teamStarts.get? (ownerId, sessionId) = some start →
      ∃ start', later.teamStarts.get? (ownerId, sessionId) = some start' ∧
        start'.teamId = start.teamId ∧ (start.closed = true → start'.closed = true)) := by
  intro teams later
  have active : ∀ session, teams.OpenRun ownerId teamId session ↔
      ∃ team, teams.teams.get? (ownerId, teamId) = some team ∧
        team.activeSessionId = some session :=
    fun session => openRun_iff_active sdk calls first ownerId teamId session
  refine ⟨?_, active sessionId, ?_, ?_⟩
  · intro other one two
    obtain ⟨team, found, named⟩ := (active sessionId).mp one
    obtain ⟨team', found', named'⟩ := (active other).mp two
    rw [found] at found'
    cases found'
    rw [named] at named'
    cases named'
    rfl
  · intro team found deleted opened
    obtain ⟨team', found', named⟩ := (active sessionId).mp opened
    rw [found] at found'
    cases found'
    rw [(teamsAfter_exclusive sdk calls first).idle ownerId teamId team found deleted] at named
    cases named
  · intro start found
    obtain ⟨start', found', same, -, closed, -⟩ :=
      (teamsAfter_lasts sdk calls first second).start _ _ found
    exact ⟨start', found', same, fun ended => (closed ended).1⟩

end EidolonData
