import EidolonData.Invariants.Teams

/-!
# Team revisions are gapless and immutable

A save is a create, an update or a replay.  Whichever it was, its revision is
stored with its configuration from then on, and the same save finds it again.
-/

namespace EidolonData

open Relational

def TeamConfiguration.Loads (sdk : Sdk) (configuration : TeamConfiguration) : Prop :=
  sdk.validateTeamConfiguration configuration.document = .ok configuration

section Outcome

variable {sdk : Sdk} {ownerId hostId teamId : String} {expectedRevision : Int}
  {configuration : TeamConfiguration} {teams teams' : Teams} {reply : TeamReply}

/-- What an accepted save leaves behind. -/
structure Saved (sdk : Sdk) (ownerId hostId teamId : String) (expectedRevision : Int)
    (configuration : TeamConfiguration) (teams : Teams) : Prop where
  allowed : SaveAllowed sdk hostId teamId expectedRevision
  team : ∃ team, teams.teams.get? (ownerId, teamId) = some team ∧ team.hostId = hostId
  stored : ∃ row, teams.teamRevisions.get? (ownerId, teamId, expectedRevision + 1) = some row ∧
    sdk.validateTeamConfiguration row.configuration = .ok configuration

theorem TeamMade.saved (made : TeamMade sdk ownerId teams
      (.save hostId teamId expectedRevision configuration) reply teams')
    (loads : configuration.Loads sdk) :
    reply = .revision ⟨teamId, expectedRevision + 1, configuration⟩ ∧
      Saved sdk ownerId hostId teamId expectedRevision configuration teams' := by
  cases made with
  | replayed allowed found usable stored loaded =>
      exact ⟨rfl, allowed, ⟨_, found, usable.1⟩, ⟨_, stored, loaded⟩⟩
  | created allowed free fresh first saved starts =>
      exact ⟨rfl, allowed, ⟨_, first.self, rfl⟩, ⟨_, saved.self, loads⟩⟩
  | advanced allowed found usable current fresh next saved starts =>
      have row := next.over found rfl (ownerId, teamId)
      rw [if_pos rfl] at row
      exact ⟨rfl, allowed, ⟨_, row, usable.1⟩, ⟨_, saved.self, loads⟩⟩

theorem Saved.mono (saved : Saved sdk ownerId hostId teamId expectedRevision configuration teams)
    (lasts : teams.Lasts teams') :
    Saved sdk ownerId hostId teamId expectedRevision configuration teams' := by
  obtain ⟨allowed, ⟨team, found, host⟩, row, stored, loaded⟩ := saved
  obtain ⟨team', found', host', -, -⟩ := lasts.team _ team found
  exact ⟨allowed, ⟨team', found', host'.trans host⟩, row, lasts.revision _ row stored, loaded⟩

theorem TeamMade.save_same {other : TeamConfiguration} {hostId' : String}
    (saved : Saved sdk ownerId hostId teamId expectedRevision configuration teams)
    (made : TeamMade sdk ownerId teams (.save hostId' teamId expectedRevision other) reply teams') :
    other = configuration := by
  obtain ⟨row, stored, loaded⟩ := saved.stored
  cases made with
  | replayed allowed found usable stored' loaded' =>
      rw [stored] at stored'
      cases stored'
      rw [loaded] at loaded'
      cases loaded'
      rfl
  | created allowed free fresh first saved starts => cases fresh.symm.trans stored
  | advanced allowed found usable current fresh next saved starts =>
      rw [fresh] at stored
      cases stored

theorem TeamMade.save_kept {team : TeamRow}
    (made : TeamMade sdk ownerId teams (.save hostId teamId expectedRevision configuration) reply
      teams')
    (found : teams.teams.get? (ownerId, teamId) = some team) : team.deleted = false := by
  cases made with
  | replayed allowed found' usable stored loaded =>
      rw [found] at found'
      cases found'
      exact usable.2
  | created allowed free fresh first saved starts =>
      rw [free] at found
      cases found
  | advanced allowed found' usable current fresh next saved starts =>
      rw [found] at found'
      cases found'
      exact usable.2

end Outcome

/-- The same save, for an active Owner and a team that is not deleted, answers
from the stored revision. -/
theorem saveTeam_replays {sdk : Sdk} {ownerId hostId teamId : String} {expectedRevision : Int}
    {configuration : TeamConfiguration} {t : Tables} {owner : OwnerRow}
    (saved : Saved sdk ownerId hostId teamId expectedRevision configuration t.teams)
    (stored : t.workspace.owners.get? ownerId = some owner) (active : owner.status = .active)
    (kept : ∀ team, t.teams.teams.get? (ownerId, teamId) = some team → team.deleted = false) :
    (saveTeam sdk ownerId hostId teamId expectedRevision configuration).run t =
      .ok (⟨teamId, expectedRevision + 1, configuration⟩, t) := by
  obtain ⟨⟨notNegative, ⟨named, short⟩, valid⟩, ⟨team, found, rfl⟩, row, pinned, loaded⟩ := saved
  have notLong : ¬ (team.hostId = "" ∨ 128 < team.hostId.length) := by
    rintro (empty | long)
    · exact named empty
    · omega
  have usable : ¬ (decide (team.hostId ≠ team.hostId) || team.deleted) = true := by
    simp [kept team found]
  have counted : ¬ expectedRevision < 0 := by omega
  simp only [saveTeam, getTeam, getTeamRevision, validated, Tx.run_refuseIf_bind, if_neg counted,
    if_neg notLong, valid, Tx.lift, Tx.run_done_bind, Tx.run_attempt_bind, stored, Option.any_some,
    active, decide_true, if_true, Tx.run_read_bind, found, pinned]
  rw [if_neg usable]
  simp only [loaded, Tx.run_done_bind, Tx.run_refuseIf_bind, ne_eq, not_true,
    if_false, Tx.pure_eq, Tx.run_done]

variable {ι : Type} [DecidableEq ι]

theorem saved_of_replied {sdk : Sdk} {calls : ι → Call} {schedule : List (Turn ι)} {client : ι}
    {ownerId hostId teamId : String} {expectedRevision : Int} {configuration : TeamConfiguration}
    {reply : TeamReply}
    (called : (calls client).command =
      .saveTeam ownerId hostId teamId expectedRevision configuration)
    (loads : configuration.Loads sdk)
    (replied : (playCalls sdk calls schedule).reply? client = some reply) :
    reply = .revision ⟨teamId, expectedRevision + 1, configuration⟩ ∧
      Saved sdk ownerId hostId teamId expectedRevision configuration
        (teamsAfter sdk calls schedule) := by
  obtain ⟨before, after, onTeams, lasts⟩ := playCalls_made replied
  obtain ⟨same, saved⟩ := (onTeams.made ownerId _ called).saved loads
  exact ⟨same, saved.mono lasts⟩

/-- For any calls at once and any two moments of their schedule: the stored
revisions of a team are those up to its own and never change, what a save
returned stays stored and is returned again, no other configuration is
accepted for it, and a deleted team takes no save. -/
theorem team_revisions_gapless_and_immutable (sdk : Sdk) (calls : ι → Call)
    (loads : ∀ client ownerId hostId teamId expectedRevision configuration,
      (calls client).command = .saveTeam ownerId hostId teamId expectedRevision configuration →
        configuration.Loads sdk)
    (first second : List (Turn ι)) (ownerId teamId : String) :
    let teams := teamsAfter sdk calls first
    let later := (playCalls sdk calls (first ++ second)).committed
    (∀ revision, (∃ saved, teams.teamRevisions.get? (ownerId, teamId, revision) = some saved) ↔
      ∃ team, teams.teams.get? (ownerId, teamId) = some team ∧ 1 ≤ revision ∧
        revision ≤ team.revision) ∧
    (∀ revision saved, teams.teamRevisions.get? (ownerId, teamId, revision) = some saved →
      later.val.teams.teamRevisions.get? (ownerId, teamId, revision) = some saved) ∧
    (∀ client hostId expectedRevision configuration saved,
      (calls client).command = .saveTeam ownerId hostId teamId expectedRevision configuration →
      (playCalls sdk calls first).reply? client = some (.revision saved) →
        saved = ⟨teamId, expectedRevision + 1, configuration⟩ ∧
        (∃ row, later.val.teams.teamRevisions.get? (ownerId, teamId, saved.revision) = some row ∧
          sdk.validateTeamConfiguration row.configuration = .ok saved.configuration) ∧
        (∀ owner, later.val.workspace.owners.get? ownerId = some owner → owner.status = .active →
          (∀ team, later.val.teams.teams.get? (ownerId, teamId) = some team →
            team.deleted = false) →
          Database.transact later
            (saveTeam sdk ownerId hostId teamId expectedRevision configuration) =
              .ok (saved, later)) ∧
        (∀ hostId' other, other ≠ configuration →
          Database.Refuses later (saveTeam sdk ownerId hostId' teamId expectedRevision other)) ∧
        ∀ rival hostId' other,
          (calls rival).command = .saveTeam ownerId hostId' teamId expectedRevision other →
          other ≠ configuration → (playCalls sdk calls (first ++ second)).reply? rival = none) ∧
    (∀ team, teams.teams.get? (ownerId, teamId) = some team → team.deleted = true →
      ∀ hostId expectedRevision configuration,
        Database.Refuses later (saveTeam sdk ownerId hostId teamId expectedRevision configuration) ∧
        ∀ client, (calls client).command =
            .saveTeam ownerId hostId teamId expectedRevision configuration →
          (playCalls sdk calls first).reply? client = none →
            (playCalls sdk calls (first ++ second)).reply? client = none) := by
  intro teams later
  have numbered := teamsAfter_numbered sdk calls first
  have lasts := teamsAfter_lasts sdk calls first second
  refine ⟨?_, fun revision => lasts.revision (ownerId, teamId, revision), ?_, ?_⟩
  · intro revision
    constructor
    · rintro ⟨saved, stored⟩
      exact numbered.counted ownerId teamId revision saved stored
    · rintro ⟨team, found, positive, bounded⟩
      exact numbered.stored ownerId teamId team revision found positive bounded
  · intro client hostId expectedRevision configuration saved called replied
    obtain ⟨same, before⟩ := saved_of_replied called (loads _ _ _ _ _ _ called) replied
    cases same
    have after := before.mono lasts
    refine ⟨rfl, after.stored, ?_, ?_, ?_⟩
    · intro owner stored active kept
      exact Database.transact_ok_iff.mpr (saveTeam_replays after stored active kept)
    · intro hostId' other different
      apply Database.refuses_of_onward (saveTeam_onward sdk ownerId hostId' teamId _ other)
      intro reply db' made
      exact different (TeamMade.save_same after made)
    · intro rival hostId' other called' different
      cases replied' : (playCalls sdk calls (first ++ second)).reply? rival with
      | none => rfl
      | some reply =>
          obtain ⟨row, stored, loaded⟩ := after.stored
          obtain ⟨-, again⟩ := saved_of_replied called' (loads _ _ _ _ _ _ called') replied'
          obtain ⟨row', stored', loaded'⟩ := again.stored
          have sameRow : row' = row := Option.some.inj (stored'.symm.trans stored)
          rw [sameRow, loaded] at loaded'
          exact absurd (Except.ok.inj loaded').symm different
  · intro team found deleted hostId expectedRevision configuration
    obtain ⟨team', found', -, -, still⟩ := lasts.team _ team found
    constructor
    · apply Database.refuses_of_onward (saveTeam_onward sdk ownerId hostId teamId _ configuration)
      intro reply db' made
      have kept := made.save_kept found'
      rw [still deleted] at kept
      cases kept
    · intro client called pending
      cases replied : (playCalls sdk calls (first ++ second)).reply? client with
      | none => rfl
      | some reply =>
          obtain ⟨before, after, onTeams, since⟩ := playCalls_made_between pending replied
          obtain ⟨team', found', -, -, still⟩ := since.team _ team found
          have kept := (onTeams.made ownerId _ called).save_kept found'
          rw [still deleted] at kept
          cases kept

/-- An Owner, and two saves of its team. -/
def savingCalls (client : Fin 3) : Call :=
  { env := { uuid := fun site => .ofNat (16 * client + site), now := client }
    command :=
      match client with
      | 0 => .createOwner "owner" "" "person" none none
      | 1 => .saveTeam "owner" "host" "team" 0 ⟨[], [("v", .int 1)]⟩
      | 2 => .saveTeam "owner" "host" "team" 1 ⟨[], [("v", .int 2)]⟩ }

/-- One after another. -/
def savingSchedule : List (Turn (Fin 3)) :=
  List.replicate 12 (.step 0) ++ List.replicate 12 (.step 1)

theorem savingCalls_loads (client : Fin 3) (ownerId hostId teamId : String)
    (expectedRevision : Int) (configuration : TeamConfiguration)
    (called : (savingCalls client).command =
      .saveTeam ownerId hostId teamId expectedRevision configuration) :
    configuration.Loads .plain := by
  match client with
  | 0 => cases called
  | 1 =>
      cases called
      rfl
  | 2 =>
      cases called
      rfl

/-- The first save is answered again after the second one. -/
theorem first_save_answered_again :
    let later := (playCalls .plain savingCalls
      (savingSchedule ++ List.replicate 12 (.step 2))).committed
    (∃ saved, (playCalls .plain savingCalls
        (savingSchedule ++ List.replicate 12 (.step 2))).reply? 2 = some (.revision saved) ∧
      saved.revision = 2) ∧
    Database.transact later (saveTeam .plain "owner" "host" "team" 0 ⟨[], [("v", .int 1)]⟩) =
      .ok (⟨"team", 1, ⟨[], [("v", .int 1)]⟩⟩, later) := by
  obtain ⟨-, -, replays, -⟩ := team_revisions_gapless_and_immutable .plain savingCalls
    savingCalls_loads savingSchedule (List.replicate 12 (.step 2)) "owner" "team"
  obtain ⟨-, -, again, -⟩ :=
    replays 1 "host" 0 ⟨[], [("v", .int 1)]⟩ ⟨"team", 1, ⟨[], [("v", .int 1)]⟩⟩
    rfl (by decide +kernel)
  have owned : ((playCalls .plain savingCalls (savingSchedule ++ List.replicate 12
      (.step 2))).committed.val.workspace.owners.get? "owner").map (fun row => row.status) =
        some .active := by
    decide +kernel
  have kept : ((playCalls .plain savingCalls (savingSchedule ++ List.replicate 12
      (.step 2))).committed.val.teams.teams.get? ("owner", "team")).map (fun row => row.deleted) =
        some false := by
    decide +kernel
  obtain ⟨owner, stored, active⟩ := Option.map_eq_some_iff.mp owned
  obtain ⟨team, found, undeleted⟩ := Option.map_eq_some_iff.mp kept
  refine ⟨⟨⟨"team", 2, ⟨[], [("v", .int 2)]⟩⟩, by decide +kernel, rfl⟩, ?_⟩
  apply again owner stored active
  intro team' found'
  rw [found] at found'
  cases found'
  exact undeleted

end EidolonData
