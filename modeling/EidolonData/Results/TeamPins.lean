import EidolonData.Invariants.Teams

/-!
# A run of a team is pinned to what it started with

Every reply is rebuilt from the start and from its own revision, neither of
which a later command changes.
-/

namespace EidolonData

open Relational

section Outcome

variable {sdk : Sdk} {ownerId hostId teamId sessionId : String} {teams teams' : Teams}
  {reply : TeamReply}

structure Pinned (sdk : Sdk) (ownerId sessionId : String) (saved : TeamRevision)
    (teams : Teams) : Prop where
  start : ∃ start, teams.teamStarts.get? (ownerId, sessionId) = some start ∧
    start.teamId = saved.teamId ∧ start.revision = saved.revision
  stored : ∃ row, teams.teamRevisions.get? (ownerId, saved.teamId, saved.revision) = some row ∧
    sdk.validateTeamConfiguration row.configuration = .ok saved.configuration

theorem TeamMade.pinned {revision : Int}
    (made : TeamMade sdk ownerId teams (.reserveStart hostId teamId revision sessionId) reply
      teams') :
    ∃ saved, reply = .revision saved ∧ saved.teamId = teamId ∧
      Pinned sdk ownerId sessionId saved teams' := by
  cases made with
  | rejoined found usable reserved previous same pinned loaded taken revisions starts =>
      refine ⟨_, rfl, rfl, ⟨_, starts ▸ previous, same.1, same.2.1⟩, ⟨_, ?_, loaded⟩⟩
      rw [revisions]
      exact pinned
  | reserved found usable reserved free pinned loaded taken revisions started =>
      refine ⟨_, rfl, rfl, ⟨_, started.self, rfl, rfl⟩, ⟨_, ?_, loaded⟩⟩
      rw [revisions]
      exact pinned

theorem Pinned.mono {saved : TeamRevision} (pinned : Pinned sdk ownerId sessionId saved teams)
    (lasts : teams.Lasts teams') : Pinned sdk ownerId sessionId saved teams' := by
  obtain ⟨⟨start, found, of, at'⟩, row, stored, loaded⟩ := pinned
  obtain ⟨start', found', of', at'', -, -⟩ := lasts.start _ start found
  exact ⟨⟨start', found', of'.trans of, at''.trans at'⟩, row, lasts.revision _ row stored, loaded⟩

def Shown (ownerId sessionId : String) (snapshot : TeamStartSnapshot) (teams : Teams) : Prop :=
  ∃ start, teams.teamStarts.get? (ownerId, sessionId) = some start ∧
    start.teamId = snapshot.teamId ∧ start.revision = snapshot.revision ∧
    (snapshot.selection = none ∨ snapshot.selection = start.selection)

theorem TeamMade.shows {offered : Option CoordinationSelection}
    (made : TeamMade sdk ownerId teams (.startSnapshot hostId teamId sessionId offered) reply
      teams') :
    ∃ snapshot, reply = .snapshot snapshot ∧ snapshot.teamId = teamId ∧
      Shown ownerId sessionId snapshot teams' := by
  cases made with
  | shown previous same accepted => exact ⟨_, rfl, rfl, _, previous, same, rfl, Or.inr rfl⟩
  | selected previous same running unset resolves unchanged revisions frozen =>
      have row := frozen.over previous rfl (ownerId, sessionId)
      rw [if_pos rfl] at row
      exact ⟨_, rfl, rfl, _, row, same, rfl, Or.inr rfl⟩

theorem Shown.mono {snapshot : TeamStartSnapshot} (shown : Shown ownerId sessionId snapshot teams)
    (lasts : teams.Lasts teams') : Shown ownerId sessionId snapshot teams' := by
  obtain ⟨start, found, of, at', chosen⟩ := shown
  obtain ⟨start', found', of', at'', -, kept⟩ := lasts.start _ start found
  refine ⟨start', found', of'.trans of, at''.trans at', ?_⟩
  cases selected : snapshot.selection with
  | none => exact Or.inl rfl
  | some document =>
      rw [selected] at chosen
      rcases chosen with unset | same
      · cases unset
      · have stays := kept (by simp [← same])
        exact Or.inr (same.trans stays.symm)

end Outcome

variable {ι : Type} [DecidableEq ι]

end EidolonData
