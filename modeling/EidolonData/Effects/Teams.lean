import EidolonData.Effects.TeamFrames

/-!
# What the team commands do

One outcome for each way a command on a team can end.  Only the check of an
active Owner is made before the writer lock is held, so each outcome is the
same whatever ran in between.
-/

namespace EidolonData

open Relational

/-- The checks of a save on its arguments alone. -/
structure SaveAllowed (sdk : Sdk) (hostId teamId : String) (expectedRevision : Int) : Prop where
  revision : 0 ≤ expectedRevision
  host : hostId ≠ "" ∧ hostId.length ≤ 128
  valid : sdk.validateTeamRevision teamId (expectedRevision + 1) = .ok ()

/-- A selection is one that the saved configuration of a revision resolves to
for the session. -/
def Teams.Resolves (sdk : Sdk) (teams : Teams) (ownerId teamId : String) (revision : Int)
    (sessionId : String) (selection : CoordinationSelection) : Prop :=
  ∃ saved configuration, teams.teamRevisions.get? (ownerId, teamId, revision) = some saved ∧
    sdk.validateTeamConfiguration saved.configuration = .ok configuration ∧
    sdk.resolveTeam configuration sessionId
      (selection.devices.map (fun device => (device.deviceInstanceId, device)))
      (selection.members.map (fun member =>
        (member.outputDevice.deviceInstanceId, member.companionId))) = .ok selection

/-- `TeamStartSnapshot(...)` of a stored start. -/
def TeamStartRow.snapshot (row : TeamStartRow) (teamId sessionId : String) : TeamStartSnapshot :=
  { teamId := teamId
    sessionId := sessionId
    revision := row.revision
    closed := row.closed
    selection := row.selection
    terminalStatus := row.terminalStatus }

inductive TeamMade (sdk : Sdk) (ownerId : String) (teams : Teams) :
    TeamCommand → TeamReply → Teams → Prop where
  /-- The revision is stored already, with this configuration. -/
  | replayed {hostId teamId : String} {expectedRevision : Int} {configuration : TeamConfiguration}
      {team : TeamRow} {saved : TeamRevisionRow}
      (allowed : SaveAllowed sdk hostId teamId expectedRevision)
      (found : teams.teams.get? (ownerId, teamId) = some team)
      (usable : team.hostId = hostId ∧ team.deleted = false)
      (stored : teams.teamRevisions.get? (ownerId, teamId, expectedRevision + 1) = some saved)
      (loaded : sdk.validateTeamConfiguration saved.configuration = .ok configuration) :
      TeamMade sdk ownerId teams (.save hostId teamId expectedRevision configuration)
        (.revision ⟨teamId, expectedRevision + 1, configuration⟩) teams
  | created {hostId teamId : String} {configuration : TeamConfiguration} {teams' : Teams}
      (allowed : SaveAllowed sdk hostId teamId 0)
      (free : teams.teams.get? (ownerId, teamId) = none)
      (fresh : teams.teamRevisions.get? (ownerId, teamId, 1) = none)
      (first : Table.Stores teams.teams teams'.teams
        { ownerId := ownerId, teamId := teamId, hostId := hostId, revision := 1 })
      (saved : Table.Stores teams.teamRevisions teams'.teamRevisions
        { ownerId := ownerId, teamId := teamId, revision := 1
          configuration := configuration.document })
      (starts : teams'.teamStarts = teams.teamStarts) :
      TeamMade sdk ownerId teams (.save hostId teamId 0 configuration)
        (.revision ⟨teamId, 1, configuration⟩) teams'
  | advanced {hostId teamId : String} {expectedRevision : Int} {configuration : TeamConfiguration}
      {team : TeamRow} {teams' : Teams}
      (allowed : SaveAllowed sdk hostId teamId expectedRevision)
      (found : teams.teams.get? (ownerId, teamId) = some team)
      (usable : team.hostId = hostId ∧ team.deleted = false)
      (current : team.revision = expectedRevision)
      (fresh : teams.teamRevisions.get? (ownerId, teamId, expectedRevision + 1) = none)
      (next : Table.Stores teams.teams teams'.teams
        { team with revision := expectedRevision + 1 })
      (saved : Table.Stores teams.teamRevisions teams'.teamRevisions
        { ownerId := ownerId, teamId := teamId, revision := expectedRevision + 1
          configuration := configuration.document })
      (starts : teams'.teamStarts = teams.teamStarts) :
      TeamMade sdk ownerId teams (.save hostId teamId expectedRevision configuration)
        (.revision ⟨teamId, expectedRevision + 1, configuration⟩) teams'
  /-- A reservation finds the start it made before. -/
  | rejoined {hostId teamId sessionId : String} {revision : Int} {team : TeamRow}
      {start : TeamStartRow} {saved : TeamRevisionRow} {configuration : TeamConfiguration}
      {teams' : Teams}
      (found : teams.teams.get? (ownerId, teamId) = some team)
      (usable : team.hostId = hostId ∧ team.deleted = false)
      (idle : team.activeSessionId = some sessionId ∨
        (team.activeSessionId = none ∧ team.revision = revision))
      (previous : teams.teamStarts.get? (ownerId, sessionId) = some start)
      (same : start.teamId = teamId ∧ start.revision = revision ∧ start.closed = false)
      (pinned : teams.teamRevisions.get? (ownerId, teamId, revision) = some saved)
      (loaded : sdk.validateTeamConfiguration saved.configuration = .ok configuration)
      (held : Table.Stores teams.teams teams'.teams { team with activeSessionId := some sessionId })
      (revisions : teams'.teamRevisions = teams.teamRevisions)
      (starts : teams'.teamStarts = teams.teamStarts) :
      TeamMade sdk ownerId teams (.reserveStart hostId teamId revision sessionId)
        (.revision ⟨teamId, revision, configuration⟩) teams'
  | reserved {hostId teamId sessionId : String} {revision : Int} {team : TeamRow}
      {saved : TeamRevisionRow} {configuration : TeamConfiguration} {teams' : Teams}
      (found : teams.teams.get? (ownerId, teamId) = some team)
      (usable : team.hostId = hostId ∧ team.deleted = false)
      (idle : team.activeSessionId = some sessionId ∨
        (team.activeSessionId = none ∧ team.revision = revision))
      (free : teams.teamStarts.get? (ownerId, sessionId) = none)
      (pinned : teams.teamRevisions.get? (ownerId, teamId, revision) = some saved)
      (loaded : sdk.validateTeamConfiguration saved.configuration = .ok configuration)
      (held : Table.Stores teams.teams teams'.teams { team with activeSessionId := some sessionId })
      (revisions : teams'.teamRevisions = teams.teamRevisions)
      (started : Table.Stores teams.teamStarts teams'.teamStarts
        { ownerId := ownerId, sessionId := sessionId, teamId := teamId, revision := revision }) :
      TeamMade sdk ownerId teams (.reserveStart hostId teamId revision sessionId)
        (.revision ⟨teamId, revision, configuration⟩) teams'
  /-- A snapshot shows the start as it is: nothing is offered, or a selection
  is accepted again. -/
  | shown {hostId teamId sessionId : String} {offered : Option CoordinationSelection}
      {start : TeamStartRow}
      (previous : teams.teamStarts.get? (ownerId, sessionId) = some start)
      (same : start.teamId = teamId)
      (accepted : ∀ selection, offered = some selection → start.closed = false ∧
        start.selection.isSome ∧
          teams.Resolves sdk ownerId teamId start.revision sessionId selection) :
      TeamMade sdk ownerId teams (.startSnapshot hostId teamId sessionId offered)
        (.snapshot (start.snapshot teamId sessionId)) teams
  | selected {hostId teamId sessionId : String} {selection : CoordinationSelection}
      {start : TeamStartRow} {teams' : Teams}
      (previous : teams.teamStarts.get? (ownerId, sessionId) = some start)
      (same : start.teamId = teamId)
      (running : start.closed = false)
      (unset : start.selection = none)
      (resolves : teams.Resolves sdk ownerId teamId start.revision sessionId selection)
      (unchanged : teams'.teams = teams.teams)
      (revisions : teams'.teamRevisions = teams.teamRevisions)
      (frozen : Table.Stores teams.teamStarts teams'.teamStarts
        { start with selection := some selection.document }) :
      TeamMade sdk ownerId teams (.startSnapshot hostId teamId sessionId (some selection))
        (.snapshot ({ start with selection := some selection.document }.snapshot teamId sessionId))
        teams'
  | closed {hostId teamId sessionId : String} {terminalStatus : Option RoleGroupStatus}
      {team : TeamRow} {start : TeamStartRow} {teams' : Teams}
      (found : teams.teams.get? (ownerId, teamId) = some team)
      (previous : teams.teamStarts.get? (ownerId, sessionId) = some start)
      (same : start.teamId = teamId)
      (released : Table.Stores teams.teams teams'.teams
        { team with
          activeSessionId := team.activeSessionId.filter (fun active => active ≠ sessionId) })
      (revisions : teams'.teamRevisions = teams.teamRevisions)
      (ended : Table.Stores teams.teamStarts teams'.teamStarts
        { start with
          closed := true
          terminalStatus :=
            (terminalStatus.map (fun status => status.document)).or start.terminalStatus }) :
      TeamMade sdk ownerId teams (.confirmClosed hostId teamId sessionId terminalStatus) .nothing
        teams'
  | deleted {hostId teamId : String} {expectedRevision : Int} {team : TeamRow} {teams' : Teams}
      (found : teams.teams.get? (ownerId, teamId) = some team)
      (idle : team.activeSessionId = none)
      (removed : Table.Stores teams.teams teams'.teams { team with deleted := true })
      (revisions : teams'.teamRevisions = teams.teamRevisions)
      (starts : teams'.teamStarts = teams.teamStarts) :
      TeamMade sdk ownerId teams (.delete hostId teamId expectedRevision) .nothing teams'

section Sessions

variable (sdk : Sdk) (ownerId hostId teamId : String)

theorem updateTeam_stores {guard : TeamRow → Bool} {change : TeamRow → TeamRow} {refused : String}
    {keeps : ∀ row, key (change row) = key row} (t : Tables) :
    (updateTeam ownerId teamId guard change refused keeps).Ensures t (fun _ t' =>
      ∃ team, t.teams.teams.get? (ownerId, teamId) = some team ∧ guard team = true ∧
        Table.Stores t.teams.teams t'.teams.teams (change team) ∧
        t'.teams.teamRevisions = t.teams.teamRevisions ∧
        t'.teams.teamStarts = t.teams.teamStarts) := by
  simp only [updateTeam, Tx.ensures_attempt]
  intro t' updated
  split at updated
  · next passes =>
      obtain ⟨team, found, guarded⟩ := (Option.any_eq_true ..).mp passes
      cases updated
      exact ⟨team, found, guarded, Table.stores_modify found keeps, rfl, rfl⟩
  · cases updated

/-- The row of a team a save writes: its first, or the next of the expected revision. -/
def TeamWritten (teams teams' : Teams) (expectedRevision : Int) : Prop :=
  (expectedRevision = 0 ∧ teams.teams.get? (ownerId, teamId) = none ∧
    Table.Stores teams.teams teams'.teams
      { ownerId := ownerId, teamId := teamId, hostId := hostId, revision := 1 }) ∨
  ∃ team, teams.teams.get? (ownerId, teamId) = some team ∧
    (team.hostId = hostId ∧ team.deleted = false) ∧ team.revision = expectedRevision ∧
    Table.Stores teams.teams teams'.teams { team with revision := expectedRevision + 1 }

theorem advanceTeam_written (expectedRevision : Int) (t : Tables) :
    (advanceTeam ownerId hostId teamId expectedRevision).Ensures t (fun _ t' =>
      TeamWritten ownerId hostId teamId t.teams t'.teams expectedRevision ∧
        t'.teams.teamRevisions = t.teams.teamRevisions ∧
        t'.teams.teamStarts = t.teams.teamStarts) := by
  unfold advanceTeam
  split
  · next first =>
      simp only [getTeam, Tx.ensures_bind, Tx.ensures_read, Tx.ensures_refuseIf, ensures_insert]
      intro _ free
      exact ⟨Or.inl ⟨first, free, Table.stores_insert free⟩, rfl, rfl⟩
  · refine (updateTeam_stores ownerId teamId t).mono ?_
    rintro _ t' ⟨team, found, guarded, stores, revisions, starts⟩
    simp only [Bool.and_eq_true, decide_eq_true_eq, Bool.not_eq_true'] at guarded
    exact ⟨Or.inr ⟨team, found, guarded.1, guarded.2, stores⟩, revisions, starts⟩

theorem saveRevision_made {expectedRevision : Int}
    (allowed : SaveAllowed sdk hostId teamId expectedRevision)
    (configuration : TeamConfiguration) (t : Tables) :
    (saveRevision ownerId hostId teamId expectedRevision configuration).Ensures t
      (fun saved t' => TeamMade sdk ownerId t.teams
        (.save hostId teamId expectedRevision configuration) (.revision saved) t'.teams) := by
  simp only [saveRevision, Tx.ensures_bind, Tx.ensures_read, Tx.ensures_refuseIf]
  intro _
  refine (advanceTeam_written ownerId hostId teamId expectedRevision t).mono ?_
  rintro _ middle ⟨written, revisions, starts⟩
  simp only [ensures_insert, Tx.pure_eq, Tx.ensures_done]
  intro fresh
  have saved := Table.stores_insert fresh
  have same : middle.teams.teamRevisions.Stores = t.teams.teamRevisions.Stores := by rw [revisions]
  rw [same] at saved
  rw [revisions] at fresh
  rcases written with ⟨first, free, stores⟩ | ⟨team, found, usable, current, stores⟩
  · subst first
    exact .created allowed free fresh stores saved starts
  · exact .advanced allowed found usable current fresh stores saved starts

theorem saveTeam_onward (expectedRevision : Int) (configuration : TeamConfiguration) :
    (saveTeam sdk ownerId hostId teamId expectedRevision configuration).Onward (fun t saved t' =>
      TeamMade sdk ownerId t.teams (.save hostId teamId expectedRevision configuration)
        (.revision saved) t'.teams) := by
  simp only [saveTeam, Tx.onward_refuseIf_bind, onward_validated_bind, Tx.onward_attempt_bind]
  intro notNegative host _ valid t
  have allowed : SaveAllowed sdk hostId teamId expectedRevision :=
    { revision := by omega
      host := ⟨fun empty => host (Or.inl empty), by
        by_contra long
        exact host (Or.inr (by omega))⟩
      valid := valid }
  simp only [getTeam, getTeamRevision, Tx.ensures_bind, Tx.ensures_attempt, Tx.ensures_read,
    Tx.ensures_refuseIf]
  intro t' active usable
  have unchanged : t' = t := by
    split at active
    · cases active
      rfl
    · cases active
  subst unchanged
  split
  · next team saved found stored =>
      simp only [found, Option.any_some, Bool.or_eq_true, decide_eq_true_eq, not_or,
        Bool.not_eq_true] at usable
      simp only [Tx.ensures_bind, ensures_validated, Tx.ensures_refuseIf, Tx.pure_eq,
        Tx.ensures_done]
      intro configured loaded same
      have equal : configured = configuration := not_not.mp same
      subst equal
      exact .replayed allowed found ⟨not_not.mp usable.1, usable.2⟩ stored loaded
  · exact saveRevision_made sdk ownerId hostId teamId allowed configuration t'

theorem openStart_made {revision : Int} {sessionId : String} (t : Tables) :
    (openStart ownerId teamId revision sessionId).Ensures t (fun _ t' =>
      t'.teams.teams = t.teams.teams ∧ t'.teams.teamRevisions = t.teams.teamRevisions ∧
        ((∃ start, t.teams.teamStarts.get? (ownerId, sessionId) = some start ∧
            (start.teamId = teamId ∧ start.revision = revision ∧ start.closed = false) ∧
            t'.teams.teamStarts = t.teams.teamStarts) ∨
          (t.teams.teamStarts.get? (ownerId, sessionId) = none ∧
            Table.Stores t.teams.teamStarts t'.teams.teamStarts
              { ownerId := ownerId, sessionId := sessionId, teamId := teamId
                revision := revision }))) := by
  simp only [openStart, getTeamStart, Tx.ensures_bind, Tx.ensures_read]
  split
  · next start found =>
      simp only [Tx.ensures_bind, Tx.ensures_refuseIf]
      intro same running
      rw [not_or, not_not, not_not] at same
      exact ⟨trivial, trivial,
        Or.inl ⟨start, found, ⟨same.1, same.2, by simpa using running⟩, trivial⟩⟩
  · simp only [ensures_insert]
    intro free
    exact ⟨rfl, rfl, Or.inr ⟨free, Table.stores_insert free⟩⟩

theorem reserveStart_onward (revision : Int) (sessionId : String) :
    (reserveStart sdk ownerId hostId teamId revision sessionId).Onward (fun t saved t' =>
      TeamMade sdk ownerId t.teams (.reserveStart hostId teamId revision sessionId)
        (.revision saved) t'.teams) := by
  simp only [reserveStart, requireTeamOwner, Tx.bind_assoc, onward_validated_bind,
    onward_getOwner_bind, Tx.onward_refuseIf_bind]
  intro _ _ _ _
  simp only [updateTeam, Tx.onward_attempt_bind]
  intro t
  rw [Tx.ensures_bind]
  refine (updateTeam_stores ownerId teamId t).mono ?_
  rintro _ middle ⟨team, found, guarded, held, revisions, starts⟩
  rw [Tx.ensures_bind]
  refine (openStart_made ownerId teamId middle).mono ?_
  rintro _ t' ⟨sameTeams, sameRevisions, opened⟩
  simp only [getTeamRevision, loadTeamRevision, Tx.ensures_bind, Tx.ensures_read,
    Tx.ensures_require, ensures_validated, Tx.pure_eq, Tx.ensures_done]
  intro saved pinned configuration loaded _ _
  have savedKey := Table.key_of_get? pinned
  rw [sameRevisions, revisions] at pinned
  rw [← sameTeams] at held
  simp only [Bool.and_eq_true, Bool.or_eq_true, decide_eq_true_eq, Bool.not_eq_true'] at guarded
  obtain ⟨_, rfl, rfl⟩ := savedKey
  rcases opened with ⟨start, previous, same, starts'⟩ | ⟨free, started⟩
  · exact .rejoined found guarded.1 guarded.2 (starts ▸ previous) same pinned loaded held
      (sameRevisions.trans revisions) (starts'.trans starts)
  · exact .reserved found guarded.1 guarded.2 (starts ▸ free) pinned loaded held
      (sameRevisions.trans revisions) (starts ▸ started)

theorem confirmClosed_onward (sessionId : String) (terminalStatus : Option RoleGroupStatus) :
    (confirmClosed ownerId hostId teamId sessionId terminalStatus).Onward (fun t _ t' =>
      TeamMade sdk ownerId t.teams (.confirmClosed hostId teamId sessionId terminalStatus) .nothing
        t'.teams) := by
  simp only [confirmClosed, Tx.onward_refuseIf_bind, lockTeam, Tx.onward_modify_bind]
  intro _ t
  simp only [getTeam, Tx.ensures_bind, Tx.ensures_modify, Tx.ensures_read, Tx.ensures_refuseIf,
    Tx.ensures_attempt, id_eq]
  intro hosted middle ended
  split at ended
  · next passes =>
      obtain ⟨start, previous, same⟩ := (Option.any_eq_true ..).mp passes
      cases ended
      cases found : t.teams.teams.get? (ownerId, teamId) with
      | none => simp [found] at hosted
      | some team =>
          exact .closed found previous (by simpa using same) (Table.stores_modify found) rfl
            (Table.stores_modify previous)
  · cases ended

theorem deleteTeam_onward (expectedRevision : Int) :
    (deleteTeam ownerId hostId teamId expectedRevision).Onward (fun t _ t' =>
      TeamMade sdk ownerId t.teams (.delete hostId teamId expectedRevision) .nothing t'.teams) := by
  simp only [deleteTeam, requireTeamOwner, Tx.bind_assoc, onward_getOwner_bind,
    Tx.onward_refuseIf_bind]
  intro _ _ t
  refine (updateTeam_stores ownerId teamId t).mono ?_
  rintro _ t' ⟨team, found, guarded, removed, revisions, starts⟩
  simp only [Bool.and_eq_true, decide_eq_true_eq] at guarded
  exact .deleted found guarded.2 removed revisions starts

theorem freezeSelection_made {sessionId : String} {start : TeamStartRow} (t : Tables)
    (selection : CoordinationSelection) :
    (freezeSelection sdk ownerId teamId sessionId start selection).Ensures t (fun row t' =>
      start.closed = false ∧
        t.teams.Resolves sdk ownerId teamId start.revision sessionId selection ∧
        ((start.selection.isSome ∧ row = start ∧ t' = t) ∨
          (start.selection = none ∧
            row = { start with selection := some selection.document } ∧
            t'.teams.teams = t.teams.teams ∧ t'.teams.teamRevisions = t.teams.teamRevisions ∧
            t'.teams.teamStarts = t.teams.teamStarts.modify (ownerId, sessionId) (fun row =>
              { row with selection := some selection.document })))) := by
  simp only [freezeSelection, getTeamRevision, Tx.ensures_bind, Tx.ensures_refuseIf,
    Tx.ensures_read, Tx.ensures_require, ensures_validated, Tx.ensures_lift]
  intro running _ saved stored configuration loaded expected resolved same
  have equal : expected = selection := not_not.mp same
  subst equal
  have resolves : t.teams.Resolves sdk ownerId teamId start.revision sessionId expected :=
    ⟨saved, configuration, stored, loaded, resolved⟩
  have open' : start.closed = false := by simpa using running
  cases chosen : start.selection with
  | some document =>
      simp only [Tx.pure_eq, Tx.ensures_done]
      exact ⟨open', resolves, Or.inl ⟨rfl, trivial, trivial⟩⟩
  | none =>
      simp only [Tx.ensures_bind, Tx.ensures_modify, Tx.pure_eq, Tx.ensures_done]
      exact ⟨open', resolves, Or.inr ⟨trivial, trivial, rfl, rfl, rfl⟩⟩

theorem startSnapshot_onward (sessionId : String) (offered : Option CoordinationSelection) :
    (startSnapshot sdk ownerId hostId teamId sessionId offered).Onward (fun t start t' =>
      TeamMade sdk ownerId t.teams (.startSnapshot hostId teamId sessionId offered)
        (.snapshot start) t'.teams) := by
  simp only [startSnapshot, lockTeam, Tx.onward_modify_bind]
  intro t
  simp only [getTeam, getTeamStart, Tx.ensures_bind, Tx.ensures_modify, Tx.ensures_read,
    Tx.ensures_refuseIf, Tx.ensures_require, ensures_getOwner, id_eq]
  intro _ start owned
  obtain ⟨previous, same⟩ := (Option.filter_eq_some_iff ..).mp owned
  rw [decide_eq_true_eq] at same
  cases offered with
  | none =>
      simp only [Tx.ensures_bind, Tx.ensures_done, ensures_validated, Tx.pure_eq]
      intro _ _
      exact .shown previous same (by simp)
  | some selection =>
      rw [Tx.ensures_bind]
      refine (freezeSelection_made sdk ownerId teamId t selection).mono ?_
      simp only [Tx.ensures_bind, Tx.ensures_done, ensures_validated, Tx.pure_eq]
      rintro row t' ⟨running, resolves, ⟨chosen, rfl, rfl⟩ | ⟨unset, rfl, teams, revisions, starts⟩⟩
        _ _
      · apply TeamMade.shown previous same
        rintro _ ⟨⟩
        exact ⟨running, chosen, resolves⟩
      · apply TeamMade.selected previous same running unset resolves teams revisions
        rw [starts]
        exact Table.stores_modify previous

/-- A command on a team ends in one of its outcomes, from its first statement
that takes the writer lock on. -/
theorem TeamCommand.session_onward (command : TeamCommand) :
    (command.session sdk ownerId).Onward (fun t reply t' =>
      TeamMade sdk ownerId t.teams command reply t'.teams) := by
  cases command with
  | save hostId teamId expectedRevision configuration =>
      exact (saveTeam_onward sdk ownerId hostId teamId expectedRevision configuration).map
  | reserveStart hostId teamId revision sessionId =>
      exact (reserveStart_onward sdk ownerId hostId teamId revision sessionId).map
  | startSnapshot hostId teamId sessionId offered =>
      exact (startSnapshot_onward sdk ownerId hostId teamId sessionId offered).map
  | confirmClosed hostId teamId sessionId terminalStatus =>
      exact (confirmClosed_onward sdk ownerId hostId teamId sessionId terminalStatus).map
  | delete hostId teamId expectedRevision =>
      exact (deleteTeam_onward sdk ownerId hostId teamId expectedRevision).map

end Sessions

end EidolonData
