import EidolonData.Effects.Parts
import EidolonData.Effects.Teams

/-!
# Teams in every schedule of calls

The open run of a team is stored twice, as the pointer of the team and as the
flag of the start, and its revisions are counted beside the rows that hold
them.  Every outcome of a command keeps the copies in agreement, and takes
back none of what was saved, started, closed or selected.
-/

namespace EidolonData

open Relational

theorem Database.refuses_of_onward {α : Type} {db : Database} {command : Session α}
    {post : Tables → α → Tables → Prop} (onward : command.Onward post)
    (impossible : ∀ value (db' : Database), ¬ post db.tables value db'.tables) :
    db.Refuses command := by
  cases transacted : db.transact command with
  | error error => exact ⟨⟨error, transacted⟩, Database.after_of_error transacted⟩
  | ok finished =>
      obtain ⟨value, db'⟩ := finished
      have ran := Database.transact_ok_iff.mp transacted
      exact absurd (onward.runs db.tables value db'.tables ran) (impossible value db')

def Call.reply (sdk : Sdk) (call : Call) : Session TeamReply :=
  match call.command with
  | .writeTeam ownerId command => command.session sdk ownerId
  | command => do
      command.session sdk call.env
      return .nothing

/-- What a call does to the teams: the outcome of its command, or nothing. -/
structure Call.OnTeams (sdk : Sdk) (call : Call) (t : Tables) (reply : TeamReply) (t' : Tables) :
    Prop where
  made : ∀ ownerId command, call.command = .writeTeam ownerId command →
    TeamMade sdk ownerId t.teams command reply t'.teams
  other : (∀ ownerId command, call.command ≠ .writeTeam ownerId command) → t'.teams = t.teams

theorem Call.reply_onward (sdk : Sdk) (call : Call) :
    (call.reply sdk).Onward (call.OnTeams sdk) := by
  obtain ⟨env, command⟩ := call
  by_cases onTeam : ∃ ownerId team, command = .writeTeam ownerId team
  · obtain ⟨ownerId, team, rfl⟩ := onTeam
    refine (team.session_onward sdk ownerId).mono ?_
    intro t reply t' made
    constructor
    · rintro _ _ ⟨⟩
      exact made
    · intro other
      exact absurd rfl (other ownerId team)
  · have other : ∀ ownerId team, command ≠ .writeTeam ownerId team := by
      intro ownerId team same
      exact onTeam ⟨ownerId, team, same⟩
    have program : ({ env := env, command := command } : Call).reply sdk =
        (command.session sdk env >>= fun _ => .done .nothing) := by
      cases command with
      | writeTeam ownerId team => exact absurd rfl (other ownerId team)
      | _ => rfl
    rw [program]
    apply Tx.Onward.map
    refine (command.session_teams sdk env other).onward.mono ?_
    intro t _ t' same
    constructor
    · rintro ownerId team made
      exact absurd made (other ownerId team)
    · intro _
      exact same

/-- The pointers of the teams name the open starts, and each of them is named. -/
structure Teams.Exclusive (teams : Teams) : Prop where
  held : ∀ ownerId sessionId start, teams.teamStarts.get? (ownerId, sessionId) = some start →
    start.closed = false → ∃ team, teams.teams.get? (ownerId, start.teamId) = some team ∧
      team.activeSessionId = some sessionId
  named : ∀ ownerId teamId team sessionId, teams.teams.get? (ownerId, teamId) = some team →
    team.activeSessionId = some sessionId →
      ∃ start, teams.teamStarts.get? (ownerId, sessionId) = some start ∧
        start.teamId = teamId ∧ start.closed = false
  idle : ∀ ownerId teamId team, teams.teams.get? (ownerId, teamId) = some team →
    team.deleted = true → team.activeSessionId = none

section Step

variable {sdk : Sdk} {ownerId : String} {teams teams' : Teams} {command : TeamCommand}
  {reply : TeamReply}

/-- Only a reservation sets a pointer, and with the start it opens; only the
closing clears it, and with the start it closes. -/
theorem TeamMade.exclusive (made : TeamMade sdk ownerId teams command reply teams')
    (exclusive : teams.Exclusive) : teams'.Exclusive := by
  obtain ⟨held, named, idle⟩ := exclusive
  cases made with
  | replayed => exact ⟨held, named, idle⟩
  | shown => exact ⟨held, named, idle⟩
  | @created hostId teamId configuration teams' allowed free fresh first saved starts =>
      have team := first.at (ownerId, teamId)
      constructor
      · grind
      · grind
      · grind
  | advanced allowed found usable current fresh next saved starts =>
      have team := next.over found
      constructor
      · grind
      · grind
      · grind
  | rejoined found usable reserved previous same pinned loaded taken revisions starts =>
      have team := taken.over found
      constructor
      · grind
      · grind
      · grind
  | @reserved hostId teamId sessionId revision team saved configuration teams' found usable reserved
      free pinned loaded taken revisions started =>
      have row := taken.over found
      have start := started.at (ownerId, sessionId)
      constructor
      · grind
      · grind
      · grind
  | selected previous same running unset resolves unchanged revisions frozen =>
      have start := frozen.over previous
      constructor
      · grind
      · grind
      · grind
  | @closed hostId teamId sessionId terminalStatus team start teams' found previous same released
      revisions ended =>
      have row := released.over found
      have started := ended.over previous
      have left : ∀ session, team.activeSessionId.filter (fun active => active ≠ sessionId) =
          some session ↔ team.activeSessionId = some session ∧ session ≠ sessionId := by
        intro session
        rw [Option.filter_eq_some_iff, decide_eq_true_eq]
      constructor
      · grind
      · grind
      · grind
  | deleted found unheld removed revisions starts =>
      have team := removed.over found
      constructor
      · grind
      · grind
      · grind

/-- What no later command takes back: a team keeps its host and does not go
back to an earlier revision, its revisions stay as they are, and a start stays
with its team and revision, closed if it is closed, with its selection. -/
structure Teams.Lasts (teams teams' : Teams) : Prop where
  team : ∀ k team, teams.teams.get? k = some team → ∃ team', teams'.teams.get? k = some team' ∧
    team'.hostId = team.hostId ∧ team.revision ≤ team'.revision ∧
      (team.deleted = true → team'.deleted = true)
  revision : ∀ k saved, teams.teamRevisions.get? k = some saved →
    teams'.teamRevisions.get? k = some saved
  start : ∀ k start, teams.teamStarts.get? k = some start → ∃ start',
    teams'.teamStarts.get? k = some start' ∧ start'.teamId = start.teamId ∧
      start'.revision = start.revision ∧
      (start.closed = true → start'.closed = true ∧ start'.selection = start.selection) ∧
      (start.selection.isSome → start'.selection = start.selection)

theorem Teams.Lasts.refl (teams : Teams) : teams.Lasts teams := by
  constructor
  · grind
  · grind
  · grind

theorem Teams.Lasts.trans {first second third : Teams} (before : first.Lasts second)
    (after : second.Lasts third) : first.Lasts third := by
  obtain ⟨team, revision, start⟩ := before
  obtain ⟨team', revision', start'⟩ := after
  constructor
  · intro k row found
    obtain ⟨row', found', host, current, deleted⟩ := team k row found
    obtain ⟨row'', found'', host', current', deleted'⟩ := team' k row' found'
    exact ⟨row'', found'', host'.trans host, current.trans current',
      fun gone => deleted' (deleted gone)⟩
  · intro k saved stored
    exact revision' k saved (revision k saved stored)
  · intro k row found
    obtain ⟨row', found', of, pinned, closed, chosen⟩ := start k row found
    obtain ⟨row'', found'', of', pinned', closed', chosen'⟩ := start' k row' found'
    refine ⟨row'', found'', of'.trans of, pinned'.trans pinned, ?_, ?_⟩
    · intro ended
      obtain ⟨still, same⟩ := closed ended
      obtain ⟨still', same'⟩ := closed' still
      exact ⟨still', same'.trans same⟩
    · intro selected
      have same := chosen selected
      rw [← same] at selected
      exact (chosen' selected).trans same

/-- The stored revisions of a team are the first up to its own. -/
structure Teams.Numbered (teams : Teams) : Prop where
  positive : ∀ ownerId teamId team, teams.teams.get? (ownerId, teamId) = some team →
    1 ≤ team.revision
  stored : ∀ ownerId teamId team revision, teams.teams.get? (ownerId, teamId) = some team →
    1 ≤ revision → revision ≤ team.revision →
      ∃ saved, teams.teamRevisions.get? (ownerId, teamId, revision) = some saved
  counted : ∀ ownerId teamId revision saved,
    teams.teamRevisions.get? (ownerId, teamId, revision) = some saved →
      ∃ team, teams.teams.get? (ownerId, teamId) = some team ∧ 1 ≤ revision ∧
        revision ≤ team.revision

theorem TeamMade.numbered (made : TeamMade sdk ownerId teams command reply teams')
    (numbered : teams.Numbered) : teams'.Numbered := by
  obtain ⟨positive, stored, counted⟩ := numbered
  cases made with
  | replayed => exact ⟨positive, stored, counted⟩
  | shown => exact ⟨positive, stored, counted⟩
  | @created hostId teamId configuration teams' allowed free fresh first saved starts =>
      have team := first.at (ownerId, teamId)
      have revision := saved.at (ownerId, teamId, 1)
      constructor
      · grind
      · grind
      · grind
  | @advanced hostId teamId expectedRevision configuration team teams' allowed found usable current
      fresh next saved starts =>
      have row := next.over found
      have revision := saved.at (ownerId, teamId, expectedRevision + 1)
      constructor
      · grind
      · grind
      · grind
  | rejoined found usable reserved previous same pinned loaded taken revisions starts =>
      have team := taken.over found
      constructor
      · grind
      · grind
      · grind
  | reserved found usable reserved free pinned loaded taken revisions started =>
      have team := taken.over found
      constructor
      · grind
      · grind
      · grind
  | selected previous same running unset resolves unchanged revisions frozen =>
      constructor
      · rwa [unchanged]
      · rwa [unchanged, revisions]
      · rwa [unchanged, revisions]
  | closed found previous same released revisions ended =>
      have team := released.over found
      constructor
      · grind
      · grind
      · grind
  | deleted found unheld removed revisions starts =>
      have team := removed.over found
      constructor
      · grind
      · grind
      · grind

theorem TeamMade.lasts (made : TeamMade sdk ownerId teams command reply teams') :
    teams.Lasts teams' := by
  cases made with
  | replayed => exact Teams.Lasts.refl teams
  | shown => exact Teams.Lasts.refl teams
  | @created hostId teamId configuration teams' allowed free fresh first saved starts =>
      have team := first.at (ownerId, teamId)
      have revision := saved.at (ownerId, teamId, 1)
      constructor
      · grind
      · grind
      · grind
  | @advanced hostId teamId expectedRevision configuration team teams' allowed found usable current
      fresh next saved starts =>
      have row := next.over found
      have revision := saved.at (ownerId, teamId, expectedRevision + 1)
      constructor
      · grind
      · grind
      · grind
  | rejoined found usable reserved previous same pinned loaded taken revisions starts =>
      have team := taken.over found
      constructor
      · grind
      · grind
      · grind
  | @reserved hostId teamId sessionId revision team saved configuration teams' found usable reserved
      free pinned loaded taken revisions started =>
      have row := taken.over found
      have start := started.at (ownerId, sessionId)
      constructor
      · grind
      · grind
      · grind
  | selected previous same running unset resolves unchanged revisions frozen =>
      have start := frozen.over previous
      constructor
      · grind
      · grind
      · grind
  | closed found previous same released revisions ended =>
      have team := released.over found
      have start := ended.over previous
      constructor
      · grind
      · grind
      · grind
  | deleted found unheld removed revisions starts =>
      have team := removed.over found
      constructor
      · grind
      · grind
      · grind

theorem Teams.Resolves.mono {sdk : Sdk} {teams teams' : Teams} {ownerId teamId sessionId : String}
    {revision : Int} {selection : CoordinationSelection}
    (resolves : teams.Resolves sdk ownerId teamId revision sessionId selection)
    (lasts : teams.Lasts teams') :
    teams'.Resolves sdk ownerId teamId revision sessionId selection := by
  obtain ⟨saved, configuration, stored, loaded, resolved⟩ := resolves
  exact ⟨saved, configuration, lasts.revision _ saved stored, loaded, resolved⟩

/-- Every selection is one that the revision of its start resolves to. -/
def Teams.Chosen (sdk : Sdk) (teams : Teams) : Prop :=
  ∀ ownerId sessionId start document,
    teams.teamStarts.get? (ownerId, sessionId) = some start → start.selection = some document →
      ∃ selection, selection.document = document ∧
        teams.Resolves sdk ownerId start.teamId start.revision sessionId selection

theorem TeamMade.chosen (made : TeamMade sdk ownerId teams command reply teams')
    (chosen : teams.Chosen sdk) : teams'.Chosen sdk := by
  intro owner session start' document found' selected
  have lasts := made.lasts
  -- A start that is there already resolves as it did.
  have before : teams.teamStarts.get? (owner, session) = some start' →
      ∃ selection, selection.document = document ∧
        teams'.Resolves sdk owner start'.teamId start'.revision session selection := by
    intro found
    obtain ⟨selection, same, resolves⟩ := chosen owner session start' document found selected
    exact ⟨selection, same, resolves.mono lasts⟩
  cases made with
  | replayed => exact before found'
  | shown => exact before found'
  | created allowed free fresh first saved starts => exact before (starts ▸ found')
  | advanced allowed found usable current fresh next saved starts => exact before (starts ▸ found')
  | rejoined found usable reserved previous same pinned loaded taken revisions starts =>
      exact before (starts ▸ found')
  | deleted found unheld removed revisions starts => exact before (starts ▸ found')
  | reserved found usable reserved free pinned loaded taken revisions started =>
      rcases started.of_get? found' with ⟨-, rfl⟩ | ⟨-, old⟩
      · cases selected
      · exact before old
  | closed found previous same released revisions ended =>
      rcases ended.of_get? found' with ⟨named, rfl⟩ | ⟨-, old⟩
      · have startKey := Table.key_of_get? previous
        cases named.trans startKey
        obtain ⟨selection, same', resolves⟩ := chosen _ _ _ document previous selected
        exact ⟨selection, same', resolves.mono lasts⟩
      · exact before old
  | selected previous same running unset resolves unchanged revisions frozen =>
      rcases frozen.of_get? found' with ⟨named, rfl⟩ | ⟨-, old⟩
      · have startKey := Table.key_of_get? previous
        cases named.trans startKey
        cases selected
        subst same
        exact ⟨_, rfl, resolves.mono lasts⟩
      · exact before old

end Step

section Interleaved

variable {ι : Type} [DecidableEq ι] (sdk : Sdk) (calls : ι → Call)

/-- Any number of calls on one database at once. -/
def playCalls (schedule : List (Turn ι)) : System Tables.Integrity Error TeamReply ι :=
  System.play .integrityError schedule
    (System.start (fun client => (calls client).reply sdk) Database.empty)

def teamsAfter (schedule : List (Turn ι)) : Teams :=
  (playCalls sdk calls schedule).committed.val.teams

theorem playCalls_guided (schedule : List (Turn ι)) :
    System.Guided (fun client => (calls client).OnTeams sdk) Database.empty
      (playCalls sdk calls schedule) := by
  have started := System.guided_start (fun client => (calls client).reply_onward sdk)
    Database.empty
  exact (started.play schedule).1

/-- From one moment of a schedule to a later one: the calls that committed in
between, and every client that finished in between is one of them. -/
theorem playCalls_follows (first second : List (Turn ι)) :
    ∃ order, System.Follows (fun client => (calls client).OnTeams sdk)
        (playCalls sdk calls first).committed order
        (playCalls sdk calls (first ++ second)).committed ∧
      ∀ client reply, (playCalls sdk calls (first ++ second)).reply? client = some reply →
        (playCalls sdk calls first).reply? client = some reply ∨ (client, reply) ∈ order := by
  have later : playCalls sdk calls (first ++ second) =
      System.play .integrityError second (playCalls sdk calls first) := by
    simp only [playCalls, System.play, List.foldl_append]
  rw [later]
  exact ((playCalls_guided sdk calls first).play second).2

variable {sdk calls}

theorem Call.OnTeams.effect {call : Call} {t t' : Tables} {reply : TeamReply}
    (onTeams : call.OnTeams sdk t reply t') :
    t'.teams = t.teams ∨ ∃ ownerId command,
      TeamMade sdk ownerId t.teams command reply t'.teams := by
  by_cases onTeam : ∃ ownerId command, call.command = .writeTeam ownerId command
  · obtain ⟨ownerId, command, same⟩ := onTeam
    exact Or.inr ⟨ownerId, command, onTeams.made ownerId command same⟩
  · apply Or.inl
    apply onTeams.other
    intro ownerId command same
    exact onTeam ⟨ownerId, command, same⟩

/-- What every outcome of a command preserves, and no team has, is so after
every schedule. -/
theorem teamsAfter_preserves {holds : Teams → Prop} (empty : holds {})
    (kept : ∀ ownerId teams teams' command reply, holds teams →
      TeamMade sdk ownerId teams command reply teams' → holds teams')
    (schedule : List (Turn ι)) : holds (teamsAfter sdk calls schedule) := by
  obtain ⟨order, follows, -⟩ := playCalls_follows sdk calls [] schedule
  apply follows.preserves (fun state => holds state.val.teams)
  · exact empty
  · intro client before after reply held onTeams
    rcases onTeams.effect with same | ⟨ownerId, command, made⟩
    · rw [same]
      exact held
    · exact kept ownerId _ _ command reply held made

omit [DecidableEq ι] in
theorem follows_lasts {order : List (ι × TeamReply)} {before after : Database}
    (follows : System.Follows (fun client => (calls client).OnTeams sdk) before order after) :
    before.tables.teams.Lasts after.tables.teams := by
  apply follows.preserves (fun state => before.tables.teams.Lasts state.val.teams)
  · exact Teams.Lasts.refl _
  · intro client middle last reply lasts onTeams
    rcases onTeams.effect with same | ⟨ownerId, command, made⟩
    · rw [same]
      exact lasts
    · exact lasts.trans made.lasts

theorem playCalls_made {schedule : List (Turn ι)} {client : ι} {reply : TeamReply}
    (replied : (playCalls sdk calls schedule).reply? client = some reply) :
    ∃ before after : Database, (calls client).OnTeams sdk before.tables reply after.tables ∧
      after.tables.teams.Lasts (teamsAfter sdk calls schedule) := by
  obtain ⟨order, follows, finished⟩ := playCalls_follows sdk calls [] schedule
  have member : (client, reply) ∈ order := by
    rcases finished client reply replied with started | member
    · cases started
    · exact member
  obtain ⟨before, after, -, made, later, rest⟩ := follows.split member
  exact ⟨before, after, made, follows_lasts rest⟩

/-- A call that was answered between two moments took effect on what there was
at the first. -/
theorem playCalls_made_between {first second : List (Turn ι)} {client : ι} {reply : TeamReply}
    (pending : (playCalls sdk calls first).reply? client = none)
    (replied : (playCalls sdk calls (first ++ second)).reply? client = some reply) :
    ∃ before after : Database, (calls client).OnTeams sdk before.tables reply after.tables ∧
      (teamsAfter sdk calls first).Lasts before.tables.teams := by
  obtain ⟨order, follows, finished⟩ := playCalls_follows sdk calls first second
  have member : (client, reply) ∈ order := by
    rcases finished client reply replied with earlier | member
    · rw [pending] at earlier
      cases earlier
    · exact member
  obtain ⟨before, after, ⟨earlier, reached⟩, made, -⟩ := follows.split member
  exact ⟨before, after, made, follows_lasts reached⟩

variable (sdk calls)

theorem teamsAfter_lasts (first second : List (Turn ι)) :
    (teamsAfter sdk calls first).Lasts (teamsAfter sdk calls (first ++ second)) := by
  obtain ⟨order, follows, -⟩ := playCalls_follows sdk calls first second
  exact follows_lasts follows

theorem teamsAfter_numbered (schedule : List (Turn ι)) :
    (teamsAfter sdk calls schedule).Numbered := by
  apply teamsAfter_preserves
  · constructor
    · simp
    · simp
    · simp
  · intro ownerId teams teams' command reply numbered made
    exact made.numbered numbered

theorem teamsAfter_exclusive (schedule : List (Turn ι)) :
    (teamsAfter sdk calls schedule).Exclusive := by
  apply teamsAfter_preserves
  · constructor
    · simp
    · simp
    · simp
  · intro ownerId teams teams' command reply exclusive made
    exact made.exclusive exclusive

end Interleaved

end EidolonData
