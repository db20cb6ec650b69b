import Mathlib.Data.String.Basic
import EidolonData.Library.Ordering
import EidolonData.Services.Session

/-!
# Saved teams

An Owner's teams: their immutable revisions, and the runs started with them.
A run is pinned to the revision it was reserved with, and to the first
selection accepted for it.
-/

namespace EidolonData

open Relational

/-- `TeamRevision`. -/
structure TeamRevision where
  teamId : String
  revision : Int
  configuration : TeamConfiguration
  deriving DecidableEq, Repr

/-- `TeamPage`. -/
structure TeamPage where
  teams : List TeamRevision
  nextCursor : Option String
  deriving DecidableEq, Repr

/-- `TeamStartRecord`. -/
structure TeamStartRecord where
  teamId : String
  sessionId : String
  revision : Int
  closed : Bool
  deriving DecidableEq, Repr

/-- `TeamStarts`. -/
structure TeamStarts where
  starts : List TeamStartRecord
  nextCursor : Option String
  deriving DecidableEq, Repr

/-- `TeamStartSnapshot`. -/
structure TeamStartSnapshot where
  teamId : String
  sessionId : String
  revision : Int
  closed : Bool
  selection : Option JsonDict
  terminalStatus : Option JsonDict
  deriving DecidableEq, Repr

section Rows

def getTeam (ownerId teamId : String) : Session (Option TeamRow) :=
  Tx.read (fun t => t.teams.teams.get? (ownerId, teamId))

def getTeamRevision (ownerId teamId : String) (revision : Int) :
    Session (Option TeamRevisionRow) :=
  Tx.read (fun t => t.teams.teamRevisions.get? (ownerId, teamId, revision))

def getTeamStart (ownerId sessionId : String) : Session (Option TeamStartRow) :=
  Tx.read (fun t => t.teams.teamStarts.get? (ownerId, sessionId))

/-- An `UPDATE` that leaves the rows it finds as they were, for the writer
lock it takes. -/
def lockTeam : Session Unit := Tx.modify id

/-- A guarded `UPDATE` of one team row; a row the guard does not let through is
the error. -/
def updateTeam (ownerId teamId : String) (guard : TeamRow → Bool) (change : TeamRow → TeamRow)
    (refused : String) (keeps : ∀ row, key (change row) = key row := by intro _; rfl) :
    Session Unit :=
  Tx.attempt (fun t =>
    if (t.teams.teams.get? (ownerId, teamId)).any guard then
      .ok (t.mapTeams (fun teams =>
        { teams with teams := teams.teams.modify (ownerId, teamId) change keeps }))
    else .error (.teamAssetError refused))

/-- The check of an active Owner the commands on a team make. -/
def requireTeamOwner (ownerId : String) : Session Unit := do
  let owner ← getOwner ownerId
  Tx.refuseIf (owner.all (fun row => row.status ≠ .active)) (.teamAssetError "NOT_FOUND")

/-- `TeamRevision(...)` of a stored configuration. -/
def loadTeamRevision (sdk : Sdk) (row : TeamRevisionRow) : Session TeamRevision := do
  let configuration ← validated (sdk.validateTeamConfiguration row.configuration)
  validated (sdk.validateTeamRevision row.teamId row.revision)
  return { teamId := row.teamId, revision := row.revision, configuration := configuration }

end Rows

section Saving

/-- The compare-and-set of an existing team, or its first row. -/
def advanceTeam (ownerId hostId teamId : String) (expectedRevision : Int) : Session Unit :=
  if expectedRevision = 0 then do
    let existing ← getTeam ownerId teamId
    Tx.refuseIf existing.isSome (.teamAssetError "REVISION_CONFLICT")
    Tx.attempt (fun t =>
      if t.teams.teams.has (ownerId, teamId) then .error .integrityError
      else .ok (t.mapTeams (fun teams =>
        { teams with
          teams := teams.teams.insert
            { ownerId := ownerId
              teamId := teamId
              hostId := hostId
              revision := 1 } })))
  else
    updateTeam ownerId teamId
      (fun row => row.hostId = hostId && !row.deleted && row.revision = expectedRevision)
      (fun row => { row with revision := expectedRevision + 1 }) "REVISION_CONFLICT"

/-- The save of a revision that is not stored yet. -/
def saveRevision (ownerId hostId teamId : String) (expectedRevision : Int)
    (configuration : TeamConfiguration) : Session TeamRevision := do
  let available ← Tx.read (fun t => (t.workspace.companions.select (fun row =>
    row.ownerId = ownerId && row.companionId ∈ configuration.memberCompanionIds &&
      row.lifecycleState = .active)).map (fun row => row.companionId))
  Tx.refuseIf (configuration.memberCompanionIds.all (fun member => member ∈ available) = false)
    (.teamAssetError "COMPANION_UNAVAILABLE")
  advanceTeam ownerId hostId teamId expectedRevision
  let saved : TeamRevisionRow :=
    { ownerId := ownerId
      teamId := teamId
      revision := expectedRevision + 1
      configuration := configuration.document }
  Tx.attempt (fun t =>
    if t.teams.teamRevisions.has (key saved) then .error .integrityError
    else .ok (t.mapTeams (fun teams =>
      { teams with teamRevisions := teams.teamRevisions.insert saved })))
  return { teamId := teamId, revision := expectedRevision + 1, configuration := configuration }

/-- `TeamAssets.save`; its `UPDATE` of the active Owner row is what takes the
writer lock, and changes nothing. -/
def saveTeam (sdk : Sdk) (ownerId hostId teamId : String) (expectedRevision : Int)
    (configuration : TeamConfiguration) : Session TeamRevision := do
  Tx.refuseIf (expectedRevision < 0) (.teamAssetError "INVALID_REVISION")
  Tx.refuseIf (hostId = "" ∨ 128 < hostId.length) (.teamAssetError "INVALID_HOST")
  validated (sdk.validateTeamRevision teamId (expectedRevision + 1))
  Tx.attempt (fun t =>
    if (t.workspace.owners.get? ownerId).any (fun owner => owner.status = .active) then .ok t
    else .error (.teamAssetError "NOT_FOUND"))
  let existing ← getTeam ownerId teamId
  let accepted ← getTeamRevision ownerId teamId (expectedRevision + 1)
  Tx.refuseIf (existing.any (fun row => row.hostId ≠ hostId || row.deleted))
    (.teamAssetError "REVISION_CONFLICT")
  match existing, accepted with
  | some _, some row => do
      let stored ← validated (sdk.validateTeamConfiguration row.configuration)
      Tx.refuseIf (stored ≠ configuration) (.teamAssetError "REVISION_CONFLICT")
      return { teamId := teamId, revision := expectedRevision + 1, configuration := configuration }
  | _, _ => saveRevision ownerId hostId teamId expectedRevision configuration

end Saving

section Reading

/-- The current revisions of an Owner's teams on a host that are not deleted. -/
def Teams.current (t : Teams) (ownerId hostId : String) (wanted : TeamRow → Bool) :
    List TeamRevisionRow :=
  (orderBy (fun row => row.teamId) (t.teams.select (fun row =>
    row.ownerId = ownerId && row.hostId = hostId && !row.deleted && wanted row))).filterMap
      (fun row => t.teamRevisions.get? (row.ownerId, row.teamId, row.revision))

/-- `TeamAssets.get`. -/
def getSavedTeam (sdk : Sdk) (ownerId hostId teamId : String) : Session TeamRevision := do
  requireTeamOwner ownerId
  let rows ← Tx.read (fun t => t.teams.current ownerId hostId (fun row => row.teamId = teamId))
  let row ← Tx.require rows.head? (.teamAssetError "NOT_FOUND")
  loadTeamRevision sdk row

/-- The rows of a page loaded one after another. -/
def loadTeamRevisions (sdk : Sdk) : List TeamRevisionRow → Session (List TeamRevision)
  | [] => return []
  | row :: rows => do
      let team ← loadTeamRevision sdk row
      let teams ← loadTeamRevisions sdk rows
      return team :: teams

/-- `TeamAssets.list`. -/
def listTeams (sdk : Sdk) (ownerId hostId after : String) (limit : Nat) : Session TeamPage := do
  Tx.refuseIf (¬ (1 ≤ limit ∧ limit ≤ 100)) (.teamAssetError "INVALID_LIMIT")
  requireTeamOwner ownerId
  let rows ← Tx.read (fun t =>
    (t.teams.current ownerId hostId (fun row => after < row.teamId)).take (limit + 1))
  let teams ← loadTeamRevisions sdk (rows.take limit)
  return {
    teams := teams
    nextCursor := if limit < rows.length then
        (rows.take limit).getLast?.map (fun row => row.teamId)
      else none }

/-- `TeamAssets.starts_page`. -/
def teamStartsPage (ownerId hostId teamId : String) (includeClosed : Bool) (after : String)
    (limit : Nat) : Session TeamStarts := do
  Tx.refuseIf (¬ (1 ≤ limit ∧ limit ≤ 100)) (.teamAssetError "INVALID_LIMIT")
  let owner ← getOwner ownerId
  let team ← getTeam ownerId teamId
  Tx.refuseIf (owner.all (fun row => row.status ≠ .active) ∨
      team.all (fun row => row.hostId ≠ hostId))
    (.teamAssetError "NOT_FOUND")
  let rows ← Tx.read (fun t =>
    ((orderBy (fun row => row.sessionId) (t.teams.teamStarts.select (fun row =>
      row.ownerId = ownerId && row.teamId = teamId && (includeClosed || !row.closed) &&
        (after = "" || row.sessionId < after)))).reverse).take (limit + 1))
  let visible := rows.take limit
  return {
    starts := visible.map (fun row =>
      { teamId := row.teamId
        sessionId := row.sessionId
        revision := row.revision
        closed := row.closed })
    nextCursor := if limit < rows.length then
        visible.getLast?.map (fun row => row.sessionId)
      else none }

end Reading

section Runs

/-- The start row of a reservation, found or added. -/
def openStart (ownerId teamId : String) (expectedRevision : Int) (sessionId : String) :
    Session Unit := do
  let previous ← getTeamStart ownerId sessionId
  match previous with
  | some start => do
      Tx.refuseIf (start.teamId ≠ teamId ∨ start.revision ≠ expectedRevision)
        (.teamAssetError "IDEMPOTENCY_CONFLICT")
      Tx.refuseIf start.closed (.teamAssetError "RUN_ALREADY_CLOSED")
  | none =>
      Tx.attempt (fun t =>
        if t.teams.teamStarts.has (ownerId, sessionId) then .error .integrityError
        else .ok (t.mapTeams (fun teams =>
          { teams with
            teamStarts := teams.teamStarts.insert
              { ownerId := ownerId
                sessionId := sessionId
                teamId := teamId
                revision := expectedRevision } })))

/-- `TeamAssets.reserve_start`. -/
def reserveStart (sdk : Sdk) (ownerId hostId teamId : String) (expectedRevision : Int)
    (sessionId : String) : Session TeamRevision := do
  validated (sdk.validateIdentifier sessionId)
  requireTeamOwner ownerId
  updateTeam ownerId teamId
    (fun row => row.hostId = hostId && !row.deleted &&
      (row.activeSessionId = some sessionId ||
        (row.activeSessionId = none && row.revision = expectedRevision)))
    (fun row => { row with activeSessionId := some sessionId }) "TEAM_BUSY_OR_REVISION_CONFLICT"
  openStart ownerId teamId expectedRevision sessionId
  let saved ← getTeamRevision ownerId teamId expectedRevision
  let saved ← Tx.require saved (.teamAssetError "REVISION_CONFLICT")
  loadTeamRevision sdk saved

/-- `TeamAssets.confirm_closed`. -/
def confirmClosed (ownerId hostId teamId sessionId : String)
    (terminalStatus : Option RoleGroupStatus) : Session Unit := do
  Tx.refuseIf (terminalStatus.any (fun status =>
      status.state ≠ "closed" || status.sessionId ≠ sessionId) = true)
    (.teamAssetError "INVALID_CLOSURE_EVIDENCE")
  lockTeam
  let team ← getTeam ownerId teamId
  Tx.refuseIf (team.all (fun row => row.hostId ≠ hostId)) (.teamAssetError "NOT_FOUND")
  Tx.attempt (fun t =>
    if (t.teams.teamStarts.get? (ownerId, sessionId)).any (fun row => row.teamId = teamId) then
      .ok (t.mapTeams (fun teams =>
        { teams with
          teamStarts := teams.teamStarts.modify (ownerId, sessionId) (fun row =>
            { row with
              closed := true
              terminalStatus :=
                (terminalStatus.map (fun status => status.document)).or row.terminalStatus }) }))
    else .error (.teamAssetError "NOT_FOUND"))
  Tx.modify (fun t => t.mapTeams (fun teams =>
    { teams with
      teams := teams.teams.modify (ownerId, teamId) (fun row =>
        { row with
          activeSessionId := row.activeSessionId.filter (fun active => active ≠ sessionId) }) }))

/-- `TeamAssets.delete`. -/
def deleteTeam (ownerId hostId teamId : String) (expectedRevision : Int) : Session Unit := do
  requireTeamOwner ownerId
  updateTeam ownerId teamId
    (fun row => row.hostId = hostId && row.revision = expectedRevision &&
      row.activeSessionId = none)
    (fun row => { row with deleted := true }) "TEAM_BUSY_OR_REVISION_CONFLICT"

/-- The resolution of a run offered to `start_snapshot`: it has to be the one
the configuration of the run's own revision resolves to, and the first one
offered is kept. -/
def freezeSelection (sdk : Sdk) (ownerId teamId sessionId : String) (row : TeamStartRow)
    (selection : CoordinationSelection) : Session TeamStartRow := do
  Tx.refuseIf row.closed (.teamAssetError "RUN_ALREADY_CLOSED")
  Tx.refuseIf (selection.sessionId ≠ sessionId) (.teamAssetError "SNAPSHOT_IDENTITY_MISMATCH")
  let saved ← getTeamRevision ownerId teamId row.revision
  let saved ← Tx.require saved (.validationError "configuration")
  let configuration ← validated (sdk.validateTeamConfiguration saved.configuration)
  let expected ← Tx.lift (fun _ => .teamAssetError "SNAPSHOT_CONFIGURATION_MISMATCH")
    (sdk.resolveTeam configuration sessionId
      (selection.devices.map (fun device => (device.deviceInstanceId, device)))
      (selection.members.map (fun member =>
        (member.outputDevice.deviceInstanceId, member.companionId))))
  Tx.refuseIf (expected ≠ selection) (.teamAssetError "SNAPSHOT_CONFIGURATION_MISMATCH")
  match row.selection with
  | some _ => return row
  | none => do
      Tx.modify (fun t => t.mapTeams (fun teams =>
        { teams with
          teamStarts := teams.teamStarts.modify (ownerId, sessionId) (fun row =>
            { row with selection := some selection.document }) }))
      return { row with selection := some selection.document }

/-- `TeamAssets.start_snapshot`. -/
def startSnapshot (sdk : Sdk) (ownerId hostId teamId sessionId : String)
    (selection : Option CoordinationSelection) : Session TeamStartSnapshot := do
  lockTeam
  let owned ← getTeam ownerId teamId
  let owner ← getOwner ownerId
  Tx.refuseIf (owned.all (fun row => row.hostId ≠ hostId) ∨
      owner.all (fun row => row.status ≠ .active))
    (.teamAssetError "NOT_FOUND")
  let stored ← getTeamStart ownerId sessionId
  let row ← Tx.require (stored.filter (fun row => row.teamId = teamId))
    (.teamAssetError "NOT_FOUND")
  let row ← match selection with
    | none => Tx.done row
    | some selection => freezeSelection sdk ownerId teamId sessionId row selection
  validated (sdk.validateTeamStartSnapshot row.selection row.terminalStatus)
  return {
    teamId := teamId
    sessionId := sessionId
    revision := row.revision
    closed := row.closed
    selection := row.selection
    terminalStatus := row.terminalStatus }

end Runs

/-- The commands on one of an Owner's teams. -/
inductive TeamCommand where
  | save (hostId teamId : String) (expectedRevision : Int) (configuration : TeamConfiguration)
  | reserveStart (hostId teamId : String) (expectedRevision : Int) (sessionId : String)
  | startSnapshot (hostId teamId sessionId : String) (selection : Option CoordinationSelection)
  | confirmClosed (hostId teamId sessionId : String) (terminalStatus : Option RoleGroupStatus)
  | delete (hostId teamId : String) (expectedRevision : Int)
  deriving DecidableEq, Repr

inductive TeamReply where
  | revision (saved : TeamRevision)
  | snapshot (start : TeamStartSnapshot)
  | nothing
  deriving DecidableEq, Repr

def TeamCommand.session (sdk : Sdk) (ownerId : String) : TeamCommand → Session TeamReply
  | save hostId teamId expectedRevision configuration => do
      let saved ← saveTeam sdk ownerId hostId teamId expectedRevision configuration
      return .revision saved
  | reserveStart hostId teamId expectedRevision sessionId => do
      let saved ← EidolonData.reserveStart sdk ownerId hostId teamId expectedRevision sessionId
      return .revision saved
  | startSnapshot hostId teamId sessionId selection => do
      let start ← EidolonData.startSnapshot sdk ownerId hostId teamId sessionId selection
      return .snapshot start
  | confirmClosed hostId teamId sessionId terminalStatus => do
      EidolonData.confirmClosed ownerId hostId teamId sessionId terminalStatus
      return .nothing
  | delete hostId teamId expectedRevision => do
      deleteTeam ownerId hostId teamId expectedRevision
      return .nothing

end EidolonData
