import EidolonData.Api.CompanionAuthority
import EidolonData.Api.WorkspaceAuthority
import EidolonData.Services.TeamAssets

/-!
# Reading the listings page by page

The roster, the saved teams, the runs of a team and the Owner's history each
serve the pages of their rows: the cursor handed out leads past the rows seen
and no others.
-/

namespace EidolonData

open Relational

section Roster

variable {reader : IsoReader} {column : DatetimeColumn} {ownerId : String} {limit : Nat}

def rosterCursor (column : DatetimeColumn) (place : Timestamp ×ₗ String) : String :=
  encodeCursor (column.load (ofLex place).1) (ofLex place).2

/-- A place the roster finds again from its cursor. -/
def isRosterPlace (column : DatetimeColumn) (place : Timestamp ×ₗ String) : Prop :=
  matchesGeneratedId (ofLex place).2 = true ∧
    column.bind (column.load (ofLex place).1) = (ofLex place).1

theorem encodeCursor_ne_empty (createdAt : Datetime) {companionId : String}
    (named : companionId ≠ "") : encodeCursor createdAt companionId ≠ "" := by
  intro empty
  have decoded := decodeCursor_encodeCursor .extended createdAt named
  rw [empty] at decoded
  have refused : decodeCursor .extended "" = refuse 422 "cursor is not readable" := by decide
  rw [refused] at decoded
  cases decoded

theorem pageForOwner_eq (w : Workspace) (ownerId : String) (limit : Nat)
    (after : Option (Timestamp × String)) :
    pageForOwner w ownerId limit after =
      (seek rosterColumn (after.map toLex) (w.roster ownerId)).take limit := by
  unfold pageForOwner seek Workspace.roster Table.select
  rw [List.filter_filter]
  congr 2
  apply List.filter_congr
  intro row _
  cases after with
  | none => simp
  | some seen => simp [Bool.and_comm]

theorem roster_distinct (w : Workspace) (ownerId : String) :
    ((w.roster ownerId).map rosterColumn).Nodup :=
  Table.nodup_map_select (fun place => (ofLex place).2) (fun _ _ => rfl)

theorem Workspace.Listed.place {owners w : Workspace} (listed : w.Listed column owners ownerId)
    {row : CompanionRow} (member : row ∈ w.roster ownerId) :
    isRosterPlace column (rosterColumn row) :=
  ⟨listed.ids row member, listed.times row member⟩

theorem after_rosterCursor (reader : IsoReader) {seen : Option (Timestamp ×ₗ String)}
    (found : ∀ place, seen = some place → isRosterPlace column place) :
    ∃ after, afterCursor reader (seen.map (rosterCursor column)) = .ok after ∧
      (after.map (fun (createdAt, companionId) => (column.bind createdAt, companionId))).map toLex =
        seen := by
  cases seen with
  | none => exact ⟨none, rfl, rfl⟩
  | some place =>
      obtain ⟨generated, bound⟩ := found place rfl
      have named := ne_empty_of_generatedId generated
      have written : rosterCursor column place ≠ "" := encodeCursor_ne_empty _ named
      refine ⟨some (column.load (ofLex place).1, (ofLex place).2), ?_, ?_⟩
      · rw [afterCursor, Option.map_some, orDefault, if_neg written, if_neg written,
          Option.getD_some, rosterCursor, decodeCursor_encodeCursor reader _ named]
        rfl
      · simp only [Option.map_some, bound]
        rfl

theorem rosterResponse_page {owner : OwnerRow} {rows : List CompanionRow}
    (named : fieldFits ownerId 64 = true)
    (fits : owner.defaultCompanionId.all (·.length ≤ 64) = true)
    (ids : ∀ row ∈ rows, matchesGeneratedId row.companionId = true)
    (seen : Option (Timestamp ×ₗ String)) :
    (rosterResponse column owner ownerId limit
        ((seek rosterColumn seen rows).take (limit + 1))).toOption.map
      (fun response => ({ items := response.companions, next := response.nextCursor } :
        Page CompanionSummaryResponse String)) =
      (page rosterColumn limit seen rows).present (companionSummary column)
        (rosterCursor column) := by
  have found : ∀ row ∈ ((seek rosterColumn seen rows).take (limit + 1)).take limit,
      row ∈ rows := by
    intro row member
    have sought := List.mem_of_mem_take (List.mem_of_mem_take member)
    exact List.mem_of_mem_filter (mem_orderBy.mp sought)
  simp only [rosterResponse, Page.present, page]
  generalize (seek rosterColumn seen rows).take (limit + 1) = sought at found ⊢
  cases made : (sought.take limit).mapM (companionSummary column) with
  | none => rfl
  | some companions =>
      have cursors : (if limit < sought.length then
            (sought.take limit).getLast?.map rosterColumn else none).map (rosterCursor column) =
          if limit < sought.length then
            (sought.take limit).getLast?.map (fun row =>
              encodeCursor (column.load row.createdAt) row.companionId)
          else none := by
        split
        · rw [Option.map_map]
          rfl
        · rfl
      have short : (if limit < sought.length then
            (sought.take limit).getLast?.map (fun row =>
              encodeCursor (column.load row.createdAt) row.companionId)
          else none).all (·.length ≤ 256) = true := by
        split
        · rw [Option.all_eq_true]
          intro cursor written
          obtain ⟨row, isLast, rfl⟩ := Option.map_eq_some_iff.mp written
          have generated := ids row (found row (List.mem_of_getLast? isLast))
          exact decide_eq_true (length_encodeCursor_le _ generated)
        · rfl
      simp only [CompanionPageResponse.fits, named, fits, short, Bool.and_self, if_true, cursors]
      rfl

theorem rosterPage_serves {owners w : Workspace} (allowed : 1 ≤ limit ∧ limit ≤ rosterPageLimit)
    (listed : w.Listed column owners ownerId) :
    Serves (rosterPage reader column ownerId limit) rosterColumn (companionSummary column)
      (rosterCursor column) (isRosterPlace column) limit (owners, w) (w.roster ownerId) where
  pages := by
    intro seen found
    obtain ⟨owner, stored, named, fits⟩ := listed.owner
    obtain ⟨after, decoded, place⟩ := after_rosterCursor reader found
    have answered : listOwnerCompanions reader column owners w ownerId
        (seen.map (rosterCursor column)) limit =
          rosterResponse column owner ownerId limit
            ((seek rosterColumn seen (w.roster ownerId)).take (limit + 1)) := by
      unfold listOwnerCompanions
      rw [if_neg (not_not.mpr allowed), stored]
      dsimp only
      rw [decoded, ← place, ← pageForOwner_eq]
      rfl
    rw [rosterPage, answered, rosterResponse_page named fits listed.ids]
  onward := fun row member _ _ _ => listed.place member
  distinct := roster_distinct w ownerId

end Roster

section Governance

variable {isoformat : Timestamp → String} {ownerId : String} {limit : Nat}

/-- The page a request of an Owner's history is answered with. -/
def governancePage (isoformat : Timestamp → String) (ownerId : String) (limit : Nat)
    (state : Workspace × Table AuditOutboxRow) (cursor : Option Int) :
    Option (Page GovernanceEventResponse Int) :=
  (listOwnerGovernanceEvents isoformat state.1 state.2 ownerId limit cursor).toOption.map
    (fun response => { items := response.events, next := response.nextCursor })

def governanceResponse (isoformat : Timestamp → String) (row : AuditOutboxRow) :
    Option GovernanceEventResponse :=
  governanceEvent isoformat (envelope row)

theorem governance_distinct (outbox : Table AuditOutboxRow) (ownerId : String) :
    ((governanceEvents outbox ownerId).map governanceColumn).Nodup :=
  Table.nodup_map_select OrderDual.ofDual (fun _ _ => rfl)

theorem listForOwner_eq (outbox : Table AuditOutboxRow) (ownerId : String)
    (allowed : 1 ≤ limit ∧ limit ≤ 100) (seen : Option Intᵒᵈ) :
    listForOwner outbox ownerId limit (seen.map OrderDual.ofDual) =
      { events :=
          (page governanceColumn limit seen (governanceEvents outbox ownerId)).items.map envelope
        nextSequence :=
          (page governanceColumn limit seen (governanceEvents outbox ownerId)).next.map
            OrderDual.ofDual } := by
  have capped : max 1 (min limit 100) = limit := by omega
  have sought : outbox.select (fun row =>
      row.fact.ownerId = some ownerId && row.fact.category = .governance &&
        (seen.map OrderDual.ofDual).all (fun before => row.outboxId < before)) =
      (governanceEvents outbox ownerId).filter
        (fun row => seen.all (fun seen => seen < governanceColumn row)) := by
    unfold governanceEvents Table.select
    rw [List.filter_filter]
    apply List.filter_congr
    intro row _
    cases seen with
    | none => simp
    | some seen =>
        have before : (row.outboxId < OrderDual.ofDual seen) = (seen < governanceColumn row) :=
          propext OrderDual.toDual_lt_toDual.symm
        simp only [Option.map_some, Option.all_some, before]
        exact Bool.and_comm _ _
  have ordered : orderBy governanceColumn (outbox.select (fun row =>
      row.fact.ownerId = some ownerId && row.fact.category = .governance &&
        (seen.map OrderDual.ofDual).all (fun before => row.outboxId < before))) =
      seek governanceColumn seen (governanceEvents outbox ownerId) :=
    congrArg (orderBy governanceColumn) sought
  simp only [listForOwner, capped, ordered, page]
  generalize (seek governanceColumn seen (governanceEvents outbox ownerId)).take (limit + 1) = found
  congr 1
  split
  · rw [Option.map_map]
    rfl
  · rfl

theorem governancePage_serves {owners : Workspace} {outbox : Table AuditOutboxRow}
    (allowed : 1 ≤ limit ∧ limit ≤ 100) (stored : owners.owners.has ownerId = true)
    (named : fieldFits ownerId 64 = true)
    (numbered : ∀ row ∈ governanceEvents outbox ownerId, 1 ≤ row.outboxId) :
    Serves (governancePage isoformat ownerId limit) governanceColumn
      (governanceResponse isoformat) OrderDual.ofDual (fun place => 1 ≤ OrderDual.ofDual place)
      limit (owners, outbox) (governanceEvents outbox ownerId) where
  pages := by
    intro seen found
    have readable : (seen.map OrderDual.ofDual).all (fun before => 1 ≤ before) = true := by
      cases seen with
      | none => rfl
      | some place => exact decide_eq_true (found place rfl)
    have refused : ¬ (¬ 1 ≤ limit ∨
        ¬ (seen.map OrderDual.ofDual).all (fun before => 1 ≤ before) = true) := by
      simp [allowed.1, readable]
    simp only [governancePage, listOwnerGovernanceEvents, if_neg refused,
      if_neg (not_not.mpr allowed.2), stored, Bool.true_eq_false, if_false,
      listForOwner_eq outbox ownerId allowed seen, Page.present, List.mapM_map]
    have positive : ((page governanceColumn limit seen
        (governanceEvents outbox ownerId)).next.map OrderDual.ofDual).all
          (fun cursor => 1 ≤ cursor) = true := by
      cases read : page governanceColumn limit seen (governanceEvents outbox ownerId) with
      | mk items next =>
          cases next with
          | none => rfl
          | some next =>
              obtain ⟨row, member, -, -, rfl, -⟩ :=
                next_between (governance_distinct outbox ownerId) read
              exact decide_eq_true (numbered row member)
    have composed : governanceEvent isoformat ∘ envelope = governanceResponse isoformat := rfl
    rw [composed]
    cases made : (page governanceColumn limit seen
        (governanceEvents outbox ownerId)).items.mapM (governanceResponse isoformat) with
    | none => rfl
    | some events =>
        simp only [OwnerGovernanceEventsResponse.fits, named, positive, Bool.and_self, if_true]
        rfl
  onward := fun row member _ _ _ => numbered row member
  distinct := governance_distinct outbox ownerId

end Governance

section Teams

variable {sdk : Sdk} {ownerId hostId teamId : String} {includeClosed : Bool} {limit : Nat}

def Teams.listed (teams : Teams) (ownerId hostId : String) : List TeamRevisionRow :=
  (teams.teams.select (fun row =>
    row.ownerId = ownerId && row.hostId = hostId && !row.deleted)).filterMap
      (fun row => teams.teamRevisions.get? (row.ownerId, row.teamId, row.revision))

/-- The `TeamRevision` of a stored row, if the SDK's models accept it. -/
def loadedTeam (sdk : Sdk) (row : TeamRevisionRow) : Option TeamRevision := do
  let configuration ← (sdk.validateTeamConfiguration row.configuration).toOption
  let _ ← (sdk.validateTeamRevision row.teamId row.revision).toOption
  some { teamId := row.teamId, revision := row.revision, configuration := configuration }

/-- The page `TeamAssets.list` answers with. -/
def teamListPage (sdk : Sdk) (ownerId hostId : String) (limit : Nat) (t : Tables)
    (cursor : Option String) : Option (Page TeamRevision String) :=
  ((listTeams sdk ownerId hostId (cursor.getD "") limit).run t).toOption.map
    (fun answer => { items := answer.1.teams, next := answer.1.nextCursor })

/-- The page `TeamAssets.starts_page` answers with. -/
def teamStartPage (ownerId hostId teamId : String) (includeClosed : Bool) (limit : Nat)
    (t : Tables) (cursor : Option String) : Option (Page TeamStartRecord String) :=
  ((teamStartsPage ownerId hostId teamId includeClosed (cursor.getD "") limit).run t).toOption.map
    (fun answer => { items := answer.1.starts, next := answer.1.nextCursor })

theorem run_loadTeamRevision (sdk : Sdk) (row : TeamRevisionRow) (t : Tables) :
    ((loadTeamRevision sdk row).run t).toOption =
      (loadedTeam sdk row).map (fun team => (team, t)) := by
  unfold loadTeamRevision loadedTeam validated
  cases sdk.validateTeamConfiguration row.configuration with
  | error failure => rfl
  | ok configuration =>
      cases sdk.validateTeamRevision row.teamId row.revision with
      | error failure => rfl
      | ok accepted => rfl

theorem run_loadTeamRevisions (sdk : Sdk) (rows : List TeamRevisionRow) (t : Tables) :
    ((loadTeamRevisions sdk rows).run t).toOption =
      (rows.mapM (loadedTeam sdk)).map (fun teams => (teams, t)) := by
  induction rows with
  | nil => rfl
  | cons row rows induction =>
      have first := run_loadTeamRevision sdk row t
      rw [loadTeamRevisions, Tx.run_bind, List.mapM_cons]
      cases made : (loadTeamRevision sdk row).run t with
      | error failure =>
          rw [made] at first
          have refused := Option.map_eq_none_iff.mp first.symm
          rw [refused]
          rfl
      | ok answer =>
          rw [made] at first
          obtain ⟨team, loaded, rfl⟩ := Option.map_eq_some_iff.mp first.symm
          rw [loaded]
          dsimp only
          rw [Tx.run_bind]
          cases rest : (loadTeamRevisions sdk rows).run t with
          | error failure =>
              rw [rest] at induction
              rw [Option.map_eq_none_iff.mp induction.symm]
              rfl
          | ok others =>
              rw [rest] at induction
              obtain ⟨teams, loadedTeams, rfl⟩ := Option.map_eq_some_iff.mp induction.symm
              rw [loadedTeams]
              rfl

theorem joined_teamId {teams : Teams} {row : TeamRow} {other : TeamRevisionRow}
    (joined : teams.teamRevisions.get? (row.ownerId, row.teamId, row.revision) = some other) :
    other.teamId = row.teamId := by
  have same := Table.key_of_get? joined
  exact congrArg (fun key : String × String × Int => key.2.1) same

theorem teams_distinct (teams : Teams) (ownerId : String) (wanted : TeamRow → Bool) :
    ((teams.teams.select (fun row => row.ownerId = ownerId && wanted row)).map
      (fun row => row.teamId)).Nodup := by
  refine Table.nodup_map_select (fun teamId => (ownerId, teamId)) ?_
  intro row selected
  rw [Bool.and_eq_true, decide_eq_true_eq] at selected
  rw [← selected.1]
  rfl

/-- The teams behind a cursor, as the query joins and orders them. -/
theorem current_eq_seek (teams : Teams) (ownerId hostId after : String) :
    teams.current ownerId hostId (fun row => after < row.teamId) =
      seek (fun row => row.teamId) (some after) (teams.listed ownerId hostId) := by
  have joined : ∀ (row : TeamRow) (other : TeamRevisionRow),
      teams.teamRevisions.get? (row.ownerId, row.teamId, row.revision) = some other →
        other.teamId = row.teamId :=
    fun _ _ => joined_teamId
  have distinct := teams_distinct teams ownerId
    (fun row => row.hostId = hostId && !row.deleted && after < row.teamId)
  simp only [← Bool.and_assoc] at distinct
  rw [Teams.current, filterMap_orderBy joined distinct, seek]
  congr 1
  rw [Teams.listed, List.filter_filterMap, Table.select, Table.select, List.filterMap_filter,
    List.filterMap_filter]
  apply List.filterMap_congr
  intro row _
  cases found : teams.teamRevisions.get? (row.ownerId, row.teamId, row.revision) with
  | none => simp
  | some other => simp [joined_teamId found, Option.filter, ite_and]

theorem listed_distinct (teams : Teams) (ownerId hostId : String) :
    ((teams.listed ownerId hostId).map (fun row => row.teamId)).Nodup := by
  have distinct := teams_distinct teams ownerId (fun row => row.hostId = hostId && !row.deleted)
  simp only [← Bool.and_assoc] at distinct
  exact nodup_map_filterMap (fun _ _ joined => joined_teamId joined) distinct

theorem empty_lt_iff {text : String} : "" < text ↔ text ≠ "" := by
  rw [String.lt_iff_toList_lt]
  cases chars : text.toList with
  | nil =>
      have empty : text = "" := String.toList_inj.mp chars
      simp [empty]
  | cons c rest =>
      have named : text ≠ "" := by
        rintro rfl
        cases chars
      simp [named]

theorem seek_empty {rows : List TeamRevisionRow} (named : ∀ row ∈ rows, row.teamId ≠ "") :
    seek (fun row => row.teamId) (some "") rows = seek (fun row => row.teamId) none rows := by
  unfold seek
  congr 1
  apply List.filter_congr
  intro row member
  simpa using empty_lt_iff.mpr (named row member)

theorem run_requireTeamOwner {t : Tables} {owner : OwnerRow}
    (stored : t.workspace.owners.get? ownerId = some owner) (active : owner.status = .active) :
    (requireTeamOwner ownerId).run t = .ok ((), t) := by
  have admitted : ¬ (some owner).all (fun row => row.status ≠ .active) = true := by
    simp [active]
  rw [requireTeamOwner, getOwner, Tx.run_read_bind, stored, Tx.run_refuseIf, if_neg admitted]

theorem teamListPage_serves {t : Tables} (allowed : 1 ≤ limit ∧ limit ≤ 100)
    {owner : OwnerRow} (stored : t.workspace.owners.get? ownerId = some owner)
    (active : owner.status = .active)
    (named : ∀ row ∈ t.teams.listed ownerId hostId, row.teamId ≠ "") :
    Serves (teamListPage sdk ownerId hostId limit) (fun row => row.teamId) (loadedTeam sdk) id
      (fun _ => True) limit t (t.teams.listed ownerId hostId) where
  pages := by
    intro seen _
    have start : t.teams.current ownerId hostId (fun row => (seen.map id).getD "" < row.teamId) =
        seek (fun row => row.teamId) seen (t.teams.listed ownerId hostId) := by
      rw [current_eq_seek]
      cases seen with
      | none => exact seek_empty named
      | some seen => rfl
    rw [teamListPage, listTeams, Tx.run_refuseIf_bind, if_neg (not_not.mpr allowed),
      Tx.run_bind_ok (run_requireTeamOwner stored active), Tx.run_read_bind, start, Page.present,
      page]
    generalize (seek (fun row : TeamRevisionRow => row.teamId) seen
      (t.teams.listed ownerId hostId)).take (limit + 1) = rows
    have loaded := run_loadTeamRevisions sdk (rows.take limit) t
    rw [Tx.run_bind]
    cases ran : (loadTeamRevisions sdk (rows.take limit)).run t with
    | error failure =>
        rw [ran] at loaded
        rw [Option.map_eq_none_iff.mp loaded.symm]
        rfl
    | ok answer =>
        rw [ran] at loaded
        obtain ⟨teams, made, rfl⟩ := Option.map_eq_some_iff.mp loaded.symm
        rw [made, Option.map_id]
        rfl
  onward := fun _ _ _ _ _ => trivial
  distinct := listed_distinct t.teams ownerId hostId

def Teams.runs (teams : Teams) (ownerId teamId : String) (includeClosed : Bool) :
    List TeamStartRow :=
  teams.teamStarts.select (fun row =>
    row.ownerId = ownerId && row.teamId = teamId && (includeClosed || !row.closed))

def runColumn (row : TeamStartRow) : Stringᵒᵈ := OrderDual.toDual row.sessionId

/-- The `TeamStartRecord` of a row. -/
def startRecord (row : TeamStartRow) : Option TeamStartRecord :=
  some
    { teamId := row.teamId
      sessionId := row.sessionId
      revision := row.revision
      closed := row.closed }

theorem runs_distinct (teams : Teams) (ownerId : String) (wanted : TeamStartRow → Bool) :
    ((teams.teamStarts.select (fun row => row.ownerId = ownerId && wanted row)).map
      (fun row => row.sessionId)).Nodup := by
  refine Table.nodup_map_select (fun sessionId => (ownerId, sessionId)) ?_
  intro row selected
  rw [Bool.and_eq_true, decide_eq_true_eq] at selected
  rw [← selected.1]
  rfl

theorem runs_eq_seek (teams : Teams) (ownerId teamId : String) (includeClosed : Bool)
    {seen : Option Stringᵒᵈ} (named : ∀ place, seen = some place → OrderDual.ofDual place ≠ "") :
    (orderBy (fun row => row.sessionId) (teams.teamStarts.select (fun row =>
        row.ownerId = ownerId && row.teamId = teamId && (includeClosed || !row.closed) &&
          ((seen.map OrderDual.ofDual).getD "" = "" ||
            row.sessionId < (seen.map OrderDual.ofDual).getD "")))).reverse =
      seek runColumn seen (teams.runs ownerId teamId includeClosed) := by
  have distinct := runs_distinct teams ownerId (fun row =>
    row.teamId = teamId && (includeClosed || !row.closed) &&
      ((seen.map OrderDual.ofDual).getD "" = "" ||
        row.sessionId < (seen.map OrderDual.ofDual).getD ""))
  simp only [← Bool.and_assoc] at distinct
  rw [reverse_orderBy distinct, seek]
  congr 1
  rw [Teams.runs, Table.select, Table.select, List.filter_filter]
  apply List.filter_congr
  intro row _
  cases seen with
  | none => simp
  | some place =>
      have behind : (row.sessionId < OrderDual.ofDual place) = (place < runColumn row) :=
        propext OrderDual.toDual_lt_toDual.symm
      simp only [Option.map_some, Option.getD_some, Option.all_some, behind,
        decide_eq_false (named place rfl), Bool.false_or]
      exact Bool.and_comm _ _

theorem teamStartPage_serves {t : Tables} (allowed : 1 ≤ limit ∧ limit ≤ 100)
    {owner : OwnerRow} (stored : t.workspace.owners.get? ownerId = some owner)
    (active : owner.status = .active) {team : TeamRow}
    (saved : t.teams.teams.get? (ownerId, teamId) = some team) (hosted : team.hostId = hostId) :
    Serves (teamStartPage ownerId hostId teamId includeClosed limit) runColumn startRecord
      OrderDual.ofDual (fun place => OrderDual.ofDual place ≠ "") limit t
      (t.teams.runs ownerId teamId includeClosed) where
  pages := by
    intro seen named
    have admitted : ¬ ((some owner).all (fun row => row.status ≠ .active) = true ∨
        (some team).all (fun row => row.hostId ≠ hostId) = true) := by
      simp [active, hosted]
    rw [teamStartPage, teamStartsPage, Tx.run_refuseIf_bind, if_neg (not_not.mpr allowed),
      getOwner, Tx.run_read_bind, stored, getTeam, Tx.run_read_bind, saved, Tx.run_refuseIf_bind,
      if_neg admitted, Tx.run_read_bind,
      runs_eq_seek t.teams ownerId teamId includeClosed named, Page.present, page]
    generalize (seek runColumn seen (t.teams.runs ownerId teamId includeClosed)).take (limit + 1) =
      rows
    have records : (rows.take limit).mapM startRecord =
        some ((rows.take limit).map (fun row =>
          { teamId := row.teamId
            sessionId := row.sessionId
            revision := row.revision
            closed := row.closed })) := List.mapM_pure
    rw [records]
    show some _ = some _
    congr 2
    split
    · rw [Option.map_map]
      rfl
    · rfl
  onward := by
    intro row _ other _ before empty
    have smaller : other.sessionId < row.sessionId := OrderDual.toDual_lt_toDual.mp before
    have none_before : row.sessionId = "" := empty
    rw [none_before, String.lt_iff_toList_lt] at smaller
    exact List.not_lt_nil _ smaller
  distinct := by
    have distinct := runs_distinct t.teams ownerId (fun row =>
      row.teamId = teamId && (includeClosed || !row.closed))
    simp only [← Bool.and_assoc] at distinct
    have dual := distinct.map OrderDual.toDual.injective
    rwa [List.map_map] at dual

end Teams

/-- Companions of the Owner were created, later than those there were. -/
def Workspace.Gains (w w' : Workspace) (ownerId : String) : Prop :=
  ∃ added, (w'.roster ownerId).Perm (w.roster ownerId ++ added) ∧
    ∀ row ∈ w.roster ownerId, ∀ other ∈ added, row.createdAt < other.createdAt

theorem Workspace.Gains.later {w w' : Workspace} {ownerId : String} (gains : w.Gains w' ownerId) :
    Later rosterColumn (w.roster ownerId) (w'.roster ownerId) := by
  obtain ⟨added, permuted, behind⟩ := gains
  refine ⟨added, permuted, ?_⟩
  intro row member other otherMember
  exact Prod.Lex.toLex_lt_toLex.mpr (.inl (behind row member other otherMember))

theorem companionSummary_id {column : DatetimeColumn} {row : CompanionRow}
    {summary : CompanionSummaryResponse} (made : companionSummary column row = some summary) :
    summary.companionId = row.companionId := by
  obtain ⟨artworkId, -, made⟩ := Option.bind_eq_some_iff.mp made
  dsimp only at made
  split at made
  · cases made
    rfl
  · cases made

theorem roster_ids_distinct (w : Workspace) (ownerId : String) :
    ((w.roster ownerId).map (fun row => row.companionId)).Nodup :=
  Table.nodup_map_select id (fun _ _ => rfl)

/-- While later Companions are created, every Companion there was at the first
page is read once. -/
theorem roster_growing {reader : IsoReader} {column : DatetimeColumn} {ownerId : String}
    {limit : Nat} (allowed : 1 ≤ limit ∧ limit ≤ rosterPageLimit)
    {states : List (Workspace × Workspace)} {first : Workspace × Workspace}
    (isFirst : states.head? = some first)
    (listed : ∀ state ∈ states, state.2.Listed column state.1 ownerId)
    (grows : states.Pairwise (fun state state' => state.2.Gains state'.2 ownerId))
    {items : List CompanionSummaryResponse}
    (follows : Follows (rosterPage reader column ownerId limit) states none items)
    {row : CompanionRow} (member : row ∈ first.2.roster ownerId) :
    ∃ summary, companionSummary column row = some summary ∧
      items.filter (fun item => item.companionId = row.companionId) = [summary] := by
  obtain ⟨final, isLast, mapped⟩ :=
    follows.served_items allowed.1 (fun state found =>
      rosterPage_serves allowed (listed state found))
      (grows.imp Workspace.Gains.later)
  have stillThere : row ∈ final.2.roster ownerId := by
    obtain ⟨rest, rfl⟩ := List.head?_eq_some_iff.mp isFirst
    rcases List.mem_cons.mp (List.mem_of_getLast? isLast) with rfl | later
    · exact member
    · obtain ⟨added, permuted, -⟩ := (List.pairwise_cons.mp grows).1 final later
      exact permuted.mem_iff.mpr (List.mem_append_left _ member)
  have distinct : ((orderBy rosterColumn (final.2.roster ownerId)).map
      (fun row => row.companionId)).Nodup :=
    ((orderBy_perm _ _).map _).nodup_iff.mpr (roster_ids_distinct final.2 ownerId)
  exact filter_of_mapM (fun _ _ made => companionSummary_id made) mapped distinct
    (mem_orderBy.mpr stillThere)

/-- Following the cursors of a listing until there is none gives every row
once, in order; in a roster that grows in the meantime, every row there was at
the start. -/
theorem listings_read_once (reader : IsoReader) (column : DatetimeColumn)
    (isoformat : Timestamp → String) (sdk : Sdk) (ownerId hostId teamId : String)
    (includeClosed : Bool) (limit : Nat) :
    (∀ owners w : Workspace, 1 ≤ limit ∧ limit ≤ rosterPageLimit →
      w.Listed column owners ownerId →
        ReadsOnce (rosterPage reader column ownerId limit) rosterColumn (companionSummary column)
          (owners, w) (w.roster ownerId)) ∧
    (∀ (t : Tables) (owner : OwnerRow), 1 ≤ limit ∧ limit ≤ 100 →
      t.workspace.owners.get? ownerId = some owner → owner.status = .active →
      (∀ row ∈ t.teams.listed ownerId hostId,
        row.teamId ≠ "" ∧ (loadedTeam sdk row).isSome = true) →
        ReadsOnce (teamListPage sdk ownerId hostId limit) (fun row => row.teamId) (loadedTeam sdk)
          t (t.teams.listed ownerId hostId)) ∧
    (∀ (t : Tables) (owner : OwnerRow) (team : TeamRow), 1 ≤ limit ∧ limit ≤ 100 →
      t.workspace.owners.get? ownerId = some owner → owner.status = .active →
      t.teams.teams.get? (ownerId, teamId) = some team → team.hostId = hostId →
        ReadsOnce (teamStartPage ownerId hostId teamId includeClosed limit) runColumn startRecord
          t (t.teams.runs ownerId teamId includeClosed)) ∧
    (∀ (owners : Workspace) (outbox : Table AuditOutboxRow), 1 ≤ limit ∧ limit ≤ 100 →
      owners.owners.has ownerId = true → fieldFits ownerId 64 = true →
      (∀ row ∈ governanceEvents outbox ownerId,
        1 ≤ row.outboxId ∧ (governanceResponse isoformat row).isSome = true) →
        ReadsOnce (governancePage isoformat ownerId limit) governanceColumn
          (governanceResponse isoformat) (owners, outbox) (governanceEvents outbox ownerId)) ∧
    (∀ (states : List (Workspace × Workspace)) (first final : Workspace × Workspace),
      1 ≤ limit ∧ limit ≤ rosterPageLimit →
      states.head? = some first → states.getLast? = some final →
      (∀ state ∈ states, state.2.Listed column state.1 ownerId) →
      states.Pairwise (fun state state' => state.2.Gains state'.2 ownerId) →
        (∀ items, Follows (rosterPage reader column ownerId limit) states none items →
          ∀ row ∈ first.2.roster ownerId, ∃ summary, companionSummary column row = some summary ∧
            items.filter (fun item => item.companionId = row.companionId) = [summary]) ∧
        ((final.2.roster ownerId).length ≤ states.length →
          ∃ seen items, seen <+: states ∧
            Follows (rosterPage reader column ownerId limit) seen none items)) := by
  refine ⟨?_, ?_, ?_, ?_, ?_⟩
  · intro owners w allowed listed
    exact (rosterPage_serves allowed listed).readsOnce allowed.1 listed.summaries
  · intro t owner allowed stored active readable
    exact (teamListPage_serves allowed stored active
      (fun row member => (readable row member).1)).readsOnce allowed.1
        (fun row member => (readable row member).2)
  · intro t owner team allowed stored active saved hosted
    exact (teamStartPage_serves allowed stored active saved hosted).readsOnce allowed.1
      (fun _ _ => rfl)
  · intro owners outbox allowed stored named readable
    exact (governancePage_serves allowed stored named
      (fun row member => (readable row member).1)).readsOnce allowed.1
        (fun row member => (readable row member).2)
  · intro states first final allowed isFirst isLast listed grows
    constructor
    · intro items follows row member
      exact roster_growing allowed isFirst listed grows follows member
    · intro enough
      exact exists_follows_served allowed.1
        (fun state found => rosterPage_serves allowed (listed state found))
        (grows.imp Workspace.Gains.later) (fun state found => (listed state found).summaries)
        isLast enough

/-- A column that keeps two points in time. -/
def sampleColumn : DatetimeColumn :=
  { load := fun time =>
      if time = 1 then { year := 2026, month := 1, day := 2, second := 1 }
      else { year := 2026, month := 1, day := 2, second := 2 }
    bind := fun moment => moment.second }

/-- An Owner with three Companions, two of them created together, one of the
second `later`. -/
def sampleRoster (later : Bool) : Workspace :=
  { owners := { rows := [{ ownerId := "o" }], unique := by decide }
    companions :=
      { rows :=
          [{ companionId := "c2", ownerId := "o", createdAt := 1 },
           { companionId := "c1", ownerId := "o", createdAt := 1 }] ++
            if later then [{ companionId := "c3", ownerId := "o", createdAt := 2 }] else []
        unique := by cases later <;> decide } }

def sampleListings : Tables :=
  { workspace := sampleRoster true
    teams :=
      { teams :=
          { rows :=
              [{ ownerId := "o", teamId := "t2", hostId := "h", revision := 1 },
               { ownerId := "o", teamId := "t1", hostId := "h", revision := 1 }]
            unique := by decide }
        teamRevisions :=
          { rows :=
              [{ ownerId := "o", teamId := "t2", revision := 1, configuration := [] },
               { ownerId := "o", teamId := "t1", revision := 1, configuration := [] }]
            unique := by decide }
        teamStarts :=
          { rows :=
              [{ ownerId := "o", sessionId := "s1", teamId := "t1", revision := 1 },
               { ownerId := "o", sessionId := "s2", teamId := "t1", revision := 1 }]
            unique := by decide } }
    auditOutbox :=
      { rows :=
          [{ outboxId := 1
             fact := governanceFact (.ofNat 1) 0 "o" "owner" "o" "owner.created"
             nextAttemptAt := 0 },
           { outboxId := 2
             fact := governanceFact (.ofNat 2) 0 "o" "owner" "o" "owner.updated"
             nextAttemptAt := 0 }]
        unique := by decide } }

theorem sampleRoster_listed (later : Bool) :
    (sampleRoster later).Listed sampleColumn (sampleRoster false) "o" where
  owner := ⟨{ ownerId := "o" }, by decide +kernel⟩
  ids := by cases later <;> decide +kernel
  times := by cases later <;> decide +kernel
  summaries := by cases later <;> decide +kernel

theorem listings_read_once_sample :
    ReadsOnce (rosterPage .extended sampleColumn "o" 1) rosterColumn
        (companionSummary sampleColumn) (sampleRoster false, sampleRoster true)
        ((sampleRoster true).roster "o") ∧
      ReadsOnce (teamListPage .plain "o" "h" 1) (fun row => row.teamId) (loadedTeam .plain)
        sampleListings (sampleListings.teams.listed "o" "h") ∧
      ReadsOnce (teamStartPage "o" "h" "t1" true 1) runColumn startRecord sampleListings
        (sampleListings.teams.runs "o" "t1" true) ∧
      ReadsOnce (governancePage (fun _ => "2026-01-02T00:00:00+00:00") "o" 1) governanceColumn
        (governanceResponse (fun _ => "2026-01-02T00:00:00+00:00"))
        (sampleRoster true, sampleListings.auditOutbox)
        (governanceEvents sampleListings.auditOutbox "o") ∧
      ∃ seen items,
        seen <+: [(sampleRoster false, sampleRoster false), (sampleRoster false, sampleRoster true),
          (sampleRoster false, sampleRoster true)] ∧
        Follows (rosterPage .extended sampleColumn "o" 1) seen none items := by
  have all := listings_read_once .extended sampleColumn (fun _ => "2026-01-02T00:00:00+00:00")
    .plain "o" "h" "t1" true 1
  obtain ⟨roster, teams, starts, events, growing⟩ := all
  refine ⟨?_, ?_, ?_, ?_, ?_⟩
  · exact roster _ _ (by decide) (sampleRoster_listed true)
  · exact teams _ { ownerId := "o" } (by decide) (by decide +kernel) rfl (by decide +kernel)
  · exact starts _ { ownerId := "o" }
      { ownerId := "o", teamId := "t1", hostId := "h", revision := 1 } (by decide)
      (by decide +kernel) rfl (by decide +kernel) rfl
  · exact events _ _ (by decide) (by decide +kernel) (by decide +kernel) (by decide +kernel)
  · have grown := growing
      [(sampleRoster false, sampleRoster false), (sampleRoster false, sampleRoster true),
        (sampleRoster false, sampleRoster true)] _ _ (by decide) rfl rfl
    have listed : ∀ state ∈ [(sampleRoster false, sampleRoster false),
        (sampleRoster false, sampleRoster true), (sampleRoster false, sampleRoster true)],
        state.2.Listed sampleColumn state.1 "o" := by
      intro state member
      simp only [List.mem_cons, List.not_mem_nil, or_false] at member
      rcases member with rfl | rfl | rfl
      · exact sampleRoster_listed false
      · exact sampleRoster_listed true
      · exact sampleRoster_listed true
    have gains : (sampleRoster false).Gains (sampleRoster true) "o" :=
      ⟨[{ companionId := "c3", ownerId := "o", createdAt := 2 }], .of_eq (by decide +kernel),
        by decide +kernel⟩
    have same : (sampleRoster true).Gains (sampleRoster true) "o" :=
      ⟨[], .of_eq (by simp), by simp⟩
    refine (grown listed ?_).2 (by decide +kernel)
    simp [gains, same]

end EidolonData
