import EidolonData.Effects.Frames

/-!
# What the team commands leave alone
-/

namespace EidolonData

open Relational

/-- What the commands on teams leave alone: all but the teams. -/
def Tables.besideTeams (t : Tables) : Tables := { t with teams := {} }

section Teams

@[simp] theorem besideTeams_mapTeams (t : Tables) (change : Teams → Teams) :
    (t.mapTeams change).besideTeams = t.besideTeams := rfl

variable (sdk : Sdk) (ownerId hostId teamId : String)

section Rules

variable {post : Unit → Prop}

@[simp] theorem besideTeams_lockTeam : lockTeam.Keeps Tables.besideTeams post ↔ post () := by
  simp [lockTeam]

@[simp] theorem besideTeams_updateTeam (guard : TeamRow → Bool) (change : TeamRow → TeamRow)
    (refused : String) (keeps : ∀ row, key (change row) = key row) :
    (updateTeam ownerId teamId guard change refused keeps).Keeps Tables.besideTeams post ↔
      post () := by
  simp [updateTeam]

end Rules

theorem requireTeamOwner_spares : (requireTeamOwner ownerId).Spares Tables.besideTeams := by
  simp [requireTeamOwner]

theorem loadTeamRevision_spares (row : TeamRevisionRow) :
    (loadTeamRevision sdk row).Spares Tables.besideTeams := by
  simp [loadTeamRevision]

theorem saveTeam_spares (expectedRevision : Int) (configuration : TeamConfiguration) :
    (saveTeam sdk ownerId hostId teamId expectedRevision configuration).Spares
      Tables.besideTeams := by
  have saves : (saveRevision ownerId hostId teamId expectedRevision configuration).Spares
      Tables.besideTeams := by
    simp [saveRevision, advanceTeam, getTeam]
  simp only [saveTeam, getTeam, getTeamRevision, Tx.spares_iff, Tx.keeps_bind, Tx.keeps_refuseIf,
    keeps_validated, Tx.keeps_attempt_allowed, implies_true, true_and, Tx.keeps_read]
  intro _ _ _ _ existing accepted _
  split
  · simp
  · exact (saves).all

theorem reserveStart_spares (expectedRevision : Int) (sessionId : String) :
    (reserveStart sdk ownerId hostId teamId expectedRevision sessionId).Spares
      Tables.besideTeams := by
  have opens : (openStart ownerId teamId expectedRevision sessionId).Spares
      Tables.besideTeams := by
    simp only [openStart, getTeamStart, Tx.spares_iff, Tx.keeps_bind, Tx.keeps_read]
    intro previous
    cases previous with
    | some start => simp
    | none => simp
  simp only [reserveStart, getTeamRevision, Tx.spares_iff, Tx.keeps_bind, keeps_validated]
  intro _ _
  refine (requireTeamOwner_spares ownerId).keeps (fun _ => ?_)
  rw [besideTeams_updateTeam]
  refine opens.keeps (fun _ => ?_)
  simp only [Tx.keeps_read, Tx.keeps_require]
  intro _ saved _
  exact (loadTeamRevision_spares sdk saved).all

theorem confirmClosed_spares (sessionId : String) (terminalStatus : Option RoleGroupStatus) :
    (confirmClosed ownerId hostId teamId sessionId terminalStatus).Spares Tables.besideTeams := by
  simp [confirmClosed, getTeam]

theorem startSnapshot_spares (sessionId : String) (selection : Option CoordinationSelection) :
    (startSnapshot sdk ownerId hostId teamId sessionId selection).Spares Tables.besideTeams := by
  have freezes : ∀ row selection,
      (freezeSelection sdk ownerId teamId sessionId row selection).Spares Tables.besideTeams := by
    intro row selection
    simp only [freezeSelection, getTeamRevision, Tx.spares_iff, Tx.keeps_bind, Tx.keeps_refuseIf,
      Tx.keeps_read, Tx.keeps_require, keeps_validated, Tx.keeps_lift]
    intros
    cases row.selection with
    | some stored => trivial
    | none => simp
  simp only [startSnapshot, getTeam, getTeamStart, Tx.spares_iff, Tx.keeps_bind,
    besideTeams_lockTeam, Tx.keeps_read, keeps_getOwner, Tx.keeps_refuseIf, Tx.keeps_require]
  intro _ _ _ _ row _
  cases selection with
  | none => simp
  | some selection =>
      refine (Tx.keeps_bind _ _ _).mpr ((freezes row selection).keeps (fun row => ?_))
      simp

theorem deleteTeam_spares (expectedRevision : Int) :
    (deleteTeam ownerId hostId teamId expectedRevision).Spares Tables.besideTeams := by
  refine Tx.spares_bind (requireTeamOwner_spares ownerId) (fun _ => ?_)
  simp

theorem TeamCommand.session_spares (command : TeamCommand) :
    (command.session sdk ownerId).Spares Tables.besideTeams := by
  cases command with
  | save hostId teamId expectedRevision configuration =>
      exact Tx.spares_bind (saveTeam_spares sdk ownerId hostId teamId _ _) (fun _ => ⟨trivial⟩)
  | reserveStart hostId teamId expectedRevision sessionId =>
      exact Tx.spares_bind (reserveStart_spares sdk ownerId hostId teamId _ _) (fun _ => ⟨trivial⟩)
  | startSnapshot hostId teamId sessionId selection =>
      exact Tx.spares_bind (startSnapshot_spares sdk ownerId hostId teamId _ _) (fun _ => ⟨trivial⟩)
  | confirmClosed hostId teamId sessionId terminalStatus =>
      exact Tx.spares_bind (confirmClosed_spares ownerId hostId teamId _ _) (fun _ => ⟨trivial⟩)
  | delete hostId teamId expectedRevision =>
      exact Tx.spares_bind (deleteTeam_spares ownerId hostId teamId _) (fun _ => ⟨trivial⟩)

end Teams

end EidolonData
