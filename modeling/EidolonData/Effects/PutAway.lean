import EidolonData.Effects.Integrity
import EidolonData.Effects.Lifecycle
import EidolonData.Library.Alike

/-!
# Putting away in one step or in two

A fact differs from one caller to the next by its event id and the time.  Up
to these, putting a Companion away is retiring it and then archiving it.
-/

namespace EidolonData

open Relational

section Resembling

/-- A fact less its event id and its time. -/
def AuditFact.bare (fact : AuditFact) : AuditFact :=
  { fact with
    eventId := ""
    occurredAt := 0 }

def AuditOutboxRow.bare (row : AuditOutboxRow) : AuditOutboxRow :=
  { row with
    fact := row.fact.bare
    nextAttemptAt := 0 }

/-- The same tables, up to event ids and times in the outbox. -/
structure Tables.Resembles (t t' : Tables) : Prop where
  workspace : t.workspace = t'.workspace
  faces : t.faces = t'.faces
  home : t.home = t'.home
  people : t.people = t'.people
  teams : t.teams = t'.teams
  outbox : t.auditOutbox.rows.map AuditOutboxRow.bare = t'.auditOutbox.rows.map AuditOutboxRow.bare

theorem Tables.Resembles.refl (t : Tables) : t.Resembles t := ⟨rfl, rfl, rfl, rfl, rfl, rfl⟩

theorem Tables.Resembles.mapWorkspace {t t' : Tables} (alike : t.Resembles t')
    (change : Workspace → Workspace) : (t.mapWorkspace change).Resembles (t'.mapWorkspace change) :=
  { alike with workspace := congrArg change alike.workspace }

theorem foldl_bare (rows : List AuditOutboxRow) (start : Int) :
    (rows.map AuditOutboxRow.bare).foldl (fun highest row => max highest row.outboxId) start =
      rows.foldl (fun highest row => max highest row.outboxId) start := by
  rw [List.foldl_map]
  rfl

theorem Tables.Resembles.addFact {t t' : Tables} (alike : t.Resembles t') (now now' : Timestamp)
    {fact fact' : AuditFact} (same : fact.bare = fact'.bare) :
    (t.addFact now fact).Resembles (t'.addFact now' fact') := by
  have next : nextOutboxId t.auditOutbox = nextOutboxId t'.auditOutbox := by
    unfold nextOutboxId
    rw [← foldl_bare, alike.outbox, foldl_bare]
  have rows : ∀ (t : Tables) (now : Timestamp) (fact : AuditFact),
      (t.addFact now fact).auditOutbox.rows.map AuditOutboxRow.bare =
        t.auditOutbox.rows.map AuditOutboxRow.bare ++
          [{ outboxId := nextOutboxId t.auditOutbox, fact := fact.bare, nextAttemptAt := 0 }] := by
    intro t now fact
    rw [Tables.rows_addFact, List.map_append]
    rfl
  refine { alike with outbox := ?_ }
  rw [rows, rows, alike.outbox, next, same]

theorem alike_getOwner (ownerId : String) :
    Tx.Alike Tables.Resembles (getOwner ownerId) (getOwner ownerId) :=
  Tx.alike_read (fun _ _ alike => by rw [alike.workspace])

theorem alike_writeDefault (owner : OwnerRow) :
    Tx.Alike Tables.Resembles (writeDefault owner) (writeDefault owner) :=
  Tx.alike_modify (fun _ _ alike => alike.mapWorkspace _)

theorem alike_writeLifecycle (companion : CompanionRow) :
    Tx.Alike Tables.Resembles (writeLifecycle companion) (writeLifecycle companion) :=
  Tx.alike_modify (fun _ _ alike => alike.mapWorkspace _)

theorem alike_addFact (env env' : Env) {fact fact' : AuditFact} (same : fact.bare = fact'.bare) :
    Tx.Alike Tables.Resembles (addFact env fact) (addFact env' fact') :=
  Tx.alike_modify (fun _ _ alike => alike.addFact env.now env'.now same)

end Resembling

section Steps

variable (sdk : Sdk) (env env' : Env) (ownerId companionId : String)

theorem alike_ownedCompanion :
    Tx.Alike Tables.Resembles (ownedCompanion ownerId companionId)
      (ownedCompanion ownerId companionId) := by
  refine .bind (Tx.alike_read (fun _ _ alike => by rw [alike.workspace])) ?_
  intro stored
  exact Tx.alike_require _ _

theorem alike_eligibleReplacement (replacementId : Option String) :
    Tx.Alike Tables.Resembles (eligibleReplacement sdk ownerId companionId replacementId)
      (eligibleReplacement sdk ownerId companionId replacementId) := by
  refine .bind (Tx.alike_read (fun _ _ alike => by rw [alike.workspace])) ?_
  intro others
  refine .bind (Tx.alike_refuseIf _ _) (fun _ => ?_)
  exact .bind (Tx.alike_require _ _) (fun _ => Tx.alike_require _ _)

theorem alike_handOverDefault (owner : OwnerRow) (replacementId : Option String) :
    Tx.Alike Tables.Resembles (handOverDefault sdk env owner companionId replacementId)
      (handOverDefault sdk env' owner companionId replacementId) := by
  unfold handOverDefault
  refine .ite _ ?_ (Tx.alike_done _)
  refine .bind (alike_eligibleReplacement sdk _ _ replacementId) (fun replacement => ?_)
  refine .bind (alike_writeDefault _) (fun _ => ?_)
  exact .bind (alike_addFact env env' rfl) (fun _ => Tx.alike_done _)

theorem alike_retire (companion : CompanionRow) (expectedRevision : Option Int)
    (replacementId : Option String) :
    Tx.Alike Tables.Resembles (retire sdk env ownerId companion expectedRevision replacementId)
      (retire sdk env' ownerId companion expectedRevision replacementId) := by
  unfold retire
  refine .ite _ (Tx.alike_done _) ?_
  refine .bind (Tx.alike_lift _ _) (fun _ => ?_)
  refine .bind (alike_getOwner ownerId) (fun stored => ?_)
  refine .bind (Tx.alike_require _ _) (fun owner => ?_)
  refine .bind (alike_handOverDefault sdk env env' _ owner replacementId) (fun handed => ?_)
  refine .bind (alike_writeLifecycle _) (fun _ => ?_)
  exact .bind (alike_addFact env env' rfl) (fun _ => Tx.alike_done _)

theorem alike_getLoadedOwner (loaded : Option OwnerRow) :
    Tx.Alike Tables.Resembles (getLoadedOwner ownerId loaded) (getLoadedOwner ownerId loaded) := by
  cases loaded with
  | none => exact alike_getOwner ownerId
  | some owner => exact Tx.alike_done (some owner)

theorem alike_archive (companion : CompanionRow) (loaded : Option OwnerRow)
    (expectedRevision : Option Int) :
    Tx.Alike Tables.Resembles (archive sdk env ownerId companion loaded expectedRevision)
      (archive sdk env' ownerId companion loaded expectedRevision) := by
  unfold archive
  refine .ite _ (Tx.alike_done _) ?_
  refine .bind (Tx.alike_lift _ _) (fun _ => ?_)
  refine .bind (alike_getLoadedOwner ownerId loaded) (fun owner => ?_)
  refine .bind (Tx.alike_refuseIf _ _) (fun _ => ?_)
  refine .bind (alike_writeLifecycle _) (fun _ => ?_)
  exact .bind (alike_addFact env env' rfl) (fun _ => Tx.alike_done _)

def retireThenArchive (first second : Env) (expectedRevision : Option Int)
    (replacementId : Option String) : Session CompanionRow := do
  let companion ← ownedCompanion ownerId companionId
  let (companion, owner) ← retire sdk first ownerId companion expectedRevision replacementId
  archive sdk second ownerId companion owner none

theorem alike_retireThenArchive (first second : Env) (expectedRevision : Option Int)
    (replacementId : Option String) :
    Tx.Alike Tables.Resembles
      (retireThenArchive sdk ownerId companionId env env expectedRevision replacementId)
      (retireThenArchive sdk ownerId companionId first second expectedRevision replacementId) := by
  unfold retireThenArchive
  refine .bind (alike_ownedCompanion ownerId companionId) (fun companion => ?_)
  refine .bind (alike_retire sdk env first ownerId companion _ _) (fun retired => ?_)
  exact alike_archive sdk env second ownerId _ _ none

def Workspace.NotArchived (w : Workspace) (ownerId companionId : String) : Prop :=
  ∀ companion, w.companions.get? companionId = some companion → companion.ownerId = ownerId →
    companion.lifecycleState ≠ .archived

variable {ownerId companionId}

/-- A Companion the caller's Owner does not have, or one the commands load. -/
theorem ownedCompanion_cases (t : Tables) (ownerId companionId : String) :
    (∃ error, (ownedCompanion ownerId companionId).run t = .error error) ∨
      ∃ companion, t.workspace.companions.get? companionId = some companion ∧
        companion.ownerId = ownerId ∧
        (ownedCompanion ownerId companionId).run t = .ok (companion, t) := by
  cases ran : (ownedCompanion ownerId companionId).run t with
  | error failure => exact .inl ⟨failure, rfl⟩
  | ok answer =>
      obtain ⟨companion, t'⟩ := answer
      obtain ⟨unchanged, found, named, owned⟩ :=
        ownedCompanion_effect t ownerId companionId companion t' ran
      subst unchanged named
      exact .inr ⟨companion, found, owned, rfl⟩

theorem run_putAwayCompanion {t : Tables}
    (notArchived : t.workspace.NotArchived ownerId companionId)
    (expectedRevision : Option Int) (replacementId : Option String) :
    (putAwayCompanion sdk env ownerId companionId expectedRevision replacementId).run t =
      (retireThenArchive sdk ownerId companionId env env expectedRevision replacementId).run t := by
  unfold putAwayCompanion retireThenArchive
  rcases ownedCompanion_cases t ownerId companionId with
    ⟨error, ran⟩ | ⟨companion, found, owned, ran⟩
  · rw [Tx.run_bind_error ran, Tx.run_bind_error ran]
  · rw [Tx.run_bind_ok ran, Tx.run_bind_ok ran, if_pos (notArchived companion found owned)]

theorem run_archive_loaded {t : Tables} (companion : CompanionRow) (loaded : Option OwnerRow)
    (held : ∀ owner, loaded = some owner → t.workspace.owners.get? ownerId = some owner)
    (expectedRevision : Option Int) :
    (archive sdk env ownerId companion loaded expectedRevision).run t =
      (archive sdk env ownerId companion none expectedRevision).run t := by
  cases loaded with
  | none => rfl
  | some owner =>
      have read : (getLoadedOwner ownerId (some owner)).run t =
          (getLoadedOwner ownerId none).run t := by
        simp only [getLoadedOwner, Tx.run_done, getOwner, Tx.run_read, held owner rfl]
      unfold archive
      split
      · rfl
      · cases requireTransition sdk companion .archived expectedRevision with
        | error failure => rfl
        | ok accepted =>
            have passed : (check (.ok accepted)).run t = .ok (accepted, t) := rfl
            rw [Tx.run_bind_ok passed, Tx.run_bind_ok passed, Tx.run_bind, Tx.run_bind, read]

/-- Retiring in one session and archiving in the next does what one session
does. -/
theorem run_steps {t : Tables} (first second : Env) (expectedRevision : Option Int)
    (replacementId : Option String) :
    (do
      let _ ← beginRetirement sdk first ownerId companionId expectedRevision replacementId
      archiveCompanion sdk second ownerId companionId none : Session CompanionRow).run t =
      (retireThenArchive sdk ownerId companionId first second expectedRevision replacementId).run
        t := by
  unfold beginRetirement retireThenArchive archiveCompanion
  rw [Tx.run_bind]
  rcases ownedCompanion_cases t ownerId companionId with
    ⟨error, ran⟩ | ⟨companion, found, owned, ran⟩
  · rw [Tx.run_bind_error ran, Tx.run_bind_error ran]
  · rw [Tx.run_bind_ok ran, Tx.run_bind_ok ran, Tx.run_bind, Tx.run_bind]
    cases retired : (retire sdk first ownerId companion expectedRevision replacementId).run t with
    | error failure => rfl
    | ok answer =>
        obtain ⟨⟨companion', loaded⟩, t'⟩ := answer
        have named : companion.companionId = companionId := Table.key_of_get? found
        have stored : t.workspace.companions.get? companion.companionId = some companion := by
          rw [named]
          exact found
        obtain ⟨-, found', same, owned', -, held⟩ :=
          retire_effect sdk .all first t ownerId companion expectedRevision replacementId stored
            owned (fun _ _ _ _ _ => trivial) _ _ retired
        rw [named] at found'
        have again := ownedCompanion_run t' found' owned'
        show (ownedCompanion ownerId companionId >>= _).run t' = _
        rw [Tx.run_bind_ok again]
        exact (run_archive_loaded sdk second companion' loaded held none).symm

end Steps

section Commits

/-- The event id of a fact the caller does not name. -/
def Env.event (env : Env) (site : Nat) : String := "audit-" ++ (env.uuid site).hex

/-- The ids the lifecycle commands draw are new, and different from each other. -/
structure Env.Fresh (env : Env) (t : Tables) : Prop where
  new : ∀ site < 3, ¬ t.HasEvent (env.event site)
  distinct : ∀ site < 3, ∀ other < site, env.event site ≠ env.event other

variable (sdk : Sdk) (env : Env) {t : Tables} {ownerId : String}

theorem handOverDefault_integrity (integrity : t.Integrity) (fresh : env.Fresh t)
    (owner : OwnerRow) (companionId : String) (replacementId : Option String)
    (found : t.workspace.owners.get? owner.ownerId = some owner) :
    (handOverDefault sdk env owner companionId replacementId).Ensures t (fun _ t' =>
      t'.Integrity ∧ t'.workspace.companions = t.workspace.companions ∧
        ∀ eventId, t'.HasEvent eventId → t.HasEvent eventId ∨ eventId = env.event 0) := by
  simp only [handOverDefault, Tx.ensures_ite, Tx.ensures_bind, Tx.pure_eq, Tx.ensures_done]
  constructor
  · intro _
    refine (eligibleReplacement_effect sdk t _ _ _).mono ?_
    intro replacement t₁ outcome
    obtain ⟨unchanged, stored, _⟩ := outcome
    subst unchanged
    simp only [writeDefault, ensures_updateOwnerRow, ensures_addFact]
    have moved : (t₁.mapWorkspace (fun w =>
        w.moveDefault owner replacement.companionId)).Integrity :=
      integrity.moveDefault found (Table.has_of_get? stored)
    refine ⟨(moved.addFact_iff env.now _).mpr (fresh.new 0 (by decide)), rfl, ?_⟩
    intro eventId present
    rcases (Tables.hasEvent_addFact_iff _ _ _ _).mp present with before | same
    · exact .inl before
    · exact .inr same.symm
  · intro _
    exact ⟨integrity, trivial, fun _ present => .inl present⟩

theorem retire_integrity (integrity : t.Integrity) (fresh : env.Fresh t) (companion : CompanionRow)
    (expectedRevision : Option Int) (replacementId : Option String)
    (found : t.workspace.companions.get? companion.companionId = some companion) :
    (retire sdk env ownerId companion expectedRevision replacementId).Ensures t (fun _ t' =>
      t'.Integrity ∧ ∀ eventId, t'.HasEvent eventId →
        t.HasEvent eventId ∨ eventId = env.event 0 ∨ eventId = env.event 1) := by
  simp only [retire, Tx.ensures_ite, Tx.ensures_bind, Tx.pure_eq, Tx.ensures_done, ensures_check,
    ensures_getOwner, Tx.ensures_require, writeLifecycle, ensures_updateCompanionRow,
    ensures_addFact]
  constructor
  · intro _
    exact ⟨integrity, fun _ present => .inl present⟩
  · intro _ _ _ owner ownerFound
    have stored : owner.ownerId = ownerId := Table.key_of_get? ownerFound
    rw [← stored] at ownerFound
    refine (handOverDefault_integrity sdk env integrity fresh owner companion.companionId
      replacementId ownerFound).mono ?_
    intro _ t₁ outcome
    obtain ⟨integrity₁, companions₁, events₁⟩ := outcome
    have found₁ : t₁.workspace.companions.get? companion.companionId = some companion := by
      rw [companions₁]
      exact found
    have moved : (t₁.mapWorkspace (fun w => w.moveLifecycle companion .retiring)).Integrity :=
      integrity₁.moveLifecycle .retiring found₁
    constructor
    · refine (moved.addFact_iff env.now _).mpr ?_
      intro present
      rcases events₁ _ present with before | same
      · exact fresh.new 1 (by decide) before
      · exact fresh.distinct 1 (by decide) 0 (by decide) same
    · intro eventId present
      rcases (Tables.hasEvent_addFact_iff _ _ _ _).mp present with before | same
      · rcases events₁ eventId before with first | handed
        · exact .inl first
        · exact .inr (.inl handed)
      · exact .inr (.inr same.symm)

theorem archive_integrity (integrity : t.Integrity) (fresh : ¬ t.HasEvent (env.event 2))
    (companion : CompanionRow) (loaded : Option OwnerRow) (expectedRevision : Option Int)
    (found : t.workspace.companions.get? companion.companionId = some companion) :
    (archive sdk env ownerId companion loaded expectedRevision).Ensures t
      (fun _ t' => t'.Integrity) := by
  simp only [archive, Tx.ensures_ite, Tx.ensures_bind, Tx.pure_eq, Tx.ensures_done, ensures_check,
    Tx.ensures_refuseIf, writeLifecycle, ensures_updateCompanionRow, ensures_addFact]
  constructor
  · intro _
    exact integrity
  · intro _ _ _
    have read : (getLoadedOwner ownerId loaded).Ensures t (fun _ t' => t' = t) := by
      cases loaded with
      | none => simp only [getLoadedOwner, ensures_getOwner]
      | some owner => simp only [getLoadedOwner, Tx.ensures_done]
    refine read.mono ?_
    intro _ t₁ unchanged _
    subst unchanged
    have moved : (t₁.mapWorkspace (fun w => w.moveLifecycle companion .archived)).Integrity :=
      integrity.moveLifecycle .archived found
    exact (moved.addFact_iff env.now _).mpr fresh

end Commits

end EidolonData
