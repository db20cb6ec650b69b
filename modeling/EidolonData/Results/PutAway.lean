import EidolonData.Commands
import EidolonData.Effects.PutAway

/-!
# Putting a Companion away

One command does what retiring and archiving do, or nothing at all; and a
lifecycle command repeated at its target changes nothing.
-/

namespace EidolonData

open Relational

section Commits

/-- A command whose runs keep the constraints commits what it ran to. -/
theorem Database.transact_of_ensures {α : Type} {db : Database} {command : Session α}
    (kept : command.Ensures db.tables (fun _ t' => t'.Integrity)) :
    (db.transact command).map (fun answer => (answer.1, answer.2.tables)) =
      command.run db.tables := by
  cases ran : command.run db.tables with
  | error failure =>
      rw [Database.transact_of_error ran]
      rfl
  | ok answer =>
      obtain ⟨value, t⟩ := answer
      have committed : db.transact command = .ok (value, ⟨t, kept value t ran⟩) :=
        Database.transact_ok_iff.mpr ran
      rw [committed]
      rfl

/-- `begin_retirement` and then `archive_companion`. -/
def Database.retireAndArchive (db : Database) (sdk : Sdk) (first second : Env)
    (ownerId companionId : String) (replacementId : Option String) :
    Except Error (CompanionRow × Database) := do
  let (_, retired) ←
    db.transact (beginRetirement sdk first ownerId companionId none replacementId)
  retired.transact (archiveCompanion sdk second ownerId companionId none)

variable (sdk : Sdk) (env first second : Env) (db : Database) (ownerId companionId : String)
variable (replacementId : Option String)

theorem beginRetirement_integrity (fresh : first.Fresh db.tables) :
    (beginRetirement sdk first ownerId companionId none replacementId).Ensures db.tables
      (fun _ t' => t'.Integrity ∧ ∀ eventId, t'.HasEvent eventId →
        db.tables.HasEvent eventId ∨ eventId = first.event 0 ∨ eventId = first.event 1) := by
  simp only [beginRetirement, Tx.ensures_bind, Tx.pure_eq, Tx.ensures_done]
  refine (ownedCompanion_effect db.tables ownerId companionId).mono ?_
  intro companion t₁ outcome
  obtain ⟨unchanged, found, _⟩ := outcome
  subst unchanged
  exact retire_integrity sdk first db.property fresh companion none replacementId found

theorem archiveCompanion_integrity {t : Tables} (integrity : t.Integrity)
    (fresh : ¬ t.HasEvent (second.event 2)) :
    (archiveCompanion sdk second ownerId companionId none).Ensures t
      (fun _ t' => t'.Integrity) := by
  simp only [archiveCompanion, Tx.ensures_bind]
  refine (ownedCompanion_effect t ownerId companionId).mono ?_
  intro companion t₁ ⟨unchanged, found, _⟩
  subst unchanged
  exact archive_integrity sdk second integrity fresh companion none none found

theorem retireThenArchive_integrity (fresh : env.Fresh db.tables) :
    (retireThenArchive sdk ownerId companionId env env none replacementId).Ensures db.tables
      (fun _ t' => t'.Integrity) := by
  simp only [retireThenArchive, Tx.ensures_bind]
  refine (ownedCompanion_effect db.tables ownerId companionId).mono ?_
  intro companion t₁ outcome
  obtain ⟨unchanged, found, named, owned⟩ := outcome
  subst unchanged
  refine ((retire_integrity sdk env db.property fresh companion none replacementId found).and
    (retire_effect sdk .all env db.tables ownerId companion none replacementId found owned
      (fun _ _ _ _ _ => trivial))).mono ?_
  intro reply t₂ outcome
  obtain ⟨retired, owner⟩ := reply
  obtain ⟨⟨integrity, events⟩, _, stored, same, _⟩ := outcome
  refine archive_integrity sdk env integrity ?_ retired owner none (same ▸ stored)
  intro present
  rcases events _ present with before | handed | begun
  · exact fresh.new 2 (by decide) before
  · exact fresh.distinct 2 (by decide) 0 (by decide) handed
  · exact fresh.distinct 2 (by decide) 1 (by decide) begun

/-- What the two commands commit is what their sessions run to, one after the
other. -/
theorem retireAndArchive_run (freshFirst : first.Fresh db.tables)
    (freshSecond : second.Fresh db.tables)
    (apart : ∀ site < 3, ∀ other < 3, first.event site ≠ second.event other) :
    (db.retireAndArchive sdk first second ownerId companionId replacementId).map
        (fun answer => (answer.1, answer.2.tables)) =
      (retireThenArchive sdk ownerId companionId first second none replacementId).run
        db.tables := by
  rw [← run_steps sdk first second none replacementId, Tx.run_bind]
  have begun := beginRetirement_integrity sdk first db ownerId companionId replacementId freshFirst
  have committed := Database.transact_of_ensures (begun.mono (fun _ _ kept => kept.1))
  unfold Database.retireAndArchive
  cases transacted : db.transact
      (beginRetirement sdk first ownerId companionId none replacementId) with
  | error failure =>
      rw [transacted] at committed
      rw [← committed]
      rfl
  | ok answer =>
      obtain ⟨companion, retired⟩ := answer
      have ran := Database.transact_ok_iff.mp transacted
      have new : ¬ retired.tables.HasEvent (second.event 2) := by
        intro present
        rcases (begun _ _ ran).2 _ present with before | handed | began
        · exact freshSecond.new 2 (by decide) before
        · exact apart 0 (by decide) 2 (by decide) handed.symm
        · exact apart 1 (by decide) 2 (by decide) began.symm
      rw [ran]
      exact Database.transact_of_ensures
        (archiveCompanion_integrity sdk second ownerId companionId retired.property new)

end Commits

section Repeats

variable {sdk : Sdk} {env : Env} {db : Database} {ownerId companionId : String}
variable {companion : CompanionRow}

theorem lifecycle_repeats (sdk : Sdk) (env : Env)
    (found : db.tables.workspace.companions.get? companionId = some companion)
    (owned : companion.ownerId = ownerId) (expectedRevision : Option Int)
    (replacementId : Option String) :
    (companion.lifecycleState = .retiring →
      db.transact (beginRetirement sdk env ownerId companionId expectedRevision replacementId) =
        .ok (companion, db)) ∧
    (companion.lifecycleState = .archived →
      db.transact (archiveCompanion sdk env ownerId companionId expectedRevision) =
          .ok (companion, db) ∧
        db.transact (putAwayCompanion sdk env ownerId companionId expectedRevision
          replacementId) = .ok (companion, db)) ∧
    (companion.lifecycleState = .active →
      db.transact (restoreCompanion sdk env ownerId companionId expectedRevision) =
        .ok (companion, db)) := by
  have loaded := ownedCompanion_run db.tables found owned
  refine ⟨?_, ?_, ?_⟩
  · intro retiring
    apply Database.transact_ok_iff.mpr
    rw [beginRetirement, Tx.run_bind_ok loaded, retire, if_pos retiring]
    rfl
  · intro archived
    constructor
    · apply Database.transact_ok_iff.mpr
      rw [archiveCompanion, Tx.run_bind_ok loaded, archive, if_pos archived]
      rfl
    · apply Database.transact_ok_iff.mpr
      rw [putAwayCompanion, Tx.run_bind_ok loaded, if_neg (not_not.mpr archived)]
      rfl
  · intro active
    apply Database.transact_ok_iff.mpr
    rw [restoreCompanion, Tx.run_bind_ok loaded, if_pos active]
    rfl

end Repeats

/-- Where the Companion is not archived, putting it away is retiring it and
archiving it: both give the same Companion and leave the same tables, up to
event ids and times, or both are refused and nothing is written.  A lifecycle
command finds a Companion at its target and changes nothing. -/
theorem put_away_is_both_steps (sdk : Sdk) (db : Database) (ownerId companionId : String)
    (replacementId : Option String) :
    (∀ env first second : Env, env.Fresh db.tables → first.Fresh db.tables →
      second.Fresh db.tables →
      (∀ site < 3, ∀ other < 3, first.event site ≠ second.event other) →
      db.tables.workspace.NotArchived ownerId companionId →
        (∀ companion putAway,
          db.transact (putAwayCompanion sdk env ownerId companionId none replacementId) =
              .ok (companion, putAway) →
            ∃ archived, db.retireAndArchive sdk first second ownerId companionId replacementId =
                .ok (companion, archived) ∧ putAway.tables.Resembles archived.tables) ∧
        (∀ companion archived,
          db.retireAndArchive sdk first second ownerId companionId replacementId =
              .ok (companion, archived) →
            ∃ putAway, db.transact (putAwayCompanion sdk env ownerId companionId none
                replacementId) = .ok (companion, putAway) ∧
              putAway.tables.Resembles archived.tables) ∧
        (∀ error, db.retireAndArchive sdk first second ownerId companionId replacementId =
            .error error →
          db.Refuses (putAwayCompanion sdk env ownerId companionId none replacementId))) ∧
    (∀ (env : Env) (expectedRevision : Option Int) (companion : CompanionRow),
      db.tables.workspace.companions.get? companionId = some companion →
      companion.ownerId = ownerId →
        (companion.lifecycleState = .retiring →
          db.transact (beginRetirement sdk env ownerId companionId expectedRevision
            replacementId) = .ok (companion, db)) ∧
        (companion.lifecycleState = .archived →
          db.transact (archiveCompanion sdk env ownerId companionId expectedRevision) =
              .ok (companion, db) ∧
            db.transact (putAwayCompanion sdk env ownerId companionId expectedRevision
              replacementId) = .ok (companion, db)) ∧
        (companion.lifecycleState = .active →
          db.transact (restoreCompanion sdk env ownerId companionId expectedRevision) =
            .ok (companion, db))) := by
  constructor
  · intro env first second fresh freshFirst freshSecond apart notArchived
    have steps := retireAndArchive_run sdk first second db ownerId companionId replacementId
      freshFirst freshSecond apart
    have once : (db.transact (putAwayCompanion sdk env ownerId companionId none
        replacementId)).map (fun answer => (answer.1, answer.2.tables)) =
        (retireThenArchive sdk ownerId companionId env env none replacementId).run db.tables := by
      rw [← run_putAwayCompanion sdk env notArchived none replacementId]
      apply Database.transact_of_ensures
      intro companion t' ran
      rw [run_putAwayCompanion sdk env notArchived none replacementId] at ran
      exact retireThenArchive_integrity sdk env db ownerId companionId replacementId fresh
        companion t' ran
    have agreed := alike_retireThenArchive sdk env ownerId companionId first second none
      replacementId db.tables db.tables (.refl db.tables)
    rw [← once, ← steps] at agreed
    unfold Database.Refuses Database.after
    generalize db.transact (putAwayCompanion sdk env ownerId companionId none replacementId) =
      outcome at agreed ⊢
    generalize db.retireAndArchive sdk first second ownerId companionId replacementId =
      outcome' at agreed ⊢
    cases outcome with
    | error failure =>
        cases outcome' with
        | error failure' => simp
        | ok answer => cases agreed
    | ok answer =>
        cases outcome' with
        | error failure => cases agreed
        | ok answer' =>
            obtain ⟨companion, putAway⟩ := answer
            obtain ⟨companion', archived⟩ := answer'
            cases agreed with
            | ok related =>
                refine ⟨?_, ?_, ?_⟩
                · rintro _ _ ⟨⟩
                  exact ⟨archived, rfl, related⟩
                · rintro _ _ ⟨⟩
                  exact ⟨putAway, rfl, related⟩
                · rintro _ ⟨⟩
  · intro env expectedRevision companion found owned
    exact lifecycle_repeats sdk env found owned expectedRevision replacementId

/-- An Owner with two Companions, the first the default. -/
def defaultAndOther : Database :=
  replay .plain
    (numbered [.createOwner "owner" "" "person" none none,
      .provisionWorkspace { ownerId := "owner", companionId := some "c_a" },
      .provisionWorkspace { ownerId := "owner", companionId := some "c_b" },
      .setDefaultCompanion "owner" "c_a" none]) .empty

/-- What one caller draws, from a number on. -/
def drawnFrom (number : Nat) : Env :=
  { uuid := fun site => .ofNat (number + site)
    now := number }

theorem drawnFrom_fresh {number : Nat} (drawn : number ∈ [1024, 2048, 3072]) :
    (drawnFrom number).Fresh defaultAndOther.tables := by
  have all : ∀ number ∈ [1024, 2048, 3072],
      (∀ site < 3, ∀ row ∈ defaultAndOther.tables.auditOutbox.rows,
        row.fact.eventId ≠ (drawnFrom number).event site) ∧
      ∀ site < 3, ∀ other < site,
        (drawnFrom number).event site ≠ (drawnFrom number).event other := by
    decide +kernel
  obtain ⟨new, distinct⟩ := all number drawn
  refine ⟨?_, distinct⟩
  rintro site small ⟨row, member, same⟩
  exact new site small row member same

theorem put_away_is_both_steps_handing_over :
    (∃ companion putAway archived,
      defaultAndOther.transact (putAwayCompanion .plain (drawnFrom 1024) "owner" "c_a" none
          (some "c_b")) = .ok (companion, putAway) ∧
        defaultAndOther.retireAndArchive .plain (drawnFrom 2048) (drawnFrom 3072) "owner" "c_a"
          (some "c_b") = .ok (companion, archived) ∧
        putAway.tables.Resembles archived.tables) ∧
      ∃ companion, companion.companionId = "c_a" ∧
        defaultAndOther.transact (restoreCompanion .plain (drawnFrom 1024) "owner" "c_a" none) =
          .ok (companion, defaultAndOther) := by
  obtain ⟨once, repeats⟩ := put_away_is_both_steps .plain defaultAndOther "owner" "c_a" (some "c_b")
  have stored : (defaultAndOther.tables.workspace.companions.get? "c_a").map (fun companion =>
      (companion.ownerId, companion.companionId, companion.lifecycleState)) =
        some ("owner", "c_a", .active) := by
    decide +kernel
  obtain ⟨companion, found, shown⟩ := Option.map_eq_some_iff.mp stored
  simp only [Prod.mk.injEq] at shown
  obtain ⟨owned, named, active⟩ := shown
  have notArchived : defaultAndOther.tables.workspace.NotArchived "owner" "c_a" := by
    intro other otherFound _
    rw [found] at otherFound
    cases otherFound
    rw [active]
    decide
  have succeeds : (defaultAndOther.transact (putAwayCompanion .plain (drawnFrom 1024) "owner" "c_a"
      none (some "c_b"))).toOption.isSome = true := by
    decide +kernel
  constructor
  · obtain ⟨both, -⟩ := once (drawnFrom 1024) (drawnFrom 2048) (drawnFrom 3072)
      (drawnFrom_fresh (by decide)) (drawnFrom_fresh (by decide)) (drawnFrom_fresh (by decide))
      (by decide +kernel) notArchived
    obtain ⟨⟨archivedCompanion, putAway⟩, ran⟩ := Option.isSome_iff_exists.mp succeeds
    have putAwayRan := Tx.ok_of_toOption ran
    obtain ⟨archived, steps, same⟩ := both archivedCompanion putAway putAwayRan
    exact ⟨archivedCompanion, putAway, archived, putAwayRan, steps, same⟩
  · exact ⟨companion, named, ((repeats (drawnFrom 1024) none companion found owned).2.2) active⟩

end EidolonData
