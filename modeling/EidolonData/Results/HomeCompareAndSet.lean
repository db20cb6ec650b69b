import EidolonData.Effects.Integrity
import EidolonData.Effects.SmartHome

/-!
# Writers of one registry compare and set its revision
-/

namespace EidolonData

open Relational System

/-- One successful write: it names the revision it finds, moves it by one and
records one fact that carries the new one. -/
structure ComparedAndSet (env : Env) (ownerId : String) (expected : Int) (t : Tables)
    (reply : Registry) (t' : Tables) : Prop where
  found : Expects expected (t.home.rowsOf ownerId).revision?
  moved : (t'.home.rowsOf ownerId).revision? = some (expected + 1)
  answered : reply.revision = expected + 1
  recorded : ∃ fact, t'.auditOutbox.rows = t.auditOutbox.rows ++
      [{ outboxId := nextOutboxId t.auditOutbox, fact := fact, nextAttemptAt := env.now }] ∧
    fact.ownerId = some ownerId ∧ fact.action = "smarthome.registry.changed" ∧
    fact.payloadJson.get? "revision" = some (.int (expected + 1))

theorem Tables.addFact_rows (t : Tables) (now : Timestamp) (fact : AuditFact) :
    (t.addFact now fact).auditOutbox.rows = t.auditOutbox.rows ++
      [{ outboxId := nextOutboxId t.auditOutbox, fact := fact, nextAttemptAt := now }] :=
  Table.rows_insert (nextOutboxId_fresh t.auditOutbox)

theorem RegistryWritten.comparedAndSet {env : Env} {ownerId change target : String} {expected : Int}
    {edit : HomeRows → HomeRows} {t t' : Tables} {reply : Registry}
    (written : RegistryWritten env ownerId expected change target edit t t')
    (keeps : ∀ rows, (edit rows).registry = rows.registry)
    (answered : reply.revision = expected + 1) :
    ComparedAndSet env ownerId expected t reply t' := by
  obtain ⟨home, same⟩ := written.rest
  refine
    { found := written.current
      moved := ?_
      answered := answered
      recorded := ?_ }
  · rw [written.rows.own, HomeRows.revision?, keeps]
    rfl
  · rw [same]
    exact ⟨_, Tables.addFact_rows _ _ _, rfl, rfl, rfl⟩

theorem HomeWritten.comparedAndSet {sdk : Sdk} {env : Env} {ownerId : String} {write : HomeWrite}
    {t t' : Tables} {reply : Registry} (made : HomeWritten sdk env ownerId t write reply t') :
    ComparedAndSet env ownerId write.expectedRevision t reply t' := by
  cases made with
  | @edited edit expected change target reply t' written proposes =>
      apply written.comparedAndSet
      · intro rows
        cases edit with
        | _ => rfl
      · rw [proposes.document]
  | loaded named known written loads =>
      apply written.comparedAndSet
      · intro rows
        rfl
      · rw [loads.document]

/-- The revision of a registry, 0 before its first write. -/
def SmartHome.revisionOf (h : SmartHome) (ownerId : String) : Int :=
  (h.rowsOf ownerId).revision?.getD 0

theorem ComparedAndSet.revision {env : Env} {ownerId : String} {expected : Int} {t t' : Tables}
    {reply : Registry} (set : ComparedAndSet env ownerId expected t reply t') :
    t.home.revisionOf ownerId = expected ∧ t'.home.revisionOf ownerId = expected + 1 := by
  constructor
  · rw [SmartHome.revisionOf, set.found]
    split
    · next first => rw [first, Option.getD_none]
    · rfl
  · rw [SmartHome.revisionOf, set.moved, Option.getD_some]

section Schedules

variable {ι : Type} [DecidableEq ι]

def playWrites (sdk : Sdk) (env : ι → Env) (ownerId : String) (writes : ι → HomeWrite)
    (db : Database) (schedule : List (Turn ι)) : System Tables.Integrity Error Registry ι :=
  System.play .integrityError schedule
    (System.start (fun client => (writes client).session sdk (env client) ownerId) db)

variable {env : ι → Env} {ownerId : String} {writes : ι → HomeWrite} {db state : Database}

omit [DecidableEq ι] in
theorem follows_ascending {order : List (ι × Registry)}
    (follows : Follows (fun client t reply t' =>
      ComparedAndSet (env client) ownerId (writes client).expectedRevision t reply t')
      db order state) :
    (∀ success ∈ order,
      (writes success.1).expectedRevision < state.tables.home.revisionOf ownerId) ∧
      order.Pairwise (fun first second =>
        (writes first.1).expectedRevision < (writes second.1).expectedRevision) := by
  induction follows with
  | start => exact ⟨by rintro _ ⟨⟩, .nil⟩
  | @commit order before after client reply follows set induction =>
      obtain ⟨below, ascending⟩ := induction
      obtain ⟨old, new⟩ := set.revision
      have earlier : ∀ success ∈ order,
          (writes success.1).expectedRevision < (writes client).expectedRevision := by
        intro success member
        rw [← old]
        exact below success member
      constructor
      · intro success member
        have now : (Database.tables after).home.revisionOf ownerId =
          (writes client).expectedRevision + 1 := new
        rcases List.mem_append.mp member with past | last
        · have := earlier success past
          omega
        · rw [List.mem_singleton.mp last, now]
          exact Int.lt_succ _
      · rw [List.pairwise_append]
        refine ⟨ascending, List.pairwise_singleton _ _, ?_⟩
        intro first member second last
        rw [List.mem_singleton.mp last]
        exact earlier first member

theorem playWrites_guided (sdk : Sdk) (env : ι → Env) (ownerId : String) (writes : ι → HomeWrite)
    (db : Database) (schedule : List (Turn ι)) :
    System.Guided (fun client t reply t' =>
        ComparedAndSet (env client) ownerId (writes client).expectedRevision t reply t') db
      (playWrites sdk env ownerId writes db schedule) := by
  have onward : ∀ client, ((writes client).session sdk (env client) ownerId).Onward
      (fun t reply t' =>
        ComparedAndSet (env client) ownerId (writes client).expectedRevision t reply t') :=
    fun client => ((writes client).session_onward sdk (env client) ownerId).mono
      (fun _ _ _ made => made.comparedAndSet)
  have started := System.guided_start onward db
  exact (started.play schedule).1

/-- The writers that succeed do so one after another, each at the revision the
one before it left, with one fact each; of the writers that name one revision
at most one succeeds; and no turn of another writer, refused or not, changes
what is stored. -/
theorem smarthome_compare_and_set (sdk : Sdk) (env : ι → Env) (ownerId : String)
    (writes : ι → HomeWrite) (db : Database) (schedule : List (Turn ι)) :
    let system := playWrites sdk env ownerId writes db schedule
    (∃ order : List (ι × Registry),
      (order.map Prod.fst).Nodup ∧
      (∀ client reply, (client, reply) ∈ order ↔ system.reply? client = some reply) ∧
      Follows (fun client t reply t' =>
        ComparedAndSet (env client) ownerId (writes client).expectedRevision t reply t')
        db order system.committed) ∧
    (∀ first second, (system.reply? first).isSome → (system.reply? second).isSome →
      (writes first).expectedRevision = (writes second).expectedRevision → first = second) ∧
    (∀ client, system.reply? client = none →
      ∀ before next after, schedule = before ++ next :: after →
        next = .step client ∨ next = .drop client →
          (playWrites sdk env ownerId writes db (before ++ [next])).committed =
            (playWrites sdk env ownerId writes db before).committed) := by
  intro system
  obtain ⟨order, once, members, follows⟩ :=
    (playWrites_guided sdk env ownerId writes db schedule).followed.order
  have replies : ∀ client reply, (client, reply) ∈ order ↔ system.reply? client = some reply :=
    fun client reply => (members client reply).trans reply?_eq_some_iff.symm
  refine ⟨⟨order, once, replies, follows⟩, ?_, ?_⟩
  · intro first second firstReplied secondReplied same
    obtain ⟨reply, replied⟩ := Option.isSome_iff_exists.mp firstReplied
    obtain ⟨reply', replied'⟩ := Option.isSome_iff_exists.mp secondReplied
    have distinct : (order.map (fun success => (writes success.1).expectedRevision)).Nodup :=
      List.pairwise_map.mpr ((follows_ascending follows).2.imp (fun earlier => ne_of_lt earlier))
    have equal := List.inj_on_of_nodup_map distinct ((replies _ _).mpr replied)
      ((replies _ _).mpr replied') same
    exact congrArg Prod.fst equal
  · rintro client unanswered before next after rfl turned
    have played : playWrites sdk env ownerId writes db (before ++ [next]) =
        System.turn .integrityError (playWrites sdk env ownerId writes db before) next :=
      System.play_append _ before [next] _
    have whole : system = System.play .integrityError after
        (System.turn .integrityError (playWrites sdk env ownerId writes db before) next) := by
      rw [← played]
      show System.play _ _ _ = System.play _ after (System.play _ _ _)
      rw [← System.play_append, List.append_assoc, List.singleton_append]
    rw [played]
    rcases (playWrites_guided sdk env ownerId writes db before).turn_cases .integrityError next with
      same | ⟨mover, reply, rfl, replied, -⟩
    · exact same
    · -- The turn would have answered the client for good.
      have answered := System.reply?_play .integrityError after replied
      rcases turned with ⟨⟨⟩⟩ | ⟨⟨⟩⟩
      rw [← whole, unanswered] at answered
      cases answered

end Schedules

end EidolonData
