import EidolonData.Results.ProvisionReceipt
import EidolonData.Effects.Histories
import EidolonData.Invariants.Default
import EidolonData.Library.Serial

/-!
# Overlapping Owner commands

The commands on the Companions of one Owner read before they take the write
lock, so they are serial exactly as far as what they read still holds when
they take it.
-/

namespace EidolonData

open Relational

inductive Command.OnCompanions (ownerId : String) : Command → Prop where
  | setDefault (companionId : String) (expectedRevision : Option Int) :
      OnCompanions ownerId (.setDefaultCompanion ownerId companionId expectedRevision)
  | beginRetirement (companionId : String) (expectedRevision : Option Int)
      (replacementCompanionId : Option String) :
      OnCompanions ownerId
        (.beginRetirement ownerId companionId expectedRevision replacementCompanionId)
  | putAway (companionId : String) (expectedRevision : Option Int)
      (replacementCompanionId : Option String) :
      OnCompanions ownerId
        (.putAwayCompanion ownerId companionId expectedRevision replacementCompanionId)
  | archive (companionId : String) (expectedRevision : Option Int) :
      OnCompanions ownerId (.archiveCompanion ownerId companionId expectedRevision)
  | restore (companionId : String) (expectedRevision : Option Int) :
      OnCompanions ownerId (.restoreCompanion ownerId companionId expectedRevision)
  | provision (request : ProvisionRequest) (named : request.ownerId = ownerId) :
      OnCompanions ownerId (.provisionCompanion request)

def Workspace.DefaultIs (w : Workspace) (ownerId companionId : String) : Prop :=
  ∃ owner, w.owners.get? ownerId = some owner ∧ owner.defaultCompanionId = some companionId

/-- Calls that overlap on one database. -/
abbrev Overlap (ι : Type) := System Tables.Integrity Error Unit ι

/-- The calls before their first statement. -/
def Overlap.start {ι : Type} (sdk : Sdk) (calls : ι → Call) (db : Database) : Overlap ι :=
  System.start (fun client => (calls client).command.session sdk (calls client).env) db

def Overlap.play {ι : Type} [DecidableEq ι] (schedule : List (Turn ι)) (overlap : Overlap ι) :
    Overlap ι :=
  System.play .integrityError schedule overlap

/-- Whether a call has succeeded. -/
def Overlap.succeeded {ι : Type} (overlap : Overlap ι) (client : ι) : Bool :=
  match overlap.clients client with
  | .finished (.ok _) => true
  | _ => false

section Serial

variable {ι : Type} {sdk : Sdk} {calls : ι → Call} {db : Database}

/-- The successful calls one after another are a run of them, in which each
succeeds. -/
theorem serial_replay {order : List (ι × Unit)} {state : Database}
    (serial : System.Serial .integrityError
      (fun client => (calls client).command.session sdk (calls client).env) db order state) :
    state = replay sdk ((order.map Prod.fst).map calls) db ∧
      ∀ before client after, order.map Prod.fst = before ++ client :: after →
        ∃ db', (replay sdk (before.map calls) db).transact
          ((calls client).command.session sdk (calls client).env) = .ok ((), db') := by
  induction serial with
  | start =>
      refine ⟨rfl, ?_⟩
      intro before client after split
      simp at split
  | @commit order state state' client value serial commits induction =>
      obtain ⟨same, earlier⟩ := induction
      have transacted : Database.transact state
          ((calls client).command.session sdk (calls client).env) = .ok (value, state') := commits
      constructor
      · have step : (calls client).step sdk state = state' := Database.after_of_ok transacted
        rw [List.map_append, List.map_append, replay_append, ← same]
        exact step.symm
      · intro before other after split
        rw [List.map_append, List.map_singleton] at split
        rcases List.eq_nil_or_concat after with rfl | ⟨rest, last, rfl⟩
        · obtain ⟨sameBefore, sameClient⟩ := List.append_inj' split rfl
          cases sameClient
          rw [← sameBefore, ← same]
          exact ⟨state', transacted⟩
        · rw [List.concat_eq_append, ← List.cons_append, ← List.append_assoc] at split
          exact earlier before other rest (List.append_inj' split rfl).1

theorem replay_owner_stays {ownerId : String} {owner : OwnerRow} (run : List Call)
    (onCompanions : ∀ call ∈ run, call.command.OnCompanions ownerId)
    (found : db.tables.workspace.owners.get? ownerId = some owner) :
    ∃ owner', (replay sdk run db).tables.workspace.owners.get? ownerId = some owner' ∧
      owner.revision ≤ owner'.revision := by
  induction run generalizing db owner with
  | nil => exact ⟨owner, found, le_refl _⟩
  | cons call run induction =>
      have kept : ∃ middle,
          (call.step sdk db).tables.workspace.owners.get? ownerId = some middle ∧
            owner.revision ≤ middle.revision := by
        rcases call.step_effect db (call.command.permitted_all sdk _) with same | effect
        · rw [same]
          exact ⟨owner, found, le_refl _⟩
        · have changes : Changes sdk .all db.tables.workspace
              (call.step sdk db).tables.workspace := by
            have named := onCompanions call List.mem_cons_self
            generalize call.command = command at named effect
            cases named with
            | setDefault | beginRetirement | putAway | archive | restore | provision =>
                exact effect
          obtain ⟨middle, stored, precedes⟩ := changes.outlives.owners _ _ found
          exact ⟨middle, stored, precedes.revision⟩
      obtain ⟨middle, stored, below⟩ := kept
      obtain ⟨owner', final, above⟩ := induction
        (fun call member => onCompanions call (List.mem_cons_of_mem _ member)) stored
      exact ⟨owner', final, le_trans below above⟩

/-- Of two choices of different Companions at one revision, one finds its
Companion the default already. -/
theorem choice_found {ownerId a b : String} {revision : Int} (first second : Call)
    (between : List Call) (onCompanions : ∀ call ∈ between, call.command.OnCompanions ownerId)
    (choosesFirst : first.command = .setDefaultCompanion ownerId a (some revision))
    (choosesSecond : second.command = .setDefaultCompanion ownerId b (some revision))
    (firstRan : ∃ db', db.transact (first.command.session sdk first.env) = .ok ((), db'))
    (secondRan : ∃ db', (replay sdk (first :: between) db).transact
      (second.command.session sdk second.env) = .ok ((), db')) :
    db.tables.workspace.DefaultIs ownerId a ∨
      (replay sdk (first :: between) db).tables.workspace.DefaultIs ownerId b := by
  have chooses : ∀ (db db' : Database) (call : Call) (target : String),
      call.command = .setDefaultCompanion ownerId target (some revision) →
      db.transact (call.command.session sdk call.env) = .ok ((), db') →
      ∃ owner, db.tables.workspace.owners.get? ownerId = some owner ∧
        (owner.defaultCompanionId = some target ∨ (revision = owner.revision ∧
          db'.tables.workspace.owners.get? ownerId = some (owner.pointAt target))) := by
    intro db db' call target chosen transacted
    rw [chosen] at transacted
    obtain ⟨companion, ran⟩ := run_of_effect (Database.transact_ok_iff.mp transacted)
    obtain ⟨owner, found, choice⟩ :=
      setDefaultCompanion_owner call.env db.tables ownerId target (some revision) _ _ ran
    refine ⟨owner, found, ?_⟩
    rcases choice with ⟨same, -⟩ | ⟨-, current, moved⟩
    · exact Or.inl same
    · exact Or.inr ⟨current revision rfl, moved⟩
  obtain ⟨db₁, firstRan⟩ := firstRan
  obtain ⟨db₂, secondRan⟩ := secondRan
  obtain ⟨owner, found, choice⟩ := chooses db db₁ first a choosesFirst firstRan
  rcases choice with same | ⟨current, moved⟩
  · exact Or.inl ⟨owner, found, same⟩
  · have step : first.step sdk db = db₁ := Database.after_of_ok firstRan
    obtain ⟨later, stays, below⟩ := replay_owner_stays between onCompanions moved
    rw [replay_cons, step] at secondRan ⊢
    obtain ⟨owner', found', choice'⟩ := chooses _ db₂ second b choosesSecond secondRan
    rw [stays] at found'
    cases found'
    rcases choice' with same | ⟨current', -⟩
    · exact Or.inr ⟨later, stays, same⟩
    · have moves : (owner.pointAt a).revision = owner.revision + 1 := rfl
      omega

/-- Of two successes in their order that are choices at one revision, one finds
its Companion the default already. -/
theorem choice_ordered {ownerId tx ty : String} {revision : Int} {order : List ι} {x y : ι}
    {before middle after : List ι}
    (onCompanions : ∀ client, (calls client).command.OnCompanions ownerId)
    (succeed : ∀ before client after, order = before ++ client :: after →
      ∃ db', (replay sdk (before.map calls) db).transact
        ((calls client).command.session sdk (calls client).env) = .ok ((), db'))
    (choosesX : (calls x).command = .setDefaultCompanion ownerId tx (some revision))
    (choosesY : (calls y).command = .setDefaultCompanion ownerId ty (some revision))
    (split : order = before ++ x :: (middle ++ y :: after)) :
    ∃ before client after target, order = before ++ client :: after ∧
      (calls client).command = .setDefaultCompanion ownerId target (some revision) ∧
      (client = x ∨ client = y) ∧
      (replay sdk (before.map calls) db).tables.workspace.DefaultIs ownerId target := by
  have split' : order = (before ++ x :: middle) ++ y :: after := by
    rw [split, List.append_assoc, List.cons_append]
  have reached : replay sdk ((before ++ x :: middle).map calls) db =
      replay sdk (calls x :: middle.map calls) (replay sdk (before.map calls) db) := by
    rw [List.map_append, replay_append, List.map_cons]
  have secondRan := succeed _ y after split'
  rw [reached] at secondRan
  have between : ∀ call ∈ middle.map calls, call.command.OnCompanions ownerId := by
    intro call member
    obtain ⟨client, -, rfl⟩ := List.mem_map.mp member
    exact onCompanions client
  rcases choice_found (calls x) (calls y) (middle.map calls) between choosesX choosesY
    (succeed before x _ split) secondRan with foundX | foundY
  · exact ⟨before, x, _, tx, split, choosesX, Or.inl rfl, foundX⟩
  · refine ⟨_, y, after, ty, split', choosesY, Or.inr rfl, ?_⟩
    rw [reached]
    exact foundY

end Serial

/-- When no call decides on outdated reads, the successful calls are serial, of
two choices at one revision one finds its Companion the default already, and
the default is an active Companion of the Owner. -/
theorem overlapping_commands_serial {ι : Type} [DecidableEq ι] (sdk : Sdk)
    (eligible : sdk.defaultEligibleLifecycleStates = [.active]) (history : List Call)
    (ownerId : String) (calls : ι → Call)
    (onCompanions : ∀ client, (calls client).command.OnCompanions ownerId)
    (schedule : List (Turn ι))
    (upToDate : System.Along .integrityError System.UpToDate schedule
      (Overlap.start sdk calls (replay sdk history .empty))) :
    let db := replay sdk history .empty
    let overlap := (Overlap.start sdk calls db).play schedule
    let session := fun client => (calls client).command.session sdk (calls client).env
    ∃ order : List ι, order.Nodup ∧
      (∀ client, client ∈ order ↔ overlap.succeeded client = true) ∧
      (∀ before client after, order = before ++ client :: after →
        ∃ db', (replay sdk (before.map calls) db).transact (session client) = .ok ((), db')) ∧
      overlap.committed = replay sdk (order.map calls) db ∧
      (∀ first second a b revision,
        (calls first).command = .setDefaultCompanion ownerId a (some revision) →
        (calls second).command = .setDefaultCompanion ownerId b (some revision) → a ≠ b →
        overlap.succeeded first = true → overlap.succeeded second = true →
        ∃ before client after target, order = before ++ client :: after ∧
          (calls client).command = .setDefaultCompanion ownerId target (some revision) ∧
          (client = first ∨ client = second) ∧
          (replay sdk (before.map calls) db).tables.workspace.DefaultIs ownerId target) ∧
      (∀ companionId, Workspace.DefaultIs overlap.committed.val.workspace ownerId companionId →
        ∃ companion, overlap.committed.val.workspace.companions.get? companionId =
            some companion ∧
          companion.ownerId = ownerId ∧ companion.lifecycleState = .active) := by
  intro db overlap session
  have serialized := System.serialized_play_of_upToDate session db schedule upToDate
  obtain ⟨entries, once, members, serial⟩ := serialized.order
  obtain ⟨final, succeed⟩ := serial_replay serial
  have succeeded : ∀ client, client ∈ entries.map Prod.fst ↔ overlap.succeeded client = true := by
    intro client
    have phase := members client ()
    rw [List.mem_map]
    constructor
    · rintro ⟨⟨_, _⟩, member, rfl⟩
      have finished := phase.mp member
      simp only [Overlap.succeeded, overlap, Overlap.play, Overlap.start, finished, session]
    · intro done
      refine ⟨(client, ()), phase.mpr ?_, rfl⟩
      change (match overlap.clients client with
        | .finished (.ok _) => true
        | _ => false) = true at done
      split at done
      · next finished => exact finished
      · cases done
  refine ⟨entries.map Prod.fst, once, succeeded, succeed, final, ?_, ?_⟩
  · intro first second a b revision choosesFirst choosesSecond different firstDone secondDone
    have notSame : second ≠ first := by
      rintro rfl
      rw [choosesFirst] at choosesSecond
      cases choosesSecond
      exact different rfl
    obtain ⟨before, after, split⟩ := List.append_of_mem ((succeeded first).mpr firstDone)
    have secondIn := (succeeded second).mpr secondDone
    rw [split, List.mem_append, List.mem_cons] at secondIn
    rcases secondIn with earlier | same | later
    · obtain ⟨start, middle, split'⟩ := List.append_of_mem earlier
      rw [split', List.append_assoc, List.cons_append] at split
      obtain ⟨earlier, client, later, target, found, chooses, either, pointed⟩ :=
        choice_ordered onCompanions succeed choosesSecond choosesFirst split
      exact ⟨earlier, client, later, target, found, chooses, either.symm, pointed⟩
    · exact absurd same notSame
    · obtain ⟨middle, rest, split'⟩ := List.append_of_mem later
      rw [split'] at split
      exact choice_ordered onCompanions succeed choosesFirst choosesSecond split
  · intro companionId ⟨owner, found, pointed⟩
    have offers : sdk.OffersActive := by
      intro state member
      simpa [eligible] using member
    have sound : Workspace.DefaultSound overlap.committed.val.workspace := by
      have reached : overlap.committed = replay sdk (history ++ _) .empty :=
        final.trans (replay_append sdk history _ .empty).symm
      rw [reached]
      exact (defaultSound_invariant offers).replay _ .empty (heeds_all sdk _ .empty)
        defaultSound_empty
    obtain ⟨companion, companionFound, own, -⟩ := sound.owned found pointed
    exact ⟨companion, companionFound, own, sound.active found pointed companionFound⟩

/-- An Owner with three Companions, the first of them the default. -/
def threeCompanionsCommands : List Command :=
  [.createOwner "owner" "" "person" none none,
   .provisionWorkspace { ownerId := "owner" },
   .provisionWorkspace { ownerId := "owner", companionId := some "c_second" },
   .provisionWorkspace { ownerId := "owner", companionId := some "c_third" }]

def choiceAndRetirement : Bool → Call
  | false => { env := secondEnv, command := .setDefaultCompanion "owner" "c_second" (some 2) }
  | true =>
      { env := { uuid := fun site => .ofNat (1024 + site), now := 33 }
        command := .beginRetirement "owner" "c_third" none none }

/-- The choice has read its Companion and the Owner when the retirement commits. -/
def retirementBetween : List (Turn Bool) :=
  List.replicate 2 (.step false) ++ (List.replicate 6 (.step true) ++
    List.replicate 5 (.step false))

/-- A choice of an active Companion asks for the Companion, then for its
Owner. -/
theorem choice_asks (sdk : Sdk) (env : Env) {ownerId companionId : String}
    (expectedRevision : Option Int) {companion : CompanionRow}
    (owned : companion.ownerId = ownerId) (active : companion.lifecycleState = .active)
    (answers : companion.kind ≠ .guard) :
    ∃ (first : Option CompanionRow → Session Unit) (second : Option OwnerRow → Session Unit),
      (Command.setDefaultCompanion ownerId companionId expectedRevision).session sdk env =
          .select (fun t => t.workspace.companions.get? companionId) first ∧
        first (some companion) = .select (fun t => t.workspace.owners.get? ownerId) second := by
  have own : (some companion).filter (fun row => row.ownerId = ownerId) = some companion := by
    simp [Option.filter, owned]
  refine ⟨_, ?_, rfl, ?_⟩
  rotate_left
  · simp only [Tx.bind, Bind.bind, Pure.pure, Tx.require, own, Tx.refuseIf, active, ne_eq,
      not_true_eq_false, if_false, answers]
    rfl

/-- What it was answered once it has asked both. -/
theorem choice_reads {ι : Type} [DecidableEq ι] {sdk : Sdk} {overlap : Overlap ι} {client : ι}
    {env : Env} {ownerId companionId : String} {expectedRevision : Option Int}
    {companion : CompanionRow}
    (unread : overlap.clients client = .reading []
      ((Command.setDefaultCompanion ownerId companionId expectedRevision).session sdk env))
    (found : overlap.committed.val.workspace.companions.get? companionId = some companion)
    (owned : companion.ownerId = ownerId) (active : companion.lifecycleState = .active)
    (answers : companion.kind ≠ .guard) {seen : List (Answered Tables)} {rest : Session Unit}
    (phase : (overlap.play (List.replicate 2 (.step client))).clients client =
      .reading seen rest) :
    seen = [⟨fun t => t.workspace.owners.get? ownerId,
        overlap.committed.val.workspace.owners.get? ownerId⟩,
      ⟨fun t => t.workspace.companions.get? companionId, some companion⟩] := by
  obtain ⟨first, second, asks, asksOwner⟩ :=
    choice_asks sdk env expectedRevision owned active answers
  rw [asks] at unread
  obtain ⟨same, once⟩ := System.turn_select .integrityError unread
  rw [found, asksOwner] at once
  obtain ⟨-, twice⟩ := System.turn_select .integrityError once
  rw [same] at twice
  exact (Client.settled_eq_reading (twice.symm.trans phase)).1

/-- Neither decides on an outdated read when the other leaves the rows the
choice was answered. -/
theorem choice_upToDate {ι : Type} [DecidableEq ι] {sdk : Sdk} {start : Overlap ι}
    {chooser other : ι} (apart : other ≠ chooser) {env : Env} {ownerId companionId : String}
    {expectedRevision : Option Int} {program : Session Unit} (others rest : Nat)
    (unread : start.clients chooser = .reading []
      ((Command.setDefaultCompanion ownerId companionId expectedRevision).session sdk env))
    (unasked : start.clients other = .reading [] program)
    (chosen : (start.committed.val.workspace.companions.get? companionId).any (fun row =>
      row.ownerId = ownerId ∧ row.lifecycleState = .active ∧ row.kind ≠ .guard) = true)
    (keeps : ∀ after : Overlap ι, after = (start.play (List.replicate 2 (.step chooser))).play
        (List.replicate others (.step other)) →
      after.committed.val.workspace.owners.get? ownerId =
          start.committed.val.workspace.owners.get? ownerId ∧
        after.committed.val.workspace.companions.get? companionId =
          start.committed.val.workspace.companions.get? companionId) :
    System.Along .integrityError System.UpToDate
      (List.replicate 2 (.step chooser) ++ (List.replicate others (.step other) ++
        List.replicate rest (.step chooser))) start := by
  have untouched := System.play_other .integrityError 2 start apart
  have waiting := System.play_other .integrityError others
    (start.play (List.replicate 2 (.step chooser))) apart.symm
  refine (System.along_append _ _ _).mpr ⟨System.upToDate_unanswered 2 unread, ?_⟩
  refine (System.along_append _ _ _).mpr
    ⟨System.upToDate_unanswered others (untouched.trans unasked),
      System.upToDate_replicate rest _ ?_⟩
  intro seen rest phase
  obtain ⟨companion, found, fits⟩ := (Option.any_eq_true _ _).mp chosen
  obtain ⟨owned, active, answers⟩ := of_decide_eq_true fits
  obtain ⟨sameOwner, sameCompanion⟩ := keeps _ rfl
  obtain rfl := choice_reads unread found owned active answers (waiting.symm.trans phase)
  intro answered member
  rcases List.mem_cons.mp member with rfl | member
  · exact sameOwner
  · obtain rfl := List.mem_singleton.mp member
    exact sameCompanion.trans found

theorem retirementBetween_upToDate :
    System.Along .integrityError System.UpToDate retirementBetween
      (Overlap.start .plain choiceAndRetirement
        (replay .plain (numbered threeCompanionsCommands) .empty)) := by
  have chosen : ((replay .plain (numbered threeCompanionsCommands)
      .empty).val.workspace.companions.get? "c_second").any (fun row =>
        row.ownerId = "owner" ∧ row.lifecycleState = .active ∧ row.kind ≠ .guard) = true := by
    decide +kernel
  refine choice_upToDate (by decide) 6 5 rfl rfl chosen ?_
  intro after reached
  rw [reached]
  constructor
  · decide +kernel
  · decide +kernel

/-- A choice that has read keeps its place while another Companion retires: both
succeed, and the Owner is left with an active default. -/
theorem overlapping_commands_serial_retirement :
    let db := replay .plain (numbered threeCompanionsCommands) .empty
    let overlap := (Overlap.start .plain choiceAndRetirement db).play retirementBetween
    (∀ client, overlap.succeeded client = true) ∧
      (overlap.committed.val.workspace.companions.get? "c_third").map
        (fun row => row.lifecycleState) = some .retiring ∧
      Workspace.DefaultIs overlap.committed.val.workspace "owner" "c_second" ∧
      ∃ order : List Bool, order.Nodup ∧ (∀ client, client ∈ order) ∧
        overlap.committed = replay .plain (order.map choiceAndRetirement) db ∧
        ∃ companion, overlap.committed.val.workspace.companions.get? "c_second" = some companion ∧
          companion.ownerId = "owner" ∧ companion.lifecycleState = .active := by
  intro db overlap
  have onCompanions : ∀ client,
      (choiceAndRetirement client).command.OnCompanions "owner" := by
    intro client
    cases client with
    | false => exact .setDefault _ _
    | true => exact .beginRetirement _ _ _
  have succeed : ∀ client, overlap.succeeded client = true := by
    decide +kernel
  have retiring : (overlap.committed.val.workspace.companions.get? "c_third").map
      (fun row => row.lifecycleState) = some .retiring := by
    decide +kernel
  have pointed : (overlap.committed.val.workspace.owners.get? "owner").any
      (fun row => row.defaultCompanionId = some "c_second") = true := by
    decide +kernel
  obtain ⟨owner, found, points⟩ := (Option.any_eq_true _ _).mp pointed
  have isDefault : Workspace.DefaultIs overlap.committed.val.workspace "owner" "c_second" :=
    ⟨owner, found, of_decide_eq_true points⟩
  obtain ⟨order, once, members, -, final, -, sound⟩ :=
    overlapping_commands_serial .plain rfl (numbered threeCompanionsCommands) "owner"
      choiceAndRetirement onCompanions retirementBetween retirementBetween_upToDate
  refine ⟨succeed, retiring, isDefault, order, once, ?_, final, ?_⟩
  · intro client
    exact (members client).mpr (succeed client)
  · simp only [overlap, db] at isDefault ⊢
    exact sound "c_second" isDefault

/-- Two choices of a default that name the same revision. -/
def rivalChoices : Bool → Call
  | false => { env := secondEnv, command := .setDefaultCompanion "owner" "c_second" (some 2) }
  | true =>
      { env := { uuid := fun site => .ofNat (1024 + site), now := 33 }
        command := .setDefaultCompanion "owner" "c_third" (some 2) }

/-- Both read, then one commits, then the other. -/
def rivalSchedule : List (Turn Bool) :=
  List.replicate 2 (.step false) ++ List.replicate 2 (.step true) ++
    List.replicate 5 (.step false) ++ List.replicate 5 (.step true)

/-- Both choices succeed and the revision moves once, while one after the other,
in either order, the second is refused. -/
theorem overlapping_choices_both_succeed :
    let db := replay .plain (numbered threeCompanionsCommands) .empty
    let overlap := (Overlap.start .plain rivalChoices db).play rivalSchedule
    (∀ client, overlap.succeeded client = true) ∧
      (db.tables.workspace.owners.get? "owner").map (fun row => row.revision) = some 2 ∧
      (overlap.committed.val.workspace.owners.get? "owner").map (fun row =>
        (row.revision, row.defaultCompanionId)) = some (3, some "c_third") ∧
      ∀ first, (((rivalChoices first).step .plain db).transact
        ((rivalChoices !first).command.session .plain (rivalChoices !first).env)).map
          (fun _ => ()) = .error
            (.ownerWorkspaceConflict "owner revision has moved since this caller read it") := by
  decide +kernel

end EidolonData
