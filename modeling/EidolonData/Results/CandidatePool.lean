import EidolonData.Invariants.People
import Mathlib.Data.List.Infix

/-!
# The candidate pool

A Person comes to the pool by being created, discovered or reactivated, each
where the pool has room; nothing else enlarges it as time goes by.
-/

namespace EidolonData

open Relational

section Moves

variable {sdk : Sdk} {env : Env} {personId : String} {command : Command} {file file' : PersonFile}

def PersonFile.Pooled (ownerId : String) (now ttl : Timestamp) (file : PersonFile) : Prop :=
  ∃ person, file.person = some person ∧ person.ownerId = ownerId ∧
    person.isPooled now ttl = true

/-- The commands that may bring a Person to the pool. -/
inductive Command.Admits (ownerId personId : String) (file : PersonFile) : Command → Prop where
  | created (ttl : Timestamp) (request : PersonCreateRequest)
      (named : request.personId = personId) (candidate : request.maturity = .candidate) :
      Admits ownerId personId file (.createPerson ttl ownerId request)
  | discovered (policies : VoicePolicies) (request : CandidateDiscovery) :
      Admits ownerId personId file (.runVoiceprint policies ownerId (.discoverCandidate request))
  | reactivated (ttl : Timestamp) (request : PersonUpdateRequest)
      (inactive : ∀ person, file.person = some person → person.status ≠ .active) :
      Admits ownerId personId file (.updatePerson ttl ownerId personId request)

def Command.lifetime : Command → Option Timestamp
  | .createPerson ttl _ _ | .updatePerson ttl _ _ _ => some ttl
  | .runVoiceprint policies _ _ => some policies.candidatePoolTtl
  | _ => none

theorem PersonRow.isPooled_iff {person : PersonRow} {now ttl : Timestamp} :
    person.isPooled now ttl = true ↔ person.maturity = .candidate ∧ person.status = .active ∧
      person.deleted = false ∧ person.recognitionState = .active ∧
        ∃ activity, person.candidateActivityAt = some activity ∧ now - ttl < activity := by
  simp only [PersonRow.isPooled, Bool.and_eq_true, decide_eq_true_eq, Bool.not_eq_true',
    Option.any_eq_true, and_assoc]

/-- As time goes by the pool only loses candidates. -/
theorem PersonRow.isPooled_earlier {person : PersonRow} {now later ttl : Timestamp}
    (pooled : person.isPooled later ttl = true) (before : now ≤ later) :
    person.isPooled now ttl = true := by
  rw [PersonRow.isPooled_iff] at pooled ⊢
  obtain ⟨maturity, status, alive, recognised, activity, noted, recent⟩ := pooled
  exact ⟨maturity, status, alive, recognised, activity, noted,
    lt_of_le_of_lt (Int.sub_le_sub_right before ttl) recent⟩

theorem PersonMoved.pooled {ownerId : String} {ttl : Timestamp}
    (moved : PersonMoved sdk env personId command file file')
    (fixed : ∀ lifetime, command.lifetime = some lifetime → lifetime = ttl)
    (after : file'.Pooled ownerId env.now ttl) :
    file.Pooled ownerId env.now ttl ∨ command.Admits ownerId personId file := by
  obtain ⟨person', stored, owned', pooled⟩ := after
  have parts := PersonRow.isPooled_iff.mp pooled
  obtain ⟨maturity, status, alive, recognised, activity, noted, recent⟩ := parts
  cases moved with
  | kept => exact Or.inl ⟨person', stored, owned', pooled⟩
  | @created ttl' otherOwner request person realm inserted named =>
      cases stored
      have sameOwner : otherOwner = ownerId := inserted.ownerId.symm.trans owned'
      subst sameOwner
      exact Or.inr (.created ttl' request named (inserted.maturity.symm.trans maturity))
  | @discovered policies otherOwner request draft person realm inserted named =>
      cases stored
      have sameOwner : otherOwner = ownerId := inserted.ownerId.symm.trans owned'
      subst sameOwner
      exact Or.inr (.discovered policies request)
  | @updated ttl' otherOwner request person realm receipt owned =>
      cases stored
      have sameOwner : otherOwner = ownerId := owned.symm.trans owned'
      subst sameOwner
      by_cases active : person.status = .active
      · exact Or.inl ⟨person, rfl, owned', PersonRow.isPooled_iff.mpr
          ⟨maturity, active, alive, recognised, activity, noted, recent⟩⟩
      · refine Or.inr (.reactivated ttl' request ?_)
        rintro _ ⟨⟩
        exact active
  | retired | expired => cases stored; cases recognised
  | archived | restored => cases stored; cases status
  | deletionRequested | policyWritten | memorySuspended | memoryRestored | ownerArchived =>
      cases stored
      exact Or.inl ⟨_, rfl, owned', PersonRow.isPooled_iff.mpr
        ⟨maturity, status, alive, recognised, activity, noted, recent⟩⟩
  | deletionCompleted | ownerDeleted => cases stored
  | evidenceRecorded _ owned recognizable =>
      cases stored
      rw [fixed _ rfl] at recognizable
      exact Or.inl ⟨_, rfl, owned', recognizable⟩
  | promoted => cases stored; cases maturity

/-- A Person that has left the pool does not come back. -/
theorem PersonMoved.retained {person person' : PersonRow}
    (moved : PersonMoved sdk env personId command file file') (before : file.person = some person)
    (retained : person.recognitionState = .retained) (after : file'.person = some person') :
    person'.recognitionState = .retained := by
  cases moved with
  | created | discovered => cases before
  | deletionCompleted | ownerDeleted => cases after
  | kept =>
      rw [before] at after
      cases after
      exact retained
  | retired | expired =>
      cases after
      rfl
  | updated | archived | restored | deletionRequested | policyWritten | memorySuspended
  | memoryRestored | evidenceRecorded | promoted | ownerArchived =>
      cases before
      cases after
      exact retained

end Moves

section Steps

variable {sdk : Sdk} {t t' : Tables} {ownerId : String} {now ttl : Timestamp}

/-- Every Person the pool counts then was counted before, but for one that
found room. -/
inductive PoolStepped (sdk : Sdk) (t t' : Tables) (ownerId : String) (now ttl : Timestamp) : Prop
    where
  | fewer (kept : ∀ personId, (t'.file personId).Pooled ownerId now ttl →
      (t.file personId).Pooled ownerId now ttl)
  | admitted (admittedId : String)
      (room : (t.people.pool ownerId now ttl).length < sdk.maxCandidatePersons)
      (kept : ∀ personId, personId ≠ admittedId → (t'.file personId).Pooled ownerId now ttl →
        (t.file personId).Pooled ownerId now ttl)

theorem PoolStepped.refl : PoolStepped sdk t t ownerId now ttl := .fewer (fun _ pooled => pooled)

theorem PoolStepped.of_refiles {personId : String} {file : PersonFile}
    (refiles : t.Refiles t' personId file)
    (room : file.Pooled ownerId now ttl → ¬ (t.file personId).Pooled ownerId now ttl →
      (t.people.pool ownerId now ttl).length < sdk.maxCandidatePersons) :
    PoolStepped sdk t t' ownerId now ttl := by
  have others : ∀ other, other ≠ personId → (t'.file other).Pooled ownerId now ttl →
      (t.file other).Pooled ownerId now ttl := by
    intro other different pooled
    rw [refiles, if_neg different] at pooled
    exact pooled
  by_cases comes : file.Pooled ownerId now ttl ∧ ¬ (t.file personId).Pooled ownerId now ttl
  · exact .admitted personId (room comes.1 comes.2) others
  · refine .fewer (fun other pooled => ?_)
    by_cases same : other = personId
    · subst same
      rw [refiles.self] at pooled
      by_contra absent
      exact comes ⟨pooled, absent⟩
    · exact others other same pooled

theorem Command.Admits.stepped {command : Command} {personId : String} {file : PersonFile}
    {env : Env} (admits : command.Admits ownerId personId file)
    (fixed : ∀ lifetime, command.lifetime = some lifetime → lifetime = ttl) (filed : t.Filed) :
    (command.session sdk env).Ensures t (fun _ t' =>
      PoolStepped sdk t t' ownerId env.now ttl) := by
  cases admits with
  | created ttl' request named candidate =>
      rw [← fixed ttl' rfl]
      refine (ensures_effect t _ _).mpr ((createPerson_file sdk env t filed ttl' ownerId
        request).mono ?_)
      rintro _ t' (unchanged | ⟨absent, room, person, realm, inserted, refiles⟩)
      · rw [unchanged]
        exact .refl
      · exact .of_refiles refiles (fun _ _ => room candidate)
  | discovered policies request =>
      rw [← fixed policies.candidatePoolTtl rfl]
      refine (ensures_effect t _ _).mpr ((discoverCandidate_effect sdk env policies ownerId t filed
        request).mono ?_)
      rintro _ t' (⟨unchanged, -⟩ | discovered)
      · rw [unchanged]
        exact .refl
      · obtain ⟨draft, person, realm, -, -, inserted, refiles⟩ := discovered.filed
        exact .of_refiles refiles (fun _ _ => discovered.capacity)
  | reactivated ttl' request inactive =>
      rw [← fixed ttl' rfl]
      refine (ensures_effect t _ _).mpr ((updatePerson_file sdk env t filed ttl' ownerId personId
        request).mono ?_)
      rintro _ t' ⟨person, realm, receipt, held, owned, alive, current, room, refiles⟩
      refine .of_refiles refiles ?_
      rintro ⟨_, ⟨⟩, owned', pooled⟩ absent
      refine room ?_ ?_
      · intro active
        refine absent ⟨person, congrArg PersonFile.person held, owned, ?_⟩
        rw [PersonRow.isPooled_iff] at pooled ⊢
        exact ⟨pooled.1, active, pooled.2.2⟩
      · rw [PersonRow.isPooled_iff] at pooled ⊢
        exact pooled

theorem Call.step_pool (call : Call) (db : Database) (sound : db.tables.PeopleSound sdk)
    (fixed : ∀ lifetime, call.command.lifetime = some lifetime → lifetime = ttl) :
    PoolStepped sdk db.tables (call.step sdk db).tables ownerId call.env.now ttl := by
  by_cases admits : ∃ personId file, call.command.Admits ownerId personId file
  · obtain ⟨personId, file, admits⟩ := admits
    rcases call.step_post db (admits.stepped fixed sound.filed) with same | stepped
    · rw [same]
      exact .refl
    · exact stepped
  · rcases call.step_people db sound with same | stepped
    · rw [same]
      exact .refl
    · refine .fewer (fun personId pooled => ?_)
      rcases (stepped.moved.files personId).pooled fixed pooled with before | admitted
      · exact before
      · exact absurd ⟨personId, _, admitted⟩ admits

theorem mem_pool {person : PersonRow} : person ∈ t.people.pool ownerId now ttl ↔
    t.people.persons.get? person.personId = some person ∧ person.ownerId = ownerId ∧
      person.isPooled now ttl = true := by
  rw [People.pool, Table.mem_select, Bool.and_eq_true, decide_eq_true_eq]
  rfl

def People.poolIds (p : People) (ownerId : String) (now ttl : Timestamp) : List String :=
  (p.pool ownerId now ttl).map (fun person => person.personId)

theorem mem_poolIds {personId : String} : personId ∈ t.people.poolIds ownerId now ttl ↔
    (t.file personId).Pooled ownerId now ttl := by
  rw [People.poolIds, List.mem_map]
  constructor
  · rintro ⟨person, member, rfl⟩
    obtain ⟨stored, counted⟩ := mem_pool.mp member
    exact ⟨person, stored, counted⟩
  · rintro ⟨person, stored, counted⟩
    have named : person.personId = personId := Table.key_of_get? stored
    exact ⟨person, mem_pool.mpr ⟨named ▸ stored, counted⟩, named⟩

theorem poolIds_nodup : (t.people.poolIds ownerId now ttl).Nodup :=
  (List.filter_sublist.map _).nodup t.people.persons.unique

theorem PoolStepped.bounded (stepped : PoolStepped sdk t t' ownerId now ttl)
    (bounded : (t.people.pool ownerId now ttl).length ≤ sdk.maxCandidatePersons) :
    (t'.people.pool ownerId now ttl).length ≤ sdk.maxCandidatePersons := by
  have lengths : ∀ t : Tables, (t.people.pool ownerId now ttl).length =
      (t.people.poolIds ownerId now ttl).length := fun t => (List.length_map _).symm
  cases stepped with
  | fewer kept =>
      have within : t'.people.poolIds ownerId now ttl ⊆ t.people.poolIds ownerId now ttl :=
        fun personId member => mem_poolIds.mpr (kept personId (mem_poolIds.mp member))
      calc (t'.people.pool ownerId now ttl).length
          = (t'.people.poolIds ownerId now ttl).length := lengths t'
        _ ≤ (t.people.poolIds ownerId now ttl).length :=
            (List.subperm_of_subset poolIds_nodup within).length_le
        _ = (t.people.pool ownerId now ttl).length := (lengths t).symm
        _ ≤ sdk.maxCandidatePersons := bounded
  | admitted admittedId room kept =>
      have within : t'.people.poolIds ownerId now ttl ⊆
          admittedId :: t.people.poolIds ownerId now ttl := by
        intro personId member
        by_cases same : personId = admittedId
        · exact same ▸ List.mem_cons_self
        · exact List.mem_cons_of_mem _
            (mem_poolIds.mpr (kept personId same (mem_poolIds.mp member)))
      calc (t'.people.pool ownerId now ttl).length
          = (t'.people.poolIds ownerId now ttl).length := lengths t'
        _ ≤ (admittedId :: t.people.poolIds ownerId now ttl).length :=
            (List.subperm_of_subset poolIds_nodup within).length_le
        _ = (t.people.pool ownerId now ttl).length + 1 := by rw [List.length_cons, lengths t]
        _ ≤ sdk.maxCandidatePersons := room

theorem pool_later {later : Timestamp} (before : now ≤ later) :
    (t.people.pool ownerId later ttl).length ≤ (t.people.pool ownerId now ttl).length := by
  refine (List.monotone_filter_right _ ?_).length_le
  intro person counted
  rw [Bool.and_eq_true] at counted ⊢
  exact ⟨counted.1, PersonRow.isPooled_earlier counted.2 before⟩

end Steps

section Runs

/-- The clock of the calls never goes back. -/
def ClockForward (calls : List Call) : Prop :=
  calls.Pairwise (fun call later => call.env.now ≤ later.env.now)

instance (calls : List Call) : Decidable (ClockForward calls) :=
  inferInstanceAs (Decidable (calls.Pairwise _))

def FixedLifetime (ttl : Timestamp) (calls : List Call) : Prop :=
  ∀ call ∈ calls, ∀ lifetime, call.command.lifetime = some lifetime → lifetime = ttl

theorem pool_bounded_replay (sdk : Sdk) (ttl : Timestamp) (ownerId : String) (calls : List Call)
    (clock : ClockForward calls) (fixed : FixedLifetime ttl calls) (now : Timestamp)
    (past : ∀ call ∈ calls, call.env.now ≤ now) :
    ((replay sdk calls .empty).tables.people.pool ownerId now ttl).length ≤
      sdk.maxCandidatePersons := by
  induction calls using List.reverseRecOn generalizing now with
  | nil => exact Nat.zero_le _
  | append_singleton calls call induction =>
      have ordered := List.pairwise_append.mp clock
      have before := induction ordered.1
        (fun earlier member => fixed earlier (List.mem_append_left _ member)) call.env.now
        (fun earlier member => ordered.2.2 earlier member call List.mem_cons_self)
      have stepped : PoolStepped sdk (replay sdk calls .empty).tables
          (call.step sdk (replay sdk calls .empty)).tables ownerId call.env.now ttl :=
        call.step_pool _ (peopleSound_replay sdk calls)
          (fixed call (List.mem_append_right _ List.mem_cons_self))
      rw [replay_append]
      refine (pool_later (past call (List.mem_append_right _ List.mem_cons_self))).trans ?_
      exact stepped.bounded before

def PersonFile.Retained (file : PersonFile) : Prop :=
  ∃ person, file.person = some person ∧ person.recognitionState = .retained

theorem retained_replay (sdk : Sdk) (personId : String) (calls : List Call) (db : Database)
    (sound : db.tables.PeopleSound sdk) (lasts : PersonLasts sdk personId calls db)
    (before : (db.tables.file personId).Retained) :
    ((replay sdk calls db).tables.file personId).Retained := by
  have kept : ∀ {env : Env} {command : Command} {file file' : PersonFile},
      PersonMoved sdk env personId command file file' → True → file.Sound →
        file'.person.isSome = true → file.Retained → file'.Retained := by
    rintro env command file file' moved - - alive ⟨person, stored, retained⟩
    obtain ⟨person', stored'⟩ := Option.isSome_iff_exists.mp alive
    exact ⟨person', stored', moved.retained stored retained stored'⟩
  exact replay_lasting (fun _ => True) personId kept calls db sound (fun _ _ => trivial)
    lasts before

/-- An Owner's pool stays within its bound as long as the clock goes forward
and the lifetime stays, and a retained Person is not recognised again. -/
theorem candidate_pool_bounded (sdk : Sdk) :
    (∀ (ttl : Timestamp) (ownerId : String) (calls : List Call) (now : Timestamp),
      ClockForward calls → FixedLifetime ttl calls → (∀ call ∈ calls, call.env.now ≤ now) →
        ((replay sdk calls .empty).tables.people.pool ownerId now ttl).length ≤
          sdk.maxCandidatePersons) ∧
    (∀ (before later : List Call) (personId : String) (person person' : PersonRow),
      (replay sdk before .empty).tables.people.persons.get? personId = some person →
      person.recognitionState = .retained →
      PersonLasts sdk personId later (replay sdk before .empty) →
      (replay sdk (before ++ later) .empty).tables.people.persons.get? personId = some person' →
        person'.recognitionState = .retained) := by
  refine ⟨?_, ?_⟩
  · intro ttl ownerId calls now clock fixed past
    exact pool_bounded_replay sdk ttl ownerId calls clock fixed now past
  · intro before later personId person person' stored retained lasts stored'
    obtain ⟨person'', found, still⟩ := retained_replay sdk personId later _
      (peopleSound_replay sdk before) lasts ⟨person, stored, retained⟩
    rw [replay_append] at stored'
    have same : person'' = person' := Option.some.inj (found.symm.trans stored')
    exact same ▸ still

end Runs

section Pooled

/-- A candidate that is retired, edited and joined by another candidate. -/
def poolCommands : List Command :=
  [.createOwner "owner" "" "person" none none,
    .createPerson 10 "owner"
      { personId := "first", displayName := "", maturity := .candidate },
    .retireCandidate "owner" "first" 1]

def poolLater : List Call :=
  [{ env := { uuid := fun site => .ofNat (48 + site), now := 3 }
     command := .updatePerson 10 "owner" "first"
      { expectedRevision := 2, displayName := "again", status := .active } },
    { env := { uuid := fun site => .ofNat (64 + site), now := 4 }
      command := .createPerson 10 "owner"
        { personId := "second", displayName := "", maturity := .candidate } }]

theorem candidate_pool_bounded_retired :
    ((replay .plain (numbered poolCommands ++ poolLater) .empty).tables.people.pool "owner" 4
      10).length ≤ 32 ∧
    ∀ person, (replay .plain (numbered poolCommands ++ poolLater) .empty).tables.people.persons.get?
      "first" = some person → person.recognitionState = .retained := by
  obtain ⟨bounded, retained⟩ := candidate_pool_bounded .plain
  constructor
  · have clock : ClockForward (numbered poolCommands ++ poolLater) := by decide
    refine bounded 10 "owner" _ 4 clock ?_ (by decide)
    unfold FixedLifetime
    decide
  · intro person' stored'
    have before : ((replay .plain (numbered poolCommands) .empty).tables.people.persons.get?
        "first").map (fun person => person.recognitionState) = some .retained := by
      decide +kernel
    have stays : ∀ first ∈ poolLater.inits, ((replay .plain first
        (replay .plain (numbered poolCommands) .empty)).tables.people.persons.get?
          "first").isSome = true := by
      decide +kernel
    obtain ⟨person, stored, state⟩ := Option.map_eq_some_iff.mp before
    exact retained (numbered poolCommands) poolLater "first" person person' stored state
      (fun first within => stays first ((List.mem_inits first poolLater).mpr within)) stored'

end Pooled

end EidolonData
