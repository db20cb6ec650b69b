import EidolonData.Results.Promotion
import Mathlib.Data.List.Infix

/-!
# The revision of a Person

Every command that changes what is stored of a Person raises its revision,
except for the time of a candidate's last activity; the archiving of the Owner
switches a realm off without it.
-/

namespace EidolonData

open Relational

section Moves

variable {sdk : Sdk} {env : Env} {personId : String} {command : Command} {file file' : PersonFile}

/-- The row, whatever the candidate's last activity. -/
def PersonRow.settled (person : PersonRow) : PersonRow :=
  { person with candidateActivityAt := none }

/-- The revision of this row and this realm is a token of both: a later file
has a higher revision, or the same row but for the activity and the same
realm. -/
def PersonFile.Follows (person : PersonRow) (realm : MemoryRealmRow) (file : PersonFile) : Prop :=
  ∃ person' realm' receipt', file = .bound person' realm' receipt' ∧
    person'.ownerId = person.ownerId ∧
    (person.revision < person'.revision ∨
      (person'.revision = person.revision ∧ person'.settled = person.settled ∧ realm' = realm))

theorem PersonFile.Follows.same {person : PersonRow} {realm : MemoryRealmRow}
    {receipt : Option PersonDeletionRow} :
    PersonFile.Follows person realm (.bound person realm receipt) :=
  ⟨person, realm, receipt, rfl, rfl, Or.inr ⟨rfl, rfl, rfl⟩⟩

theorem PersonMoved.follows {person : PersonRow} {realm : MemoryRealmRow}
    {receipt : Option PersonDeletionRow}
    (moved : PersonMoved sdk env personId command (.bound person realm receipt) file')
    (unarchived : command ≠ .archiveOwner person.ownerId) (lasts : file'.person.isSome = true) :
    PersonFile.Follows person realm file' := by
  generalize before : PersonFile.bound person realm receipt = file at moved
  have raised : ∀ {person' : PersonRow} {realm' : MemoryRealmRow}
      {receipt' : Option PersonDeletionRow}, person'.ownerId = person.ownerId →
        person'.revision = person.revision + 1 →
          PersonFile.Follows person realm (.bound person' realm' receipt') := by
    intro person' realm' receipt' owned revised
    exact ⟨person', realm', receipt', rfl, owned, Or.inl (by omega)⟩
  cases moved with
  | kept =>
      subst before
      exact .same
  | created | discovered => cases before
  | deletionCompleted | ownerDeleted => cases lasts
  | updated | retired | expired | archived | restored | deletionRequested | policyWritten
  | memorySuspended | memoryRestored | promoted =>
      cases before
      exact raised rfl rfl
  | evidenceRecorded activity =>
      cases before
      exact ⟨_, realm, receipt, rfl, rfl, Or.inr ⟨rfl, rfl, rfl⟩⟩
  | ownerArchived owned =>
      cases before
      exact absurd (congrArg Command.archiveOwner owned.symm) unarchived

theorem PersonFile.Follows.trans {person person' : PersonRow} {realm realm' : MemoryRealmRow}
    {receipt : Option PersonDeletionRow}
    (first : PersonFile.Follows person realm (.bound person' realm' receipt))
    (second : PersonFile.Follows person' realm' file) : PersonFile.Follows person realm file := by
  obtain ⟨_, _, _, ⟨⟩, owned, progress⟩ := first
  obtain ⟨person'', realm'', receipt'', held, owned', progress'⟩ := second
  refine ⟨person'', realm'', receipt'', held, owned'.trans owned, ?_⟩
  rcases progress with higher | ⟨revision, settled, realms⟩
  · rcases progress' with higher' | ⟨revision', -, -⟩
    · exact Or.inl (higher.trans higher')
    · exact Or.inl (by omega)
  · rcases progress' with higher' | ⟨revision', settled', realms'⟩
    · exact Or.inl (by omega)
    · exact Or.inr ⟨revision'.trans revision, settled'.trans settled, realms'.trans realms⟩

end Moves

section Runs

variable {sdk : Sdk}

theorem replay_follows (personId : String) (calls : List Call) (db : Database)
    (sound : db.tables.PeopleSound sdk) (lasts : PersonLasts sdk personId calls db)
    {person : PersonRow} {realm : MemoryRealmRow} {receipt : Option PersonDeletionRow}
    (held : db.tables.file personId = .bound person realm receipt)
    (unarchived : ∀ call ∈ calls, call.command ≠ .archiveOwner person.ownerId) :
    PersonFile.Follows person realm ((replay sdk calls db).tables.file personId) := by
  have kept : ∀ {env : Env} {command : Command} {file file' : PersonFile},
      PersonMoved sdk env personId command file file' → command ≠ .archiveOwner person.ownerId →
        file.Sound → file'.person.isSome = true →
          PersonFile.Follows person realm file → PersonFile.Follows person realm file' := by
    intro env command file file' moved permitted sound alive follows
    obtain ⟨person', realm', receipt', rfl, owned, -⟩ := id follows
    rw [← owned] at permitted
    exact follows.trans (moved.follows permitted alive)
  exact replay_lasting (fun command => command ≠ .archiveOwner person.ownerId) personId kept calls
    db sound unarchived lasts (held ▸ .same)

def Tables.realmsOf (t : Tables) (personId : String) : List MemoryRealmRow :=
  t.workspace.memoryRealms.select (fun row => row.personId = some personId)

/-- Two states of a run in which a Person that was kept has the same revision
agree on its row, but for the activity of a candidate, and on its realm. -/
theorem person_revision_faithful (sdk : Sdk) (personId : String) (before later : List Call)
    (person person' : PersonRow)
    (stored : (replay sdk before .empty).tables.people.persons.get? personId = some person)
    (unarchived : ∀ call ∈ later, call.command ≠ .archiveOwner person.ownerId)
    (lasts : PersonLasts sdk personId later (replay sdk before .empty))
    (stored' : (replay sdk (before ++ later) .empty).tables.people.persons.get? personId =
      some person')
    (same : person'.revision = person.revision) :
    person' = { person with candidateActivityAt := person'.candidateActivityAt } ∧
      (replay sdk (before ++ later) .empty).tables.realmsOf personId =
        (replay sdk before .empty).tables.realmsOf personId := by
  have sound := peopleSound_replay sdk before
  obtain ⟨realm, held, -, -⟩ := (sound.filed personId).of_person stored
  obtain ⟨person'', realm'', receipt'', after, -, progress⟩ :=
    replay_follows personId later _ sound lasts held unarchived
  rw [← replay_append] at after
  have sameRow : person'' = person' :=
    Option.some.inj ((person_of_file after).symm.trans stored')
  subst sameRow
  rcases progress with higher | ⟨-, settled, sameRealm⟩
  · omega
  · refine ⟨?_, ?_⟩
    · have restored := congrArg (fun row : PersonRow =>
        { row with candidateActivityAt := person''.candidateActivityAt }) settled
      exact restored
    · calc (replay sdk (before ++ later) .empty).tables.realmsOf personId
          = [realm''] := congrArg PersonFile.realms after
        _ = [realm] := by rw [sameRealm]
        _ = (replay sdk before .empty).tables.realmsOf personId :=
            (congrArg PersonFile.realms held).symm

end Runs

section Heard

/-- Evidence that is heard later than the candidate. -/
def freshEvidence : Call :=
  let heard := heardEvidence "second" 1
  { env := { uuid := fun site => .ofNat (32 + site), now := 3 }
    command := .runVoiceprint heardPolicies "owner" (.recordCandidateEvidence
      { heard with observation := { heard.observation with issuedAt := 2 } }) }

theorem person_revision_faithful_heard :
    ∃ person person' : PersonRow, person.revision = 1 ∧ person.candidateActivityAt = some 1 ∧
      person'.candidateActivityAt = some 2 ∧
      person' = { person with candidateActivityAt := person'.candidateActivityAt } := by
  let before := numbered (heardCommands.take 2)
  have first : ((replay .plain before .empty).tables.people.persons.get? "ownersessionfirst").map
      (fun person => (person.ownerId, person.revision, person.candidateActivityAt)) =
        some ("owner", 1, some 1) := by
    decide +kernel
  have second : ((replay .plain (before ++ [freshEvidence]) .empty).tables.people.persons.get?
      "ownersessionfirst").map (fun person => (person.revision, person.candidateActivityAt)) =
        some (1, some 2) := by
    decide +kernel
  have stays : ∀ first ∈ [freshEvidence].inits, ((replay .plain first
      (replay .plain before .empty)).tables.people.persons.get?
        "ownersessionfirst").isSome = true := by
    decide +kernel
  obtain ⟨person, stored, fields⟩ := Option.map_eq_some_iff.mp first
  obtain ⟨person', stored', fields'⟩ := Option.map_eq_some_iff.mp second
  obtain ⟨owned, revision, activity⟩ := by simpa only [Prod.mk.injEq] using fields
  obtain ⟨revision', activity'⟩ := by simpa only [Prod.mk.injEq] using fields'
  have unarchived : ∀ call ∈ [freshEvidence], call.command ≠ .archiveOwner person.ownerId := by
    intro call member
    rw [List.mem_singleton.mp member]
    exact Command.noConfusion
  obtain ⟨sameRow, -⟩ := person_revision_faithful .plain "ownersessionfirst" before
    [freshEvidence] person person' stored unarchived
    (fun first within => stays first ((List.mem_inits first [freshEvidence]).mpr within)) stored'
    (revision'.trans revision.symm)
  exact ⟨person, person', revision, activity, activity', sameRow⟩

end Heard

end EidolonData
