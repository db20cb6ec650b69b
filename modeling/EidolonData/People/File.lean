import EidolonData.Effects.Frames

/-!
# What is stored of one Person

The row of a Person, the private realms bound to it and the receipt of its
deletion are kept in three tables.  They are read together as the Person's
file, and every Person command writes the file of one Person only.
-/

namespace EidolonData

open Relational

structure PersonFile where
  person : Option PersonRow
  realms : List MemoryRealmRow
  receipt : Option PersonDeletionRow

namespace PersonFile

/-- Nothing is stored under the id. -/
def absent : PersonFile := ⟨none, [], none⟩

def bound (person : PersonRow) (realm : MemoryRealmRow) (receipt : Option PersonDeletionRow) :
    PersonFile :=
  ⟨some person, [realm], receipt⟩

/-- A Person has one realm, of its Owner; a deletion that was requested is of
this realm and is completed with the row of the Person. -/
inductive Sound : PersonFile → Prop where
  | absent (receipt : Option PersonDeletionRow)
      (completed : ∀ stored, receipt = some stored → stored.state = "completed") :
      Sound ⟨none, [], receipt⟩
  | bound (person : PersonRow) (realm : MemoryRealmRow) (receipt : Option PersonDeletionRow)
      (owned : realm.ownerId = person.ownerId)
      (pending : ∀ stored, receipt = some stored →
        stored.ownerId = person.ownerId ∧ stored.realmId = realm.realmId ∧
          stored.state = "pending") :
      Sound (PersonFile.bound person realm receipt)

theorem Sound.of_person {file : PersonFile} (sound : file.Sound) {person : PersonRow}
    (stored : file.person = some person) :
    ∃ realm, file = PersonFile.bound person realm file.receipt ∧ realm.ownerId = person.ownerId ∧
      ∀ receipt, file.receipt = some receipt →
        receipt.ownerId = person.ownerId ∧ receipt.realmId = realm.realmId ∧
          receipt.state = "pending" := by
  cases sound with
  | absent => cases stored
  | bound row realm receipt owned pending =>
      cases stored
      exact ⟨realm, rfl, owned, pending⟩

theorem Sound.of_absent {file : PersonFile} (sound : file.Sound) (absent : file.person = none) :
    file = ⟨none, [], file.receipt⟩ ∧
      ∀ receipt, file.receipt = some receipt → receipt.state = "completed" := by
  cases sound with
  | absent receipt completed => exact ⟨rfl, completed⟩
  | bound => cases absent

end PersonFile

def Tables.file (t : Tables) (personId : String) : PersonFile :=
  { person := t.people.persons.get? personId
    realms := t.workspace.memoryRealms.select (fun row => row.personId = some personId)
    receipt := t.people.personDeletions.get? personId }

def Tables.Filed (t : Tables) : Prop := ∀ personId, (t.file personId).Sound

/-- The second state has another file of this Person, and of no other. -/
def Tables.Refiles (t t' : Tables) (personId : String) (file : PersonFile) : Prop :=
  ∀ other, t'.file other = if other = personId then file else t.file other

section Files

variable {t t' : Tables} {personId : String} {person : PersonRow} {realm : MemoryRealmRow}
  {receipt : Option PersonDeletionRow}

@[simp] theorem file_addFact (now : Timestamp) (fact : AuditFact) :
    (t.addFact now fact).file personId = t.file personId := rfl

theorem file_of_beside (same : t'.beside = t.beside) : t'.file personId = t.file personId := by
  have selects : ∀ t : Tables, t.workspace.memoryRealms.select (fun row =>
      row.personId = some personId) = t.beside.realms.filter (fun row =>
        row.personId = some personId) := by
    intro t
    simp only [Tables.beside, Workspace.personalRealms, Table.select, List.filter_filter]
    apply List.filter_congr
    intro row _
    by_cases named : row.personId = some personId
    · simp [named]
    · simp [named]
  have people : t'.people = t.people := congrArg Beside.people same
  simp only [Tables.file, selects, same, people]

theorem Tables.Refiles.self {file : PersonFile} (refiles : t.Refiles t' personId file) :
    t'.file personId = file := by
  rw [refiles, if_pos rfl]

theorem Tables.Refiles.trans {t'' : Tables} {file file' : PersonFile}
    (first : t.Refiles t' personId file) (second : t'.Refiles t'' personId file') :
    t.Refiles t'' personId file' := by
  intro other
  rw [second, first]
  by_cases same : other = personId
  · simp [same]
  · simp [same]

/-- The files stay when their three tables do. -/
theorem file_of_tables (persons : t'.people.persons = t.people.persons)
    (receipts : t'.people.personDeletions = t.people.personDeletions)
    (realms : t'.workspace.memoryRealms = t.workspace.memoryRealms) :
    t'.file personId = t.file personId := by
  rw [Tables.file, persons, receipts, realms]
  rfl

theorem realm_of_file (held : t.file personId = .bound person realm receipt) :
    t.workspace.memoryRealms.get? realm.realmId = some realm ∧ realm.personId = some personId := by
  have realms : t.workspace.memoryRealms.select (fun row => row.personId = some personId) =
      [realm] := congrArg PersonFile.realms held
  have member : realm ∈ t.workspace.memoryRealms.select (fun row =>
      row.personId = some personId) := by
    rw [realms]
    exact List.mem_singleton.mpr rfl
  obtain ⟨stored, named⟩ := Table.mem_select.mp member
  exact ⟨stored, of_decide_eq_true named⟩

theorem person_of_file (held : t.file personId = .bound person realm receipt) :
    t.people.persons.get? personId = some person :=
  congrArg PersonFile.person held

theorem receipt_of_file (held : t.file personId = .bound person realm receipt) :
    t.people.personDeletions.get? personId = receipt :=
  congrArg PersonFile.receipt held

theorem Tables.Filed.of_realm (filed : t.Filed)
    (stored : t.workspace.memoryRealms.get? realm.realmId = some realm)
    (named : realm.personId = some personId) :
    ∃ person receipt, t.file personId = .bound person realm receipt ∧
      realm.ownerId = person.ownerId ∧ ∀ row, receipt = some row →
        row.ownerId = person.ownerId ∧ row.realmId = realm.realmId ∧ row.state = "pending" := by
  have member : realm ∈ (t.file personId).realms :=
    Table.mem_select.mpr ⟨stored, by simpa using named⟩
  have sound := filed personId
  generalize t.file personId = file at member sound
  cases sound with
  | absent => cases member
  | bound person other receipt owned pending =>
      cases List.mem_singleton.mp member
      exact ⟨person, receipt, rfl, owned, pending⟩

end Files

section Writes

/-- The columns `writePerson` writes. -/
def PersonRow.rewrite (row person : PersonRow) : PersonRow :=
  { row with
    displayName := person.displayName
    status := person.status
    deleted := person.deleted
    recognitionState := person.recognitionState
    isNamed := person.isNamed
    archivedAt := person.archivedAt
    revision := person.revision
    profileJson := person.profileJson }

/-- The columns `writeEvidence` writes. -/
def PersonRow.promote (row person : PersonRow) : PersonRow :=
  { row with
    maturity := person.maturity
    candidateActivityAt := person.candidateActivityAt
    revision := person.revision }

/-- The columns `writeRealm` writes. -/
def MemoryRealmRow.rewrite (row realm : MemoryRealmRow) : MemoryRealmRow :=
  { row with
    status := realm.status
    policyJson := realm.policyJson }

def Tables.withPerson (t : Tables) (person : PersonRow) : Tables :=
  t.mapPeople (fun p =>
    { p with persons := p.persons.modify person.personId (fun row => row.rewrite person) })

def Tables.withEvidence (t : Tables) (person : PersonRow) : Tables :=
  t.mapPeople (fun p =>
    { p with persons := p.persons.modify person.personId (fun row => row.promote person) })

def Tables.withRealm (t : Tables) (realm : MemoryRealmRow) : Tables :=
  t.mapWorkspace (fun w =>
    { w with memoryRealms := w.memoryRealms.modify realm.realmId (fun row => row.rewrite realm) })

variable {t : Tables} {personId : String} {person person' : PersonRow}
  {realm realm' : MemoryRealmRow} {receipt : Option PersonDeletionRow}

theorem ensures_writePerson_file (post : Unit → Tables → Prop) :
    (writePerson person).Ensures t post ↔ post () (t.withPerson person) :=
  Tx.ensures_modify _ t post

theorem ensures_writeEvidence_file (post : Unit → Tables → Prop) :
    (writeEvidence person).Ensures t post ↔ post () (t.withEvidence person) :=
  Tx.ensures_modify _ t post

theorem ensures_writeRealm_file (post : Unit → Tables → Prop) :
    (writeRealm realm).Ensures t post ↔ post () (t.withRealm realm) :=
  Tx.ensures_modify _ t post

theorem refiles_persons (held : t.file personId = .bound person realm receipt)
    {change : PersonRow → PersonRow} {keeps : ∀ row, key (change row) = key row}
    (wrote : change person = person') :
    t.Refiles (t.mapPeople (fun p =>
        { p with persons := p.persons.modify personId change keeps })) personId
      (.bound person' realm receipt) := by
  intro other
  by_cases same : other = personId
  · subst same
    have stored := person_of_file held
    rw [if_pos rfl, ← wrote]
    show ({ person := _, realms := (t.file other).realms, receipt := (t.file other).receipt } :
      PersonFile) = _
    rw [held]
    simp [Tables.mapPeople, stored, PersonFile.bound]
  · rw [if_neg same]
    simp [Tables.file, Tables.mapPeople, same]

theorem refiles_withPerson (held : t.file personId = .bound person realm receipt)
    (wrote : person.rewrite person' = person') :
    t.Refiles (t.withPerson person') personId (.bound person' realm receipt) := by
  have named : person'.personId = personId := by
    rw [← wrote]
    exact Table.key_of_get? (person_of_file held)
  rw [Tables.withPerson, named]
  exact refiles_persons held wrote

theorem refiles_withEvidence (held : t.file personId = .bound person realm receipt)
    (wrote : person.promote person' = person') :
    t.Refiles (t.withEvidence person') personId (.bound person' realm receipt) := by
  have named : person'.personId = personId := by
    rw [← wrote]
    exact Table.key_of_get? (person_of_file held)
  rw [Tables.withEvidence, named]
  exact refiles_persons held wrote

theorem refiles_withRealm (held : t.file personId = .bound person realm receipt)
    (wrote : realm.rewrite realm' = realm') :
    t.Refiles (t.withRealm realm') personId (.bound person realm' receipt) := by
  obtain ⟨stored, names⟩ := realm_of_file held
  have sameId : realm'.realmId = realm.realmId := by
    rw [← wrote]
    rfl
  have selects : ∀ other, (t.withRealm realm').workspace.memoryRealms.select (fun row =>
      row.personId = some other) = (t.workspace.memoryRealms.select (fun row =>
        row.personId = some other)).map (fun row =>
          if key row = realm'.realmId then row.rewrite realm' else row) := by
    intro other
    simp only [Tables.withRealm, Tables.workspace_mapWorkspace]
    exact Table.select_modify _ (fun _ => rfl)
  intro other
  by_cases same : other = personId
  · subst same
    have realms : t.workspace.memoryRealms.select (fun row => row.personId = some other) =
        [realm] := congrArg PersonFile.realms held
    rw [if_pos rfl]
    show ({ person := (t.file other).person, realms := _, receipt := (t.file other).receipt } :
      PersonFile) = _
    rw [held, selects, realms]
    simp [sameId, wrote, PersonFile.bound]
  · rw [if_neg same]
    show ({ person := (t.file other).person, realms := _, receipt := (t.file other).receipt } :
      PersonFile) = _
    -- The realm that is written is not one of the other Person's.
    have untouched : ∀ row ∈ t.workspace.memoryRealms.select (fun row =>
        row.personId = some other), (if key row = realm'.realmId then row.rewrite realm' else row) =
          row := by
      intro row member
      obtain ⟨found, named⟩ := Table.mem_select.mp member
      refine if_neg ?_
      intro sameKey
      rw [sameKey, sameId, stored] at found
      cases found
      rw [names] at named
      exact same (Option.some.inj (of_decide_eq_true named)).symm
    rw [selects, List.map_congr_left untouched, List.map_id']
    rfl

end Writes

end EidolonData
