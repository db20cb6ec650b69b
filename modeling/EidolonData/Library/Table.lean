import Mathlib.Data.List.Nodup

/-!
# Keyed tables

A relational table with a primary key, as the list of its rows in insertion
order.  The structure carries the uniqueness of the key, so a table behaves
as a finite map whose lookups, inserts, updates and deletions are described
by the `get?` lemmas below, and as an ordered list for the queries that
enumerate it.
-/

namespace Relational

/-- The primary key of a row type. -/
class HasKey (ρ : Type u) (κ : outParam (Type v)) where
  key : ρ → κ

export HasKey (key)

structure Table (ρ : Type u) {κ : Type v} [HasKey ρ κ] where
  rows : List ρ
  unique : (rows.map key).Nodup

namespace Table

variable {ρ : Type u} {κ : Type v} [HasKey ρ κ]

@[ext] theorem ext {left right : Table ρ} (rows : left.rows = right.rows) :
    left = right := by
  cases left
  cases right
  simpa using rows

def empty : Table ρ :=
  { rows := []
    unique := List.nodup_nil }

instance : EmptyCollection (Table ρ) := ⟨empty⟩

@[simp] theorem rows_empty : (∅ : Table ρ).rows = [] := rfl

variable [DecidableEq κ]

/-- The row stored under a key. -/
def get? (table : Table ρ) (k : κ) : Option ρ :=
  table.rows.find? (fun row => decide (key row = k))

/-- A row with this key is stored. -/
def has (table : Table ρ) (k : κ) : Bool :=
  (table.get? k).isSome

/-- The rows a query selects, in insertion order. -/
def select (table : Table ρ) (wanted : ρ → Bool) : List ρ :=
  table.rows.filter wanted

/-- Append a row; a row whose key is taken is dropped, so callers check
`has` first. -/
def insert (table : Table ρ) (row : ρ) : Table ρ :=
  if taken : key row ∈ table.rows.map key then
    table
  else
    { rows := table.rows ++ [row]
      unique := by
        rw [List.map_append, List.map_singleton, List.nodup_append]
        refine ⟨table.unique, List.nodup_singleton _, ?_⟩
        intro left leftMember right rightMember
        have rightKey : right = key row := by simpa using rightMember
        rintro rfl
        exact taken (rightKey ▸ leftMember) }

/-- Append several rows, if none of their keys is taken. -/
def insertAll? (table : Table ρ) (rows : List ρ) : Option (Table ρ) :=
  rows.foldlM (fun table row =>
    if table.has (key row) then none else some (table.insert row)) table

/-- Rewrite every row by a function that keeps its key. -/
def update (table : Table ρ) (change : ρ → ρ)
    (keeps : ∀ row, key (change row) = key row := by intro _; rfl) : Table ρ :=
  { rows := table.rows.map change
    unique := by
      have sameKeys :
          (table.rows.map change).map key = table.rows.map key := by
        rw [List.map_map]
        exact List.map_congr_left (fun row _ => keeps row)
      rw [sameKeys]
      exact table.unique }

/-- Rewrite the row stored under one key. -/
def modify (table : Table ρ) (k : κ) (change : ρ → ρ)
    (keeps : ∀ row, key (change row) = key row := by intro _; rfl) : Table ρ :=
  table.update (fun row => if key row = k then change row else row) (by
    intro row
    split
    · exact keeps row
    · rfl)

/-- Keep the rows that satisfy a condition. -/
def retain (table : Table ρ) (kept : ρ → Bool) : Table ρ :=
  { rows := table.rows.filter kept
    unique := (List.filter_sublist.map key).nodup table.unique }

theorem mem_rows_iff (table : Table ρ) (row : ρ) :
    row ∈ table.rows ↔ table.get? (key row) = some row := by
  constructor
  · intro member
    cases found : table.get? (key row) with
    | none =>
        have absent := List.find?_eq_none.mp found row member
        simp at absent
    | some other =>
        have otherMember := List.mem_of_find?_eq_some found
        have otherKey : key other = key row := by
          simpa using List.find?_some found
        rw [List.inj_on_of_nodup_map table.unique otherMember member otherKey]
  · exact List.mem_of_find?_eq_some

theorem key_of_get? {table : Table ρ} {k : κ} {row : ρ}
    (found : table.get? k = some row) : key row = k := by
  simpa using List.find?_some found

theorem mem_of_get? {table : Table ρ} {k : κ} {row : ρ}
    (found : table.get? k = some row) : row ∈ table.rows :=
  List.mem_of_find?_eq_some found

theorem get?_eq_some_iff {table : Table ρ} {k : κ} {row : ρ} :
    table.get? k = some row ↔ row ∈ table.rows ∧ key row = k := by
  constructor
  · intro found
    exact ⟨mem_of_get? found, key_of_get? found⟩
  · rintro ⟨member, rfl⟩
    exact (table.mem_rows_iff row).mp member

theorem get?_eq_none_iff {table : Table ρ} {k : κ} :
    table.get? k = none ↔ k ∉ table.rows.map key := by
  simp [get?, List.find?_eq_none]

theorem has_iff {table : Table ρ} {k : κ} :
    table.has k = true ↔ ∃ row, table.get? k = some row := by
  simp [has, Option.isSome_iff_exists]

theorem has_eq_false_iff {table : Table ρ} {k : κ} :
    table.has k = false ↔ table.get? k = none := by
  simp [has]

@[simp] theorem has_of_get? {table : Table ρ} {k : κ} {row : ρ}
    (found : table.get? k = some row) : table.has k = true :=
  has_iff.mpr ⟨row, found⟩

theorem mem_select {table : Table ρ} {wanted : ρ → Bool} {row : ρ} :
    row ∈ table.select wanted ↔
      table.get? (key row) = some row ∧ wanted row = true := by
  rw [select, List.mem_filter, mem_rows_iff]

omit [DecidableEq κ] in
theorem nodup_map_select {γ : Type} {table : Table ρ} {wanted : ρ → Bool} {column : ρ → γ}
    (back : γ → κ) (keyed : ∀ row, wanted row = true → back (column row) = key row) :
    ((table.select wanted).map column).Nodup := by
  have keys : ((table.select wanted).map key).Nodup :=
    (List.filter_sublist.map key).nodup table.unique
  have same : (table.select wanted).map key = ((table.select wanted).map column).map back := by
    rw [List.map_map]
    apply List.map_congr_left
    intro row member
    exact (keyed row (List.of_mem_filter member)).symm
  rw [same] at keys
  exact List.Nodup.of_map back keys

@[simp] theorem get?_empty (k : κ) : (∅ : Table ρ).get? k = none := rfl

theorem get?_insert {table : Table ρ} {row : ρ}
    (fresh : table.get? (key row) = none) (k : κ) :
    (table.insert row).get? k =
      if k = key row then some row else table.get? k := by
  have notTaken := get?_eq_none_iff.mp fresh
  simp only [insert, notTaken, dite_false, get?, List.find?_append,
    List.find?_singleton]
  by_cases same : k = key row
  · subst k
    have absent : table.rows.find? (fun other => decide (key other = key row)) =
        none := fresh
    simp [absent]
  · have different : ¬ key row = k := fun equality => same equality.symm
    simp [same, different]

theorem rows_insert {table : Table ρ} {row : ρ}
    (fresh : table.get? (key row) = none) :
    (table.insert row).rows = table.rows ++ [row] := by
  simp [insert, get?_eq_none_iff.mp fresh]

theorem mem_insert {table : Table ρ} {row other : ρ}
    (member : other ∈ (table.insert row).rows) :
    other = row ∨ other ∈ table.rows := by
  unfold insert at member
  split at member
  · exact Or.inr member
  · simp only [List.mem_append, List.mem_singleton] at member
    exact member.symm

theorem mem_insert_of_mem {table : Table ρ} {row : ρ} (other : ρ) (member : row ∈ table.rows) :
    row ∈ (table.insert other).rows := by
  unfold insert
  split
  · exact member
  · exact List.mem_append_left _ member

theorem mem_insert_self {table : Table ρ} {row : ρ} (fresh : table.get? (key row) = none) :
    row ∈ (table.insert row).rows := by
  rw [rows_insert fresh]
  exact List.mem_append_right _ List.mem_cons_self

/-- Several rows are appended together, or not at all. -/
theorem rows_insertAll? {table table' : Table ρ} {rows : List ρ}
    (inserted : table.insertAll? rows = some table') : table'.rows = table.rows ++ rows := by
  induction rows generalizing table with
  | nil =>
      cases inserted
      rw [List.append_nil]
  | cons row rows induction =>
      simp only [insertAll?, List.foldlM_cons] at inserted
      cases taken : table.has (key row) with
      | true => simp [taken] at inserted
      | false =>
          simp only [taken, Bool.false_eq_true, if_false, Option.bind_eq_bind,
            Option.bind_some] at inserted
          rw [induction inserted, rows_insert (has_eq_false_iff.mp taken), List.append_assoc,
            List.singleton_append]

omit [DecidableEq κ] in
theorem select_retain (table : Table ρ) (kept wanted : ρ → Bool) :
    (table.retain kept).select wanted = (table.select wanted).filter kept := by
  simp only [select, retain, List.filter_filter, Bool.and_comm]

omit [DecidableEq κ] in
/-- A rewriting that no query can tell apart rewrites what the query selects. -/
theorem select_update (table : Table ρ) {change : ρ → ρ}
    {keeps : ∀ row, key (change row) = key row} {wanted : ρ → Bool}
    (same : ∀ row, wanted (change row) = wanted row) :
    (table.update change keeps).select wanted = (table.select wanted).map change := by
  have unchanged : wanted ∘ change = wanted := funext same
  simp only [select, update, List.filter_map, unchanged]

theorem select_modify (table : Table ρ) {target : κ} {change : ρ → ρ}
    {keeps : ∀ row, key (change row) = key row} {wanted : ρ → Bool}
    (same : ∀ row, wanted (change row) = wanted row) :
    (table.modify target change keeps).select wanted =
      (table.select wanted).map (fun row => if key row = target then change row else row) := by
  apply select_update
  intro row
  split
  · exact same row
  · rfl

@[simp] theorem get?_update (table : Table ρ) (change : ρ → ρ)
    (keeps : ∀ row, key (change row) = key row) (k : κ) :
    (table.update change keeps).get? k = (table.get? k).map change := by
  simp only [get?, update, List.find?_map, Function.comp_def, keeps]

@[simp] theorem get?_modify (table : Table ρ) (target : κ) (change : ρ → ρ)
    (keeps : ∀ row, key (change row) = key row) (k : κ) :
    (table.modify target change keeps).get? k =
      if k = target then (table.get? k).map change else table.get? k := by
  rw [modify, get?_update]
  cases found : table.get? k with
  | none => simp
  | some row =>
      have rowKey := key_of_get? found
      by_cases same : k = target
      · simp [rowKey, same]
      · simp [rowKey, same]

@[simp] theorem has_update (table : Table ρ) (change : ρ → ρ)
    (keeps : ∀ row, key (change row) = key row) :
    (table.update change keeps).has = table.has := by
  funext k
  simp [has]

@[simp] theorem has_modify (table : Table ρ) (target : κ) (change : ρ → ρ)
    (keeps : ∀ row, key (change row) = key row) :
    (table.modify target change keeps).has = table.has :=
  has_update table _ _

@[simp] theorem get?_retain (table : Table ρ) (kept : ρ → Bool) (k : κ) :
    (table.retain kept).get? k = (table.get? k).filter kept := by
  cases found : table.get? k with
  | none =>
      rw [get?_eq_none_iff] at found
      simp only [Option.filter_none, get?_eq_none_iff]
      intro member
      obtain ⟨row, rowMember, rowKey⟩ := List.mem_map.mp member
      exact found (List.mem_map.mpr
        ⟨row, (List.mem_filter.mp rowMember).1, rowKey⟩)
  | some row =>
      have member := mem_of_get? found
      have rowKey := key_of_get? found
      cases decision : kept row with
      | true =>
          rw [Option.filter_some_pos decision, get?_eq_some_iff]
          exact ⟨List.mem_filter.mpr ⟨member, decision⟩, rowKey⟩
      | false =>
          rw [Option.filter_some_neg (by simp [decision]), get?_eq_none_iff]
          intro stillThere
          obtain ⟨other, otherMember, otherKey⟩ := List.mem_map.mp stillThere
          obtain ⟨otherStored, otherKept⟩ := List.mem_filter.mp otherMember
          have same : other = row :=
            List.inj_on_of_nodup_map table.unique otherStored member
              (otherKey.trans rowKey.symm)
          rw [same, decision] at otherKept
          cases otherKept

theorem modify_eq_self {table : Table ρ} {k : κ} {row : ρ} {change : ρ → ρ}
    {keeps : ∀ row, key (change row) = key row} (found : table.get? k = some row)
    (same : change row = row) : table.modify k change keeps = table := by
  apply ext
  show table.rows.map _ = table.rows
  conv => rhs; rw [← List.map_id table.rows]
  apply List.map_congr_left
  intro other member
  split
  · next sameKey =>
      rw [mem_rows_iff, sameKey, found] at member
      cases member
      exact same
  · rfl

omit [DecidableEq κ] in
theorem retain_congr {table : Table ρ} {kept kept' : ρ → Bool}
    (same : ∀ row ∈ table.rows, kept row = kept' row) : table.retain kept = table.retain kept' :=
  ext (List.filter_congr same)

omit [DecidableEq κ] in
theorem retain_eq_self {table : Table ρ} {kept : ρ → Bool}
    (all : ∀ row ∈ table.rows, kept row = true) : table.retain kept = table :=
  ext (List.filter_eq_self.mpr all)

omit [DecidableEq κ] in
theorem update_eq_self {table : Table ρ} {change : ρ → ρ}
    (keeps : ∀ row, key (change row) = key row) (same : ∀ row ∈ table.rows, change row = row) :
    table.update change keeps = table := by
  apply ext
  show table.rows.map change = table.rows
  conv => rhs; rw [← List.map_id table.rows]
  exact List.map_congr_left same

omit [DecidableEq κ] in
/-- Rows rewritten, chosen among and rewritten again are the rows that were
meant, when these are restored. -/
theorem update_retain_update {table : Table ρ} {before after : ρ → ρ} {kept wanted : ρ → Bool}
    (keepsBefore : ∀ row, key (before row) = key row)
    (keepsAfter : ∀ row, key (after row) = key row)
    (same : ∀ row ∈ table.rows, kept (before row) = wanted row)
    (restored : ∀ row ∈ table.rows, wanted row = true → after (before row) = row) :
    ((table.update before keepsBefore).retain kept).update after keepsAfter =
      table.retain wanted := by
  apply ext
  show ((table.rows.map before).filter kept).map after = table.rows.filter wanted
  rw [List.filter_map, List.map_map]
  have chosen : table.rows.filter (kept ∘ before) = table.rows.filter wanted :=
    List.filter_congr same
  rw [chosen]
  conv => rhs; rw [← List.map_id (table.rows.filter wanted)]
  apply List.map_congr_left
  intro row member
  obtain ⟨stored, meant⟩ := List.mem_filter.mp member
  exact restored row stored meant

omit [DecidableEq κ] in
theorem mem_retain {table : Table ρ} {kept : ρ → Bool} {row : ρ} :
    row ∈ (table.retain kept).rows ↔ row ∈ table.rows ∧ kept row = true := by
  simp [retain]

omit [DecidableEq κ] in
theorem mem_update {table : Table ρ} {change : ρ → ρ}
    {keeps : ∀ row, key (change row) = key row} {row : ρ} :
    row ∈ (table.update change keeps).rows ↔
      ∃ old ∈ table.rows, change old = row := by
  simp [update]

/-- The second table is the first with one key rewritten to one row, whether
that key was taken before or not. -/
def Stores (table table' : Table ρ) (row : ρ) : Prop :=
  ∀ k, table'.get? k = if k = key row then some row else table.get? k

theorem Stores.self {table table' : Table ρ} {row : ρ}
    (stores : Stores table table' row) : table'.get? (key row) = some row := by
  rw [stores, if_pos rfl]

theorem Stores.at {table table' : Table ρ} {row : ρ} (stores : Stores table table' row)
    (stored : κ) (keyed : key row = stored := by rfl) (k : κ) :
    table'.get? k = if k = stored then some row else table.get? k := by
  rw [← keyed]
  exact stores k

theorem Stores.over {table table' : Table ρ} {row row' : ρ} {stored : κ}
    (stores : Stores table table' row') (found : table.get? stored = some row)
    (sameKey : key row' = key row := by rfl) (k : κ) :
    table'.get? k = if k = stored then some row' else table.get? k :=
  stores.at stored (sameKey.trans (key_of_get? found)) k

theorem Stores.other {table table' : Table ρ} {row : ρ}
    (stores : Stores table table' row) {k : κ} (different : k ≠ key row) :
    table'.get? k = table.get? k := by
  rw [stores, if_neg different]

theorem Stores.of_get? {table table' : Table ρ} {row found : ρ} {k : κ}
    (stores : Stores table table' row) (stored : table'.get? k = some found) :
    (k = key row ∧ found = row) ∨ (k ≠ key row ∧ table.get? k = some found) := by
  by_cases same : k = key row
  · subst same
    rw [stores.self] at stored
    cases stored
    exact Or.inl ⟨rfl, rfl⟩
  · rw [stores.other same] at stored
    exact Or.inr ⟨same, stored⟩

theorem stores_insert {table : Table ρ} {row : ρ}
    (fresh : table.get? (key row) = none) : Stores table (table.insert row) row :=
  fun k => get?_insert fresh k

theorem stores_modify {table : Table ρ} {k : κ} {row : ρ} {change : ρ → ρ}
    (found : table.get? k = some row)
    (keeps : ∀ row, key (change row) = key row := by intro _; rfl) :
    Stores table (table.modify k change keeps) (change row) := by
  intro other
  have rowKey : key (change row) = k := (keeps row).trans (key_of_get? found)
  rw [get?_modify, rowKey]
  by_cases same : other = k
  · subst other
    simp [found]
  · simp [same]

theorem Stores.trans {first second third : Table ρ} {row row' : ρ}
    (one : Stores first second row) (two : Stores second third row')
    (sameKey : key row' = key row) : Stores first third row' := by
  intro k
  rw [two, one, sameKey]
  by_cases same : k = key row
  · simp [same]
  · simp [same]

theorem Stores.modify {table table' : Table ρ} {row : ρ} (stores : Stores table table' row)
    {k : κ} {change : ρ → ρ} (sameKey : key row = k)
    (keeps : ∀ row, key (change row) = key row := by intro _; rfl) :
    Stores table (table'.modify k change keeps) (change row) := by
  have found : table'.get? k = some row := by
    rw [← sameKey]
    exact stores.self
  exact stores.trans (stores_modify found keeps) (keeps row)

/-- Every stored row is still stored, as a row it is related to. -/
def Carries (related : ρ → ρ → Prop) (table table' : Table ρ) : Prop :=
  ∀ k row, table.get? k = some row → ∃ row', table'.get? k = some row' ∧ related row row'

theorem Carries.refl {related : ρ → ρ → Prop} (reflexive : ∀ row, related row row)
    (table : Table ρ) : Carries related table table :=
  fun _ row found => ⟨row, found, reflexive row⟩

theorem Carries.trans {related : ρ → ρ → Prop} {first second third : Table ρ}
    (transitive : ∀ {one two three}, related one two → related two three → related one three)
    (before : Carries related first second) (after : Carries related second third) :
    Carries related first third := by
  intro k row found
  obtain ⟨middle, stored, one⟩ := before k row found
  obtain ⟨last, final, two⟩ := after k middle stored
  exact ⟨last, final, transitive one two⟩

theorem Stores.kept {table table' : Table ρ} {row old : ρ} {k : κ}
    (stores : Stores table table' row) (fresh : table.get? (key row) = none)
    (found : table.get? k = some old) : table'.get? k = some old := by
  rw [stores.other, found]
  intro same
  rw [same, fresh] at found
  cases found

theorem Stores.carries_fresh {related : ρ → ρ → Prop} {table table' : Table ρ} {row : ρ}
    (stores : Stores table table' row) (fresh : table.get? (key row) = none)
    (reflexive : ∀ row, related row row) : Carries related table table' :=
  fun _ old found => ⟨old, stores.kept fresh found, reflexive old⟩

theorem Stores.carries {related : ρ → ρ → Prop} {table table' : Table ρ} {row row' : ρ}
    (stores : Stores table table' row') (found : table.get? (key row) = some row)
    (sameKey : key row' = key row) (reflexive : ∀ row, related row row)
    (changed : related row row') : Carries related table table' := by
  intro k old stored
  by_cases same : k = key row
  · subst same
    rw [found] at stored
    cases stored
    refine ⟨row', ?_, changed⟩
    rw [← sameKey]
    exact stores.self
  · refine ⟨old, ?_, reflexive old⟩
    rw [stores.other, stored]
    rw [sameKey]
    exact same

theorem carries_update {related : ρ → ρ → Prop} {table : Table ρ} {change : ρ → ρ}
    (changed : ∀ row, related row (change row))
    (keeps : ∀ row, key (change row) = key row := by intro _; rfl) :
    Carries related table (table.update change keeps) := by
  intro k row found
  refine ⟨change row, ?_, changed row⟩
  rw [get?_update, found, Option.map_some]

end Table

end Relational
