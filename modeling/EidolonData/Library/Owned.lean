import EidolonData.Library.Constraint

/-!
# Tables with an owner column

What one owner's rows become when a table is edited by keys that name the
owner, while the rows of every other owner stay as they are.
-/

namespace Relational

namespace Table

variable {ρ : Type u} {κ : Type v} [HasKey ρ κ] {α : Type w} [DecidableEq α]

/-- One owner's rows are edited, and no other row is touched. -/
structure EditsOwned (owner : ρ → α) (who : α) (edit : List ρ → List ρ)
    (table table' : Table ρ) : Prop where
  own : table'.select (fun row => owner row = who) =
    edit (table.select (fun row => owner row = who))
  others : ∀ other, other ≠ who →
    table'.select (fun row => owner row = other) = table.select (fun row => owner row = other)

variable {owner : ρ → α} {who : α} {table table' table'' : Table ρ} {edit edit' : List ρ → List ρ}

theorem owner_of_mem_select {row : ρ} (member : row ∈ table.select (fun row => owner row = who)) :
    owner row = who := by
  simpa only [decide_eq_true_eq] using (List.mem_filter.mp member).2

theorem EditsOwned.refl (owner : ρ → α) (who : α) (table : Table ρ) :
    EditsOwned owner who id table table :=
  { own := rfl
    others := fun _ _ => rfl }

theorem EditsOwned.trans (first : EditsOwned owner who edit table table')
    (second : EditsOwned owner who edit' table' table'') :
    EditsOwned owner who (edit' ∘ edit) table table'' :=
  { own := by rw [second.own, first.own, Function.comp_apply]
    others := fun other different => (second.others other different).trans
      (first.others other different) }

theorem editsOwned_insertAll? [DecidableEq κ] {rows : List ρ}
    (inserted : table.insertAll? rows = some table') (owned : ∀ row ∈ rows, owner row = who) :
    EditsOwned owner who (fun before => before ++ rows) table table' := by
  have appended := rows_insertAll? inserted
  constructor
  · have all : rows.filter (fun row => owner row = who) = rows := by
      apply List.filter_eq_self.mpr
      intro row member
      simp only [owned row member, decide_true]
    simp only [select, appended, List.filter_append, all]
  · intro other different
    have none : rows.filter (fun row => owner row = other) = [] := by
      apply List.filter_eq_nil_iff.mpr
      intro row member
      simp only [owned row member, decide_eq_true_eq]
      exact Ne.symm different
    simp only [select, appended, List.filter_append, none, List.append_nil]

theorem editsOwned_retain (table : Table ρ) {kept kept' : ρ → Bool}
    (own : ∀ row, owner row = who → kept row = kept' row)
    (others : ∀ row, owner row ≠ who → kept row = true) :
    EditsOwned owner who (fun before => before.filter kept') table (table.retain kept) := by
  constructor
  · rw [select_retain]
    apply List.filter_congr
    intro row member
    exact own row (owner_of_mem_select member)
  · intro other different
    rw [select_retain]
    apply List.filter_eq_self.mpr
    intro row member
    apply others
    rw [owner_of_mem_select member]
    exact different

theorem all_owned_iff (owner : ρ → α) {table : Table ρ} {holds : ρ → Bool} :
    table.All holds ↔ ∀ who, ∀ row ∈ table.select (fun row => owner row = who),
      holds row = true := by
  constructor
  · intro all who row member
    exact all row (List.mem_of_mem_filter member)
  · intro owned row member
    apply owned (owner row) row
    exact List.mem_filter.mpr ⟨member, by simp⟩

theorem uniqueOn_owned_iff {γ : Type} {owner : ρ → α} {column : ρ → γ} {table : Table ρ} :
    table.UniqueOn (fun row => some (owner row, column row)) ↔
      ∀ who, ((table.select (fun row => owner row = who)).map column).Nodup := by
  have index : table.rows.filterMap (fun row => some (owner row, column row)) =
      table.rows.map (fun row => (owner row, column row)) :=
    congrFun List.filterMap_eq_map' table.rows
  rw [UniqueOn, index]
  simp only [List.Nodup, List.pairwise_map, select, List.pairwise_filter, decide_eq_true_eq, ne_eq,
    Prod.mk.injEq, not_and]
  constructor
  · intro unique who
    apply unique.imp
    intro left right different leftOwner rightOwner
    exact different (leftOwner.trans rightOwner.symm)
  · intro owned
    rw [List.pairwise_iff_getElem]
    intro i j iBound jBound earlier same
    have inOrder := List.pairwise_iff_getElem.mp (owned (owner table.rows[j])) i j iBound jBound
      earlier
    exact inOrder same rfl

theorem insertAll?_of_fresh [DecidableEq κ] {rows : List ρ} {table : Table ρ}
    (unique : (rows.map key).Nodup) (fresh : ∀ row ∈ rows, table.get? (key row) = none) :
    ∃ table', table.insertAll? rows = some table' := by
  induction rows generalizing table with
  | nil => exact ⟨table, rfl⟩
  | cons row rows induction =>
      rw [List.map_cons, List.nodup_cons] at unique
      have free := fresh row List.mem_cons_self
      have rest : ∀ other ∈ rows, (table.insert row).get? (key other) = none := by
        intro other member
        rw [get?_insert free, if_neg]
        · exact fresh other (List.mem_cons_of_mem row member)
        · intro same
          apply unique.1
          rw [← same]
          exact List.mem_map_of_mem member
      obtain ⟨table', inserted⟩ := induction unique.2 rest
      refine ⟨table', ?_⟩
      have absent := has_eq_false_iff.mpr free
      simp only [insertAll?, List.foldlM_cons, absent, Bool.false_eq_true, if_false,
        Option.bind_eq_bind, Option.bind_some]
      exact inserted

section Keys

variable {γ : Type} [DecidableEq γ] {ρ : Type u} [HasKey ρ (α × γ)] {owner : ρ → α}
  {column : ρ → γ} {who : α}

/-- An `UPDATE` by a key that starts with the owner. -/
theorem editsOwned_modify (table : Table ρ) (keyed : ∀ row, key row = (owner row, column row))
    {target : γ} {change : ρ → ρ} {keeps : ∀ row, key (change row) = key row} :
    EditsOwned owner who
      (fun before => before.map (fun row => if column row = target then change row else row))
      table (table.modify (who, target) change keeps) := by
  have sameOwner : ∀ row, owner (change row) = owner row := by
    intro row
    have same := keeps row
    rw [keyed, keyed] at same
    exact (Prod.mk.inj same).1
  have selects : ∀ other, (table.modify (who, target) change keeps).select
      (fun row => owner row = other) = (table.select (fun row => owner row = other)).map
        (fun row => if key row = (who, target) then change row else row) := by
    intro other
    apply select_modify
    intro row
    rw [sameOwner]
  constructor
  · rw [selects]
    apply List.map_congr_left
    intro row member
    have own : owner row = who := owner_of_mem_select member
    simp only [keyed, own, Prod.mk.injEq, true_and]
  · intro other different
    rw [selects]
    conv => rhs; rw [← List.map_id (table.select _)]
    apply List.map_congr_left
    intro row member
    have own : owner row = other := owner_of_mem_select member
    simp only [keyed, own, Prod.mk.injEq, different, false_and, if_false, id]

/-- A `DELETE` by a key that starts with the owner. -/
theorem editsOwned_delete (table : Table ρ) (keyed : ∀ row, key row = (owner row, column row))
    (target : γ) :
    EditsOwned owner who (fun before => before.filter (fun row => column row ≠ target)) table
      (table.retain (fun row => key row ≠ (who, target))) := by
  apply editsOwned_retain
  · intro row own
    simp only [keyed, own, ne_eq, Prod.mk.injEq, true_and]
  · intro row different
    simp only [keyed, ne_eq, Prod.mk.injEq, different, false_and, not_false_eq_true, decide_true]

theorem mem_owned_iff {table : Table ρ} (keyed : ∀ row, key row = (owner row, column row))
    {target : γ} :
    target ∈ (table.select (fun row => owner row = who)).map column ↔
      ∃ row, table.get? (who, target) = some row := by
  constructor
  · intro member
    obtain ⟨row, rowMember, rfl⟩ := List.mem_map.mp member
    have own := owner_of_mem_select rowMember
    refine ⟨row, get?_eq_some_iff.mpr ⟨(List.mem_filter.mp rowMember).1, ?_⟩⟩
    rw [keyed, own]
  · rintro ⟨row, found⟩
    have rowKey := key_of_get? found
    rw [keyed, Prod.mk.injEq] at rowKey
    refine List.mem_map.mpr ⟨row, List.mem_filter.mpr ⟨mem_of_get? found, ?_⟩, rowKey.2⟩
    rw [rowKey.1, decide_eq_true rfl]

end Keys

end Table

end Relational
