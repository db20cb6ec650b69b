import EidolonData.Library.Table

/-!
# Table constraints

Row conditions and unique indexes over keyed tables, and what the operations
on a table do to them.  A `CHECK` and a foreign key are both row conditions;
a partial unique index is a column that is `none` outside the index.
-/

namespace Relational

namespace Table

variable {ρ : Type u} {κ : Type v} [HasKey ρ κ] {γ : Type w}

/-- Every row meets a condition. -/
def All (table : Table ρ) (holds : ρ → Bool) : Prop :=
  ∀ row ∈ table.rows, holds row = true

/-- No two rows share a value of an indexed column. -/
def UniqueOn (table : Table ρ) (column : ρ → Option γ) : Prop :=
  (table.rows.filterMap column).Nodup

instance (table : Table ρ) (holds : ρ → Bool) : Decidable (table.All holds) :=
  inferInstanceAs (Decidable (∀ row ∈ table.rows, holds row = true))

instance [DecidableEq γ] (table : Table ρ) (column : ρ → Option γ) :
    Decidable (table.UniqueOn column) :=
  inferInstanceAs (Decidable (table.rows.filterMap column).Nodup)

@[simp] theorem all_empty (holds : ρ → Bool) : (∅ : Table ρ).All holds := by
  intro row member
  cases member

@[simp] theorem uniqueOn_empty (column : ρ → Option γ) :
    (∅ : Table ρ).UniqueOn column :=
  List.nodup_nil

theorem All.mono {table : Table ρ} {holds holds' : ρ → Bool} (all : table.All holds)
    (weaker : ∀ row ∈ table.rows, holds row = true → holds' row = true) :
    table.All holds' :=
  fun row member => weaker row member (all row member)

/-- Retaining by a condition leaves the rows that meet it. -/
theorem all_retain (table : Table ρ) (kept : ρ → Bool) :
    (table.retain kept).All kept := by
  intro row member
  exact (mem_retain.mp member).2

theorem All.retain {table : Table ρ} {holds : ρ → Bool} (all : table.All holds)
    (kept : ρ → Bool) : (table.retain kept).All holds := by
  intro row member
  exact all row (mem_retain.mp member).1

theorem All.update {table : Table ρ} {holds holds' : ρ → Bool} {change : ρ → ρ}
    (all : table.All holds)
    (carried : ∀ row ∈ table.rows, holds row = true → holds' (change row) = true)
    (keeps : ∀ row, key (change row) = key row := by intro _; rfl) :
    (table.update change keeps).All holds' := by
  intro row member
  obtain ⟨old, oldMember, rfl⟩ := mem_update.mp member
  exact carried old oldMember (all old oldMember)

theorem All.modify [DecidableEq κ] {table : Table ρ} {holds holds' : ρ → Bool} {target : κ}
    {change : ρ → ρ} (all : table.All holds)
    (changed : ∀ row ∈ table.rows, key row = target → holds row = true →
      holds' (change row) = true)
    (other : ∀ row ∈ table.rows, holds row = true → holds' row = true)
    (keeps : ∀ row, key (change row) = key row := by intro _; rfl) :
    (table.modify target change keeps).All holds' := by
  refine all.update ?_ _
  intro row member held
  split
  · next same => exact changed row member same held
  · exact other row member held

theorem UniqueOn.insert_iff [DecidableEq κ] {table : Table ρ} {column : ρ → Option γ}
    (unique : table.UniqueOn column) {row : ρ} {value : γ}
    (fresh : table.get? (key row) = none) (indexed : column row = some value) :
    (table.insert row).UniqueOn column ↔ ∀ other ∈ table.rows, column other ≠ some value := by
  unfold UniqueOn
  rw [rows_insert fresh, List.filterMap_append, List.nodup_append]
  simp only [List.filterMap_cons, indexed, List.filterMap_nil, List.nodup_singleton, true_and,
    List.mem_singleton, forall_eq, List.mem_filterMap, forall_exists_index, and_imp]
  constructor
  · intro ⟨_, different⟩ other member same
    exact different value other member same rfl
  · intro different
    refine ⟨unique, ?_⟩
    intro left other member same equal
    rw [equal] at same
    exact different other member same

theorem UniqueOn.retain {table : Table ρ} {column : ρ → Option γ}
    (unique : table.UniqueOn column) (kept : ρ → Bool) :
    (table.retain kept).UniqueOn column :=
  (List.filter_sublist.filterMap column).nodup unique

theorem UniqueOn.update {table : Table ρ} {column : ρ → Option γ} {change : ρ → ρ}
    (unique : table.UniqueOn column) (same : ∀ row, column (change row) = column row)
    (keeps : ∀ row, key (change row) = key row := by intro _; rfl) :
    (table.update change keeps).UniqueOn column := by
  have columns : (table.rows.map change).filterMap column = table.rows.filterMap column := by
    rw [List.filterMap_map]
    exact List.filterMap_congr (fun row _ => same row)
  show ((table.rows.map change).filterMap column).Nodup
  rw [columns]
  exact unique

theorem UniqueOn.modify [DecidableEq κ] {table : Table ρ} {column : ρ → Option γ} {target : κ}
    {change : ρ → ρ} (unique : table.UniqueOn column)
    (same : ∀ row, column (change row) = column row)
    (keeps : ∀ row, key (change row) = key row := by intro _; rfl) :
    (table.modify target change keeps).UniqueOn column := by
  refine unique.update ?_ (by
    intro row
    split
    · exact keeps row
    · rfl)
  intro row
  split
  · exact same row
  · rfl

theorem UniqueOn.eq_of_mem {table : Table ρ} {column : ρ → Option γ}
    (unique : table.UniqueOn column) {left right : ρ} {value : γ}
    (leftMember : left ∈ table.rows) (rightMember : right ∈ table.rows)
    (leftValue : column left = some value) (rightValue : column right = some value) :
    left = right := by
  have general : ∀ rows : List ρ, (rows.filterMap column).Nodup →
      left ∈ rows → right ∈ rows → left = right := by
    intro rows
    induction rows with
    | nil =>
        intro _ member
        cases member
    | cons head tail induction =>
        intro nodup leftIn rightIn
        have tailNodup : (tail.filterMap column).Nodup :=
          ((List.sublist_cons_self head tail).filterMap column).nodup nodup
        have headFresh : ∀ row ∈ tail, column head = some value →
            column row = some value → False := by
          intro row member headValue rowValue
          rw [List.filterMap_cons, headValue] at nodup
          apply (List.nodup_cons.mp nodup).1
          exact List.mem_filterMap.mpr ⟨row, member, rowValue⟩
        rcases List.mem_cons.mp leftIn with leftHead | leftTail
        · rcases List.mem_cons.mp rightIn with rightHead | rightTail
          · rw [leftHead, rightHead]
          · subst leftHead
            exact (headFresh right rightTail leftValue rightValue).elim
        · rcases List.mem_cons.mp rightIn with rightHead | rightTail
          · subst rightHead
            exact (headFresh left leftTail rightValue leftValue).elim
          · exact induction tailNodup leftTail rightTail
  exact general table.rows unique leftMember rightMember

end Table

end Relational
