import Mathlib.Data.List.Perm.Basic
import Mathlib.Data.List.Dedup
import EidolonData.Library.Table

/-!
# Ledgers

What is held before a step and what the step brings in is what it gives up
and what is held after it, each as often as before.  The account is a
permutation of lists, so it adds up along a run and over the parts of a state.
-/

namespace Relational

variable {α : Type u}

/-- The step from one holding to another brings some in and gives some up. -/
def Conserves (held held' brought given : List α) : Prop :=
  (held ++ brought).Perm (given ++ held')

namespace Conserves

variable {held held' held'' brought brought' given given' other other' : List α}

theorem refl (held : List α) : Conserves held held [] [] := by
  rw [Conserves, List.append_nil, List.nil_append]

theorem of_perm (same : held.Perm held') : Conserves held held' [] [] := by
  rw [Conserves, List.append_nil, List.nil_append]
  exact same

theorem trans (first : Conserves held held' brought given)
    (second : Conserves held' held'' brought' given') :
    Conserves held held'' (brought ++ brought') (given ++ given') := by
  calc held ++ (brought ++ brought')
      = (held ++ brought) ++ brought' := (List.append_assoc _ _ _).symm
    _ |>.Perm ((given ++ held') ++ brought') := first.append_right brought'
    _ = given ++ (held' ++ brought') := List.append_assoc _ _ _
    _ |>.Perm (given ++ (given' ++ held'')) := second.append_left given
    _ = (given ++ given') ++ held'' := (List.append_assoc _ _ _).symm

theorem reorder (conserves : Conserves held held' brought given) (bring : brought.Perm brought')
    (give : given.Perm given') : Conserves held held' brought' given' :=
  ((bring.symm.append_left held).trans conserves).trans (give.append_right held')

/-- Two parts of a state keep their accounts apart. -/
theorem append (one : Conserves held held' brought given)
    (two : Conserves other other' brought' given') :
    Conserves (held ++ other) (held' ++ other') (brought ++ brought') (given ++ given') := by
  have swap : ∀ a b c d : List α, ((a ++ b) ++ (c ++ d)).Perm ((a ++ c) ++ (b ++ d)) := by
    intro a b c d
    rw [List.append_assoc, List.append_assoc, ← List.append_assoc b, ← List.append_assoc c]
    exact (List.perm_append_comm.append_right d).append_left a
  exact ((swap _ _ _ _).trans (List.Perm.append one two)).trans (swap _ _ _ _)

theorem cancel {both : List α}
    (conserves : Conserves held held' (both ++ brought) (both ++ given)) :
    Conserves held held' brought given := by
  have front : (both ++ (held ++ brought)).Perm (both ++ (given ++ held')) := by
    calc both ++ (held ++ brought)
        = (both ++ held) ++ brought := (List.append_assoc _ _ _).symm
      _ |>.Perm ((held ++ both) ++ brought) := List.perm_append_comm.append_right brought
      _ = held ++ (both ++ brought) := List.append_assoc _ _ _
      _ |>.Perm ((both ++ given) ++ held') := conserves
      _ = both ++ (given ++ held') := List.append_assoc _ _ _
  exact (List.perm_append_left_iff both).mp front

theorem disjoint (conserves : Conserves held held' brought given)
    (once : (held ++ brought).Nodup) : given.Disjoint held' :=
  List.disjoint_of_nodup_append (conserves.nodup_iff.mp once)

end Conserves

section Runs

variable {σ κ : Type*}

/-- The amounts of the steps of a run, one after another. -/
def along (step : σ → κ → σ) (amount : σ → κ → List α) : List κ → σ → List α
  | [], _ => []
  | call :: calls, state => amount state call ++ along step amount calls (step state call)

theorem along_append (step : σ → κ → σ) (first second : σ → κ → List α) (calls : List κ)
    (state : σ) :
    (along step (fun state call => first state call ++ second state call) calls state).Perm
      (along step first calls state ++ along step second calls state) := by
  induction calls generalizing state with
  | nil => exact List.Perm.refl _
  | cons call calls induction =>
      have rest := (induction (step state call)).append_left (first state call ++ second state call)
      refine rest.trans ?_
      simp only [along, List.append_assoc]
      refine List.Perm.append_left _ ?_
      rw [← List.append_assoc, ← List.append_assoc]
      exact List.perm_append_comm.append_right _

/-- Nothing is added up where no step adds anything. -/
theorem along_eq_nil {step : σ → κ → σ} {amount : σ → κ → List α} {calls : List κ} {state : σ}
    (none : ∀ earlier call later, calls = earlier ++ call :: later →
      amount (earlier.foldl step state) call = []) : along step amount calls state = [] := by
  induction calls generalizing state with
  | nil => rfl
  | cons call calls induction =>
      have first : amount state call = [] := none [] call calls rfl
      rw [along, first, List.nil_append]
      apply induction
      rintro earlier other later rfl
      exact none (call :: earlier) other later rfl

/-- A run whose steps keep their accounts keeps the sum of them. -/
theorem Conserves.run {step : σ → κ → σ} {holds : σ → List α} {bring give : σ → κ → List α}
    {inv : σ → Prop} (kept : ∀ state call, inv state → inv (step state call))
    (conserves : ∀ state call, inv state →
      Conserves (holds state) (holds (step state call)) (bring state call) (give state call))
    (calls : List κ) (state : σ) (sound : inv state) :
    Conserves (holds state) (holds (calls.foldl step state)) (along step bring calls state)
      (along step give calls state) := by
  induction calls generalizing state with
  | nil => exact .refl (holds state)
  | cons call calls induction =>
      exact (conserves state call sound).trans
        (induction (step state call) (kept state call sound))

end Runs

namespace Table

variable {ρ : Type u} {κ : Type v} [HasKey ρ κ] [DecidableEq κ] {table table' : Table ρ} {row : ρ}
  {γ : Type*}

omit [DecidableEq κ] in
theorem nodup_rows (table : Table ρ) : table.rows.Nodup :=
  table.unique.of_map key

theorem rows_perm_retain (table : Table ρ) (k : κ) :
    table.rows.Perm ((table.get? k).toList ++ (table.retain (fun row => key row ≠ k)).rows) := by
  have apart : ((table.get? k).toList ++
      (table.retain (fun row => key row ≠ k)).rows).Nodup := by
    rw [List.nodup_append]
    refine ⟨?_, nodup_rows _, ?_⟩
    · cases table.get? k with
      | none => exact List.nodup_nil
      | some row => exact List.nodup_singleton row
    · rintro left leftMember right rightMember rfl
      have found := Option.mem_toList.mp leftMember
      have keyed := key_of_get? found
      have other := (mem_retain.mp rightMember).2
      simp [keyed] at other
  rw [List.perm_ext_iff_of_nodup table.nodup_rows apart]
  intro row
  rw [List.mem_append, Option.mem_toList, mem_retain]
  constructor
  · intro member
    by_cases same : key row = k
    · left
      rw [← same]
      exact (mem_rows_iff table row).mp member
    · exact Or.inr ⟨member, decide_eq_true same⟩
  · rintro (found | ⟨member, -⟩)
    · exact mem_of_get? found
    · exact member

theorem Stores.rows_perm (stores : Stores table table' row) :
    table'.rows.Perm (row :: (table.retain (fun other => key other ≠ key row)).rows) := by
  have split := rows_perm_retain table' (key row)
  rw [stores.self, Option.toList_some, List.singleton_append] at split
  refine split.trans (List.Perm.cons row ?_)
  rw [List.perm_ext_iff_of_nodup (nodup_rows _) (nodup_rows _)]
  intro other
  rw [mem_rows_iff, mem_rows_iff, get?_retain, get?_retain]
  by_cases same : key other = key row
  · rw [Option.filter_eq_some_iff, Option.filter_eq_some_iff]
    simp [same]
  · rw [stores.other same]

omit [DecidableEq κ] in
/-- A removal gives up what the removed rows carry. -/
theorem conserves_retain (table : Table ρ) (kept : ρ → Bool) (carries : ρ → List γ) :
    Conserves (table.rows.flatMap carries) ((table.retain kept).rows.flatMap carries) []
      ((table.select (fun row => !kept row)).flatMap carries) := by
  rw [Conserves, List.append_nil, ← List.flatMap_append]
  have split : (table.rows.filter (fun row => !kept row) ++ table.rows.filter kept).Perm
      table.rows :=
    List.perm_append_comm.trans (List.filter_append_perm kept table.rows)
  exact split.symm.flatMap_right carries

theorem Stores.conserves (stores : Stores table table' row) (carries : ρ → List γ) :
    Conserves (table.rows.flatMap carries) (table'.rows.flatMap carries) (carries row)
      ((table.get? (key row)).toList.flatMap carries) := by
  have before := (rows_perm_retain table (key row)).flatMap_right carries
  have after := stores.rows_perm.flatMap_right carries
  rw [List.flatMap_append] at before
  rw [List.flatMap_cons] at after
  rw [Conserves]
  refine (before.append_right (carries row)).trans ?_
  rw [List.append_assoc]
  exact (List.perm_append_comm.trans after.symm).append_left _

theorem conserves_delete (table : Table ρ) (k : κ) (carries : ρ → List γ) :
    Conserves (table.rows.flatMap carries)
      ((table.retain (fun row => key row ≠ k)).rows.flatMap carries) []
      ((table.get? k).toList.flatMap carries) := by
  rw [Conserves, List.append_nil, ← List.flatMap_append]
  exact (rows_perm_retain table k).flatMap_right carries

theorem conserves_insert (fresh : table.get? (key row) = none) (carries : ρ → List γ) :
    Conserves (table.rows.flatMap carries) ((table.insert row).rows.flatMap carries) (carries row)
      [] := by
  have stored := (stores_insert fresh).conserves carries
  rw [fresh] at stored
  exact stored

omit [DecidableEq κ] in
theorem flatMap_update (table : Table ρ) (change : ρ → ρ)
    (keeps : ∀ row, key (change row) = key row) (carries : ρ → List γ)
    (same : ∀ row, carries (change row) = carries row) :
    (table.update change keeps).rows.flatMap carries = table.rows.flatMap carries := by
  show (table.rows.map change).flatMap carries = _
  rw [List.flatMap_map]
  exact List.flatMap_congr (fun row _ => same row)

theorem flatMap_modify (table : Table ρ) (k : κ) (change : ρ → ρ)
    (keeps : ∀ row, key (change row) = key row) (carries : ρ → List γ)
    (same : ∀ row, carries (change row) = carries row) :
    (table.modify k change keeps).rows.flatMap carries = table.rows.flatMap carries := by
  apply flatMap_update
  intro row
  split
  · exact same row
  · rfl

end Table

end Relational
