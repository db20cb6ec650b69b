import Mathlib.Data.List.Sort
import Mathlib.Order.Defs.LinearOrder

/-!
# Ordered queries

`ORDER BY` as a stable sort by one column: rows that agree on the column stay
in the order they were stored in.  Ordering by several columns is ordering by
the last one first.
-/

namespace Relational

variable {ρ δ γ : Type} [LinearOrder γ]

def orderBy (column : ρ → γ) (rows : List ρ) : List ρ :=
  rows.insertionSort (fun left right => column left ≤ column right)

variable {column : ρ → γ} {rows : List ρ}

@[simp] theorem orderBy_nil (column : ρ → γ) : orderBy column ([] : List ρ) = [] := rfl

theorem orderBy_perm (column : ρ → γ) (rows : List ρ) : (orderBy column rows).Perm rows :=
  List.perm_insertionSort _ rows

@[simp] theorem mem_orderBy {row : ρ} : row ∈ orderBy column rows ↔ row ∈ rows :=
  (orderBy_perm column rows).mem_iff

@[simp] theorem orderBy_eq_nil : orderBy column rows = [] ↔ rows = [] := by
  constructor
  · intro empty
    have permuted := orderBy_perm column rows
    rw [empty] at permuted
    exact permuted.symm.eq_nil
  · rintro rfl
    rfl

theorem orderBy_pairwise (column : ρ → γ) (rows : List ρ) :
    (orderBy column rows).Pairwise (fun left right => column left ≤ column right) := by
  have total : Std.Total (fun left right : ρ => column left ≤ column right) :=
    ⟨fun left right => le_total (column left) (column right)⟩
  have transitive : IsTrans ρ (fun left right => column left ≤ column right) :=
    ⟨fun _ _ _ => le_trans⟩
  exact List.pairwise_insertionSort _ rows

theorem first_of_orderBy {row : ρ} (first : (orderBy column rows).head? = some row) :
    row ∈ rows ∧ ∀ other ∈ rows, column row ≤ column other := by
  have ordered := orderBy_pairwise column rows
  obtain ⟨rest, split⟩ := List.head?_eq_some_iff.mp first
  rw [split] at ordered
  refine ⟨mem_orderBy.mp (split ▸ List.mem_cons_self), ?_⟩
  intro other member
  have inOrder : other ∈ orderBy column rows := mem_orderBy.mpr member
  rw [split] at inOrder
  rcases List.mem_cons.mp inOrder with rfl | behind
  · exact le_refl _
  · exact (List.pairwise_cons.mp ordered).1 other behind

theorem orderBy_eq_self
    (sorted : rows.Pairwise (fun left right => column left ≤ column right)) :
    orderBy column rows = rows :=
  sorted.insertionSort_eq

theorem orderBy_map (column : δ → γ) (load : ρ → δ) (rows : List ρ) :
    orderBy column (rows.map load) = (orderBy (fun row => column (load row)) rows).map load :=
  (List.map_insertionSort _ _ load rows (fun _ _ _ _ => Iff.rfl)).symm

theorem filter_orderedInsert (kept : ρ → Bool) (row : ρ)
    (sorted : rows.Pairwise (fun left right => column left ≤ column right)) :
    (rows.orderedInsert (fun left right => column left ≤ column right) row).filter kept =
      if kept row then
        (rows.filter kept).orderedInsert (fun left right => column left ≤ column right) row
      else rows.filter kept := by
  induction rows with
  | nil =>
      cases decision : kept row with
      | true => simp [decision]
      | false => simp [decision]
  | cons head tail induction =>
      obtain ⟨headFirst, tailSorted⟩ := List.pairwise_cons.mp sorted
      have inserted := induction tailSorted
      by_cases before : column row ≤ column head
      · rw [List.orderedInsert_cons, if_pos before]
        cases decision : kept row with
        | false => simp [List.filter_cons, decision]
        | true =>
            rw [List.filter_cons_of_pos (by simp [decision]), if_pos rfl]
            -- The row stands before everything that is left of the tail.
            have first : ∀ other ∈ (head :: tail).filter kept, column row ≤ column other := by
              intro other member
              rcases List.mem_cons.mp (List.mem_of_mem_filter member) with rfl | inTail
              · exact before
              · exact le_trans before (headFirst other inTail)
            cases rest : (head :: tail).filter kept with
            | nil => rfl
            | cons next others =>
                rw [rest] at first
                rw [List.orderedInsert_cons, if_pos (first next List.mem_cons_self)]
      · rw [List.orderedInsert_cons, if_neg before]
        cases keptHead : kept head with
        | false =>
            rw [List.filter_cons_of_neg (by simp [keptHead]), inserted,
              List.filter_cons_of_neg (by simp [keptHead])]
        | true =>
            rw [List.filter_cons_of_pos (by simp [keptHead]), inserted,
              List.filter_cons_of_pos (by simp [keptHead])]
            cases decision : kept row with
            | false => rfl
            | true =>
                rw [if_pos rfl, if_pos rfl, List.orderedInsert_cons, if_neg before]

theorem filter_orderBy (column : ρ → γ) (kept : ρ → Bool) (rows : List ρ) :
    (orderBy column rows).filter kept = orderBy column (rows.filter kept) := by
  induction rows with
  | nil => rfl
  | cons row rows induction =>
      have inserted := filter_orderedInsert kept row (orderBy_pairwise column rows)
      have unfolded : orderBy column (row :: rows) =
          (orderBy column rows).orderedInsert (fun left right => column left ≤ column right) row :=
        rfl
      rw [unfolded, inserted, induction]
      cases decision : kept row with
      | false => rw [List.filter_cons_of_neg (by simp [decision]), if_neg (by simp)]
      | true =>
          rw [List.filter_cons_of_pos (by simp [decision]), if_pos rfl]
          rfl

theorem orderBy_unique {ordered : List ρ} (permuted : ordered.Perm rows)
    (sorted : ordered.Pairwise (fun left right => column left ≤ column right))
    (distinct : (rows.map column).Nodup) : ordered = orderBy column rows := by
  have same := permuted.trans (orderBy_perm column rows).symm
  refine List.Perm.eq_of_pairwise ?_ sorted (orderBy_pairwise column rows) same
  intro left right leftMember rightMember below above
  exact List.inj_on_of_nodup_map distinct (permuted.mem_iff.mp leftMember)
    (mem_orderBy.mp rightMember) (le_antisymm below above)

/-- `ORDER BY ... DESC` of rows the column tells apart. -/
theorem reverse_orderBy (distinct : (rows.map column).Nodup) :
    (orderBy column rows).reverse = orderBy (fun row => OrderDual.toDual (column row)) rows := by
  refine orderBy_unique ((List.reverse_perm _).trans (orderBy_perm column rows)) ?_ ?_
  · exact List.pairwise_reverse.mpr (orderBy_pairwise column rows)
  · have dual := distinct.map OrderDual.toDual.injective
    rwa [List.map_map] at dual

omit [LinearOrder γ] in
theorem nodup_map_filterMap {column' : δ → γ} {join : ρ → Option δ}
    (same : ∀ row other, join row = some other → column' other = column row)
    (distinct : (rows.map column).Nodup) : ((rows.filterMap join).map column').Nodup := by
  refine List.pairwise_map.mpr (List.Pairwise.filterMap join ?_ (List.pairwise_map.mp distinct))
  intro left right apart joined isJoined other isOther equal
  rw [same left joined isJoined, same right other isOther] at equal
  exact apart equal

theorem filterMap_orderBy {column' : δ → γ} {join : ρ → Option δ}
    (same : ∀ row other, join row = some other → column' other = column row)
    (distinct : (rows.map column).Nodup) :
    (orderBy column rows).filterMap join = orderBy column' (rows.filterMap join) := by
  refine orderBy_unique ((orderBy_perm column rows).filterMap join) ?_
    (nodup_map_filterMap same distinct)
  refine List.Pairwise.filterMap join ?_ (orderBy_pairwise column rows)
  intro left right below joined isJoined other isOther
  rw [same left joined isJoined, same right other isOther]
  exact below

/-- The place a counter gives to the next row: one after the highest, or the
first. -/
def nextAfter (positions : List Int) : Int :=
  match positions.max? with
  | none => 0
  | some highest => highest + 1

theorem lt_nextAfter {positions : List Int} {position : Int} (member : position ∈ positions) :
    position < nextAfter positions := by
  unfold nextAfter
  cases highest : positions.max? with
  | none =>
      rw [List.max?_eq_none_iff] at highest
      rw [highest] at member
      cases member
  | some top =>
      have bounded := (List.max?_eq_some_iff.mp highest).2 position member
      show position < top + 1
      omega

/-- A row after the others in a column stands in order behind them. -/
theorem pairwise_append_next {place : ρ → Int} {row : ρ}
    (sorted : rows.Pairwise (fun left right => place left < place right))
    (next : place row = nextAfter (rows.map place)) :
    (rows ++ [row]).Pairwise (fun left right => place left < place right) := by
  rw [List.pairwise_append]
  refine ⟨sorted, List.pairwise_singleton _ _, ?_⟩
  intro left member right rightMember
  rw [List.mem_singleton.mp rightMember, next]
  exact lt_nextAfter (List.mem_map_of_mem member)

/-- Rewriting rows in their places keeps them in order. -/
theorem pairwise_map_of_same {place : ρ → Int} {change : ρ → ρ}
    (sorted : rows.Pairwise (fun left right => place left < place right))
    (same : ∀ row, place (change row) = place row) :
    (rows.map change).Pairwise (fun left right => place left < place right) := by
  rw [List.pairwise_map]
  simp only [same]
  exact sorted

/-- Rows numbered along a sequence are in order. -/
theorem pairwise_zipIdx {α : Type} {place : ρ → Int} {number : α × Nat → ρ}
    (placed : ∀ item, place (number item) = item.2) (items : List α) :
    (items.zipIdx.map number).Pairwise (fun left right => place left < place right) := by
  rw [List.pairwise_map, List.pairwise_iff_getElem]
  intro i j iBound jBound earlier
  simp only [placed, List.getElem_zipIdx]
  omega

theorem map_zipIdx {α : Type} {load : ρ → α} {number : α × Nat → ρ} {items : List α}
    (loads : ∀ item ∈ items, ∀ index, load (number (item, index)) = item) :
    (items.zipIdx.map number).map load = items := by
  rw [List.map_map]
  conv => rhs; rw [← List.zipIdx_map_fst 0 items]
  apply List.map_congr_left
  rintro ⟨item, index⟩ member
  have inItems : item ∈ items := by
    have first := List.mem_map_of_mem (f := Prod.fst) member
    rw [List.zipIdx_map_fst] at first
    exact first
  exact loads item inItems index

end Relational
