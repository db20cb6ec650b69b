import Mathlib.Data.List.Nodup

/-!
# Sequences of keyed items

Replacing an item in place, removing it and setting it, by its key.  Each of
them leaves every other item as it was, and in its order.
-/

namespace Relational

variable {α κ : Type} [DecidableEq κ] (key : α → κ)

def inPlace (item : α) (items : List α) : List α :=
  items.map (fun existing => if key existing = key item then item else existing)

def without (target : κ) (items : List α) : List α :=
  items.filter (fun existing => key existing ≠ target)

/-- In place of the item with its key, or behind the others. -/
def setItem (item : α) (items : List α) : List α :=
  if key item ∈ items.map key then inPlace key item items else items ++ [item]

variable {key} {item : α} {items : List α} {target : κ}

theorem without_of_notMem (absent : target ∉ items.map key) : without key target items = items := by
  apply List.filter_eq_self.mpr
  intro existing member
  rw [decide_eq_true_eq]
  intro same
  exact absent (List.mem_map.mpr ⟨existing, member, same⟩)

theorem without_append (items : List α) (item : α) :
    without key (key item) (items ++ [item]) = without key (key item) items := by
  simp [without]

theorem without_inPlace (items : List α) (item : α) :
    without key (key item) (inPlace key item items) = without key (key item) items := by
  induction items with
  | nil => rfl
  | cons head tail induction =>
      simp only [without, inPlace, List.map_cons] at induction ⊢
      by_cases same : key head = key item
      · rw [if_pos same, List.filter_cons_of_neg (by simp),
          List.filter_cons_of_neg (by simp [same])]
        exact induction
      · rw [if_neg same, List.filter_cons_of_pos (by simp [same]),
          List.filter_cons_of_pos (by simp [same]), induction]

theorem without_without (target : κ) (items : List α) :
    without key target (without key target items) = without key target items := by
  simp [without]

theorem without_setItem (items : List α) (item : α) :
    without key (key item) (setItem key item items) = without key (key item) items := by
  unfold setItem
  split
  · exact without_inPlace items item
  · exact without_append items item

/-- Setting an item and moving it behind the others differ in the order only. -/
theorem setItem_perm (unique : (items.map key).Nodup) (item : α) :
    (setItem key item items).Perm (without key (key item) items ++ [item]) := by
  unfold setItem
  split
  · next taken =>
      induction items with
      | nil => cases taken
      | cons head tail induction =>
          rw [List.map_cons, List.nodup_cons] at unique
          by_cases same : key head = key item
          · have absent : key item ∉ tail.map key := by
              rw [← same]
              exact unique.1
            have kept : inPlace key item tail = tail := by
              conv => rhs; rw [← List.map_id tail]
              apply List.map_congr_left
              intro existing member
              rw [if_neg]
              · rfl
              · intro equal
                exact absent (List.mem_map.mpr ⟨existing, member, equal⟩)
            have left : inPlace key item (head :: tail) = item :: tail := by
              rw [inPlace, List.map_cons, if_pos same]
              exact congrArg _ kept
            have right : without key (key item) (head :: tail) = tail := by
              rw [without, List.filter_cons_of_neg (by simp [same])]
              exact without_of_notMem absent
            rw [left, right]
            exact (List.perm_append_singleton item tail).symm
          · have inTail : key item ∈ tail.map key := by
              rcases List.mem_cons.mp taken with head' | later
              · exact absurd head'.symm same
              · exact later
            have left : inPlace key item (head :: tail) = head :: inPlace key item tail := by
              rw [inPlace, List.map_cons, if_neg same]
              rfl
            have right : without key (key item) (head :: tail) =
                head :: without key (key item) tail := by
              rw [without, List.filter_cons_of_pos (by simp [same])]
              rfl
            rw [left, right]
            exact (induction unique.2 inTail).cons head
  · next free => rw [without_of_notMem free]

theorem find?_of_mem (unique : (items.map key).Nodup) (member : item ∈ items) :
    items.find? (fun existing => key existing = key item) = some item := by
  cases found : items.find? (fun existing => key existing = key item) with
  | none =>
      have absent := List.find?_eq_none.mp found item member
      simp at absent
  | some other =>
      have otherMember := List.mem_of_find?_eq_some found
      have otherKey : key other = key item := by simpa using List.find?_some found
      rw [List.inj_on_of_nodup_map unique otherMember member otherKey]

section Stored

variable {ρ : Type} {rows : List ρ} {id : ρ → κ} {load load' : ρ → α}

/-- Rewriting the row of an item in place replaces the item, when the other
rows are loaded as before. -/
theorem map_inPlace {change : ρ → ρ} (ids : ∀ row, key (load row) = id row)
    (assigned : ∀ row, id row = key item → load' (change row) = item)
    (others : ∀ row, id row ≠ key item → load' row = load row) :
    (rows.map (fun row => if id row = key item then change row else row)).map load' =
      inPlace key item (rows.map load) := by
  rw [inPlace, List.map_map, List.map_map]
  apply List.map_congr_left
  intro row _
  simp only [Function.comp_apply, ids]
  by_cases same : id row = key item
  · rw [if_pos same, if_pos same, assigned row same]
  · rw [if_neg same, if_neg same, others row same]

/-- Removing the row of an item removes the item. -/
theorem map_without (ids : ∀ row, key (load row) = id row)
    (others : ∀ row, id row ≠ target → load' row = load row) :
    (rows.filter (fun row => id row ≠ target)).map load' = without key target (rows.map load) := by
  rw [without, List.filter_map]
  have sameRows : (fun existing => decide (key existing ≠ target)) ∘ load =
      fun row => decide (id row ≠ target) := by
    funext row
    simp only [Function.comp_apply, ids]
  rw [sameRows]
  apply List.map_congr_left
  intro row member
  have kept := List.of_mem_filter member
  simp only [ne_eq, decide_not, Bool.not_eq_true', decide_eq_false_iff_not] at kept
  exact others row kept

end Stored

end Relational
