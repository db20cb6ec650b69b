import EidolonData.Library.Keyed
import EidolonData.Library.Ordering

/-!
# Editing before and after an ordering

An item put behind an ordered sequence, or in the place of another, stands
where the ordering would put it exactly when its column allows.
-/

namespace Relational

section Behind

variable {ρ γ : Type} [LinearOrder γ] {column : ρ → γ} {row : ρ}

theorem orderedInsert_append {head : ρ} {rows : List ρ} (last : column head ≤ column row) :
    (rows ++ [row]).orderedInsert (fun left right => column left ≤ column right) head =
      rows.orderedInsert (fun left right => column left ≤ column right) head ++ [row] := by
  induction rows with
  | nil => simp [last]
  | cons next rows induction =>
      by_cases before : column head ≤ column next
      · simp [before]
      · simp [before, induction]

theorem orderBy_append {rows : List ρ} (last : ∀ other ∈ rows, column other ≤ column row) :
    orderBy column (rows ++ [row]) = orderBy column rows ++ [row] := by
  induction rows with
  | nil => rfl
  | cons head rows induction =>
      obtain ⟨headFirst, restFirst⟩ := List.forall_mem_cons.mp last
      have inner := induction restFirst
      calc orderBy column (head :: rows ++ [row])
          = (orderBy column (rows ++ [row])).orderedInsert
              (fun left right => column left ≤ column right) head := rfl
        _ = (orderBy column rows ++ [row]).orderedInsert
              (fun left right => column left ≤ column right) head := by rw [inner]
        _ = orderBy column (head :: rows) ++ [row] := orderedInsert_append headFirst

theorem orderBy_append_iff {rows : List ρ} :
    orderBy column rows ++ [row] = orderBy column (rows ++ [row]) ↔
      ∀ other ∈ rows, column other ≤ column row := by
  constructor
  · intro same other member
    have sorted := orderBy_pairwise column (rows ++ [row])
    rw [← same, List.pairwise_append] at sorted
    exact sorted.2.2 other (mem_orderBy.mpr member) row (List.mem_singleton.mpr rfl)
  · intro last
    exact (orderBy_append last).symm

end Behind

section Between

variable {ρ γ : Type} [LinearOrder γ] {column : ρ → γ} {row : ρ}
  {before after first second : List ρ}

/-- What stands before a row that occurs once. -/
theorem mem_of_sublist_left {other : ρ} (firstFree : row ∉ first) (secondFree : row ∉ second)
    (within : [other, row].Sublist (first ++ row :: second)) : other ∈ first := by
  obtain ⟨left, right, split, inFirst, inRest⟩ := List.sublist_append_iff.mp within
  match left, split with
  | [], split =>
      rw [List.nil_append] at split
      subst split
      cases inRest with
      | cons _ later => exact absurd (later.subset (by simp)) secondFree
      | cons_cons _ later => exact absurd (later.subset (by simp)) secondFree
  | [_], split =>
      cases split
      exact inFirst.subset List.mem_cons_self
  | _ :: _ :: _, split =>
      obtain ⟨-, rest⟩ := List.cons.inj split
      obtain ⟨same, -⟩ := List.cons.inj rest
      exact absurd (inFirst.subset (by simp [same])) firstFree

/-- What stands behind a row that occurs once. -/
theorem mem_of_sublist_right {other : ρ} (firstFree : row ∉ first)
    (within : [row, other].Sublist (first ++ row :: second)) : other ∈ second := by
  obtain ⟨left, right, split, inFirst, inRest⟩ := List.sublist_append_iff.mp within
  match left, split with
  | [], split =>
      rw [List.nil_append] at split
      subst split
      cases inRest with
      | cons _ later => exact later.subset (by simp)
      | cons_cons _ later => exact later.subset (by simp)
  | _ :: _, split =>
      obtain ⟨same, -⟩ := List.cons.inj split
      exact absurd (inFirst.subset (by simp [same])) firstFree

/-- Where a row stands in the ordering: behind those stored before it that
its column does not exceed, and those stored after it with a lesser one. -/
theorem mem_first_iff (ordered : orderBy column (before ++ row :: after) = first ++ row :: second)
    (unique : (before ++ row :: after).Nodup) :
    (∀ other ∈ before, (other ∈ first ↔ column other ≤ column row)) ∧
      ∀ other ∈ after, (other ∈ first ↔ column other < column row) := by
  have permuted := orderBy_perm column (before ++ row :: after)
  rw [ordered] at permuted
  have distinct : (first ++ row :: second).Nodup := permuted.nodup_iff.mpr unique
  have sorted := orderBy_pairwise column (before ++ row :: after)
  rw [ordered, List.pairwise_append, List.pairwise_cons] at sorted
  obtain ⟨-, ⟨secondAbove, -⟩, firstBelow⟩ := sorted
  have divided : ∀ other, other ≠ row → other ∈ before ++ row :: after →
      other ∈ first ∨ other ∈ second := by
    intro other different member
    rcases List.mem_append.mp (permuted.mem_iff.mpr member) with inFirst | rest
    · exact Or.inl inFirst
    · rcases List.mem_cons.mp rest with same | inSecond
      · exact absurd same different
      · exact Or.inr inSecond
  have stable : ∀ {left right : ρ}, column left ≤ column right →
      [left, right].Sublist (before ++ row :: after) →
        [left, right].Sublist (first ++ row :: second) := by
    intro left right below within
    have total : Std.Total (fun left right : ρ => column left ≤ column right) :=
      ⟨fun left right => le_total (column left) (column right)⟩
    have transitive : IsTrans ρ (fun left right => column left ≤ column right) :=
      ⟨fun _ _ _ => le_trans⟩
    rw [← ordered]
    exact List.pair_sublist_insertionSort (r := fun left right => column left ≤ column right)
      below within
  obtain ⟨-, rowOnce, firstApart⟩ := List.nodup_append.mp distinct
  obtain ⟨secondFree, -⟩ := List.nodup_cons.mp rowOnce
  have firstFree : row ∉ first := fun member =>
    firstApart row member row List.mem_cons_self rfl
  have apart : ∀ other, other ∈ first → other ∉ second := fun other inFirst inSecond =>
    firstApart other inFirst other (List.mem_cons_of_mem _ inSecond) rfl
  obtain ⟨-, storedOnce, beforeApart⟩ := List.nodup_append.mp unique
  obtain ⟨afterFree, -⟩ := List.nodup_cons.mp storedOnce
  constructor
  · intro other member
    constructor
    · intro inFirst
      exact firstBelow other inFirst row List.mem_cons_self
    · intro below
      refine mem_of_sublist_left firstFree secondFree (stable below ?_)
      exact (List.singleton_sublist.mpr member).append (List.singleton_sublist.mpr (by simp))
  · intro other member
    have different : other ≠ row := by
      rintro rfl
      exact afterFree member
    constructor
    · intro inFirst
      by_contra above
      have inSecond := mem_of_sublist_right firstFree (stable (le_of_not_gt above)
        (((List.singleton_sublist.mpr member).cons_cons row).trans
          (List.sublist_append_right before _)))
      exact apart other inFirst inSecond
    · intro below
      rcases divided other different (by simp [member]) with inFirst | inSecond
      · exact inFirst
      · exact absurd below (not_lt_of_ge (secondAbove other inSecond))

end Between

section Replaced

variable {α κ γ : Type} [DecidableEq κ] [LinearOrder γ] {key : α → κ} {column : α → γ}
  {item old : α} {items before after : List α}

theorem inPlace_append (same : key old = key item)
    (unique : ((before ++ old :: after).map key).Nodup) :
    inPlace key item (before ++ old :: after) = before ++ item :: after := by
  have fixed : ∀ rest : List α, (∀ other ∈ rest, key other ≠ key item) →
      inPlace key item rest = rest := by
    intro rest free
    conv => rhs; rw [← List.map_id rest]
    apply List.map_congr_left
    intro other member
    rw [if_neg (free other member), id]
  rw [List.map_append, List.map_cons, List.nodup_append] at unique
  obtain ⟨-, rest, apart⟩ := unique
  obtain ⟨afterFree, -⟩ := List.nodup_cons.mp rest
  have beforeFixed := fixed before (fun other member equal =>
    apart _ (List.mem_map_of_mem member) _ List.mem_cons_self (equal.trans same.symm))
  have afterFixed := fixed after (fun other member equal =>
    afterFree (List.mem_map.mpr ⟨other, member, equal.trans same.symm⟩))
  calc inPlace key item (before ++ old :: after)
      = inPlace key item before ++ inPlace key item (old :: after) := List.map_append
    _ = before ++ item :: after := by
        rw [beforeFixed]
        congr 1
        show (if key old = key item then item else old) :: inPlace key item after = item :: after
        rw [if_pos same, afterFixed]

/-- The item stands to every other as the one it replaces does. -/
def StaysPut (key : α → κ) (column : α → γ) (item : α) (items : List α) : Prop :=
  ∀ before old after, items = before ++ old :: after → key old = key item →
    (∀ other ∈ before, column other ≤ column old ↔ column other ≤ column item) ∧
      ∀ other ∈ after, column other < column old ↔ column other < column item

theorem prefix_eq_of_mem_iff {whole first second : List α} (one : first <+: whole)
    (two : second <+: whole) (unique : whole.Nodup)
    (same : ∀ other, other ∈ first ↔ other ∈ second) : first = second := by
  have grown : ∀ {left right : List α}, left <+: right → right <+: whole →
      (∀ other ∈ right, other ∈ left) → left = right := by
    rintro left right ⟨rest, rfl⟩ within members
    cases rest with
    | nil => rw [List.append_nil]
    | cons head rest =>
        have distinct := unique.sublist within.sublist
        have repeated := members head (by simp)
        exact absurd rfl ((List.nodup_append.mp distinct).2.2 head repeated head
          List.mem_cons_self)
  rcases List.prefix_or_prefix_of_prefix one two with shorter | longer
  · exact grown shorter two (fun other => (same other).mpr)
  · exact (grown longer one (fun other => (same other).mp)).symm

/-- Leaving an item out of the sequence it stands in. -/
theorem without_around {target : κ} (named : key item = target)
    (unique : ((before ++ item :: after).map key).Nodup) :
    without key target (before ++ item :: after) = before ++ after := by
  rw [List.map_append, List.map_cons, List.nodup_append] at unique
  obtain ⟨-, rest, apart⟩ := unique
  obtain ⟨afterFree, -⟩ := List.nodup_cons.mp rest
  have beforeKept : without key target before = before := without_of_notMem (fun member =>
    apart target member (key item) List.mem_cons_self named.symm)
  have afterKept : without key target after = after := without_of_notMem (named ▸ afterFree)
  calc without key target (before ++ item :: after)
      = without key target before ++ without key target (item :: after) := List.filter_append ..
    _ = before ++ after := by
        rw [beforeKept]
        congr 1
        rw [without, List.filter_cons_of_neg (by simp [named])]
        exact afterKept

/-- Replacing an item in the ordered sequence is ordering the sequence in
which it is replaced, exactly when it stays where the other was. -/
theorem inPlace_orderBy_iff (unique : (items.map key).Nodup)
    (found : key item ∈ items.map key) :
    inPlace key item (orderBy column items) = orderBy column (inPlace key item items) ↔
      StaysPut key column item items := by
  obtain ⟨old, member, same⟩ := List.mem_map.mp found
  obtain ⟨before, after, rfl⟩ := List.append_of_mem member
  have unique' : ((before ++ item :: after).map key).Nodup := by
    rw [List.map_append, List.map_cons] at unique ⊢
    rw [← same]
    exact unique
  have oldListed : old ∈ orderBy column (before ++ old :: after) := mem_orderBy.mpr member
  have newListed : item ∈ orderBy column (before ++ item :: after) :=
    mem_orderBy.mpr (List.mem_append_right before List.mem_cons_self)
  obtain ⟨first, second, ordered⟩ := List.append_of_mem oldListed
  obtain ⟨first', second', ordered'⟩ := List.append_of_mem newListed
  have uniqueFirst : ((first ++ old :: second).map key).Nodup := by
    rw [← ordered]
    exact ((orderBy_perm column _).map key).nodup_iff.mpr unique
  have uniqueFirst' : ((first' ++ item :: second').map key).Nodup := by
    rw [← ordered']
    exact ((orderBy_perm column _).map key).nodup_iff.mpr unique'
  obtain ⟨beforeOld, afterOld⟩ := mem_first_iff ordered (List.Nodup.of_map key unique)
  obtain ⟨beforeNew, afterNew⟩ := mem_first_iff ordered' (List.Nodup.of_map key unique')
  -- Without the item both orderings are the ordering of the others.
  have left : first ++ second = orderBy column (before ++ after) := by
    rw [← without_around same uniqueFirst, ← ordered, without, filter_orderBy]
    exact congrArg (orderBy column) (without_around same unique)
  have right : first' ++ second' = orderBy column (before ++ after) := by
    rw [← without_around rfl uniqueFirst', ← ordered', without, filter_orderBy]
    exact congrArg (orderBy column) (without_around rfl unique')
  have distinct := List.Nodup.of_map key uniqueFirst'
  have free' : item ∉ first' ∧ item ∉ second' := by
    obtain ⟨-, rest, apart⟩ := List.nodup_append.mp distinct
    exact ⟨fun inFirst => apart item inFirst item List.mem_cons_self rfl,
      (List.nodup_cons.mp rest).1⟩
  rw [ordered, inPlace_append same uniqueFirst, inPlace_append same unique, ordered']
  constructor
  · intro equal
    obtain ⟨sameFirst, -, -⟩ :=
      (List.append_cons_inj_of_notMem free'.1 free'.2).mp equal.symm
    intro before₁ old₁ after₁ split named
    have inItems : old₁ ∈ before ++ old :: after := split ▸ by simp
    have sameOld : old₁ = old := List.inj_on_of_nodup_map unique inItems member
      (named.trans same.symm)
    subst sameOld
    have once := List.Nodup.of_map key unique
    obtain ⟨-, rest, apart⟩ := List.nodup_append.mp once
    obtain ⟨rfl, -, rfl⟩ := (List.append_cons_inj_of_notMem
      (fun inBefore => apart old₁ inBefore old₁ List.mem_cons_self rfl)
      (List.nodup_cons.mp rest).1).mp split
    refine ⟨?_, ?_⟩
    · intro other inBefore
      exact (beforeOld other inBefore).symm.trans (sameFirst ▸ beforeNew other inBefore)
    · intro other inAfter
      exact (afterOld other inAfter).symm.trans (sameFirst ▸ afterNew other inAfter)
  · intro stays
    obtain ⟨stayBefore, stayAfter⟩ := stays before old after rfl same
    have members : ∀ other ∈ before ++ after, other ∈ first ↔ other ∈ first' := by
      intro other member
      rcases List.mem_append.mp member with inBefore | inAfter
      · exact ((beforeOld other inBefore).trans (stayBefore other inBefore)).trans
          (beforeNew other inBefore).symm
      · exact ((afterOld other inAfter).trans (stayAfter other inAfter)).trans
          (afterNew other inAfter).symm
    have among : ∀ {rest others : List α} {other : α}, rest ++ others =
        orderBy column (before ++ after) → other ∈ rest → other ∈ before ++ after := by
      intro rest others other split inRest
      exact mem_orderBy.mp (split ▸ List.mem_append_left others inRest)
    have whole : (orderBy column (before ++ after)).Nodup := by
      rw [← right]
      exact distinct.sublist ((List.sublist_cons_self item second').append_left first')
    have sameFirst : first = first' := by
      refine prefix_eq_of_mem_iff ⟨second, left⟩ ⟨second', right⟩ whole ?_
      intro other
      constructor
      · intro inFirst
        exact (members other (among left inFirst)).mp inFirst
      · intro inFirst
        exact (members other (among right inFirst)).mpr inFirst
    subst sameFirst
    rw [List.append_cancel_left (left.trans right.symm)]

end Replaced

section Set

variable {α κ : Type} [LinearOrder κ] {key : α → κ} {item : α} {items : List α}

/-- An item set by the key its sequence is ordered by stands behind the others
exactly when no other comes after it. -/
theorem setItem_orderBy_iff (unique : (items.map key).Nodup) :
    without key (key item) (orderBy key items) ++ [item] = orderBy key (setItem key item items) ↔
      ∀ other ∈ items, key other ≤ key item := by
  have moved : without key (key item) (orderBy key items) =
      orderBy key (without key (key item) items) := filter_orderBy key _ items
  have permuted : (orderBy key (without key (key item) items) ++ [item]).Perm
      (orderBy key (setItem key item items)) :=
    ((orderBy_perm key _).append_right _).trans
      ((setItem_perm unique item).symm.trans (orderBy_perm key _).symm)
  rw [moved]
  constructor
  · intro same other member
    have sorted := orderBy_pairwise key (setItem key item items)
    rw [← same, List.pairwise_append] at sorted
    by_cases equal : key other = key item
    · exact le_of_eq equal
    · exact sorted.2.2 other (mem_orderBy.mpr (List.mem_filter.mpr ⟨member, by simp [equal]⟩)) item
        (List.mem_singleton.mpr rfl)
  · intro last
    have kept : ((without key (key item) items ++ [item]).map key).Nodup := by
      rw [List.map_append, List.nodup_append]
      refine ⟨(List.filter_sublist.map key).nodup unique, List.nodup_singleton _, ?_⟩
      rintro _ inOthers _ inItem rfl
      obtain ⟨other, member, named⟩ := List.mem_map.mp inOthers
      have different := List.of_mem_filter member
      rw [List.map_singleton, List.mem_singleton] at inItem
      rw [named, inItem] at different
      simp at different
    have sorted : (orderBy key (without key (key item) items) ++ [item]).Pairwise
        (fun left right => key left ≤ key right) := by
      rw [List.pairwise_append]
      refine ⟨orderBy_pairwise key _, List.pairwise_singleton _ _, ?_⟩
      intro other member row inItem
      rw [List.mem_singleton.mp inItem]
      exact last other (List.mem_of_mem_filter (mem_orderBy.mp member))
    refine permuted.eq_of_pairwise ?_ sorted (orderBy_pairwise key _)
    intro left right leftMember rightMember below above
    have inLeft : left ∈ without key (key item) items ++ [item] :=
      ((orderBy_perm key _).append_right _).mem_iff.mp leftMember
    have inRight : right ∈ without key (key item) items ++ [item] :=
      (setItem_perm unique item).mem_iff.mp (mem_orderBy.mp rightMember)
    exact List.inj_on_of_nodup_map kept inLeft inRight (le_antisymm below above)

end Set

end Relational
