import Mathlib.Logic.Relation

/-!
# Links from a child to its parent

A partial map from an item to the one it comes from.  Where a rank falls along
every link, no item comes from itself, and new items can be added under old
ones.
-/

namespace Relational

variable {ι : Type}

/-- One item comes from another in one step. -/
def Linked (parent : ι → Option ι) (child above : ι) : Prop :=
  parent child = some above

/-- A rank falls along every link. -/
def Ranked (parent : ι → Option ι) : Prop :=
  ∃ rank : ι → Nat, ∀ child above, Linked parent child above → rank above < rank child

/-- An item without a parent. -/
def Root (parent : ι → Option ι) (item : ι) : Prop :=
  parent item = none

theorem Root.unique {parent : ι → Option ι} {item first second : ι}
    (toFirst : Relation.ReflTransGen (Linked parent) item first)
    (toSecond : Relation.ReflTransGen (Linked parent) item second)
    (firstRoot : Root parent first) (secondRoot : Root parent second) : first = second := by
  have functional : Relator.RightUnique (Linked parent) := by
    intro child above other link link'
    exact Option.some.inj (link.symm.trans link')
  have ends : ∀ {root other}, Root parent root →
      Relation.ReflTransGen (Linked parent) root other → root = other := by
    intro root other rooted path
    rcases path.cases_head with same | ⟨above, link, -⟩
    · exact same
    · have parented : parent root = some above := link
      rw [rooted] at parented
      cases parented
  rcases Relation.ReflTransGen.total_of_right_unique functional toFirst toSecond with path | path
  · exact ends firstRoot path
  · exact (ends secondRoot path).symm

namespace Ranked

variable {parent parent' : ι → Option ι}

theorem falls {rank : ι → Nat}
    (below : ∀ child above, Linked parent child above → rank above < rank child)
    {child ancestor : ι} (path : Relation.TransGen (Linked parent) child ancestor) :
    rank ancestor < rank child := by
  induction path with
  | single link => exact below _ _ link
  | tail _ link induction => exact Nat.lt_trans (below _ _ link) induction

theorem acyclic (ranked : Ranked parent) (item : ι) :
    ¬ Relation.TransGen (Linked parent) item item := by
  obtain ⟨rank, below⟩ := ranked
  intro circle
  exact Nat.lt_irrefl _ (falls below circle)

theorem mono (ranked : Ranked parent)
    (fewer : ∀ child above, Linked parent' child above → Linked parent child above) :
    Ranked parent' := by
  obtain ⟨rank, below⟩ := ranked
  exact ⟨rank, fun child above link => below child above (fewer child above link)⟩

open Classical in
theorem extend (ranked : Ranked parent) (old : ι → Prop)
    (kept : ∀ child above, old child → Linked parent' child above → Linked parent child above)
    (within : ∀ child above, Linked parent' child above → old above) : Ranked parent' := by
  obtain ⟨rank, below⟩ := ranked
  refine ⟨fun item => if old item then rank item else ((parent' item).map rank).getD 0 + 1, ?_⟩
  intro child above link
  simp only [if_pos (within child above link)]
  by_cases stored : old child
  · rw [if_pos stored]
    exact below child above (kept child above stored link)
  · have parent : parent' child = some above := link
    rw [if_neg stored, parent]
    exact Nat.lt_succ_self _

end Ranked

end Relational
