import EidolonData.Library.Ordering

/-!
# Reading a listing page by page

A page holds the first rows whose column lies behind a cursor, and the cursor
of its last row when there is another row to read.  Reading on from each
cursor until there is none gives every row once, in order, also when rows that
come behind all the others are added between two pages.
-/

namespace Relational

variable {ρ ρ' γ κ σ : Type}

/-- One page of a listing, and where the next one starts. -/
structure Page (ρ γ : Type) where
  items : List ρ
  next : Option γ
  deriving DecidableEq, Repr

/-- The pages read in a sequence of states until there is no next one, and
the rows they hold together. -/
inductive Follows (read : σ → Option κ → Option (Page ρ κ)) :
    List σ → Option κ → List ρ → Prop where
  | last {state : σ} {cursor : Option κ} {items : List ρ}
      (page : read state cursor = some { items := items, next := none }) :
      Follows read [state] cursor items
  | next {state : σ} {states : List σ} {cursor : Option κ} {next : κ} {items rest : List ρ}
      (page : read state cursor = some { items := items, next := some next })
      (follows : Follows read states (some next) rest) :
      Follows read (state :: states) cursor (items ++ rest)

/-- A page as it is handed out: its rows read out, which may fail, and its
cursor written down. -/
def Page.present (form : ρ → Option ρ') (write : γ → κ) (page : Page ρ γ) :
    Option (Page ρ' κ) :=
  (page.items.mapM form).map (fun items => { items := items, next := page.next.map write })

section Keyset

variable [LinearOrder γ] (column : ρ → γ)

/-- The rows behind a cursor, in order. -/
def seek (cursor : Option γ) (rows : List ρ) : List ρ :=
  orderBy column (rows.filter (fun row => cursor.all (fun seen => seen < column row)))

/-- A page read with one row to look ahead. -/
def page (limit : Nat) (cursor : Option γ) (rows : List ρ) : Page ρ γ :=
  let found := (seek column cursor rows).take (limit + 1)
  { items := found.take limit
    next := if limit < found.length then (found.take limit).getLast?.map column else none }

/-- The second rows are the first with others added behind them all. -/
def Later (rows rows' : List ρ) : Prop :=
  ∃ added, rows'.Perm (rows ++ added) ∧
    ∀ row ∈ rows, ∀ other ∈ added, column row < column other

variable {column} {limit : Nat} {cursor : Option γ} {rows rows' : List ρ}

theorem Later.refl (rows : List ρ) : Later column rows rows :=
  ⟨[], by rw [List.append_nil], by simp⟩

theorem seek_none (rows : List ρ) : seek column none rows = orderBy column rows := by
  simp [seek]

theorem seek_eq (cursor : Option γ) (rows : List ρ) :
    seek column cursor rows =
      (orderBy column rows).filter (fun row => cursor.all (fun seen => seen < column row)) :=
  (filter_orderBy column _ rows).symm

theorem orderBy_strict (distinct : (rows.map column).Nodup) :
    (orderBy column rows).Pairwise (fun left right => column left < column right) := by
  have permuted := (orderBy_perm column rows).map column
  have different := List.pairwise_map.mp (permuted.nodup_iff.mpr distinct)
  exact ((orderBy_pairwise column rows).and different).imp
    (fun both => lt_of_le_of_ne both.1 both.2)

theorem seek_strict (cursor : Option γ) (distinct : (rows.map column).Nodup) :
    (seek column cursor rows).Pairwise (fun left right => column left < column right) := by
  rw [seek_eq]
  exact (orderBy_strict distinct).filter _

theorem orderBy_later {added : List ρ} (permuted : rows'.Perm (rows ++ added))
    (behind : ∀ row ∈ rows, ∀ other ∈ added, column row < column other)
    (distinct : (rows'.map column).Nodup) :
    orderBy column rows' = orderBy column rows ++ orderBy column added := by
  have sorted : (orderBy column rows ++ orderBy column added).Pairwise
      (fun left right => column left ≤ column right) := by
    refine List.pairwise_append.mpr
      ⟨orderBy_pairwise column rows, orderBy_pairwise column added, ?_⟩
    intro row member other otherMember
    exact (behind row (mem_orderBy.mp member) other (mem_orderBy.mp otherMember)).le
  have same : (orderBy column rows ++ orderBy column added).Perm rows' :=
    ((orderBy_perm column rows).append (orderBy_perm column added)).trans permuted.symm
  exact (orderBy_unique same sorted distinct).symm

/-- Splitting an ordered sequence behind one of its members. -/
theorem filter_behind {found : List ρ} {last : ρ}
    (strict : found.Pairwise (fun left right => column left < column right))
    (isLast : (found.take limit).getLast? = some last) :
    found.filter (fun row => column last < column row) = found.drop limit := by
  obtain ⟨before, split⟩ := List.getLast?_eq_some_iff.mp isLast
  have whole : found = before ++ ([last] ++ found.drop limit) := by
    rw [← List.append_assoc, ← split, List.take_append_drop]
  rw [whole] at strict
  obtain ⟨-, behindStrict, below⟩ := List.pairwise_append.mp strict
  obtain ⟨above, -⟩ := List.pairwise_cons.mp behindStrict
  have none_before : before.filter (fun row => column last < column row) = [] := by
    rw [List.filter_eq_nil_iff]
    intro row member
    have smaller := below row member last List.mem_cons_self
    simpa using smaller.le
  have all_behind : (found.drop limit).filter (fun row => column last < column row) =
      found.drop limit := by
    rw [List.filter_eq_self]
    intro row member
    simpa using above row member
  conv => lhs; rw [whole]
  rw [List.filter_append, List.filter_append, none_before, all_behind]
  simp

theorem page_eq (limit : Nat) (cursor : Option γ) (rows : List ρ) :
    page column limit cursor rows =
      { items := (seek column cursor rows).take limit
        next :=
          if limit < (seek column cursor rows).length then
            ((seek column cursor rows).take limit).getLast?.map column
          else none } := by
  have shorter : min limit (limit + 1) = limit := by omega
  have lookAhead : limit < ((seek column cursor rows).take (limit + 1)).length ↔
      limit < (seek column cursor rows).length := by
    rw [List.length_take]
    omega
  simp only [page, List.take_take, shorter, lookAhead]

theorem items_of_last (some_rows : 0 < limit) {items : List ρ}
    (read : page column limit cursor rows = { items := items, next := none }) :
    items = seek column cursor rows := by
  rw [page_eq] at read
  obtain ⟨rfl, ended⟩ := Page.mk.inj read
  by_cases more : limit < (seek column cursor rows).length
  · rw [if_pos more, Option.map_eq_none_iff, List.getLast?_eq_none_iff] at ended
    have short := congrArg List.length ended
    rw [List.length_take, List.length_nil] at short
    omega
  · exact List.take_of_length_le (by omega)

/-- A page that is not the last holds the first rows behind its cursor, and
its next cursor leads to the others. -/
theorem seek_of_next {items : List ρ} {next : γ}
    (read : page column limit cursor rows = { items := items, next := some next })
    (later : Later column rows rows') (distinct : (rows'.map column).Nodup) :
    items.length = limit ∧
      seek column cursor rows' = items ++ seek column (some next) rows' := by
  rw [page_eq] at read
  obtain ⟨rfl, continued⟩ := Page.mk.inj read
  obtain ⟨added, permuted, behind⟩ := later
  have distinctRows : (rows.map column).Nodup := by
    have all := (permuted.map column).nodup_iff.mp distinct
    rw [List.map_append] at all
    exact (List.nodup_append.mp all).1
  split at continued
  · next more =>
      obtain ⟨last, isLast, rfl⟩ := Option.map_eq_some_iff.mp continued
      have lastFound : last ∈ seek column cursor rows :=
        List.mem_of_mem_take (List.mem_of_getLast? isLast)
      rw [seek_eq, List.mem_filter] at lastFound
      obtain ⟨lastMember, lastSought⟩ := lastFound
      have lastRow := mem_orderBy.mp lastMember
      have onward : ∀ seen, cursor = some seen → seen < column last := by
        rintro seen rfl
        simpa using lastSought
      -- Both cursors lead past the rows added in the meantime.
      have addedAll : ∀ seen : Option γ, (∀ value, seen = some value → value ≤ column last) →
          (orderBy column added).filter (fun row => seen.all (fun value => value < column row)) =
            orderBy column added := by
        intro seen bounded
        rw [List.filter_eq_self]
        intro row member
        cases seen with
        | none => rfl
        | some value =>
            have below := behind last lastRow row (mem_orderBy.mp member)
            simpa using lt_of_le_of_lt (bounded value rfl) below
      have refined : (orderBy column rows).filter (fun row => column last < column row) =
          (seek column cursor rows).filter (fun row => column last < column row) := by
        rw [seek_eq, List.filter_filter]
        apply List.filter_congr
        intro row _
        cases cursor with
        | none => simp
        | some seen =>
            have before := onward seen rfl
            simp only [Option.all_some]
            by_cases after : column last < column row
            · simp [after, lt_trans before after]
            · simp [after]
      have drop := filter_behind (seek_strict cursor distinctRows) isLast
      refine ⟨by rw [List.length_take]; omega, ?_⟩
      have whole : seek column cursor rows' =
          seek column cursor rows ++ orderBy column added := by
        rw [seek_eq, orderBy_later permuted behind distinct, List.filter_append,
          addedAll cursor (fun value found => (onward value found).le), ← seek_eq]
      have rest : seek column (some (column last)) rows' =
          (seek column cursor rows).drop limit ++ orderBy column added := by
        rw [seek_eq, orderBy_later permuted behind distinct, List.filter_append,
          addedAll (some (column last)) (fun value found => by cases found; exact le_refl _)]
        simp only [Option.all_some]
        rw [refined, drop]
      rw [whole, rest, ← List.append_assoc, List.take_append_drop]
  · cases continued

/-- Reading on until there is no next page gives the rows the last page found
stored, from the first cursor on, in order. -/
theorem Follows.items (some_rows : 0 < limit) {states : List (List ρ)} {items : List ρ}
    (follows : Follows (fun rows cursor => some (page column limit cursor rows)) states
    cursor items)
    (later : states.Pairwise (Later column))
    (distinct : ∀ rows ∈ states, (rows.map column).Nodup) :
    ∃ final, states.getLast? = some final ∧ items = seek column cursor final := by
  induction follows with
  | last read => exact ⟨_, rfl, items_of_last some_rows (Option.some.inj read)⟩
  | @next rows states cursor next items rest read follows induction =>
      obtain ⟨behind, laterRest⟩ := List.pairwise_cons.mp later
      obtain ⟨final, isLast, found⟩ :=
        induction laterRest (fun rows member => distinct rows (List.mem_cons_of_mem _ member))
      have member : final ∈ states := List.mem_of_getLast? isLast
      refine ⟨final, by rw [List.getLast?_cons, isLast]; rfl, ?_⟩
      rw [found]
      exact (seek_of_next (Option.some.inj read) (behind final member)
        (distinct final (List.mem_cons_of_mem _ member))).2.symm

/-- Reading on ends: there are no more pages than rows to read. -/
theorem exists_follows (some_rows : 0 < limit) (cursor : Option γ) {states : List (List ρ)}
    (later : states.Pairwise (Later column))
    (distinct : ∀ rows ∈ states, (rows.map column).Nodup) {final : List ρ}
    (isLast : states.getLast? = some final)
    (enough : (seek column cursor final).length ≤ states.length) :
    ∃ seen items, seen <+: states ∧
      Follows (fun rows cursor => some (page column limit cursor rows)) seen cursor items := by
  induction states generalizing cursor with
  | nil => cases isLast
  | cons rows states induction =>
      cases read : page column limit cursor rows with
      | mk items next =>
          cases next with
          | none => exact ⟨[rows], items, ⟨states, rfl⟩, .last (congrArg some read)⟩
          | some next =>
              obtain ⟨behind, laterRest⟩ := List.pairwise_cons.mp later
              have distinctRest : ∀ rows ∈ states, (rows.map column).Nodup :=
                fun rows member => distinct rows (List.mem_cons_of_mem _ member)
              cases states with
              | nil =>
                  -- One page was enough for the rows there are.
                  rw [List.getLast?_singleton, Option.some.injEq] at isLast
                  subst isLast
                  obtain ⟨full, split⟩ :=
                    seek_of_next read (Later.refl rows) (distinct rows List.mem_cons_self)
                  have continued := congrArg Page.next read
                  rw [page_eq] at continued
                  simp only at continued
                  split at continued
                  · next more =>
                      simp only [List.length_cons, List.length_nil] at enough
                      omega
                  · cases continued
              | cons second others =>
                  rw [List.getLast?_cons_cons] at isLast
                  have member : final ∈ second :: others := List.mem_of_getLast? isLast
                  obtain ⟨full, split⟩ :=
                    seek_of_next read (behind final member) (distinctRest final member)
                  have shorter : (seek column (some next) final).length ≤
                      (second :: others).length := by
                    have lengths := congrArg List.length split
                    rw [List.length_append, full] at lengths
                    simp only [List.length_cons] at enough ⊢
                    omega
                  obtain ⟨seen, rest, isPrefix, follows⟩ :=
                    induction (some next) laterRest distinctRest isLast shorter
                  exact ⟨rows :: seen, items ++ rest, List.cons_prefix_cons.mpr ⟨rfl, isPrefix⟩,
                    .next (congrArg some read) follows⟩

theorem follows_orderBy (some_rows : 0 < limit) (distinct : (rows.map column).Nodup) :
    ∃ pages, Follows (fun rows cursor => some (page column limit cursor rows))
      (List.replicate pages rows) none (orderBy column rows) := by
  have later : ∀ pages, (List.replicate pages rows).Pairwise (Later column) := fun pages =>
    List.pairwise_replicate.mpr (.inr (Later.refl rows))
  have distinctAll : ∀ pages, ∀ other ∈ List.replicate pages rows, (other.map column).Nodup := by
    intro pages other member
    rw [(List.mem_replicate.mp member).2]
    exact distinct
  have isLast : (List.replicate (rows.length + 1) rows).getLast? = some rows := by
    rw [List.getLast?_replicate, if_neg (Nat.succ_ne_zero _)]
  obtain ⟨seen, items, isPrefix, follows⟩ :=
    exists_follows some_rows none (later _) (distinctAll _) isLast (by
      rw [List.length_replicate, seek_none, (orderBy_perm column rows).length_eq]
      exact Nat.le_succ _)
  obtain ⟨-, same⟩ := List.prefix_replicate_iff.mp isPrefix
  rw [same] at follows
  obtain ⟨final, finalLast, found⟩ := follows.items some_rows (later _) (distinctAll _)
  have unchanged : final = rows := by
    have member := List.mem_of_getLast? finalLast
    exact (List.mem_replicate.mp member).2
  rw [unchanged, seek_none] at found
  rw [found] at follows
  exact ⟨_, follows⟩

theorem next_between (distinct : (rows.map column).Nodup) {items : List ρ} {next : γ}
    (read : page column limit cursor rows = { items := items, next := some next }) :
    ∃ row ∈ rows, ∃ other ∈ rows, column row = next ∧ column row < column other := by
  rw [page_eq] at read
  obtain ⟨-, continued⟩ := Page.mk.inj read
  split at continued
  · next more =>
      obtain ⟨last, isLast, found⟩ := Option.map_eq_some_iff.mp continued
      have strict := seek_strict cursor distinct
      have lastTaken := List.mem_of_getLast? isLast
      have rest : (seek column cursor rows).drop limit ≠ [] := by
        rw [Ne, List.drop_eq_nil_iff]
        omega
      obtain ⟨other, others, dropped⟩ := List.exists_cons_of_ne_nil rest
      have otherDropped : other ∈ (seek column cursor rows).drop limit := by
        rw [dropped]
        exact List.mem_cons_self
      have sought : ∀ row ∈ seek column cursor rows, row ∈ rows := by
        intro row member
        exact List.mem_of_mem_filter (mem_orderBy.mp member)
      rw [← List.take_append_drop limit (seek column cursor rows)] at strict
      obtain ⟨-, -, apart⟩ := List.pairwise_append.mp strict
      exact ⟨last, sought last (List.mem_of_mem_take lastTaken), other,
        sought other (List.mem_of_mem_drop otherDropped), found,
        apart last lastTaken other otherDropped⟩
  · cases continued

end Keyset

section Serving

variable [LinearOrder γ]

/-- A listing that serves the pages of some rows, from the cursors it accepts;
those it hands out are among them. -/
structure Serves (read : σ → Option κ → Option (Page ρ' κ)) (column : ρ → γ)
    (form : ρ → Option ρ') (write : γ → κ) (accepts : γ → Prop) (limit : Nat) (state : σ)
    (rows : List ρ) : Prop where
  pages : ∀ cursor, (∀ value, cursor = some value → accepts value) →
    read state (cursor.map write) = (page column limit cursor rows).present form write
  onward : ∀ row ∈ rows, ∀ other ∈ rows, column row < column other → accepts (column row)
  distinct : (rows.map column).Nodup

/-- Reading on from the first page ends, and gives each of the rows once, in
the order of their column. -/
def ReadsOnce (read : σ → Option κ → Option (Page ρ' κ)) (column : ρ → γ)
    (form : ρ → Option ρ') (state : σ) (rows : List ρ) : Prop :=
  ∃ (ordered : List ρ) (items : List ρ'), ordered.Perm rows ∧
    ordered.Pairwise (fun left right => column left < column right) ∧
    ordered.mapM form = some items ∧
    (∃ pages, Follows read (List.replicate pages state) none items) ∧
    ∀ pages other, Follows read (List.replicate pages state) none other → other = items

variable {read : σ → Option κ → Option (Page ρ' κ)} {column : ρ → γ} {form : ρ → Option ρ'}
variable {write : γ → κ} {accepts : γ → Prop} {limit : Nat}

theorem Follows.of_served {rows : σ → List ρ} {states : List σ} {cursor : Option κ}
    {items' : List ρ'} (follows : Follows read states cursor items')
    (served : ∀ state ∈ states, Serves read column form write accepts limit state (rows state))
    (seen : Option γ) (written : cursor = seen.map write)
    (accepted : ∀ value, seen = some value → accepts value) :
    ∃ items, items.mapM form = some items' ∧
      Follows (fun rows cursor => some (page column limit cursor rows)) (states.map rows) seen
        items := by
  induction follows generalizing seen with
  | @last state cursor items' found =>
      rw [written, (served state List.mem_cons_self).pages seen accepted] at found
      cases kept : page column limit seen (rows state) with
      | mk items next =>
          rw [kept] at found
          obtain ⟨formed, isMapped, same⟩ := Option.map_eq_some_iff.mp found
          obtain ⟨rfl, ended⟩ := Page.mk.inj same
          have last : next = none := Option.map_eq_none_iff.mp ended
          rw [last] at kept
          exact ⟨items, isMapped, .last (congrArg some kept)⟩
  | @next state states cursor next' items' rest' found follows induction =>
      have here := served state List.mem_cons_self
      rw [written, here.pages seen accepted] at found
      cases kept : page column limit seen (rows state) with
      | mk items next =>
          rw [kept] at found
          obtain ⟨formed, isMapped, same⟩ := Option.map_eq_some_iff.mp found
          obtain ⟨rfl, continued⟩ := Page.mk.inj same
          obtain ⟨value, isNext, isWritten⟩ := Option.map_eq_some_iff.mp continued
          rw [show next = some value from isNext] at kept
          obtain ⟨row, member, other, otherMember, rfl, behind⟩ := next_between here.distinct kept
          obtain ⟨rest, restMapped, restFollows⟩ :=
            induction (fun state member => served state (List.mem_cons_of_mem _ member))
              (some (column row)) (by rw [Option.map_some, isWritten]) (by
                rintro _ ⟨⟩
                exact here.onward row member other otherMember behind)
          refine ⟨items ++ rest, ?_, .next (congrArg some kept) restFollows⟩
          rw [List.mapM_append, isMapped, restMapped]
          rfl

theorem Follows.to_served {rows : σ → List ρ} {states : List σ} {seen : Option γ}
    {items : List ρ} {items' : List ρ'}
    (follows : Follows (fun rows cursor => some (page column limit cursor rows)) (states.map rows)
      seen items)
    (served : ∀ state ∈ states, Serves read column form write accepts limit state (rows state))
    (accepted : ∀ value, seen = some value → accepts value)
    (mapped : items.mapM form = some items') :
    Follows read states (seen.map write) items' := by
  generalize all : states.map rows = stored at follows
  induction follows generalizing states items' with
  | @last stored cursor items found =>
      obtain ⟨state, rfl, rfl⟩ : ∃ state, states = [state] ∧ rows state = stored := by
        obtain ⟨state, rest, rfl, rfl, ended⟩ := List.map_eq_cons_iff.mp all
        exact ⟨state, by rw [List.map_eq_nil_iff.mp ended], rfl⟩
      apply Follows.last
      rw [(served state List.mem_cons_self).pages _ accepted, Option.some.inj found, Page.present,
        mapped]
      rfl
  | @next stored others cursor next items rest found follows induction =>
      obtain ⟨state, states, rfl, rfl, rfl⟩ := List.map_eq_cons_iff.mp all
      have here := served state List.mem_cons_self
      rw [List.mapM_append] at mapped
      obtain ⟨first, firstMapped, mapped⟩ := Option.bind_eq_some_iff.mp mapped
      obtain ⟨later, laterMapped, same⟩ := Option.bind_eq_some_iff.mp mapped
      cases same
      obtain ⟨row, member, other, otherMember, rfl, behind⟩ :=
        next_between here.distinct (Option.some.inj found)
      have onward := here.onward row member other otherMember behind
      have read_page : read state (cursor.map write) =
          some { items := first, next := some (write (column row)) } := by
        rw [here.pages _ accepted, Option.some.inj found, Page.present, firstMapped]
        rfl
      have accepted_next : ∀ value, some (column row) = some value → accepts value := by
        rintro _ ⟨⟩
        exact onward
      exact .next read_page
        (induction (fun state member => served state (List.mem_cons_of_mem _ member)) accepted_next
          laterMapped rfl)

/-- Reading on to the end gives the rows the last page found stored, in
order. -/
theorem Follows.served_items (some_rows : 0 < limit) {rows : σ → List ρ} {states : List σ}
    {items : List ρ'} (follows : Follows read states none items)
    (served : ∀ state ∈ states, Serves read column form write accepts limit state (rows state))
    (later : states.Pairwise (fun state state' => Later column (rows state) (rows state'))) :
    ∃ final, states.getLast? = some final ∧
      (orderBy column (rows final)).mapM form = some items := by
  obtain ⟨found, mapped, kept⟩ :=
    follows.of_served served none rfl (by rintro _ ⟨⟩)
  obtain ⟨stored, isLast, whole⟩ := kept.items some_rows (List.pairwise_map.mpr later) (by
    intro stored member
    obtain ⟨state, stateMember, rfl⟩ := List.mem_map.mp member
    exact (served state stateMember).distinct)
  rw [List.getLast?_map] at isLast
  obtain ⟨final, finalLast, rfl⟩ := Option.map_eq_some_iff.mp isLast
  rw [seek_none] at whole
  exact ⟨final, finalLast, whole ▸ mapped⟩

theorem mem_of_mapM {found : List ρ} {items : List ρ'} (mapped : found.mapM form = some items)
    {item : ρ'} (member : item ∈ items) : ∃ row ∈ found, form row = some item := by
  induction found generalizing items with
  | nil =>
      cases mapped
      cases member
  | cons head tail induction =>
      rw [List.mapM_cons] at mapped
      obtain ⟨first, made, mapped⟩ := Option.bind_eq_some_iff.mp mapped
      obtain ⟨rest, restMapped, same⟩ := Option.bind_eq_some_iff.mp mapped
      cases same
      rcases List.mem_cons.mp member with rfl | inRest
      · exact ⟨head, List.mem_cons_self, made⟩
      · obtain ⟨row, rowMember, rowMade⟩ := induction restMapped inRest
        exact ⟨row, List.mem_cons_of_mem _ rowMember, rowMade⟩

theorem exists_mapM (found : List ρ) (formed : ∀ row ∈ found, (form row).isSome) :
    ∃ items, found.mapM form = some items := by
  induction found with
  | nil => exact ⟨[], rfl⟩
  | cons row rest induction =>
      obtain ⟨item, made⟩ := Option.isSome_iff_exists.mp (formed row List.mem_cons_self)
      obtain ⟨items, rest_made⟩ :=
        induction (fun row member => formed row (List.mem_cons_of_mem _ member))
      exact ⟨item :: items, by rw [List.mapM_cons, made, rest_made]; rfl⟩

/-- Where pages are served, reading on ends when no more rows are added than
pages are read. -/
theorem exists_follows_served (some_rows : 0 < limit) {rows : σ → List ρ} {states : List σ}
    (served : ∀ state ∈ states, Serves read column form write accepts limit state (rows state))
    (later : states.Pairwise (fun state state' => Later column (rows state) (rows state')))
    (formed : ∀ state ∈ states, ∀ row ∈ rows state, (form row).isSome) {final : σ}
    (isLast : states.getLast? = some final) (enough : (rows final).length ≤ states.length) :
    ∃ seen items, seen <+: states ∧ Follows read seen none items := by
  have distinct : ∀ stored ∈ states.map rows, (stored.map column).Nodup := by
    intro stored member
    obtain ⟨state, stateMember, rfl⟩ := List.mem_map.mp member
    exact (served state stateMember).distinct
  have laterRows : (states.map rows).Pairwise (Later column) := List.pairwise_map.mpr later
  obtain ⟨seenRows, items, isPrefix, follows⟩ :=
    exists_follows some_rows none laterRows distinct
      (show (states.map rows).getLast? = some (rows final) by
        rw [List.getLast?_map, isLast, Option.map_some])
      (by
        rw [seek_none, (orderBy_perm column (rows final)).length_eq, List.length_map]
        exact enough)
  obtain ⟨seen, seenPrefix, rfl⟩ := List.prefix_map_iff.mp isPrefix
  have among : ∀ state ∈ seen, state ∈ states := fun state member => seenPrefix.subset member
  obtain ⟨stored, lastSeen, whole⟩ := follows.items some_rows
    (laterRows.sublist isPrefix.sublist)
    (fun stored member => distinct stored (isPrefix.subset member))
  rw [List.getLast?_map] at lastSeen
  obtain ⟨last, lastMember, rfl⟩ := Option.map_eq_some_iff.mp lastSeen
  have lastAmong := among last (List.mem_of_getLast? lastMember)
  have formedAll : ∀ row ∈ items, (form row).isSome := by
    intro row member
    rw [whole, seek_none] at member
    exact formed last lastAmong row (mem_orderBy.mp member)
  obtain ⟨items', mapped⟩ := exists_mapM items formedAll
  exact ⟨seen, items', seenPrefix,
    follows.to_served (fun state member => served state (among state member)) (by rintro _ ⟨⟩)
      mapped⟩

theorem filter_of_mapM {δ : Type} [DecidableEq δ] {name : ρ → δ} {name' : ρ' → δ}
    (keeps : ∀ row item, form row = some item → name' item = name row) {found : List ρ}
    {items : List ρ'} (mapped : found.mapM form = some items) (distinct : (found.map name).Nodup)
    {row : ρ} (member : row ∈ found) :
    ∃ item, form row = some item ∧ items.filter (fun item => name' item = name row) = [item] := by
  induction found generalizing items with
  | nil => cases member
  | cons head tail induction =>
      rw [List.mapM_cons] at mapped
      obtain ⟨first, made, mapped⟩ := Option.bind_eq_some_iff.mp mapped
      obtain ⟨rest, restMapped, same⟩ := Option.bind_eq_some_iff.mp mapped
      cases same
      rw [List.map_cons, List.nodup_cons] at distinct
      obtain ⟨apart, distinctTail⟩ := distinct
      rcases List.mem_cons.mp member with rfl | inTail
      · have others : rest.filter (fun item => name' item = name row) = [] := by
          rw [List.filter_eq_nil_iff]
          intro item itemMember equal
          obtain ⟨other, otherMember, otherMade⟩ := mem_of_mapM restMapped itemMember
          rw [decide_eq_true_eq, keeps other item otherMade] at equal
          exact apart (equal ▸ List.mem_map_of_mem otherMember)
        refine ⟨first, made, ?_⟩
        rw [List.filter_cons_of_pos (by simpa using keeps row first made), others]
      · obtain ⟨item, itemMade, alone⟩ := induction restMapped distinctTail inTail
        have different : name' first ≠ name row := by
          rw [keeps head first made]
          intro equal
          exact apart (equal ▸ List.mem_map_of_mem inTail)
        refine ⟨item, itemMade, ?_⟩
        rw [List.filter_cons_of_neg (by simpa using different), alone]

theorem Serves.readsOnce {state : σ} {rows : List ρ} (some_rows : 0 < limit)
    (served : Serves read column form write accepts limit state rows)
    (formed : ∀ row ∈ rows, (form row).isSome) : ReadsOnce read column form state rows := by
  obtain ⟨items, mapped⟩ := exists_mapM (orderBy column rows)
    (fun row member => formed row (mem_orderBy.mp member))
  have everywhere : ∀ pages, ∀ other ∈ List.replicate pages state,
      Serves read column form write accepts limit other rows := by
    intro pages other member
    rw [(List.mem_replicate.mp member).2]
    exact served
  refine ⟨orderBy column rows, items, orderBy_perm column rows, orderBy_strict served.distinct,
    mapped, ?_, ?_⟩
  · obtain ⟨pages, follows⟩ := follows_orderBy some_rows served.distinct
    have stored : (List.replicate pages state).map (fun _ => rows) = List.replicate pages rows :=
      List.map_replicate
    rw [← stored] at follows
    exact ⟨pages, follows.to_served (everywhere pages) (by rintro _ ⟨⟩) mapped⟩
  · intro pages other follows
    have unchanged : (List.replicate pages state).Pairwise (fun _ _ => Later column rows rows) :=
      List.pairwise_replicate.mpr (.inr (Later.refl rows))
    obtain ⟨final, -, found⟩ := follows.served_items some_rows (everywhere pages) unchanged
    rw [mapped] at found
    exact (Option.some.inj found).symm

end Serving

end Relational
