import Mathlib.Data.List.Nodup
import Mathlib.Logic.Function.Basic
import EidolonData.Library.Transaction

/-!
# Interleaved transactions

Any number of transactions on one store that serializes its writers and
nothing else.  A query of a transaction that has written nothing sees the
last committed state; its first write takes the one write lock on that state;
from there it works on a state of its own until it commits or is rolled back.

What the transactions do to the store is given by a description of every
client: the state it commits on, its answer and the state it leaves.  As long
as each transaction that takes the lock, or ends without having written, will
end as described, so do all of them, one after another.
-/

namespace Relational

variable {σ ε α ι : Type}

/-- A query with the answer it got. -/
structure Answered (σ : Type) : Type 1 where
  {β : Type}
  query : σ → β
  answer : β

/-- Every query would be answered the same way on this state. -/
def Current (seen : List (Answered σ)) (state : σ) : Prop :=
  ∀ answered ∈ seen, answered.query state = answered.answer

inductive Client (σ ε α : Type) : Type 1 where
  /-- It has written nothing; the answers it got, the last one first. -/
  | reading (seen : List (Answered σ)) (rest : Tx σ ε α)
  /-- It holds the write lock, with its own state. -/
  | writing (state : σ) (rest : Tx σ ε α)
  | finished (outcome : Except ε α)
  /-- Its connection gave up. -/
  | dropped

namespace Client

/-- A client that has written nothing ends with its last answer. -/
def settled (seen : List (Answered σ)) : Tx σ ε α → Client σ ε α
  | .done value => finished (.ok value)
  | .refuse error => finished (.error error)
  | rest => reading seen rest

def isWriting : Client σ ε α → Bool
  | writing _ _ => true
  | _ => false

theorem settled_eq_reading {seen seen' : List (Answered σ)} {program rest : Tx σ ε α}
    (settles : settled seen program = reading seen' rest) : seen' = seen ∧ rest = program := by
  unfold settled at settles
  split at settles
  · cases settles
  · cases settles
  · cases settles
    exact ⟨rfl, rfl⟩

end Client

/-- The clients of one store. -/
structure System (valid : σ → Prop) (ε α ι : Type) : Type 1 where
  committed : {state : σ // valid state}
  holder : Option ι
  clients : ι → Client σ ε α

/-- The answer of a client that succeeded. -/
def System.reply? {valid : σ → Prop} (system : System valid ε α ι) (client : ι) : Option α :=
  match system.clients client with
  | .finished (.ok value) => some value
  | _ => none

theorem System.reply?_eq_some_iff {valid : σ → Prop} {system : System valid ε α ι} {client : ι}
    {value : α} : system.reply? client = some value ↔
      system.clients client = .finished (.ok value) := by
  unfold System.reply?
  split
  · next result phase => simp [phase]
  · next phase =>
      constructor
      · rintro ⟨⟩
      · exact fun finished => absurd finished (phase value)

inductive Turn (ι : Type) where
  /-- The client issues its next statement, or its commit. -/
  | step (client : ι)
  | drop (client : ι)
  deriving DecidableEq

namespace System

variable {valid : σ → Prop} [DecidableEq ι]

/-- Nobody has issued a statement yet. -/
def start (programs : ι → Tx σ ε α) (committed : {state : σ // valid state}) :
    System valid ε α ι :=
  { committed := committed
    holder := none
    clients := fun client => .reading [] (programs client) }

/-- A client in its next phase, the lock taken or given back with it. -/
def put (system : System valid ε α ι) (client : ι) (phase : Client σ ε α) :
    System valid ε α ι :=
  { system with
    holder :=
      if phase.isWriting then some client
      else if system.holder = some client then none
      else system.holder
    clients := Function.update system.clients client phase }

variable [DecidablePred valid] (violated : ε)

def turn (system : System valid ε α ι) : Turn ι → System valid ε α ι
  | .step client =>
      match system.clients client with
      | .reading _ (.done value) => system.put client (.finished (.ok value))
      | .reading _ (.refuse error) => system.put client (.finished (.error error))
      | .reading seen (.select query next) =>
          let answer := query system.committed.val
          system.put client (.settled (⟨query, answer⟩ :: seen) (next answer))
      | .reading _ (.write change next) =>
          if system.holder = none then
            match change system.committed.val with
            | .ok state => system.put client (.writing state next)
            | .error error => system.put client (.finished (.error error))
          else system
      | .writing state (.done value) =>
          if accepted : valid state then
            { system with committed := ⟨state, accepted⟩ }.put client (.finished (.ok value))
          else system.put client (.finished (.error violated))
      | .writing _ (.refuse error) => system.put client (.finished (.error error))
      | .writing state (.select query next) =>
          system.put client (.writing state (next (query state)))
      | .writing state (.write change next) =>
          match change state with
          | .ok state' => system.put client (.writing state' next)
          | .error error => system.put client (.finished (.error error))
      | .finished _ => system
      | .dropped => system
  | .drop client =>
      match system.clients client with
      | .reading _ _ => system.put client .dropped
      | .writing _ _ => system.put client .dropped
      | .finished _ => system
      | .dropped => system

/-- The system after a schedule of turns. -/
def play (schedule : List (Turn ι)) (system : System valid ε α ι) : System valid ε α ι :=
  schedule.foldl (turn violated) system

/-- A condition on the system at each turn of a schedule. -/
def Along (holds : System valid ε α ι → Turn ι → Prop) :
    List (Turn ι) → System valid ε α ι → Prop
  | [], _ => True
  | next :: rest, system => holds system next ∧ Along holds rest (turn violated system next)

variable {violated}

theorem Along.preserves {holds : System valid ε α ι → Turn ι → Prop}
    {motive : System valid ε α ι → Prop}
    (preserved : ∀ system next, motive system → holds system next →
      motive (turn violated system next)) :
    ∀ (schedule : List (Turn ι)) (system : System valid ε α ι),
      Along violated holds schedule system → motive system →
        motive (play violated schedule system) := by
  intro schedule
  induction schedule with
  | nil =>
      intro system _ start
      exact start
  | cons next rest induction =>
      intro system along start
      exact induction _ along.2 (preserved system next start along.1)

theorem Along.mono {holds holds' : System valid ε α ι → Turn ι → Prop}
    (weaker : ∀ system next, holds system next → holds' system next) :
    ∀ (schedule : List (Turn ι)) (system : System valid ε α ι),
      Along violated holds schedule system → Along violated holds' schedule system := by
  intro schedule
  induction schedule with
  | nil =>
      intro _ _
      exact trivial
  | cons next rest induction =>
      intro system along
      exact ⟨weaker system next along.1, induction _ along.2⟩

/-- What one turn does to the system. -/
inductive TurnEffect (system : System valid ε α ι) : Turn ι → System valid ε α ι → Prop where
  | idle (next : Turn ι) : TurnEffect system next system
  | answered {client : ι} {seen : List (Answered σ)} {value : α}
      (phase : system.clients client = .reading seen (.done value)) :
      TurnEffect system (.step client) (system.put client (.finished (.ok value)))
  | read {client : ι} {seen : List (Answered σ)} {β : Type} {query : σ → β} {rest : β → Tx σ ε α}
      (phase : system.clients client = .reading seen (.select query rest)) :
      TurnEffect system (.step client)
        (system.put client (.settled (⟨query, query system.committed.val⟩ :: seen)
          (rest (query system.committed.val))))
  | locked {client : ι} {seen : List (Answered σ)} {change : σ → Except ε σ} {rest : Tx σ ε α}
      {state : σ} (phase : system.clients client = .reading seen (.write change rest))
      (free : system.holder = none) (changed : change system.committed.val = .ok state) :
      TurnEffect system (.step client) (system.put client (.writing state rest))
  | advanced {client : ι} {state state' : σ} {rest rest' : Tx σ ε α}
      (phase : system.clients client = .writing state rest)
      (same : rest.run state = rest'.run state') :
      TurnEffect system (.step client) (system.put client (.writing state' rest'))
  | committed {client : ι} {state : σ} {value : α} (accepted : valid state)
      (phase : system.clients client = .writing state (.done value)) :
      TurnEffect system (.step client)
        ({ system with committed := ⟨state, accepted⟩ }.put client (.finished (.ok value)))
  | ended {next : Turn ι} {client : ι} {phase : Client σ ε α}
      (unsuccessful : phase = .dropped ∨ ∃ error, phase = .finished (.error error))
      (running : (∃ seen rest, system.clients client = .reading seen rest) ∨
        ∃ state rest, system.clients client = .writing state rest) :
      TurnEffect system next (system.put client phase)

variable (violated) in
theorem turn_effect (system : System valid ε α ι) (next : Turn ι) :
    TurnEffect system next (turn violated system next) := by
  cases next with
  | drop client =>
      rw [turn]
      split
      · next seen rest phase => exact .ended (Or.inl rfl) (Or.inl ⟨seen, rest, phase⟩)
      · next state rest phase => exact .ended (Or.inl rfl) (Or.inr ⟨state, rest, phase⟩)
      · exact .idle _
      · exact .idle _
  | step client =>
      have refused : ∀ error : ε,
          ((.finished (.error error) : Client σ ε α) = .dropped) ∨
            ∃ error', (.finished (.error error) : Client σ ε α) = .finished (.error error') :=
        fun error => Or.inr ⟨error, rfl⟩
      rw [turn]
      split
      · next seen value phase => exact .answered phase
      · next seen error phase => exact .ended (refused error) (Or.inl ⟨_, _, phase⟩)
      · next seen query rest phase => exact .read phase
      · next seen change rest phase =>
          split
          · next free =>
              split
              · next state changed => exact .locked phase free changed
              · next error changed => exact .ended (refused error) (Or.inl ⟨_, _, phase⟩)
          · exact .idle _
      · next state value phase =>
          split
          · next accepted => exact .committed accepted phase
          · exact .ended (refused violated) (Or.inr ⟨_, _, phase⟩)
      · next state error phase => exact .ended (refused error) (Or.inr ⟨_, _, phase⟩)
      · next state query rest phase => exact .advanced phase rfl
      · next state change rest phase =>
          split
          · next state' changed =>
              refine .advanced phase ?_
              simp only [Tx.run, changed]
          · next error changed => exact .ended (refused error) (Or.inr ⟨_, _, phase⟩)
      · exact .idle _
      · exact .idle _

theorem along_append {holds : System valid ε α ι → Turn ι → Prop} :
    ∀ (first second : List (Turn ι)) (system : System valid ε α ι),
      Along violated holds (first ++ second) system ↔
        Along violated holds first system ∧
          Along violated holds second (play violated first system) := by
  intro first second
  induction first with
  | nil =>
      intro system
      exact (and_iff_right trivial).symm
  | cons next rest induction =>
      intro system
      exact (and_congr_right fun _ => induction _).trans and_assoc.symm

variable (violated) in
theorem play_append (first second : List (Turn ι)) (system : System valid ε α ι) :
    play violated (first ++ second) system = play violated second (play violated first system) :=
  List.foldl_append

section Put

omit [DecidablePred valid]

variable (system : System valid ε α ι) (client : ι) (phase : Client σ ε α)

@[simp] theorem put_committed : (system.put client phase).committed = system.committed := rfl

@[simp] theorem put_self : (system.put client phase).clients client = phase := by
  simp [put]

@[simp] theorem put_other {other : ι} (different : other ≠ client) :
    (system.put client phase).clients other = system.clients other := by
  simp [put, different]

variable {system client phase}

theorem put_holder_other {other : ι} (different : other ≠ client) (quiet : phase.isWriting = false)
    (holds : system.holder = some other) : (system.put client phase).holder = some other := by
  have notSelf : ¬ other = client := different
  simp [put, quiet, holds, notSelf]

end Put

theorem turn_other {system : System valid ε α ι} {next : Turn ι} {client : ι}
    (notStep : next ≠ .step client)
    (notDrop : next ≠ .drop client) :
    (turn violated system next).clients client = system.clients client := by
  cases next with
  | drop other =>
      have different : client ≠ other := fun same => notDrop (congrArg Turn.drop same.symm)
      rw [turn]
      split
      · exact put_other _ _ _ different
      · exact put_other _ _ _ different
      · rfl
      · rfl
  | step other =>
      have different : client ≠ other := fun same => notStep (congrArg Turn.step same.symm)
      rw [turn]
      split
      · exact put_other _ _ _ different
      · exact put_other _ _ _ different
      · exact put_other _ _ _ different
      · split
        · split
          · exact put_other _ _ _ different
          · exact put_other _ _ _ different
        · rfl
      · split
        · exact put_other _ _ _ different
        · exact put_other _ _ _ different
      · exact put_other _ _ _ different
      · exact put_other _ _ _ different
      · split
        · exact put_other _ _ _ different
        · exact put_other _ _ _ different
      · rfl
      · rfl

variable (violated) in
theorem turn_select {system : System valid ε α ι} {client : ι} {seen : List (Answered σ)}
    {β : Type} {query : σ → β} {next : β → Tx σ ε α}
    (phase : system.clients client = .reading seen (.select query next)) :
    (turn violated system (.step client)).committed = system.committed ∧
      (turn violated system (.step client)).clients client =
        .settled (⟨query, query system.committed.val⟩ :: seen)
          (next (query system.committed.val)) := by
  simp only [turn, phase, put_committed, put_self, and_self]

variable (violated) in
theorem play_other (turns : Nat) (system : System valid ε α ι) {client other : ι}
    (different : other ≠ client) :
    (play violated (List.replicate turns (.step client)) system).clients other =
      system.clients other := by
  induction turns generalizing system with
  | zero => rfl
  | succ turns induction =>
      have apart : Turn.step client ≠ .step other := by
        rintro ⟨⟩
        exact different rfl
      exact (induction _).trans (turn_other apart (by rintro ⟨⟩))

variable (violated) in
/-- An answer is kept. -/
theorem reply?_turn {system : System valid ε α ι} {client : ι} {value : α}
    (replied : system.reply? client = some value) (next : Turn ι) :
    (turn violated system next).reply? client = some value := by
  rw [reply?_eq_some_iff] at replied ⊢
  have effect := turn_effect violated system next
  generalize System.turn violated system next = system' at effect ⊢
  have kept : ∀ {mover : ι} {phase : Client σ ε α},
      (∀ value, system.clients mover ≠ .finished (.ok value)) →
      (system.put mover phase).clients client = .finished (.ok value) := by
    intro mover phase running
    have different : client ≠ mover := by
      rintro rfl
      exact running value replied
    rw [put_other _ _ _ different]
    exact replied
  cases effect with
  | idle => exact replied
  | answered phase => exact kept (by simp [phase])
  | read phase => exact kept (by simp [phase])
  | locked phase => exact kept (by simp [phase])
  | advanced phase => exact kept (by simp [phase])
  | @committed mover state result accepted phase =>
      have different : client ≠ mover := by
        rintro rfl
        rw [phase] at replied
        cases replied
      exact (put_other _ _ _ different).trans replied
  | ended unsuccessful running =>
      apply kept
      intro result finished
      rcases running with ⟨seen, rest, reading⟩ | ⟨state, rest, writing⟩
      · rw [finished] at reading
        cases reading
      · rw [finished] at writing
        cases writing

variable (violated) in
theorem reply?_play {client : ι} {value : α} (schedule : List (Turn ι))
    {system : System valid ε α ι} (replied : system.reply? client = some value) :
    (play violated schedule system).reply? client = some value := by
  induction schedule generalizing system with
  | nil => exact replied
  | cons next rest induction => exact induction (reply?_turn violated replied next)

end System

namespace System

variable {valid : σ → Prop}

/-- Successful transactions one after another, each as described of its client. -/
inductive Follows (post : ι → σ → α → σ → Prop) (origin : {state : σ // valid state}) :
    List (ι × α) → {state : σ // valid state} → Prop where
  | start : Follows post origin [] origin
  | commit {order : List (ι × α)} {state state' : {state : σ // valid state}} {client : ι}
      {value : α} (before : Follows post origin order state)
      (made : post client state.val value state'.val) :
      Follows post origin (order ++ [(client, value)]) state'

namespace Follows

variable {post : ι → σ → α → σ → Prop} {origin state : {state : σ // valid state}}
  {order : List (ι × α)}

theorem preserves (holds : {state : σ // valid state} → Prop) (starts : holds origin)
    (kept : ∀ client (before after : {state : σ // valid state}) value, holds before →
      post client before.val value after.val → holds after)
    (follows : Follows post origin order state) : holds state := by
  induction follows with
  | start => exact starts
  | commit before made held => exact kept _ _ _ _ held made

theorem append {order' : List (ι × α)} {state' : {state : σ // valid state}}
    (before : Follows post origin order state) (after : Follows post state order' state') :
    Follows post origin (order ++ order') state' := by
  induction after with
  | start =>
      rw [List.append_nil]
      exact before
  | commit _ made induction =>
      rw [← List.append_assoc]
      exact induction.commit made

/-- One of the transactions, with what came before it and after it. -/
theorem split {client : ι} {value : α} (follows : Follows post origin order state)
    (member : (client, value) ∈ order) : ∃ before after : {state : σ // valid state},
      (∃ earlier, Follows post origin earlier before) ∧
        post client before.val value after.val ∧ ∃ later, Follows post after later state := by
  induction follows with
  | start => cases member
  | @commit order middle last other answer follows made induction =>
      rw [List.mem_append, List.mem_singleton] at member
      rcases member with earlier | final
      · obtain ⟨before, after, reached, was, later, rest⟩ := induction earlier
        exact ⟨before, after, reached, was, _, rest.commit made⟩
      · cases final
        exact ⟨middle, last, ⟨order, follows⟩, made, [], .start⟩

end Follows

end System

/-- The transaction takes the lock, or ends, with its next statement. -/
def Tx.Decides (free : Prop) (state : σ) : Tx σ ε α → Prop
  | .done _ => True
  | .refuse _ => False
  | .select query next => ∃ value, next (query state) = .done value
  | .write change _ => free ∧ ∃ state', change state = .ok state'

namespace System

variable {valid : σ → Prop} [DecidableEq ι] (post : ι → σ → α → σ → Prop)

/-- What is left of a transaction that decides ends as described. -/
def Described (system : System valid ε α ι) (next : Turn ι) : Prop :=
  ∀ client, next = .step client → ∀ seen rest, system.clients client = .reading seen rest →
    rest.Decides (system.holder = none) system.committed.val →
      rest.Ensures system.committed.val (post client system.committed.val)

/-- The transactions that succeeded, in the order of their success, follow one
another as described; so will the one that holds the lock. -/
structure Followed (origin : {state : σ // valid state}) (system : System valid ε α ι) :
    Prop where
  order : ∃ order : List (ι × α), (order.map Prod.fst).Nodup ∧
    (∀ client value, (client, value) ∈ order ↔
      system.clients client = .finished (.ok value)) ∧
    Follows post origin order system.committed
  lock : ∀ client state rest, system.clients client = .writing state rest →
    system.holder = some client ∧ rest.Ensures state (post client system.committed.val)

variable {post} {origin : {state : σ // valid state}} {system : System valid ε α ι}

omit [DecidableEq ι] in
theorem followed_start (programs : ι → Tx σ ε α) (origin : {state : σ // valid state}) :
    Followed post origin (start programs origin) := by
  refine { order := ⟨[], List.nodup_nil, ?_, .start⟩, lock := ?_ }
  · intro client value
    constructor
    · intro member
      cases member
    · intro finished
      cases finished
  · intro client state rest writing
    cases writing

omit [DecidableEq ι] in
theorem Followed.eq_of_writing (followed : Followed post origin system)
    {client other : ι} {state state' : σ} {rest rest' : Tx σ ε α}
    (writing : system.clients client = .writing state rest)
    (otherWriting : system.clients other = .writing state' rest') : other = client := by
  have held := (followed.lock client state rest writing).1
  rw [(followed.lock other state' rest' otherWriting).1] at held
  exact Option.some.inj held

/-- A client moves on without success; the others and the store stay. -/
theorem Followed.put (followed : Followed post origin system) {client : ι}
    {phase : Client σ ε α} (running : ∀ value, system.clients client ≠ .finished (.ok value))
    (unsuccessful : ∀ value, phase ≠ .finished (.ok value))
    (lock : ∀ state rest, phase = .writing state rest →
      (∀ other, other ≠ client → ∀ state rest, system.clients other ≠ .writing state rest) ∧
        rest.Ensures state (post client system.committed.val)) :
    Followed post origin (system.put client phase) := by
  obtain ⟨order, once, members, follows⟩ := followed.order
  refine { order := ⟨order, once, ?_, follows⟩, lock := ?_ }
  · intro other value
    rw [members]
    by_cases same : other = client
    · subst same
      rw [put_self]
      exact ⟨fun finished => absurd finished (running value),
        fun finished => absurd finished (unsuccessful value)⟩
    · rw [put_other _ _ _ same]
  · intro other state rest writing
    by_cases same : other = client
    · subst same
      rw [put_self] at writing
      subst writing
      refine ⟨?_, (lock state rest rfl).2⟩
      simp [System.put, Client.isWriting]
    · rw [put_other _ _ _ same] at writing
      obtain ⟨held, agrees⟩ := followed.lock other state rest writing
      refine ⟨?_, agrees⟩
      cases quiet : phase.isWriting with
      | false => exact put_holder_other same quiet held
      | true =>
          cases phase with
          | writing state' rest' => exact absurd writing ((lock state' rest' rfl).1 other same _ _)
          | reading => cases quiet
          | finished => cases quiet
          | dropped => cases quiet

theorem Followed.succeed (followed : Followed post origin system) {client : ι}
    {value : α} {final : {state : σ // valid state}}
    (running : ∀ value, system.clients client ≠ .finished (.ok value))
    (made : post client system.committed.val value final.val)
    (alone : final = system.committed ∨
      ∀ other, other ≠ client → ∀ state rest, system.clients other ≠ .writing state rest) :
    Followed post origin
      ({ system with committed := final }.put client (.finished (.ok value))) := by
  obtain ⟨order, once, members, follows⟩ := followed.order
  have fresh : client ∉ order.map Prod.fst := by
    intro member
    obtain ⟨⟨_, value'⟩, listed, rfl⟩ := List.mem_map.mp member
    exact running value' ((members _ _).mp listed)
  refine { order := ⟨order ++ [(client, value)], ?_, ?_, ?_⟩, lock := ?_ }
  · rw [List.map_append, List.map_singleton, List.nodup_append]
    refine ⟨once, List.nodup_singleton _, ?_⟩
    intro other member last lastMember same
    rw [List.mem_singleton] at lastMember
    rw [same, lastMember] at member
    exact fresh member
  · intro other value'
    rw [List.mem_append, List.mem_singleton, members, Prod.mk.injEq]
    by_cases same : other = client
    · subst same
      rw [put_self]
      constructor
      · rintro (finished | ⟨-, rfl⟩)
        · exact absurd finished (running value')
        · rfl
      · rintro ⟨⟩
        exact Or.inr ⟨rfl, rfl⟩
    · rw [put_other _ _ _ same]
      constructor
      · rintro (finished | ⟨equal, -⟩)
        · exact finished
        · exact absurd equal same
      · exact Or.inl
  · exact .commit follows made
  · intro other state rest writing
    by_cases same : other = client
    · subst same
      rw [put_self] at writing
      cases writing
    · rw [put_other _ _ _ same] at writing
      obtain ⟨held, agrees⟩ := followed.lock other state rest writing
      rcases alone with unchanged | noOther
      · subst unchanged
        exact ⟨put_holder_other same rfl held, agrees⟩
      · exact absurd writing (noOther other same state rest)

variable [DecidablePred valid] {violated : ε}

/-- A turn of a transaction that ends as described keeps the order of the
successes. -/
theorem Followed.turn (followed : Followed post origin system)
    {next : Turn ι} (described : Described post system next) :
    Followed post origin (turn violated system next) := by
  have noOther : ∀ {client : ι}, (∃ state rest, system.clients client = .writing state rest) →
      ∀ other, other ≠ client → ∀ state rest, system.clients other ≠ .writing state rest := by
    rintro client ⟨state, rest, writing⟩ other different state' rest' otherWriting
    exact different (followed.eq_of_writing writing otherWriting)
  have effect := turn_effect violated system next
  generalize System.turn violated system next = system' at effect ⊢
  cases effect with
  | idle => exact followed
  | @answered client seen value phase =>
      have made := described client rfl seen _ phase trivial value _ rfl
      exact followed.succeed (by simp [phase]) made (Or.inl rfl)
  | @read client seen β query rest phase =>
      have decides := described client rfl seen _ phase
      cases settles : rest (query system.committed.val) with
      | done value =>
          have made := decides ⟨value, settles⟩ value system.committed.val
            (by simp only [Tx.run, settles])
          exact followed.succeed (by simp [phase]) made (Or.inl rfl)
      | refuse error =>
          exact followed.put (by simp [phase]) (by simp [Client.settled]) (by simp [Client.settled])
      | select query' rest' =>
          exact followed.put (by simp [phase]) (by simp [Client.settled]) (by simp [Client.settled])
      | write change rest' =>
          exact followed.put (by simp [phase]) (by simp [Client.settled]) (by simp [Client.settled])
  | @locked client seen change rest state phase free changed =>
      refine followed.put (by simp [phase]) (by simp) ?_
      rintro _ _ ⟨⟩
      constructor
      · intro other _ state' rest' writing
        have held := (followed.lock other state' rest' writing).1
        rw [free] at held
        cases held
      · intro value final ran
        apply described client rfl seen _ phase ⟨free, state, changed⟩ value final
        simp only [Tx.run, changed, ran]
  | @advanced client state state' rest rest' phase same =>
      refine followed.put (by simp [phase]) (by simp) ?_
      rintro _ _ ⟨⟩
      refine ⟨noOther ⟨state, rest, phase⟩, ?_⟩
      intro value final ran
      exact (followed.lock client state rest phase).2 value final (same.trans ran)
  | @committed client state value accepted phase =>
      have made := (followed.lock client state _ phase).2 value state rfl
      exact followed.succeed (by simp [phase]) made (Or.inr (noOther ⟨state, _, phase⟩))
  | @ended _ client phase unsuccessful running =>
      refine followed.put ?_ ?_ ?_
      · intro value finished
        rcases running with ⟨seen, rest, reading⟩ | ⟨state, rest, writing⟩
        · rw [finished] at reading
          cases reading
        · rw [finished] at writing
          cases writing
      · rcases unsuccessful with rfl | ⟨error, rfl⟩
        · simp
        · simp
      · rcases unsuccessful with rfl | ⟨error, rfl⟩
        · simp
        · simp

/-- What holds of the clients that have written nothing, a turn preserves when
an answer from the committed state does. -/
theorem reading_turn (holds : ι → List (Answered σ) → Tx σ ε α → Prop)
    (reading : ∀ client seen rest, system.clients client = .reading seen rest →
      holds client seen rest)
    (answered : ∀ client seen {β : Type} (query : σ → β) (rest : β → Tx σ ε α),
      holds client seen (.select query rest) →
        holds client (⟨query, query system.committed.val⟩ :: seen)
          (rest (query system.committed.val)))
    (next : Turn ι) :
    ∀ client seen rest, (turn violated system next).clients client = .reading seen rest →
      holds client seen rest := by
  have effect := turn_effect violated system next
  generalize System.turn violated system next = system' at effect ⊢
  have moved : ∀ {mover : ι} {phase : Client σ ε α},
      (∀ seen rest, phase = .reading seen rest → holds mover seen rest) →
      ∀ client seen rest, (system.put mover phase).clients client = .reading seen rest →
        holds client seen rest := by
    intro mover phase moverHolds client seen rest found
    by_cases same : client = mover
    · subst same
      rw [put_self] at found
      exact moverHolds seen rest found
    · rw [put_other _ _ _ same] at found
      exact reading client seen rest found
  cases effect with
  | idle => exact reading
  | answered phase =>
      apply moved
      rintro _ _ ⟨⟩
  | @read client seen β query rest phase =>
      apply moved
      intro seen' rest' settles
      obtain ⟨rfl, rfl⟩ := Client.settled_eq_reading settles
      exact answered client seen query rest (reading client seen _ phase)
  | locked phase free changed =>
      apply moved
      rintro _ _ ⟨⟩
  | advanced phase same =>
      apply moved
      rintro _ _ ⟨⟩
  | @committed client state value accepted phase =>
      have finished : ∀ seen rest, (.finished (.ok value) : Client σ ε α) = .reading seen rest →
          holds client seen rest := by
        rintro _ _ ⟨⟩
      exact moved finished
  | ended unsuccessful running =>
      apply moved
      rintro seen rest rfl
      rcases unsuccessful with gone | ⟨error, refused⟩
      · cases gone
      · cases refused

end System

end Relational
