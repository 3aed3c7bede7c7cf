import VolumeBackup.LabelledRuns
import VolumeBackup.TaskContext

namespace VolumeBackup
open LabelledRuns

-- The functions of BlockingQueue<T> that can be called, and where a call is: before its mutex, in the wait of
-- one of the two conditions, which has released the mutex, or back.
inductive QueueCall (T : Type) where
  | BlockingPush (v : T) | BlockingPop | TryBlockingPush (v : T) | TryBlockingPop | Finish
  deriving DecidableEq, Repr

inductive CallPc (T : Type) where
  | lock (call : QueueCall T)
  | notFull (v : T)
  | notEmpty
  | returned
  deriving DecidableEq, Repr

inductive QueueEvent (T : Type) where
  | accepted (v : T) | refused (v : T) | popped (v : T) | drained | missed | finished
  deriving DecidableEq, Repr

structure CallQueue (T : Type) where
  m_queue : List T
  m_finished : Bool
  m_maxSize : Nat
  calls : List (CallPc T)
  history : List (QueueEvent T)
  deriving DecidableEq, Repr

section machine
variable {T : Type}

def CallQueue.new (maxSize : Nat) : CallQueue T := ⟨[],false,maxSize,[],[]⟩

def CallQueue.moves (s : CallQueue T) (k : Nat) (pc : CallPc T) : CallQueue T := {s with calls := s.calls.set k pc}

def CallQueue.returns (s : CallQueue T) (k : Nat) (event : QueueEvent T) : CallQueue T :=
  {s with calls := s.calls.set k .returned,history := s.history++[event]}

-- From m_notFull.wait to the end: the predicate is looked at with the mutex held, m_finished is not.
def CallQueue.pushWhenNotFull (s : CallQueue T) (k : Nat) (v : T) : CallQueue T :=
  if s.m_queue.length < s.m_maxSize then {s with m_queue := s.m_queue++[v]}.returns k (.accepted v)
  else s.moves k (.notFull v)

def CallQueue.popWhenNotEmpty (s : CallQueue T) (k : Nat) : CallQueue T :=
  match s.m_queue with
  | [] => if s.m_finished then s.returns k .drained else s.moves k .notEmpty
  | v::rest => {s with m_queue := rest}.returns k (.popped v)

-- A call gets the mutex, and keeps it until it returns or waits. One that waits gets it back when it is
-- woken, by a notification or by none, and looks at its condition again.
def CallQueue.run (s : CallQueue T) (k : Nat) : Option (CallQueue T) :=
  match s.calls[k]? with
  | some (.lock (.BlockingPush v)) => some (if s.m_finished then s.returns k (.refused v) else s.pushWhenNotFull k v)
  | some (.notFull v) => some (s.pushWhenNotFull k v)
  | some (.lock .BlockingPop) | some .notEmpty => some (s.popWhenNotEmpty k)
  | some (.lock (.TryBlockingPush v)) =>
    some (if s.m_finished ∨ s.m_maxSize ≤ s.m_queue.length then s.returns k (.refused v)
      else {s with m_queue := s.m_queue++[v]}.returns k (.accepted v))
  | some (.lock .TryBlockingPop) =>
    match s.m_queue with
    | [] => some (s.returns k .missed)
    | v::rest => some ({s with m_queue := rest}.returns k (.popped v))
  | some (.lock .Finish) => some ({s with m_finished := true}.returns k .finished)
  | some .returned | none => none

inductive QueueAction (T : Type) where
  | call (call : QueueCall T)
  | run (k : Nat)

def queueStep (s : CallQueue T) : QueueAction T → Option (CallQueue T)
  | .call call => some {s with calls := s.calls++[.lock call]}
  | .run k => s.run k

def accepted (history : List (QueueEvent T)) : List T := history.filterMap fun
  | .accepted v => some v
  | _ => none

def popped (history : List (QueueEvent T)) : List T := history.filterMap fun
  | .popped v => some v
  | _ => none

-- The queue hands out what it has accepted, in order; it is never longer than it may be; nothing is accepted
-- after Finish; and after a BlockingPop that has returned false nothing is accepted or popped.
structure ShutsCleanly (s : CallQueue T) : Prop where
  ordered : popped s.history <+: accepted s.history
  bounded : s.m_queue.length ≤ s.m_maxSize
  closed : s.history.Pairwise fun first later => first = .finished → ∀ v, later ≠ .accepted v
  quiet : s.history.Pairwise fun first later => first = .drained → ∀ v, later ≠ .accepted v ∧ later ≠ .popped v

def CallPc.waitsForRoom : CallPc T → Bool
  | .notFull _ => true
  | _ => false

def FinishesAlone (s : CallQueue T) : QueueAction T → Prop
  | .call _ => True
  | .run k => s.calls[k]? = some (.lock .Finish) → ∀ pc ∈ s.calls, pc.waitsForRoom = false

instance decidableFinishesAlone [DecidableEq T] {s : CallQueue T} {action : QueueAction T} : Decidable (FinishesAlone s action) :=
  match action with
  | .call _ => inferInstanceAs (Decidable True)
  | .run k => inferInstanceAs (Decidable (s.calls[k]? = some (.lock .Finish) → ∀ pc ∈ s.calls, pc.waitsForRoom = false))

inductive CallStep (s : CallQueue T) (k : Nat) : CallQueue T → Prop where
  | accept (opened : s.m_finished = false ∨ .notFull v ∈ s.calls) (room : s.m_queue.length < s.m_maxSize) :
      CallStep s k ({s with m_queue := s.m_queue++[v]}.returns k (.accepted v))
  | full (opened : s.m_finished = false ∨ .notFull v ∈ s.calls) : CallStep s k (s.moves k (.notFull v))
  | pop (first : s.m_queue = v::rest) : CallStep s k ({s with m_queue := rest}.returns k (.popped v))
  | drain (empty : s.m_queue = []) (finished : s.m_finished = true) : CallStep s k (s.returns k .drained)
  | empty : CallStep s k (s.moves k .notEmpty)
  | refuse : CallStep s k (s.returns k (.refused v))
  | miss : CallStep s k (s.returns k .missed)
  | finish (here : s.calls[k]? = some (.lock .Finish)) : CallStep s k ({s with m_finished := true}.returns k .finished)

variable {s t : CallQueue T} {v : T} {k : Nat}

theorem push_step (opened : s.m_finished = false ∨ .notFull v ∈ s.calls) : CallStep s k (s.pushWhenNotFull k v) := by
  unfold CallQueue.pushWhenNotFull
  split
  · rename_i room
    exact .accept opened room
  · exact .full opened

theorem pop_step : CallStep s k (s.popWhenNotEmpty k) := by
  unfold CallQueue.popWhenNotEmpty
  split
  · rename_i empty
    split
    · rename_i finished
      exact .drain empty finished
    · exact .empty
  · rename_i first
    exact .pop first

theorem run_sound (ran : s.run k = some t) : CallStep s k t := by
  unfold CallQueue.run at ran
  split at ran
  · cases ran
    split
    · exact .refuse
    · rename_i going
      apply push_step
      simp only [Bool.not_eq_true] at going
      exact .inl going
  · rename_i here
    cases ran
    exact push_step (.inr (List.mem_of_getElem? here))
  · cases ran
    exact pop_step
  · cases ran
    exact pop_step
  · cases ran
    split
    · exact .refuse
    · rename_i room
      rw [not_or,Bool.not_eq_true,Nat.not_le] at room
      exact .accept (.inl room.1) room.2
  · split at ran
    · cases ran
      exact .miss
    · rename_i first
      cases ran
      exact .pop first
  · rename_i here
    cases ran
    exact .finish here
  · cases ran
  · cases ran

theorem accepted_append {history : List (QueueEvent T)} : accepted (history++[event]) = accepted history++accepted [event] :=
  List.filterMap_append

theorem popped_append {history : List (QueueEvent T)} : popped (history++[event]) = popped history++popped [event] :=
  List.filterMap_append

structure Fifo (s : CallQueue T) : Prop where
  whole : accepted s.history = popped s.history++s.m_queue
  bounded : s.m_queue.length ≤ s.m_maxSize

theorem Fifo.new : Fifo (.new maxSize : CallQueue T) := ⟨rfl,Nat.zero_le _⟩

theorem Fifo.step (fifo : Fifo s) (step : CallStep s k t) : Fifo t := by
  obtain ⟨whole,bounded⟩ := fifo
  cases step with
  | accept opened room =>
      refine ⟨?_,?_⟩
      · simp only [CallQueue.returns,accepted_append,popped_append,whole]
        simp [accepted,popped]
      · simp only [CallQueue.returns,List.length_append,List.length_singleton]
        exact room
  | pop first =>
      rw [first] at whole bounded
      refine ⟨?_,?_⟩
      · simp only [CallQueue.returns,accepted_append,popped_append,whole]
        simp [accepted,popped]
      · rw [List.length_cons] at bounded
        exact Nat.le_of_succ_le bounded
  | drain | refuse | miss | finish =>
      refine ⟨?_,bounded⟩
      simp only [CallQueue.returns,accepted_append,popped_append,whole]
      simp [accepted,popped]
  | full | empty => exact ⟨whole,bounded⟩

theorem Fifo.next (fifo : Fifo s) (ran : queueStep s action = some t) : Fifo t := by
  cases action with
  | call call =>
      cases ran
      exact ⟨fifo.whole,fifo.bounded⟩
  | run k => exact fifo.step (run_sound ran)

theorem queueStep_size (ran : queueStep s action = some t) : t.m_maxSize = s.m_maxSize := by
  cases action with
  | call call =>
      cases ran
      rfl
  | run k => cases run_sound ran <;> rfl

-- What holds as long as Finish finds no push waiting: the end that it puts to the queue is kept.
structure Shut (s : CallQueue T) : Prop where
  alone : s.m_finished = true → ∀ v, .notFull v ∉ s.calls
  finished : .finished ∈ s.history → s.m_finished = true
  drained : .drained ∈ s.history → s.m_finished = true ∧ s.m_queue = []
  closed : s.history.Pairwise fun first later => first = .finished → ∀ v, later ≠ .accepted v
  quiet : s.history.Pairwise fun first later => first = .drained → ∀ v, later ≠ .accepted v ∧ later ≠ .popped v

theorem Shut.new : Shut (.new maxSize : CallQueue T) := ⟨nofun,nofun,nofun,.nil,.nil⟩

theorem pairwise_last {related : QueueEvent T → QueueEvent T → Prop} {history : List (QueueEvent T)}
    (ordered : history.Pairwise related) (last : ∀ first ∈ history, related first event) :
    (history++[event]).Pairwise related := by
  apply List.pairwise_append.mpr
  refine ⟨ordered,List.pairwise_singleton _ _,?_⟩
  intro first inside later now
  rw [List.mem_singleton.mp now]
  exact last first inside

theorem mem_earlier {first last : QueueEvent T} {history : List (QueueEvent T)} (inside : first ∈ history++[last]) (other : first ≠ last) :
    first ∈ history :=
  (List.mem_append.mp inside).resolve_right fun now => other (List.mem_singleton.mp now)

theorem mem_returned {calls : List (CallPc T)} (inside : .notFull v ∈ calls.set k .returned) : .notFull v ∈ calls :=
  (List.mem_or_eq_of_mem_set inside).resolve_right nofun

theorem Shut.opened (shut : Shut s) (opened : s.m_finished = false ∨ .notFull v ∈ s.calls) : s.m_finished = false := by
  rcases opened with going | waiting
  · exact going
  · apply Bool.eq_false_iff.mpr
    intro finished
    exact shut.alone finished v waiting

theorem Shut.step (shut : Shut s) (step : CallStep s k t)
    (allowed : s.calls[k]? = some (.lock .Finish) → ∀ pc ∈ s.calls, pc.waitsForRoom = false) : Shut t := by
  cases step with
  | accept opened room =>
      have going := shut.opened opened
      have unfinished : ∀ first ∈ s.history, first ≠ .finished := by
        rintro first inside rfl
        exact absurd (shut.finished inside) (by simp [going])
      have undrained : ∀ first ∈ s.history, first ≠ .drained := by
        rintro first inside rfl
        exact absurd (shut.drained inside).1 (by simp [going])
      refine ⟨?_,?_,?_,?_,?_⟩
      · intro finished
        exact absurd finished (by simp [CallQueue.returns,going])
      · intro inside
        exact absurd rfl (unfinished _ (mem_earlier inside nofun))
      · intro inside
        exact absurd rfl (undrained _ (mem_earlier inside nofun))
      · exact pairwise_last shut.closed fun first inside same => absurd same (unfinished first inside)
      · exact pairwise_last shut.quiet fun first inside same => absurd same (undrained first inside)
  | full opened =>
      have going := shut.opened opened
      refine ⟨?_,shut.finished,shut.drained,shut.closed,shut.quiet⟩
      intro finished
      exact absurd finished (by simp [CallQueue.moves,going])
  | pop first =>
      have undrained : ∀ event ∈ s.history, event ≠ .drained := by
        rintro event inside rfl
        have empty := (shut.drained inside).2
        rw [first] at empty
        cases empty
      refine ⟨?_,?_,?_,?_,?_⟩
      · intro finished v waiting
        exact shut.alone finished v (mem_returned waiting)
      · intro inside
        exact shut.finished (mem_earlier inside nofun)
      · intro inside
        exact absurd rfl (undrained _ (mem_earlier inside nofun))
      · exact pairwise_last shut.closed fun _ _ _ _ => nofun
      · exact pairwise_last shut.quiet fun first inside same => absurd same (undrained first inside)
  | drain empty finished =>
      refine ⟨?_,?_,fun _ => ⟨finished,empty⟩,?_,?_⟩
      · intro finished v waiting
        exact shut.alone finished v (mem_returned waiting)
      · exact fun _ => finished
      · exact pairwise_last shut.closed fun _ _ _ _ => nofun
      · exact pairwise_last shut.quiet fun _ _ _ _ => ⟨nofun,nofun⟩
  | empty =>
      refine ⟨?_,shut.finished,shut.drained,shut.closed,shut.quiet⟩
      intro finished v waiting
      exact shut.alone finished v ((List.mem_or_eq_of_mem_set waiting).resolve_right nofun)
  | refuse | miss =>
      refine ⟨?_,?_,?_,?_,?_⟩
      · intro finished v waiting
        exact shut.alone finished v (mem_returned waiting)
      · intro inside
        exact shut.finished (mem_earlier inside nofun)
      · intro inside
        exact shut.drained (mem_earlier inside nofun)
      · exact pairwise_last shut.closed fun _ _ _ _ => nofun
      · exact pairwise_last shut.quiet fun _ _ _ _ => ⟨nofun,nofun⟩
  | finish here =>
      refine ⟨?_,fun _ => rfl,?_,?_,?_⟩
      · intro _ v waiting
        have idle := allowed here _ (mem_returned waiting)
        cases idle
      · intro inside
        exact ⟨rfl,(shut.drained (mem_earlier inside nofun)).2⟩
      · exact pairwise_last shut.closed fun _ _ _ _ => nofun
      · exact pairwise_last shut.quiet fun _ _ _ _ => ⟨nofun,nofun⟩

theorem Shut.next (shut : Shut s) (ran : queueStep s action = some t) (allowed : FinishesAlone s action) : Shut t := by
  cases action with
  | call call =>
      cases ran
      refine ⟨?_,shut.finished,shut.drained,shut.closed,shut.quiet⟩
      intro finished v waiting
      exact shut.alone finished v ((List.mem_append.mp waiting).resolve_right (by simp))
  | run k => exact shut.step (run_sound ran) allowed

theorem Shut.cleanly (shut : Shut s) (fifo : Fifo s) : ShutsCleanly s :=
  ⟨⟨s.m_queue,fifo.whole.symm⟩,fifo.bounded,shut.closed,shut.quiet⟩

theorem late_push (finished : .finished ∈ s.history) (waiting : s.calls[k]? = some (.notFull v))
    (room : s.m_queue.length < s.m_maxSize) : ∃ t, queueStep s (.run k) = some t ∧ ¬ShutsCleanly t := by
  refine ⟨{s with m_queue := s.m_queue++[v]}.returns k (.accepted v),?_,?_⟩
  · simp only [queueStep,CallQueue.run,waiting,CallQueue.pushWhenNotFull,if_pos room]
  · intro cleanly
    have order := (List.pairwise_append.mp cleanly.closed).2.2 .finished finished (.accepted v) (List.mem_singleton.mpr rfl)
    exact order rfl v rfl

theorem calls_last {calls : List (CallPc T)} {pc : CallPc T} : (calls++[pc])[calls.length]? = some pc := by simp

theorem calls_kept {calls : List (CallPc T)} {pc : CallPc T} (here : calls[k]? = some (.notFull v)) :
    ((calls++[pc]).set calls.length .returned)[k]? = some (.notFull v) := by
  obtain ⟨bound,same⟩ := List.getElem?_eq_some_iff.mp here
  rw [List.getElem?_set_ne (Nat.ne_of_gt bound),List.getElem?_append_left bound]
  exact here

theorem finish_unclean (positive : 1 ≤ s.m_maxSize) (fifo : Fifo s) (waiting : s.calls[k]? = some (.notFull v)) :
    ∃ more t, Runs queueStep Anything s more t ∧ .call .Finish ∈ more ∧ ¬ShutsCleanly t := by
  have called : queueStep s (.call .Finish) = some {s with calls := s.calls++[.lock .Finish]} := rfl
  have finishes : queueStep {s with calls := s.calls++[.lock .Finish]} (.run s.calls.length) =
      some (CallQueue.returns {s with m_finished := true,calls := s.calls++[.lock .Finish]} s.calls.length .finished) := by
    simp only [queueStep,CallQueue.run,calls_last]
  generalize finished : CallQueue.returns {s with m_finished := true,calls := s.calls++[.lock .Finish]} s.calls.length .finished = u
    at finishes
  have waits : u.calls[k]? = some (.notFull v) := by
    rw [← finished]
    exact calls_kept waiting
  have recorded : .finished ∈ u.history := by
    rw [← finished]
    simp [CallQueue.returns]
  have queue : u.m_queue = s.m_queue := by rw [← finished]; rfl
  have size : u.m_maxSize = s.m_maxSize := by rw [← finished]; rfl
  have path : Runs queueStep Anything s _ u := Runs.step (.step .nil called trivial) finishes trivial
  by_cases room : u.m_queue.length < u.m_maxSize
  · obtain ⟨t,pushes,unclean⟩ := late_push recorded waits room
    exact ⟨_,t,.step path pushes trivial,by simp,unclean⟩
  · obtain ⟨first,rest,shape⟩ : ∃ first rest, u.m_queue = first::rest := by
      cases none : u.m_queue with
      | nil =>
          rw [none,List.length_nil,size] at room
          omega
      | cons first rest => exact ⟨first,rest,rfl⟩
    have asked : queueStep u (.call .BlockingPop) = some {u with calls := u.calls++[.lock .BlockingPop]} := rfl
    have pops : queueStep {u with calls := u.calls++[.lock .BlockingPop]} (.run u.calls.length) =
        some (CallQueue.returns {u with m_queue := rest,calls := u.calls++[.lock .BlockingPop]} u.calls.length (.popped first)) := by
      simp only [queueStep,CallQueue.run,calls_last,CallQueue.popWhenNotEmpty,shape]
    have further := Runs.step (.step path asked trivial) pops trivial
    have short : rest.length < u.m_maxSize := by
      have bounded := fifo.bounded
      rw [← queue,shape,List.length_cons] at bounded
      rw [size]
      exact bounded
    generalize popped : CallQueue.returns {u with m_queue := rest,calls := u.calls++[.lock .BlockingPop]} u.calls.length
      (.popped first) = w at further
    obtain ⟨t,pushes,unclean⟩ : ∃ t, queueStep w (.run k) = some t ∧ ¬ShutsCleanly t := by
      apply late_push (v := v)
      · rw [← popped]
        exact List.mem_append_left _ recorded
      · rw [← popped]
        exact calls_kept waits
      · rw [← popped]
        exact short
    exact ⟨_,t,.step further pushes trivial,by simp,unclean⟩

-- The queue shuts cleanly in every run in which Finish finds no push waiting; and wherever a push waits, a run goes on
-- to call Finish and does not.
theorem queue_clean (maxSize : Nat) (positive : 1 ≤ maxSize) :
    (∀ actions (s : CallQueue T), Runs queueStep FinishesAlone (.new maxSize) actions s → ShutsCleanly s) ∧
    ∀ actions (s : CallQueue T) v, Runs queueStep Anything (.new maxSize) actions s → .notFull v ∈ s.calls →
      ∃ more t, Runs queueStep Anything s more t ∧ .call .Finish ∈ more ∧ ¬ShutsCleanly t := by
  constructor
  · intro actions s path
    have fifo := path.invariant Fifo .new fun _ _ _ known ran _ => known.next ran
    have shut := path.invariant Shut .new fun _ _ _ known ran allowed => known.next ran allowed
    exact shut.cleanly fifo
  · intro actions s v path waiting
    have fifo := path.invariant Fifo .new fun _ _ _ known ran _ => known.next ran
    have size := path.invariant (fun s => s.m_maxSize = maxSize) rfl fun _ _ _ known ran _ => (queueStep_size ran).trans known
    obtain ⟨k,here⟩ := List.mem_iff_getElem?.mp waiting
    exact finish_unclean (by rw [size]; exact positive) fifo here

end machine

section atomic
variable {s t : CallQueue VolumeConsumeBlock} {v : VolumeConsumeBlock} {k : Nat}

def CallQueue.queue (s : CallQueue VolumeConsumeBlock) : BlockingQueue := ⟨s.m_queue,s.m_finished,s.m_maxSize⟩

-- While the queue is not finished, or if it comes first, a call does in one go what the queue's own function says:
-- it waits where that has no result, and else leaves the queue as that does.
theorem push_atomic (here : s.calls[k]? = some (.lock (.BlockingPush v)) ∨ s.calls[k]? = some (.notFull v) ∧ s.m_finished = false)
    (ran : s.run k = some t) : match s.queue.BlockingPush v with
      | none => t = s.moves k (.notFull v)
      | some queue => t.queue = queue ∧ t.calls = s.calls.set k .returned := by
  unfold CallQueue.run at ran
  unfold BlockingQueue.BlockingPush
  rcases here with first | ⟨again,going⟩
  · rw [first] at ran
    cases ran
    cases finished : s.m_finished with
    | true => simp [CallQueue.queue,CallQueue.returns,finished]
    | false =>
        by_cases room : s.m_queue.length < s.m_maxSize
        · simp [CallQueue.queue,CallQueue.returns,CallQueue.pushWhenNotFull,finished,room]
        · simp [CallQueue.queue,CallQueue.pushWhenNotFull,finished,room]
  · rw [again] at ran
    cases ran
    by_cases room : s.m_queue.length < s.m_maxSize
    · simp [CallQueue.queue,CallQueue.returns,CallQueue.pushWhenNotFull,going,room]
    · simp [CallQueue.queue,CallQueue.pushWhenNotFull,going,room]

theorem pop_atomic (here : s.calls[k]? = some (.lock .BlockingPop) ∨ s.calls[k]? = some .notEmpty)
    (ran : s.run k = some t) : match s.queue.BlockingPop with
      | none => t = s.moves k .notEmpty
      | some none => t = s.returns k .drained
      | some (some (v,queue)) => t.queue = queue ∧ t = {s with m_queue := queue.m_queue}.returns k (.popped v) := by
  have pops : t = s.popWhenNotEmpty k := by
    unfold CallQueue.run at ran
    rcases here with first | again
    · rw [first] at ran
      cases ran
      rfl
    · rw [again] at ran
      cases ran
      rfl
  unfold CallQueue.popWhenNotEmpty at pops
  unfold BlockingQueue.BlockingPop
  cases shape : s.m_queue with
  | nil =>
      cases finished : s.m_finished <;> simp [CallQueue.queue,shape,finished,pops]
  | cons v rest => simp [CallQueue.queue,CallQueue.returns,shape,pops]

end atomic

def shutActions : List (QueueAction Nat) :=
  [.call (.BlockingPush 0),.run 0,.call .BlockingPop,.run 1,.call (.BlockingPush 1),.run 2,.call .Finish,.run 3,
    .call .BlockingPop,.run 4,.call .BlockingPop,.run 5]

def shutRun : Option (CallQueue Nat) :=
  execute queueStep (fun s action => decide (FinishesAlone s action)) (.new 1) shutActions

theorem shutRun_some : shutRun.isSome = true := by decide

theorem queue_clean_shut : ShutsCleanly (shutRun.get shutRun_some) ∧ (shutRun.get shutRun_some).history =
    [.accepted 0,.popped 0,.accepted 1,.finished,.popped 1,.drained] := by
  have path := execute_runs (fun _ _ => of_decide_eq_true) (Option.some_get shutRun_some).symm
  exact ⟨(queue_clean 1 (Nat.le_refl 1)).1 _ _ path,by decide⟩

-- A push waits for room when the queue is finished. Its consumer drains the queue and leaves, and then the push
-- is accepted, and what it pushed stays in the queue.
def latePushActions : List (QueueAction Nat) :=
  [.call (.BlockingPush 0),.run 0,.call (.BlockingPush 1),.run 1,.call .Finish,.run 2,.call .BlockingPop,.run 3,
    .call .BlockingPop,.run 4,.run 1]

theorem queue_unclean : ∃ s, Runs queueStep Anything (.new 1 : CallQueue Nat) latePushActions s ∧
    s.history = [.accepted 0,.finished,.popped 0,.drained,.accepted 1] ∧ ¬ShutsCleanly s := by
  have ran : (execute queueStep (fun _ _ => true) (.new 1) latePushActions).map CallQueue.history =
      some [.accepted 0,.finished,.popped 0,.drained,.accepted 1] := by decide
  obtain ⟨s,done,history⟩ := Option.map_eq_some_iff.mp ran
  refine ⟨s,execute_runs (fun _ _ _ => trivial) done,history,?_⟩
  intro cleanly
  have order := cleanly.closed
  rw [history] at order
  simp at order

end VolumeBackup
