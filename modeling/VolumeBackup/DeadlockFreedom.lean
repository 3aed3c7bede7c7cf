import VolumeBackup.PipelineExactness
import VolumeBackup.PollingVerdict
import VolumeBackup.QueueBound

namespace VolumeBackup
open ByteMemory LabelledRuns

inductive ComponentThread where
  | reader
  | worker (k : Nat)
  | writer
  deriving DecidableEq, Repr

def Session.Unexited (s : Session) : ComponentThread → Prop
  | .reader => s.readerTask.pc ≠ .notStarted ∧ s.readerTask.pc ≠ .exited
  | .worker k => ∃ pc, s.hasherTask.m_workers[k]? = some pc ∧ pc ≠ .exited
  | .writer => s.writerTask.pc ≠ .notStarted ∧ s.writerTask.pc ≠ .exited

def Session.WaitsInPop (s : Session) : ComponentThread → Prop
  | .reader => False
  | .worker k => s.hasherTask.m_workers[k]? = some .pop ∧ s.hashingQueue.BlockingPop = none
  | .writer => s.writerTask.pc = .pop ∧ s.writeQueue.BlockingPop = none

def Session.Deadlocked (s : Session) : Prop :=
  (∃ thread, s.Unexited thread) ∧ ∀ thread, s.Unexited thread → s.WaitsInPop thread

-- The order of StartBackupSession and StartRestoreSession: the reader first, and the writer once the
-- workers are there.
def InOrder (env : SessionEnv) (s : Session) : SessionAction → Prop
  | .start .hasherTask => s.readerTask.pc ≠ .notStarted
  | .start .writerTask => s.readerTask.pc ≠ .notStarted ∧ (env.config.hasherEnabled = true → s.hasherTask.m_workers ≠ [])
  | _ => True

-- Who has gone has finished the queue that the next ones pop from.
structure Handover (env : SessionEnv) (s : Session) : Prop where
  first : s.readerTask.pc = .notStarted → s.hasherTask.m_workers = [] ∧ s.writerTask.pc = .notStarted
  workers : s.writerTask.pc ≠ .notStarted → env.config.hasherEnabled = true → s.hasherTask.m_workers ≠ []
  hashing : env.config.hasherEnabled = true → s.readerTask.pc = .exited → s.hashingQueue.m_finished = true
  plain : env.config.hasherEnabled = false → s.readerTask.pc = .exited → s.writeQueue.m_finished = true
  last : s.hasherTask.m_workers ≠ [] → (∀ pc ∈ s.hasherTask.m_workers, pc = .exited) → s.writeQueue.m_finished = true

variable {env : SessionEnv} {source : Content} {s t : Session}

theorem Handover.readerMoves (handover : Handover env s)
    (hasher : t.hasherTask = s.hasherTask) (writer : t.writerTask = s.writerTask)
    (write : t.writeQueue.m_finished = s.writeQueue.m_finished)
    (goes : t.readerTask.pc ≠ .notStarted) (stays : t.readerTask.pc ≠ .exited) : Handover env t := by
  refine ⟨fun none => absurd none goes,?_,fun _ gone => absurd gone stays,fun _ gone => absurd gone stays,?_⟩
  · rw [hasher,writer]
    exact handover.workers
  · rw [hasher,write]
    exact handover.last

theorem Handover.reader (handover : Handover env s) (step : ReaderStep env source outcome s t) : Handover env t := by
  cases step with
  | begin here | completed here | stopped here | aborted here | goOn here | paused here | unpaused here | skipped here
  | needed here | fetched here | timeout here | read here | unread here | terminate here =>
      exact handover.readerMoves rfl rfl rfl nofun nofun
  | retried here => exact handover
  | pushHashing here hasher pushed => exact handover.readerMoves rfl rfl rfl nofun nofun
  | pushWrite here plain pushed => exact handover.readerMoves rfl rfl (push_finished pushed) nofun nofun
  | finishHashing here hasher =>
      exact ⟨nofun,handover.workers,fun _ _ => rfl,fun plain => Bool.noConfusion (hasher.symm.trans plain),handover.last⟩
  | finishWrite here plain =>
      exact ⟨nofun,handover.workers,fun hasher => Bool.noConfusion (hasher.symm.trans plain),fun _ _ => rfl,fun _ _ => rfl⟩

theorem Handover.writer (handover : Handover env s) (step : WriterStep env outcome s t) : Handover env t := by
  have moves {u : Session} (started : s.writerTask.pc ≠ .notStarted) (reader : u.readerTask = s.readerTask)
      (hasher : u.hasherTask = s.hasherTask) (hashing : u.hashingQueue = s.hashingQueue)
      (write : u.writeQueue.m_finished = s.writeQueue.m_finished) : Handover env u := by
    refine ⟨?_,?_,?_,?_,?_⟩
    · rw [reader]
      intro none
      exact absurd (handover.first none).2 started
    · rw [hasher]
      exact fun _ => handover.workers started
    · rw [reader,hashing]
      exact handover.hashing
    · rw [reader,write]
      exact handover.plain
    · rw [hasher,write]
      exact handover.last
  cases step with
  | aborted here | goOn here | drained here | taken here | refused here | discarded here | written here | torn here | empty here
  | failed here | markWritten here | markProcessed here | freed here | terminate here | provisional here | reviewed here
  | revised here => exact moves (by simp [here]) rfl rfl rfl rfl

theorem Handover.workerMoves (handover : Handover env s) (here : s.hasherTask.m_workers[k]? = some old)
    (reader : t.readerTask = s.readerTask) (workers : t.hasherTask.m_workers = s.hasherTask.m_workers.set k new)
    (hashing : t.hashingQueue.m_finished = s.hashingQueue.m_finished)
    (write : s.writeQueue.m_finished = true → t.writeQueue.m_finished = true)
    (others : (∀ pc ∈ t.hasherTask.m_workers, pc = .exited) → t.writeQueue.m_finished = true) : Handover env t := by
  have inside := Slots.present here
  refine ⟨?_,?_,?_,?_,fun _ => others⟩
  · rw [reader]
    intro none
    rw [(handover.first none).1] at here
    simp at here
  · rw [workers]
    intro _ _ none
    rw [List.set_eq_nil_iff] at none
    rw [none] at inside
    cases inside
  · rw [reader,hashing]
    exact handover.hashing
  · rw [reader]
    exact fun plain gone => write (handover.plain plain gone)

theorem Handover.worker (handover : Handover env s) (order : FinishOrder env s) (step : WorkerStep env k s t) : Handover env t := by
  have stays {pc new : WorkerPc} (here : s.hasherTask.m_workers[k]? = some pc) (live : new ≠ .exited) :
      ¬∀ other ∈ s.hasherTask.m_workers.set k new, other = .exited := by
    intro all
    obtain ⟨bound,_⟩ := List.getElem?_eq_some_iff.mp here
    exact live (all new (List.mem_set bound new))
  cases step with
  | start here | aborted here | goOn here | drained here | popped here | unchanged here | changed here | freed here
  | marked here | terminate here | leave here | last here =>
      exact handover.workerMoves here rfl rfl rfl id fun all => absurd all (stays here nofun)
  | hashed here same =>
      refine handover.workerMoves here rfl rfl rfl id fun all => absurd all (stays here ?_)
      unfold hashedPc
      split <;> nofun
  | pushed here push =>
      exact handover.workerMoves here rfl rfl rfl (fun done => (push_finished push).trans done)
        fun all => absurd all (stays here nofun)
  | others here more =>
      refine handover.workerMoves here rfl rfl rfl id fun all => ?_
      -- Whoever is still counted is still running.
      have positive : 0 < s.hasherTask.m_workers.countP WorkerPc.running := order.running ▸ Nat.pos_of_ne_zero more
      have moved := Slots.countP_set WorkerPc.running here .exited
      obtain ⟨pc,found,runs⟩ := List.countP_pos_iff.mp (show 0 < (s.hasherTask.m_workers.set k .exited).countP WorkerPc.running by
        simp only [WorkerPc.running,Bool.false_eq_true,if_false] at moved
        omega)
      rw [all pc found] at runs
      cases runs
  | finish here => exact handover.workerMoves here rfl rfl rfl (fun _ => rfl) fun _ => rfl

theorem Handover.control (handover : Handover env s) (step : ControlStep env action s t) (inOrder : InOrder env s action) :
    Handover env t := by
  cases step with
  | startReader here =>
      obtain ⟨none,idle⟩ := handover.first here
      exact ⟨nofun,fun started => absurd idle started,nofun,nofun,fun some => absurd none some⟩
  | hasherIdle status here idle => exact ⟨handover.first,handover.workers,handover.hashing,handover.plain,handover.last⟩
  | startHasher here hasher =>
      refine ⟨fun none => absurd none inOrder,?_,handover.hashing,handover.plain,?_⟩
      · intro started enabled
        exact absurd here (handover.workers started enabled)
      · intro some all
        obtain ⟨pc,inside⟩ := List.exists_mem_of_ne_nil _ some
        cases (List.eq_of_mem_replicate inside).symm.trans (all pc inside)
  | startWriter here =>
      exact ⟨fun none => absurd none inOrder.1,fun _ => inOrder.2,handover.hashing,handover.plain,handover.last⟩
  | pause => exact ⟨handover.first,handover.workers,handover.hashing,handover.plain,handover.last⟩
  | abort component | aborted component | aborting component =>
      cases component <;> exact ⟨handover.first,handover.workers,handover.hashing,handover.plain,handover.last⟩

theorem Handover.step (handover : Handover env s) (order : FinishOrder env s) (step : Step env source s action t)
    (inOrder : InOrder env s action) : Handover env t := by
  cases action with
  | reader outcome => exact handover.reader step
  | worker k => exact handover.worker order step
  | writer outcome => exact handover.writer step
  | start | pause | abort | aborted | aborting => exact handover.control step inOrder

theorem Handover.new : Handover env (.new config context processed written counter target) :=
  ⟨fun _ => ⟨rfl,rfl⟩,nofun,nofun,nofun,nofun⟩

theorem pop_unfinished {queue : BlockingQueue} (waits : queue.BlockingPop = none) : queue.m_finished = false := by
  unfold BlockingQueue.BlockingPop at waits
  split at waits
  · split at waits
    · cases waits
    · rename_i unfinished
      exact Bool.eq_false_iff.mpr unfinished
  · cases waits

theorem Handover.moving (handover : Handover env s) (order : FinishOrder env s) : ¬s.Deadlocked := by
  rintro ⟨⟨thread,live⟩,all⟩
  have reader : ¬s.Unexited .reader := fun live => all .reader live
  by_cases unstarted : s.readerTask.pc = .notStarted
  · obtain ⟨none,idle⟩ := handover.first unstarted
    cases thread with
    | reader => exact reader live
    | worker k =>
        obtain ⟨pc,here,_⟩ := live
        rw [none] at here
        simp at here
    | writer => exact live.1 idle
  have gone : s.readerTask.pc = .exited := Decidable.byContradiction fun stays => reader ⟨unstarted,stays⟩
  have workers : ∀ pc ∈ s.hasherTask.m_workers, pc = .exited := by
    intro pc inside
    apply Decidable.byContradiction
    intro stays
    obtain ⟨k,here⟩ := List.mem_iff_getElem?.mp inside
    have unfinished := pop_unfinished (all (.worker k) ⟨pc,here,stays⟩).2
    rw [handover.hashing (order.enabled here) gone] at unfinished
    cases unfinished
  cases thread with
  | reader => exact reader live
  | worker k =>
      obtain ⟨pc,here,stays⟩ := live
      exact stays (workers pc (Slots.present here))
  | writer =>
      have unfinished := pop_unfinished (all .writer live).2
      have finished : s.writeQueue.m_finished = true := by
        cases hasher : env.config.hasherEnabled with
        | false => exact handover.plain hasher gone
        | true => exact handover.last (handover.workers live.1 hasher) workers
      rw [finished] at unfinished
      cases unfinished

theorem push_room {queue : BlockingQueue} (room : queue.m_queue.length < queue.m_maxSize) (block : VolumeConsumeBlock) :
    (queue.BlockingPush block).isSome = true := by
  unfold BlockingQueue.BlockingPush
  split <;> rfl

structure Moving (s : Session) : Prop where
  hashing : s.hashingQueue.m_queue.length < DEFAULT_QUEUE_SIZE
  write : s.writeQueue.m_queue.length < DEFAULT_QUEUE_SIZE
  pushHashing : ∀ block, (s.hashingQueue.BlockingPush block).isSome = true
  pushWrite : ∀ block, (s.writeQueue.BlockingPush block).isSome = true
  free : ¬s.Deadlocked

section runs
variable {context : BlockHashingContext} {processed written : Bitmap} {counter : SessionCounter} {target : Content}

theorem ordered_run (path : Runs (sessionStep env source) (InOrder env)
    (.new env.config context processed written counter target) actions s) : FinishOrder env s ∧ Bounded s ∧ Handover env s :=
  path.invariant (fun s => FinishOrder env s ∧ Bounded s ∧ Handover env s) ⟨.new,.new,.new⟩
    fun _ _ _ ⟨order,bounded,handover⟩ ran inOrder =>
      have step := sessionStep_sound ran
      ⟨order.step step,bounded.step step,handover.step order step inOrder⟩

theorem Bounded.pushes (bounded : Bounded s) (block : VolumeConsumeBlock) :
    (s.hashingQueue.BlockingPush block).isSome = true ∧ (s.writeQueue.BlockingPush block).isSome = true :=
  have short := bounded.short
  ⟨push_room (bounded.hashingSize ▸ short.1) block,push_room (bounded.writeSize ▸ short.2) block⟩

theorem pipeline_moving (path : Runs (sessionStep env source) (InOrder env)
    (.new env.config context processed written counter target) actions s) : Moving s := by
  obtain ⟨order,bounded,handover⟩ := ordered_run path
  obtain ⟨hashing,write⟩ := bounded.short
  exact ⟨hashing,write,fun block => (bounded.pushes block).1,fun block => (bounded.pushes block).2,handover.moving order⟩

end runs

section polling
variable {env : TaskEnv} {config : VolumeTaskSharedConfig} {p q : Polling} {state : Session}

structure Starting (env : TaskEnv) (config : VolumeTaskSharedConfig) (p : Polling) : Prop where
  next : p.pc = .start rest → rest <:+ env.task.components
  reader : p.pc = .start rest → .readerTask ∉ rest → p.state.readerTask.pc ≠ .notStarted
  workers : p.pc = .start rest → .hasherTask ∉ rest → config.hasherEnabled = true → p.state.hasherTask.m_workers ≠ []

theorem Step.started {env : SessionEnv} (step : Step env source s action t) (started : s.readerTask.pc ≠ .notStarted) :
    t.readerTask.pc ≠ .notStarted := by
  cases action with
  | reader outcome =>
      cases step with
      | retried here => exact started
      | _ => nofun
  | worker k => cases step <;> exact started
  | writer outcome => cases step <;> exact started
  | start component =>
      cases step with
      | startReader here => nofun
      | _ => exact started
  | pause paused => cases step; exact started
  | abort component | aborted component | aborting component => cases step; cases component <;> exact started

theorem Step.staffed {env : SessionEnv} (step : Step env source s action t) (some : s.hasherTask.m_workers ≠ []) :
    t.hasherTask.m_workers ≠ [] := by
  have kept (k : Nat) (pc : WorkerPc) : s.hasherTask.m_workers.set k pc ≠ [] := by simpa using some
  cases action with
  | reader outcome => cases step <;> exact some
  | worker k => cases step <;> exact kept _ _
  | writer outcome => cases step <;> exact some
  | start component =>
      cases step with
      | startHasher here hasher => exact absurd here some
      | _ => exact some
  | pause paused => cases step; exact some
  | abort component | aborted component | aborting component => cases step; cases component <;> exact some

theorem start_staffed {env : SessionEnv} (hasher : env.config.hasherEnabled = true)
    (ran : s.start env .hasherTask = some t) (working : t.hasherTask.task.m_status ≠ .FAILED) : t.hasherTask.m_workers ≠ [] := by
  dsimp only [Session.start] at ran
  split at ran
  · cases ran
  · split at ran
    · rename_i disabled
      simp [hasher] at disabled
    · split at ran
      · cases Option.some.inj ran
        exact absurd rfl working
      · rename_i number
        cases Option.some.inj ran
        intro none
        apply number
        exact .inl (UInt32.toNat_inj.mp (by simpa using none))

theorem components_left (left : component::rest <:+ env.task.components) :
    .readerTask ∉ rest ∧ (component = .writerTask → rest = []) ∧
      (component = .readerTask → env.task.isBackup = true → .hasherTask ∈ rest) := by
  generalize env.task = task at left ⊢
  cases task with
  | backup =>
      simp only [ProtectTask.components,List.suffix_cons_iff,List.cons.injEq,List.suffix_nil,reduceCtorEq,or_false] at left
      rcases left with ⟨rfl,rfl⟩ | ⟨rfl,rfl⟩ | ⟨rfl,rfl⟩ <;> simp [ProtectTask.isBackup]
  | restore =>
      simp only [ProtectTask.components,List.suffix_cons_iff,List.cons.injEq,List.suffix_nil,reduceCtorEq,or_false] at left
      rcases left with ⟨rfl,rfl⟩ | ⟨rfl,rfl⟩ <;> simp [ProtectTask.isBackup]

theorem Starting.inOrder (starting : Starting env config p) (drives : PollDrive env p state action pc) :
    InOrder (env.sessionEnv config) p.state action := by
  have ordered {component : Component} {rest : List Component} (here : p.pc = .start (component::rest)) : InOrder (env.sessionEnv config) p.state (.start component) := by
    obtain ⟨reader,last,_⟩ := components_left (starting.next here)
    cases component with
    | readerTask => trivial
    | hasherTask => exact starting.reader here (by simpa using reader)
    | writerTask => exact ⟨starting.reader here (by simpa using reader),starting.workers here (by simp [last rfl])⟩
  cases drives with
  | started here | startFailed here => exact ordered here
  | paused | resumed => trivial
  | assigned here assigns next => rcases assigns with rfl | rfl | rfl <;> trivial

theorem Starting.past (past : ∀ rest, q.pc ≠ .start rest) : Starting env config q :=
  ⟨fun here => absurd here (past _),fun here => absurd here (past _),fun here => absurd here (past _)⟩

theorem abortFrom_past (status : TaskStatus) (components rest : List Component) : abortFrom status components ≠ .start rest := by
  cases components <;> nofun

theorem Starting.step (starting : Starting env config p) (plain : env.task.isBackup = false → config.hasherEnabled = false)
    (step : PollStep env config source p action q) : Starting env config q := by
  cases step with
  | move moves =>
      apply Starting.past
      intro rest
      cases moves with
      | aborts here => exact abortFrom_past _ _ _
      | allTerminated here => split <;> nofun
      | reads here next =>
          rcases next with ⟨later,rfl⟩ | rfl
          · nofun
          · exact abortFrom_past _ _ _
      | _ => nofun
  | drive drives ran =>
      have step := sessionStep_sound ran
      cases drives with
      | started here running =>
          rename_i component rest
          obtain ⟨reader,last,backup⟩ := components_left (starting.next here)
          refine ⟨?_,?_,?_⟩
          · intro rest same
            cases same
            exact (List.suffix_cons _ _).trans (starting.next here)
          · intro rest same absent
            cases component with
            | readerTask => cases step; nofun
            | hasherTask | writerTask => exact step.started (starting.reader here (by simpa using reader))
          · intro rest same absent hasher
            cases same
            cases component with
            | hasherTask => exact start_staffed hasher ran running
            | readerTask =>
                cases task : env.task.isBackup with
                | true => exact absurd (backup rfl task) absent
                | false => exact absurd (hasher.symm.trans (plain task)) nofun
            | writerTask => exact step.staffed (starting.workers here (by simp [last rfl]) hasher)
      | startFailed here failed => exact .past (abortFrom_past _ _)
      | paused here | resumed here => exact .past nofun
      | assigned here assigns next =>
          apply Starting.past
          intro rest
          rcases next with ⟨later,rfl⟩ | rfl
          · nofun
          · exact abortFrom_past _ _ _
  | component own ran =>
      have step := sessionStep_sound ran
      exact ⟨starting.next,fun here absent => step.started (starting.reader here absent),
        fun here absent hasher => step.staffed (starting.workers here absent hasher)⟩
  | client => exact ⟨starting.next,starting.reader,starting.workers⟩
  | _ => exact .past nofun

theorem PollStep.inOrder (starting : Starting env config p) (step : PollStep env config source p action q) :
    q.state = p.state ∨ ∃ inner, sessionStep (env.sessionEnv config) source p.state inner = some q.state ∧
      InOrder (env.sessionEnv config) p.state inner := by
  cases step with
  | drive drives ran => exact .inr ⟨_,ran,starting.inOrder drives⟩
  | @component inner state own ran =>
      refine .inr ⟨_,ran,?_⟩
      cases inner with
      | reader | worker | writer => trivial
      | start | pause | abort | aborted | aborting => cases own
  | _ => exact .inl rfl

-- The thread of a task keeps to the order, so that its sessions go on, whatever their components do.
theorem polling_inOrder (plain : env.task.isBackup = false → config.hasherEnabled = false) (here : p.pc = .start env.task.components)
    (path : Runs (pollNext env config source) Anything p actions q) :
    Reached (sessionStep (env.sessionEnv config) source) (InOrder (env.sessionEnv config)) p.state q.state := by
  have starting : Starting env config p := by
    refine ⟨?_,?_,?_⟩ <;> intro rest same <;> cases here.symm.trans same
    · exact List.suffix_refl _
    · intro absent
      exact absurd (reader_asked _) absent
    · intro absent hasher
      cases task : env.task with
      | backup => simp [task,ProtectTask.components] at absent
      | restore =>
          rw [plain (by simp [task,ProtectTask.isBackup])] at hasher
          cases hasher
  exact (path.invariant (fun q => Starting env config q ∧ Reached (sessionStep (env.sessionEnv config) source)
    (InOrder (env.sessionEnv config)) p.state q.state) ⟨starting,.refl⟩ fun q action r known ran _ => by
      obtain ⟨known,reached⟩ := known
      have step := pollNext_sound ran
      refine ⟨known.step plain step,?_⟩
      rcases step.inOrder known with same | ⟨inner,moved,inOrder⟩
      · rw [same]
        exact reached
      · exact reached.step moved inOrder).2

end polling

instance (env : SessionEnv) (s : Session) : (action : SessionAction) → Decidable (InOrder env s action)
  | .start .hasherTask => inferInstanceAs (Decidable (s.readerTask.pc ≠ .notStarted))
  | .start .writerTask => inferInstanceAs (Decidable
      (s.readerTask.pc ≠ .notStarted ∧ (env.config.hasherEnabled = true → s.hasherTask.m_workers ≠ [])))
  | .start .readerTask | .reader _ | .worker _ | .writer _ | .pause _ | .abort _ | .aborted _ | .aborting _ => isTrue trivial

def waitingActions : List SessionAction :=
  [.start .readerTask,.start .hasherTask,.start .writerTask]++.replicate 2 (.worker 0)++[.writer .ok]

theorem pipeline_moving_letter : ∃ s, s.WaitsInPop (.worker 0) ∧ s.WaitsInPop .writer ∧ Moving s := by
  have run : (execute (sessionStep letterEnv letter) (fun s action => decide (InOrder letterEnv s action)) letterStart waitingActions).any
      (fun s => decide ((s.hasherTask.m_workers[0]? = some .pop ∧ s.hashingQueue.BlockingPop = none) ∧
        s.writerTask.pc = .pop ∧ s.writeQueue.BlockingPop = none)) = true := by decide +kernel
  obtain ⟨s,path,good⟩ := execute_ends (fun _ _ => of_decide_eq_true) run
  obtain ⟨worker,writer⟩ := of_decide_eq_true good
  exact ⟨s,worker,writer,pipeline_moving path⟩

section finish

-- A push that returns true: it does not wait, the queue is not finished, and then has the block as its last one.
def Accepts (queue : BlockingQueue) (block : VolumeConsumeBlock) : Prop :=
  queue.m_finished = false ∧ queue.BlockingPush block = some {queue with m_queue := queue.m_queue++[block]}

theorem accepts_open {queue : BlockingQueue} {block : VolumeConsumeBlock} (unfinished : queue.m_finished = false)
    (moves : (queue.BlockingPush block).isSome = true) : Accepts queue block := by
  obtain ⟨next,pushed⟩ := Option.isSome_iff_exists.mp moves
  refine ⟨unfinished,?_⟩
  rw [pushed,push_open pushed unfinished]

-- What the end of the hasher is for: the call of Finish on the write queue comes when no worker has a block
-- and none is to get one, nobody is refused, and the last worker does not leave without it.
structure FinishesLast (env : SessionEnv) (s : Session) : Prop where
  idle : s.writeQueue.m_finished = true ∨ .finish ∈ s.hasherTask.m_workers → ∀ pc ∈ s.hasherTask.m_workers, pc.busy = false
  reader : s.readerTask.pc = .push block → Accepts s.hashingQueue block
  workers : .push block ∈ s.hasherTask.m_workers → Accepts s.writeQueue block
  finished : s.hasherTask.m_workers.length = env.config.hasherWorkerNum.toNat →
    (∀ pc ∈ s.hasherTask.m_workers, pc = .exited) → s.writeQueue.m_finished = true

variable {env : SessionEnv} {source : Content} {s : Session} {context : BlockHashingContext} {processed written : Bitmap}
  {counter : SessionCounter} {target : Content}

theorem FinishOrder.finishesLast (order : FinishOrder env s) (bounded : Bounded s) (handover : Handover env s)
    (enabled : env.config.hasherEnabled = true) (some : env.config.hasherWorkerNum ≠ 0) : FinishesLast env s where
  idle := fun ends => (order.closed enabled ends).2.1
  reader := fun here => accepts_open (order.hashingOpen here enabled) (bounded.pushes _).1
  workers := by
    intro block inside
    obtain ⟨k,here⟩ := List.mem_iff_getElem?.mp inside
    exact accepts_open (order.workerOpen here) (bounded.pushes block).2
  finished := by
    intro all exited
    apply handover.last ?_ exited
    intro none
    apply some
    apply UInt32.toNat_inj.mp
    rw [← all,none]
    rfl

theorem write_queue_finish (enabled : env.config.hasherEnabled = true) (some : env.config.hasherWorkerNum ≠ 0)
    (path : Runs (sessionStep env source) (InOrder env) (.new env.config context processed written counter target) actions s) :
    FinishesLast env s := by
  obtain ⟨order,bounded,handover⟩ := ordered_run path
  exact order.finishesLast bounded handover enabled some

end finish

def twoWorkers : SessionEnv := {letterEnv with config := {letterConfig with hasherWorkerNum := 2}}

def secondActions : List SessionAction := letterActions++.replicate 7 (.worker 1)

theorem write_queue_finish_late : ∃ s, s.hasherTask.m_workers = [.exited,.exited] ∧ s.writeQueue.m_finished = true ∧
    FinishesLast twoWorkers s := by
  have run : (execute (sessionStep twoWorkers letter) (fun s action => decide (InOrder twoWorkers s action)) letterStart secondActions).any
      (fun s => decide (s.hasherTask.m_workers = [.exited,.exited] ∧ s.writeQueue.m_finished = true)) = true := by decide +kernel
  obtain ⟨s,path,good⟩ := execute_ends (fun _ _ => of_decide_eq_true) run
  obtain ⟨exited,finished⟩ := of_decide_eq_true good
  exact ⟨s,exited,finished,write_queue_finish rfl (by decide) path⟩

end VolumeBackup
