import VolumeBackup.DeadlockFreedom
import VolumeBackup.BufferOwnership

namespace VolumeBackup
open ByteMemory LabelledRuns

-- How many steps a thread has left at most, with those that the block in its hands costs the threads behind it:
-- a block in the write queue costs the writer seven, one in the hashing queue costs twelve.
def WriterPc.steps : WriterPc → Nat
  | .notStarted | .check => 5
  | .pop => 4
  | .discard _ | .free _ => 6
  | .markProcessed _ => 7
  | .markWritten _ => 8
  | .failed _ => 9
  | .write _ => 10
  | .terminate _ => 3
  | .review => 2
  | .revise => 1
  | .exited => 0

def WorkerPc.steps : WorkerPc → Nat
  | .start | .mark _ => 7
  | .check => 6
  | .pop => 5
  | .free _ => 8
  | .push _ => 14
  | .diff _ => 15
  | .hash _ => 16
  | .terminate _ => 4
  | .leave => 3
  | .test => 2
  | .finish => 1
  | .exited => 0

def VolumeTaskSharedConfig.loopSteps (config : VolumeTaskSharedConfig) (index : Nat) : Nat := 3+18*(config.m_maxIndex+1-index)

def VolumeBlockReader.steps (config : VolumeTaskSharedConfig) (reader : VolumeBlockReader) : Nat :=
  match reader.pc with
  | .notStarted | .start => config.loopSteps 0+1
  | .check => config.loopSteps reader.m_currentIndex
  | .pause => config.loopSteps (reader.m_currentIndex+1)+17
  | .skip => config.loopSteps (reader.m_currentIndex+1)+16
  | .fetch => config.loopSteps (reader.m_currentIndex+1)+15
  | .read _ => config.loopSteps (reader.m_currentIndex+1)+14
  | .push _ => config.loopSteps (reader.m_currentIndex+1)+13
  | .terminate _ => 2
  | .finish => 1
  | .exited => 0

def VolumeBlockHasher.steps (config : VolumeTaskSharedConfig) (hasher : VolumeBlockHasher) : Nat :=
  if hasher.m_workers = [] then 7*config.hasherWorkerNum.toNat else (hasher.m_workers.map WorkerPc.steps).sum

def Session.steps (config : VolumeTaskSharedConfig) (s : Session) : Nat :=
  s.readerTask.steps config+12*s.hashingQueue.m_queue.length+s.hasherTask.steps config+
    7*s.writeQueue.m_queue.length+s.writerTask.pc.steps

-- The steps of a session that lead nowhere: a reader that finds itself still paused, or every buffer in use, and
-- looks again.
def Session.idles (s : Session) : SessionAction → Bool
  | .reader outcome => match s.readerTask.pc with
    | .pause => s.readerTask.m_pause
    | .fetch => s.allocator.BlockAlloc.isNone && outcome.isOk
    | _ => false
  | _ => false

def Session.waits (s : Session) (action : SessionAction) : List SessionAction := if s.idles action then [action] else []

variable {env : SessionEnv} {source : Content} {s t : Session}

theorem loop_steps {config : VolumeTaskSharedConfig} (inside : index ≤ config.m_maxIndex) :
    config.loopSteps index = config.loopSteps (index+1)+18 := by
  unfold VolumeTaskSharedConfig.loopSteps
  omega

theorem loop_least {config : VolumeTaskSharedConfig} : 3 ≤ config.loopSteps index := Nat.le_add_right _ _

theorem loop_most {config : VolumeTaskSharedConfig} : config.loopSteps index ≤ config.loopSteps 0 := by
  unfold VolumeTaskSharedConfig.loopSteps
  omega

theorem push_grows {queue next : BlockingQueue} (pushed : queue.BlockingPush block = some next) :
    next.m_queue.length ≤ queue.m_queue.length+1 := by
  unfold BlockingQueue.BlockingPush at pushed
  split at pushed
  · cases Option.some.inj pushed
    exact Nat.le_succ _
  · split at pushed
    · cases Option.some.inj pushed
      simp
    · cases pushed

theorem ReaderStep.pays (step : ReaderStep env source outcome s t) : t.steps env.config+1 ≤ s.steps env.config ∨
    (s.readerTask.pc = .pause ∧ t = s.reader .check) ∨ (s.readerTask.pc = .fetch ∧ t = s) := by
  cases step with
  | begin here =>
      left
      have most : env.config.loopSteps (InitCurrentIndex env s) ≤ env.config.loopSteps 0 := loop_most
      simp [Session.steps,VolumeBlockReader.steps,here]
      omega
  | completed here | stopped here | aborted here =>
      left
      have least : 3 ≤ env.config.loopSteps s.readerTask.m_currentIndex := loop_least
      simp [Session.steps,Session.reader,VolumeBlockReader.steps,here]
      omega
  | goOn here inside =>
      left
      have next := loop_steps inside
      simp [Session.steps,Session.reader,VolumeBlockReader.steps,here]
      omega
  | paused here => exact .inr (.inl ⟨here,rfl⟩)
  | retried here => exact .inr (.inr ⟨here,rfl⟩)
  | unpaused here | skipped here | needed here | fetched here | timeout here | read here | unread here | terminate here
  | finishHashing here | finishWrite here =>
      left
      simp only [Session.steps,Session.reader,Session.record,VolumeBlockReader.steps,BlockingQueue.Finish,here]
      omega
  | pushHashing here hasher pushed | pushWrite here plain pushed =>
      left
      have grown := push_grows pushed
      simp [Session.steps,VolumeBlockReader.steps,here]
      omega

theorem reader_retries (here : t.readerTask.pc = .fetch) (ran : readerStep env source outcome t = some t) :
    t.idles (.reader outcome) = true := by
  have moved := congrArg (Option.map fun u => u.readerTask.pc) ran
  cases found : t.allocator.BlockAlloc with
  | some block => simp [readerStep,Session.reader,here,found] at moved
  | none =>
      cases outcome with
      | ok => simp [Session.idles,here,found,Outcome.isOk]
      | fail torn => simp [readerStep,Session.reader,here,found] at moved

theorem reader_pays (ran : readerStep env source outcome s = some t) :
    t.steps env.config+1 ≤ s.steps env.config+2*(s.waits (.reader outcome)).length := by
  rcases (readerStep_sound ran).pays with paid | ⟨here,rfl⟩ | ⟨here,rfl⟩
  · exact Nat.le_add_right_of_le paid
  · have paused : s.readerTask.m_pause = true := by
      cases flag : s.readerTask.m_pause with
      | true => rfl
      | false => simp [readerStep,Session.reader,here,flag] at ran
    have around : env.config.loopSteps s.readerTask.m_currentIndex ≤ env.config.loopSteps (s.readerTask.m_currentIndex+1)+18 := by
      unfold VolumeTaskSharedConfig.loopSteps
      omega
    simp [Session.waits,Session.idles,Session.steps,Session.reader,VolumeBlockReader.steps,here,paused]
    omega
  · have idle := reader_retries here ran
    simp [Session.waits,idle]

-- A worker takes its steps from the sum; what it leaves in a queue is counted there.
theorem workerPays (here : s.hasherTask.m_workers[k]? = some old) (reader : t.readerTask = s.readerTask)
    (writer : t.writerTask = s.writerTask) (workers : t.hasherTask.m_workers = s.hasherTask.m_workers.set k new)
    (less : 12*t.hashingQueue.m_queue.length+new.steps+7*t.writeQueue.m_queue.length <
      12*s.hashingQueue.m_queue.length+old.steps+7*s.writeQueue.m_queue.length) :
    t.steps env.config+1 ≤ s.steps env.config := by
  have inside := List.ne_nil_of_mem (Slots.present here)
  have moved := Slots.sum_set WorkerPc.steps here new
  unfold Session.steps VolumeBlockHasher.steps
  rw [reader,writer,workers,if_neg (by simpa using inside),if_neg inside]
  omega

theorem WorkerStep.pays (step : WorkerStep env k s t) : t.steps env.config+1 ≤ s.steps env.config := by
  cases step with
  | popped here first =>
      refine workerPays here rfl rfl rfl ?_
      simp [Session.worker,WorkerPc.steps,first]
      omega
  | hashed here same =>
      refine workerPays here rfl rfl rfl ?_
      cases env.m_forwardMode <;> simp [Session.worker,Session.record,WorkerPc.steps,hashedPc]
  | pushed here push =>
      have grown := push_grows push
      refine workerPays here rfl rfl rfl ?_
      simp [Session.worker,WorkerPc.steps]
      omega
  | start here | aborted here | goOn here | drained here | unchanged here | changed here | freed here
  | marked here | terminate here | leave here | others here | last here | finish here =>
      refine workerPays here rfl rfl rfl ?_
      simp [Session.worker,Session.record,WorkerPc.steps,BlockingQueue.Finish]

theorem WriterStep.pays (step : WriterStep env outcome s t) : t.steps env.config+1 ≤ s.steps env.config := by
  cases step with
  | taken here first | refused here first =>
      simp [Session.steps,Session.writer,WriterPc.steps,here,first]
      omega
  | aborted here | goOn here | drained here | discarded here | written here | torn here | empty here | failed here
  | markWritten here | markProcessed here | freed here | terminate here | provisional here | reviewed here | revised here =>
      simp [Session.steps,Session.writer,Session.record,WriterPc.steps,here]

theorem ControlStep.pays (step : ControlStep env action s t) : t.steps env.config ≤ s.steps env.config := by
  cases step with
  | startReader here => simp [Session.steps,VolumeBlockReader.steps,here]
  | startWriter here => simp [Session.steps,WriterPc.steps,here]
  | startHasher here hasher =>
      have all : (List.replicate env.config.hasherWorkerNum.toNat WorkerPc.start).map WorkerPc.steps =
          List.replicate env.config.hasherWorkerNum.toNat 7 := List.map_replicate
      simp only [Session.steps,VolumeBlockHasher.steps,here,if_true]
      split
      · exact Nat.le_refl _
      · rw [all,List.sum_replicate_nat]
        omega
  | hasherIdle | pause => exact Nat.le_refl _
  | abort component | aborted component | aborting component => cases component <;> exact Nat.le_refl _

theorem session_pays (ran : sessionStep env source s action = some t) :
    t.steps env.config+action.ofComponent.toNat ≤ s.steps env.config+2*(s.waits action).length := by
  have step := sessionStep_sound ran
  cases action with
  | reader outcome => exact reader_pays ran
  | worker k => exact Nat.le_add_right_of_le (WorkerStep.pays step)
  | writer outcome => exact Nat.le_add_right_of_le (WriterStep.pays step)
  | start | pause | abort | aborted | aborting => exact Nat.le_add_right_of_le (ControlStep.pays step)

structure Aligned (env : SessionEnv) (f : Flow) : Prop where
  size : f.allocator.m_blockSize = env.config.blockSize
  table : f.allocator.m_allocTable.length = DEFAULT_ALLOCATOR_BLOCK_NUM
  slots : ∀ ptr ∈ f.buffers, ptr % env.config.blockSize.toNat = 0

theorem slot_aligned (pooled : Pooled env.config) (below : k < DEFAULT_ALLOCATOR_BLOCK_NUM) :
    env.config.blockSize.toNat*k % 2^32 % env.config.blockSize.toNat = 0 := by
  have fits := pooled.fits
  have short := Nat.mul_le_mul_left env.config.blockSize.toNat (Nat.le_of_lt below)
  rw [Nat.mul_comm] at fits
  rw [Nat.mod_eq_of_lt (Nat.lt_of_le_of_lt short fits),Nat.mul_mod_right]

theorem Aligned.fewer {f g : Flow} (aligned : Aligned env f) (allocator : g.allocator = f.allocator)
    (fewer : g.buffers ≤ f.buffers) : Aligned env g := by
  refine ⟨?_,?_,fun ptr inside => aligned.slots ptr (Multiset.mem_of_le fewer inside)⟩ <;> rw [allocator]
  · exact aligned.size
  · exact aligned.table

theorem Aligned.give {f g : Flow} (aligned : Aligned env f) (free : f.allocator.BlockFree ptr = some g.allocator)
    (fewer : g.buffers ≤ f.buffers) : Aligned env g := by
  refine ⟨?_,?_,fun ptr inside => aligned.slots ptr (Multiset.mem_of_le fewer inside)⟩ <;> rw [free_slot free]
  · exact aligned.size
  · exact List.length_set.trans aligned.table

theorem Aligned.step {f g : Flow} (aligned : Aligned env f) (pooled : Pooled env.config) (step : FlowStep env source f g) :
    Aligned env g := by
  cases step with
  | allocate found =>
      obtain ⟨k,same,free,rfl⟩ := alloc_slot found
      obtain ⟨below,_⟩ := List.getElem?_eq_some_iff.mp free
      refine ⟨aligned.size,List.length_set.trans aligned.table,fun ptr inside => ?_⟩
      simp only [Flow.buffers,Flow.inFlight,Multiset.add_cons,Multiset.mem_cons] at inside
      rcases inside with rfl | earlier
      · rw [same,aligned.size]
        exact slot_aligned pooled (aligned.table ▸ below)
      · exact aligned.slots ptr earlier
  | read chosen held made done =>
      subst made
      refine aligned.fewer (by simp) ?_
      simp only [Flow.buffers,accept_inFlight,accept_loose,Multiset.map_cons,held,Multiset.cons_add,Multiset.add_cons]
      exact le_refl _
  | unread held =>
      refine aligned.fewer rfl ?_
      simpa [Flow.buffers,Flow.inFlight,held] using Multiset.le_cons_self _ _
  | hash held same =>
      refine aligned.fewer (by simp) ?_
      simp only [Flow.buffers,forward_inFlight,forward_loose,Multiset.map_cons]
      simp [Flow.inFlight,held]
  | drop held equal | write held needed done | tear torn held | empty held zeros | pass held differ =>
      refine aligned.fewer rfl ?_
      simp [Flow.buffers,Flow.inFlight,held]
  | discard held free | free held free =>
      refine aligned.give free ?_
      simpa [Flow.buffers,Flow.inFlight,held] using Multiset.le_cons_self _ _
  | freeEarly free failed => exact aligned.give free (le_refl _)
  | _ => exact aligned.fewer rfl (le_refl _)

theorem free_goesOn {allocator : VolumeBlockAllocator} (slot : ptr % allocator.m_blockSize.toNat = 0) :
    (allocator.BlockFree ptr).isSome = true := by
  unfold VolumeBlockAllocator.BlockFree
  rw [if_pos slot]
  rfl

theorem reader_goesOn (started : s.readerTask.pc ≠ .notStarted) (live : s.readerTask.pc ≠ .exited)
    (unpaused : s.readerTask.m_pause = false) (hashing : ∀ block, (s.hashingQueue.BlockingPush block).isSome = true)
    (write : ∀ block, (s.writeQueue.BlockingPush block).isSome = true) (torn : Tear) :
    (readerStep env source (.fail torn) s).isSome = true ∧ s.idles (.reader (.fail torn)) = false := by
  unfold readerStep Session.idles
  cases here : s.readerTask.pc with
  | notStarted => exact absurd here started
  | exited => exact absurd here live
  | push block =>
      dsimp only [BlockingPushForward]
      refine ⟨?_,rfl⟩
      split
      · simp [hashing]
      · simp [write]
  | fetch => cases found : s.allocator.BlockAlloc <;> simp [Outcome.isOk]
  | check =>
      dsimp only
      refine ⟨?_,rfl⟩
      split
      · rfl
      · split
        · rfl
        · split <;> rfl
  | skip | finish =>
      dsimp only
      refine ⟨?_,rfl⟩
      split <;> rfl
  | _ => simp [unpaused]

theorem worker_goesOn (here : s.hasherTask.m_workers[k]? = some pc) (live : pc ≠ .exited) (ready : ¬s.WaitsInPop (.worker k))
    (write : ∀ block, (s.writeQueue.BlockingPush block).isSome = true)
    (free : ∀ ptr ∈ s.freeing, (s.allocator.BlockFree ptr).isSome = true) : (workerStep env k s).isSome = true := by
  unfold workerStep
  rw [here]
  cases pc with
  | exited => exact absurd rfl live
  | pop =>
      cases popped : s.hashingQueue.BlockingPop with
      | none => exact absurd ⟨here,popped⟩ ready
      | some found => cases found <;> rfl
  | free block =>
      have mine : block.ptr ∈ s.freeing := Multiset.mem_add.mpr (.inl (Slots.mem_gather.mpr ⟨_,Slots.present here,by simp⟩))
      simp [free _ mine]
  | push block => simp [write]
  | diff block =>
      dsimp only
      split <;> rfl
  | _ => rfl

theorem writer_goesOn (started : s.writerTask.pc ≠ .notStarted) (live : s.writerTask.pc ≠ .exited) (ready : ¬s.WaitsInPop .writer)
    (free : ∀ ptr ∈ s.freeing, (s.allocator.BlockFree ptr).isSome = true) (torn : Tear) :
    (writerStep env (.fail torn) s).isSome = true := by
  have mine {block : VolumeConsumeBlock} (held : s.writerTask.pc.freeing = {block.ptr}) :
      (s.allocator.BlockFree block.ptr).isSome = true :=
    free _ (Multiset.mem_add.mpr (.inr (held ▸ Multiset.mem_singleton_self _)))
  unfold writerStep
  cases here : s.writerTask.pc with
  | notStarted => exact absurd here started
  | exited => exact absurd here live
  | pop =>
      cases popped : s.writeQueue.BlockingPop with
      | none => exact absurd ⟨here,popped⟩ ready
      | some found => cases found <;> rfl
  | discard block | failed block | free block => simp [mine (by rw [here]; rfl)]
  | write block =>
      dsimp only
      split <;> rfl
  | _ => rfl

structure Advancing (env : SessionEnv) (s : Session) : Prop where
  order : FinishOrder env s
  known : Local env s
  bounded : Bounded s
  handover : Handover env s
  aligned : Aligned env (s.flow env)

theorem Advancing.step (advancing : Advancing env s) (pooled : Pooled env.config) (step : Step env source s action t)
    (inOrder : InOrder env s action) : Advancing env t where
  order := advancing.order.step step
  known := advancing.known.step step
  bounded := advancing.bounded.step step
  handover := advancing.handover.step advancing.order step inOrder
  aligned := by
    rcases s.flow_step advancing.order advancing.known step with same | moved
    · rw [same]
      exact advancing.aligned
    · exact advancing.aligned.step pooled moved

theorem Advancing.free (advancing : Advancing env s) : ∀ ptr ∈ s.freeing, (s.allocator.BlockFree ptr).isSome = true := by
  intro ptr freeing
  have slot := advancing.aligned.slots ptr (held_buffers ▸ freeing_held freeing)
  rw [← advancing.aligned.size] at slot
  exact free_goesOn slot

theorem joined_all : s.Joined = true ↔ ∀ thread, ¬s.Unexited thread := by
  unfold Session.Joined
  rw [decide_eq_true_eq]
  constructor
  · rintro ⟨reader,workers,writer⟩ thread live
    cases thread with
    | reader => exact reader.elim live.1 live.2
    | worker k =>
        obtain ⟨pc,here,stays⟩ := live
        exact stays (workers pc (Slots.present here))
    | writer => exact writer.elim live.1 live.2
  · intro none
    refine ⟨?_,?_,?_⟩
    · exact Decidable.or_iff_not_not_and_not.mpr (none .reader)
    · intro pc inside
      obtain ⟨k,here⟩ := List.mem_iff_getElem?.mp inside
      exact Decidable.byContradiction fun stays => none (.worker k) ⟨pc,here,stays⟩
    · exact Decidable.or_iff_not_not_and_not.mpr (none .writer)

theorem Advancing.goesOn (advancing : Advancing env s) (unpaused : s.readerTask.m_pause = false) (live : s.Joined = false) :
    ∃ action t, action.ofComponent = true ∧ sessionStep env source s action = some t ∧ s.waits action = [] := by
  obtain ⟨hashing,write⟩ := advancing.bounded.short
  have pushHashing := push_room (advancing.bounded.hashingSize ▸ hashing)
  have pushWrite := push_room (advancing.bounded.writeSize ▸ write)
  have torn : Tear := ⟨fun _ => false,0⟩
  obtain ⟨thread,live,ready⟩ : ∃ thread, s.Unexited thread ∧ ¬s.WaitsInPop thread := by
    by_contra none
    simp only [not_exists,not_and,not_not] at none
    refine advancing.handover.moving advancing.order ⟨?_,none⟩
    by_contra gone
    rw [joined_all.mpr fun thread live => gone ⟨thread,live⟩] at live
    cases live
  cases thread with
  | reader =>
      have goes : (readerStep env source (.fail torn) s).isSome = true ∧ s.idles (.reader (.fail torn)) = false :=
        reader_goesOn live.1 live.2 unpaused pushHashing pushWrite torn
      obtain ⟨goes,busy⟩ := goes
      obtain ⟨t,ran⟩ := Option.isSome_iff_exists.mp goes
      exact ⟨.reader (.fail torn),t,rfl,ran,by simp [Session.waits,busy]⟩
  | worker k =>
      obtain ⟨pc,here,stays⟩ := live
      have goes : (workerStep env k s).isSome = true := worker_goesOn here stays ready pushWrite advancing.free
      obtain ⟨t,ran⟩ := Option.isSome_iff_exists.mp goes
      exact ⟨.worker k,t,rfl,ran,rfl⟩
  | writer =>
      have goes : (writerStep env (.fail torn) s).isSome = true := writer_goesOn live.1 live.2 ready advancing.free torn
      obtain ⟨t,ran⟩ := Option.isSome_iff_exists.mp goes
      exact ⟨.writer (.fail torn),t,rfl,ran,rfl⟩

def VolumeTaskSharedConfig.sessionSteps (config : VolumeTaskSharedConfig) : Nat :=
  18*(config.m_maxIndex+1)+7*config.hasherWorkerNum.toNat+9

section runs
variable {context : BlockHashingContext} {processed written : Bitmap} {counter : SessionCounter} {target : Content}

theorem Advancing.new (pooled : Pooled env.config) : Advancing env (.new env.config context processed written counter target) := by
  have fresh : Undisturbed env target (.new env.config context processed written counter target) := .new pooled
  refine ⟨fresh.order,fresh.known,.new,.new,fresh.buffers.size,fresh.buffers.table,fun ptr held => ?_⟩
  obtain ⟨k,same,_⟩ := fresh.buffers.taken ptr held
  rw [same,Nat.mul_mod_left]

theorem new_steps : (Session.new env.config context processed written counter target).steps env.config = env.config.sessionSteps := by
  simp [Session.steps,Session.new,VolumeBlockReader.steps,VolumeBlockHasher.steps,WriterPc.steps,
    VolumeTaskSharedConfig.loopSteps,VolumeTaskSharedConfig.sessionSteps]
  omega

-- However the threads take turns, whatever fails and whoever aborts.
theorem session_ends (pooled : Pooled env.config) (path : Runs (traced (sessionStep env source) Session.waits) (fun s => InOrder env s.1)
    (.new env.config context processed written counter target,[]) actions (s,waited)) :
    actions.countP SessionAction.ofComponent ≤ env.config.sessionSteps+2*waited.length ∧
      (s.readerTask.m_pause = false → s.Joined = false → ∃ action t, action.ofComponent = true ∧
        sessionStep env source s action = some t ∧ s.waits action = []) := by
  constructor
  · have paid := path.paid (fun _ => True) (Session.steps env.config) SessionAction.ofComponent 2 trivial (fun _ _ _ _ _ _ => trivial)
      fun _ _ _ _ ran _ => session_pays ran
    rw [new_steps] at paid
    simp only [List.length_nil] at paid
    omega
  · have advancing : Advancing env s := path.invariant (fun s => Advancing env s.1) (.new pooled) fun _ _ _ known ran inOrder =>
      known.step pooled (sessionStep_sound (traced_step ran).1) inOrder
    exact advancing.goesOn

end runs

def pausedReader : List SessionAction :=
  [.start .readerTask,.start .hasherTask,.start .writerTask,.pause true]++.replicate 4 (.reader .ok)++[.pause false]++.replicate 2 (.reader .ok)

theorem session_ends_letter : ∃ (s : Session) (waited : List SessionAction), pausedReader.countP SessionAction.ofComponent ≤ 34+2*waited.length ∧
    waited.length = 1 ∧ ∃ action t, action.ofComponent = true ∧ sessionStep letterEnv letter s action = some t ∧ s.waits action = [] := by
  have run : (execute (traced (sessionStep letterEnv letter) Session.waits) (fun s action => decide (InOrder letterEnv s.1 action))
      (letterStart,[]) pausedReader).any
      (fun s => decide (s.2.length = 1 ∧ s.1.readerTask.m_pause = false ∧ s.1.Joined = false)) = true := by decide +kernel
  obtain ⟨s,path,good⟩ := execute_ends (fun _ _ => of_decide_eq_true) run
  obtain ⟨waited,unpaused,live⟩ := of_decide_eq_true good
  obtain ⟨few,goesOn⟩ := session_ends ⟨by decide,by decide⟩ path
  exact ⟨s.1,s.2,few,waited,goesOn unpaused live⟩

end VolumeBackup
