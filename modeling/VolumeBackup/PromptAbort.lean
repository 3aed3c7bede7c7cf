import VolumeBackup.TaskTermination

namespace VolumeBackup
open ByteMemory LabelledRuns

structure Aborted (env : SessionEnv) (s : Session) : Prop where
  order : FinishOrder env s
  reader : s.readerTask.task.m_abort = true
  hasher : env.config.hasherEnabled = true → s.hasherTask.task.m_abort = true
  writer : s.writerTask.task.m_abort = true

-- The steps that a thread still takes once it is to find its flag set: those until it looks, and those behind its loop.
def ReaderPc.stepsAborted : ReaderPc → Nat
  | .pause => 8
  | .skip => 7
  | .fetch => 6
  | .read _ => 5
  | .push _ | .notStarted | .start => 4
  | .check => 3
  | .terminate _ => 2
  | .finish => 1
  | .exited => 0

def WorkerPc.stepsAborted : WorkerPc → Nat
  | .pop => 10
  | .hash _ => 9
  | .diff _ => 8
  | .free _ => 7
  | .mark _ | .push _ | .start => 6
  | .check => 5
  | .terminate _ => 4
  | .leave => 3
  | .test => 2
  | .finish => 1
  | .exited => 0

def WriterPc.stepsAborted : WriterPc → Nat
  | .pop => 10
  | .write _ => 9
  | .failed _ => 8
  | .markWritten _ => 7
  | .markProcessed _ => 6
  | .free _ | .discard _ => 5
  | .notStarted | .check => 4
  | .terminate _ => 3
  | .review => 2
  | .revise => 1
  | .exited => 0

def Session.crew (config : VolumeTaskSharedConfig) (s : Session) : Nat :=
  if s.hasherTask.m_workers = [] then config.hasherWorkerNum.toNat else s.hasherTask.m_workers.length

def crewSteps (config : VolumeTaskSharedConfig) (workers : List WorkerPc) : Nat :=
  if workers = [] then 6*config.hasherWorkerNum.toNat else (workers.map WorkerPc.stepsAborted).sum

def Session.stepsAborted (config : VolumeTaskSharedConfig) (s : Session) : Nat :=
  s.readerTask.pc.stepsAborted+crewSteps config s.hasherTask.m_workers+s.writerTask.pc.stepsAborted

variable {env : SessionEnv} {source : Content} {s t : Session}

theorem Step.aborted (step : Step env source s action t) : (s.readerTask.task.m_abort = true → t.readerTask.task.m_abort = true) ∧
    (s.hasherTask.task.m_abort = true → t.hasherTask.task.m_abort = true) ∧
    (s.writerTask.task.m_abort = true → t.writerTask.task.m_abort = true) := by
  cases action with
  | reader outcome => cases (step : ReaderStep env source outcome s t) <;> exact ⟨id,id,id⟩
  | worker k => cases (step : WorkerStep env k s t) <;> exact ⟨id,id,id⟩
  | writer outcome => cases (step : WriterStep env outcome s t) <;> exact ⟨id,id,id⟩
  | start component => cases (step : ControlStep env _ s t) <;> exact ⟨id,id,id⟩
  | pause paused =>
      cases (step : ControlStep env _ s t)
      exact ⟨id,id,id⟩
  | abort component | aborted component | aborting component =>
      cases (step : ControlStep env _ s t)
      cases component <;> first | exact ⟨id,id,id⟩ | exact ⟨fun _ => rfl,id,id⟩ | exact ⟨id,fun _ => rfl,id⟩ | exact ⟨id,id,fun _ => rfl⟩

theorem Aborted.step (aborted : Aborted env s) (step : Step env source s action t) : Aborted env t where
  order := aborted.order.step step
  reader := step.aborted.1 aborted.reader
  hasher enabled := step.aborted.2.1 (aborted.hasher enabled)
  writer := step.aborted.2.2 aborted.writer

theorem reader_less (workers : t.hasherTask.m_workers = s.hasherTask.m_workers) (writer : t.writerTask.pc = s.writerTask.pc)
    (less : t.readerTask.pc.stepsAborted < s.readerTask.pc.stepsAborted) : t.stepsAborted env.config+1 ≤ s.stepsAborted env.config := by
  unfold Session.stepsAborted
  rw [workers,writer]
  omega

theorem writer_less (reader : t.readerTask.pc = s.readerTask.pc) (workers : t.hasherTask.m_workers = s.hasherTask.m_workers)
    (less : t.writerTask.pc.stepsAborted < s.writerTask.pc.stepsAborted) : t.stepsAborted env.config+1 ≤ s.stepsAborted env.config := by
  unfold Session.stepsAborted
  rw [reader,workers]
  omega

theorem worker_less (here : s.hasherTask.m_workers[k]? = some old) (reader : t.readerTask.pc = s.readerTask.pc)
    (workers : t.hasherTask.m_workers = s.hasherTask.m_workers.set k new) (writer : t.writerTask.pc = s.writerTask.pc)
    (less : new.stepsAborted < old.stepsAborted) : t.stepsAborted env.config+1 ≤ s.stepsAborted env.config := by
  have inside := List.ne_nil_of_mem (Slots.present here)
  have moved := Slots.sum_set WorkerPc.stepsAborted here new
  unfold Session.stepsAborted crewSteps
  rw [reader,workers,writer,if_neg (by simpa using inside),if_neg inside]
  omega

theorem Aborted.readerPays (aborted : Aborted env s) (step : ReaderStep env source outcome s t) :
    t.stepsAborted env.config+1 ≤ s.stepsAborted env.config ∨ (s.readerTask.pc = .fetch ∧ t = s) := by
  cases step with
  | goOn here inside running => cases running.symm.trans aborted.reader
  | retried here => exact .inr ⟨here,rfl⟩
  | completed here | stopped here | aborted here | begin here | paused here | unpaused here | skipped here | needed here | fetched here
  | timeout here | read here | unread here | pushHashing here | pushWrite here | terminate here | finishHashing here | finishWrite here =>
      exact .inl (reader_less rfl rfl (by simp [Session.reader,Session.record,ReaderPc.stepsAborted,here]))

theorem Aborted.workerPays (aborted : Aborted env s) (step : WorkerStep env k s t) :
    t.stepsAborted env.config+1 ≤ s.stepsAborted env.config := by
  cases step with
  | goOn here running => cases running.symm.trans (aborted.hasher (aborted.order.enabled here))
  | hashed here same =>
      refine worker_less here rfl rfl rfl ?_
      cases env.m_forwardMode <;> simp [hashedPc,WorkerPc.stepsAborted]
  | start here | aborted here | drained here | popped here | unchanged here | changed here | freed here | marked here | pushed here
  | terminate here | leave here | others here | last here | finish here =>
      exact worker_less here rfl rfl rfl (by simp [WorkerPc.stepsAborted])

theorem Aborted.writerPays (aborted : Aborted env s) (step : WriterStep env outcome s t) :
    t.stepsAborted env.config+1 ≤ s.stepsAborted env.config := by
  cases step with
  | goOn here running => cases running.symm.trans aborted.writer
  | aborted here | drained here | taken here | refused here | discarded here | written here | torn here | empty here | failed here
  | markWritten here | markProcessed here | freed here | terminate here | provisional here | reviewed here | revised here =>
      exact writer_less rfl rfl (by simp [Session.writer,Session.record,WriterPc.stepsAborted,here])

theorem Aborted.controlPays (step : ControlStep env action s t) : t.stepsAborted env.config ≤ s.stepsAborted env.config := by
  cases step with
  | startReader here | startWriter here => simp [Session.stepsAborted,ReaderPc.stepsAborted,WriterPc.stepsAborted,here]
  | startHasher here hasher =>
      have all : (List.replicate env.config.hasherWorkerNum.toNat WorkerPc.start).map WorkerPc.stepsAborted =
          List.replicate env.config.hasherWorkerNum.toNat 6 := List.map_replicate
      simp only [Session.stepsAborted,crewSteps,here,if_true]
      split
      · exact Nat.le_refl _
      · rw [all,List.sum_replicate_nat]
        omega
  | hasherIdle | pause => exact Nat.le_refl _
  | abort component | aborted component | aborting component => cases component <;> exact Nat.le_refl _

theorem Aborted.pays (aborted : Aborted env s) (ran : sessionStep env source s action = some t) :
    t.stepsAborted env.config+action.ofComponent.toNat ≤ s.stepsAborted env.config+1*(s.waits action).length := by
  have step := sessionStep_sound ran
  cases action with
  | reader outcome =>
      rcases aborted.readerPays step with paid | ⟨here,rfl⟩
      · exact Nat.le_add_right_of_le paid
      · simp [Session.waits,reader_retries here ran,SessionAction.ofComponent]
  | worker k => exact Nat.le_add_right_of_le (aborted.workerPays step)
  | writer outcome => exact Nat.le_add_right_of_le (aborted.writerPays step)
  | start | pause | abort | aborted | aborting => exact Nat.le_add_right_of_le (Aborted.controlPays step)

def Event.isRead : Event → Bool
  | .read _ _ => true
  | _ => false

def Event.isHash : Event → Bool
  | .hash _ => true
  | _ => false

def ReaderPc.reads : ReaderPc → Nat
  | .pause | .skip | .fetch | .read _ => 1
  | _ => 0

def WorkerPc.hashes : WorkerPc → Nat
  | .pop | .hash _ => 1
  | _ => 0

def WriterPc.writes : WriterPc → Nat
  | .pop | .write _ => 1
  | _ => 0

def Session.reads (s : Session) : Nat := s.history.countP Event.isRead+s.readerTask.pc.reads
def Session.hashes (s : Session) : Nat := s.history.countP Event.isHash+(s.hasherTask.m_workers.map WorkerPc.hashes).sum
def Session.writes (s : Session) : Nat := s.history.countP Event.isWrite+s.writerTask.pc.writes

structure NoMore (s t : Session) : Prop where
  reads : t.reads ≤ s.reads
  hashes : t.hashes ≤ s.hashes
  writes : t.writes ≤ s.writes

theorem Aborted.readerNoMore (aborted : Aborted env s) (step : ReaderStep env source outcome s t) : NoMore s t := by
  cases step with
  | goOn here inside running => cases running.symm.trans aborted.reader
  | retried here => exact ⟨Nat.le_refl _,Nat.le_refl _,Nat.le_refl _⟩
  | completed here | stopped here | aborted here | begin here | paused here | unpaused here | skipped here | needed here | fetched here
  | timeout here | read here | unread here | pushHashing here | pushWrite here | terminate here | finishHashing here | finishWrite here =>
      constructor <;> simp [Session.reads,Session.hashes,Session.writes,Session.reader,Session.record,ReaderPc.reads,List.countP_cons,
        Event.isRead,Event.isHash,Event.isWrite,here]

theorem Aborted.writerNoMore (aborted : Aborted env s) (step : WriterStep env outcome s t) : NoMore s t := by
  cases step with
  | goOn here running => cases running.symm.trans aborted.writer
  | aborted here | drained here | taken here | refused here | discarded here | written here | torn here | empty here | failed here
  | markWritten here | markProcessed here | freed here | terminate here | provisional here | reviewed here | revised here =>
      constructor <;> simp [Session.reads,Session.hashes,Session.writes,Session.writer,Session.record,WriterPc.writes,List.countP_cons,
        Event.isRead,Event.isHash,Event.isWrite,here]

theorem workerNoMore (here : s.hasherTask.m_workers[k]? = some old) (reader : t.readerTask.pc = s.readerTask.pc)
    (workers : t.hasherTask.m_workers = s.hasherTask.m_workers.set k new) (writer : t.writerTask.pc = s.writerTask.pc)
    (reads : t.history.countP Event.isRead = s.history.countP Event.isRead)
    (writes : t.history.countP Event.isWrite = s.history.countP Event.isWrite)
    (hashes : t.history.countP Event.isHash+new.hashes ≤ s.history.countP Event.isHash+old.hashes) : NoMore s t := by
  have moved := Slots.sum_set WorkerPc.hashes here new
  refine ⟨?_,?_,?_⟩
  · simp [Session.reads,reads,reader]
  · simp only [Session.hashes,workers]
    omega
  · simp [Session.writes,writes,writer]

theorem Aborted.workerNoMore (aborted : Aborted env s) (step : WorkerStep env k s t) : NoMore s t := by
  cases step with
  | goOn here running => cases running.symm.trans (aborted.hasher (aborted.order.enabled here))
  | hashed here same =>
      refine VolumeBackup.workerNoMore here rfl rfl rfl rfl rfl ?_
      cases env.m_forwardMode <;> simp [hashedPc,WorkerPc.hashes,Session.record,Session.worker,Event.isHash,List.countP_cons]
  | start here | aborted here | drained here | popped here | unchanged here | changed here | freed here | marked here | pushed here
  | terminate here | leave here | others here | last here | finish here =>
      exact VolumeBackup.workerNoMore here rfl rfl rfl rfl rfl (by simp [WorkerPc.hashes,Session.record,Session.worker,Event.isHash])

theorem Aborted.noMore (aborted : Aborted env s) (step : Step env source s action t) : NoMore s t := by
  cases action with
  | reader outcome => exact aborted.readerNoMore step
  | worker k => exact aborted.workerNoMore step
  | writer outcome => exact aborted.writerNoMore step
  | start component =>
      cases (step : ControlStep env _ s t) with
      | startReader here | startWriter here =>
          constructor <;> simp [Session.reads,Session.hashes,Session.writes,ReaderPc.reads,WriterPc.writes,here]
      | hasherIdle => exact ⟨Nat.le_refl _,Nat.le_refl _,Nat.le_refl _⟩
      | startHasher here =>
          constructor <;> simp [Session.reads,Session.hashes,Session.writes,WorkerPc.hashes,here]
  | pause paused =>
      cases (step : ControlStep env _ s t)
      exact ⟨Nat.le_refl _,Nat.le_refl _,Nat.le_refl _⟩
  | abort component | aborted component | aborting component =>
      cases (step : ControlStep env _ s t)
      cases component <;> exact ⟨Nat.le_refl _,Nat.le_refl _,Nat.le_refl _⟩

theorem steps_few : s.stepsAborted env.config ≤ 18+10*s.crew env.config := by
  have reader : s.readerTask.pc.stepsAborted ≤ 8 := by cases s.readerTask.pc <;> simp [ReaderPc.stepsAborted]
  have writer : s.writerTask.pc.stepsAborted ≤ 10 := by cases s.writerTask.pc <;> simp [WriterPc.stepsAborted]
  have each (pc : WorkerPc) : pc.stepsAborted ≤ 10 := by cases pc <;> simp [WorkerPc.stepsAborted]
  have workers : crewSteps env.config s.hasherTask.m_workers ≤ 10*s.crew env.config := by
    unfold crewSteps Session.crew
    split
    · omega
    · rw [Nat.mul_comm]
      exact Slots.sum_bound each
  unfold Session.stepsAborted
  omega

theorem counts_few : s.reads ≤ s.history.countP Event.isRead+1 ∧ s.hashes ≤ s.history.countP Event.isHash+s.hasherTask.m_workers.length ∧
    s.writes ≤ s.history.countP Event.isWrite+1 := by
  have reader : s.readerTask.pc.reads ≤ 1 := by cases s.readerTask.pc <;> simp [ReaderPc.reads]
  have writer : s.writerTask.pc.writes ≤ 1 := by cases s.writerTask.pc <;> simp [WriterPc.writes]
  have each (pc : WorkerPc) : pc.hashes ≤ 1 := by cases pc <;> simp [WorkerPc.hashes]
  have workers : (s.hasherTask.m_workers.map WorkerPc.hashes).sum ≤ s.hasherTask.m_workers.length*1 := Slots.sum_bound each
  unfold Session.reads Session.hashes Session.writes
  omega

section runs
variable {context : BlockHashingContext} {processed written : Bitmap} {counter : SessionCounter} {target : Content}

-- An aborted session makes no more than one more read, one more write and one more checksum a worker, and its
-- threads are gone after a number of steps in which the size of the volume does not occur: until then, one that
-- does not wait can take its next one.
theorem abort_prompt (pooled : Pooled env.config)
    (reached : Reached (sessionStep env source) (InOrder env) (.new env.config context processed written counter target) s)
    (reader : s.readerTask.task.m_abort = true) (hasher : env.config.hasherEnabled = true → s.hasherTask.task.m_abort = true)
    (writer : s.writerTask.task.m_abort = true)
    (path : Runs (traced (sessionStep env source) Session.waits) (fun s => InOrder env s.1) (s,[]) actions (t,waited)) :
    actions.countP SessionAction.ofComponent ≤ 18+10*s.crew env.config+waited.length ∧
      (t.readerTask.m_pause = false → t.Joined = false → ∃ action u, action.ofComponent = true ∧
        sessionStep env source t action = some u ∧ t.waits action = []) ∧
      t.history.countP Event.isRead ≤ s.history.countP Event.isRead+1 ∧
      t.history.countP Event.isHash ≤ s.history.countP Event.isHash+s.hasherTask.m_workers.length ∧
      t.history.countP Event.isWrite ≤ s.history.countP Event.isWrite+1 := by
  obtain ⟨earlier,before⟩ := reached
  have ready : Advancing env s := before.invariant (Advancing env) (.new pooled) fun _ _ _ known ran inOrder =>
    known.step pooled (sessionStep_sound ran) inOrder
  have aborted : Aborted env s := ⟨ready.order,reader,hasher,writer⟩
  refine ⟨?_,?_,?_⟩
  · have paid := path.paid (Aborted env) (Session.stepsAborted env.config) SessionAction.ofComponent 1 aborted
      (fun _ _ _ known ran _ => known.step (sessionStep_sound ran)) fun _ _ _ known ran _ => known.pays ran
    have few : s.stepsAborted env.config ≤ 18+10*s.crew env.config := steps_few
    simp only [List.length_nil] at paid
    omega
  · have advancing : Advancing env t := path.invariant (fun u => Advancing env u.1) ready fun _ _ _ known ran inOrder =>
      known.step pooled (sessionStep_sound (traced_step ran).1) inOrder
    exact advancing.goesOn
  · obtain ⟨_,fewer⟩ : Aborted env t ∧ NoMore s t := path.invariant (fun u => Aborted env u.1 ∧ NoMore s u.1)
      ⟨aborted,Nat.le_refl _,Nat.le_refl _,Nat.le_refl _⟩ fun _ _ _ ⟨known,fewer⟩ ran _ =>
        have step := sessionStep_sound (traced_step ran).1
        have less := known.noMore step
        ⟨known.step step,less.reads.trans fewer.reads,less.hashes.trans fewer.hashes,less.writes.trans fewer.writes⟩
    obtain ⟨reads,hashes,writes⟩ := fewer
    obtain ⟨fewReads,fewHashes,fewWrites⟩ := @counts_few s
    exact ⟨(Nat.le_add_right _ _).trans (reads.trans fewReads),(Nat.le_add_right _ _).trans (hashes.trans fewHashes),
      (Nat.le_add_right _ _).trans (writes.trans fewWrites)⟩

end runs

def abortedReading : List SessionAction :=
  [.start .readerTask,.start .hasherTask,.start .writerTask]++.replicate 5 (.reader .ok)++
    [.abort .readerTask,.abort .hasherTask,.abort .writerTask]

def afterAbort : List SessionAction := .replicate 5 (.reader .ok)++.replicate 6 (.worker 0)++.replicate 2 (.writer .ok)

-- In the end only the writer is left, and it goes on.
theorem abort_prompt_letter : ∃ (s t : Session) (waited : List SessionAction),
    s.history.countP Event.isRead = 0 ∧ t.history.countP Event.isRead = 1 ∧
      afterAbort.countP SessionAction.ofComponent ≤ 18+10*s.crew letterEnv.config+waited.length ∧
      t.history.countP Event.isRead ≤ s.history.countP Event.isRead+1 ∧ t.readerTask.pc = .exited ∧
      ∃ action u, action.ofComponent = true ∧ sessionStep letterEnv letter t action = some u ∧ t.waits action = [] := by
  have run : (execute (sessionStep letterEnv letter) (fun s action => decide (InOrder letterEnv s action)) letterStart abortedReading).any
      (fun s => decide (s.readerTask.task.m_abort = true ∧ s.hasherTask.task.m_abort = true ∧ s.writerTask.task.m_abort = true ∧
        s.history.countP Event.isRead = 0) &&
      (execute (traced (sessionStep letterEnv letter) Session.waits) (fun s action => decide (InOrder letterEnv s.1 action)) (s,[]) afterAbort).any
        fun u => decide (u.1.history.countP Event.isRead = 1 ∧ u.1.readerTask.pc = .exited ∧ u.1.readerTask.m_pause = false ∧
          u.1.Joined = false)) = true := by decide +kernel
  obtain ⟨s,before,good⟩ := execute_ends (fun _ _ => of_decide_eq_true) run
  obtain ⟨here,later⟩ := Bool.and_eq_true_iff.mp good
  obtain ⟨reader,hasher,writer,none⟩ := of_decide_eq_true here
  obtain ⟨u,path,ended⟩ := execute_ends (fun _ _ => of_decide_eq_true) later
  obtain ⟨read,exited,unpaused,live⟩ := of_decide_eq_true ended
  obtain ⟨few,goesOn,reads,_⟩ := abort_prompt ⟨by decide,by decide⟩ ⟨_,before⟩ reader (fun _ => hasher) writer path
  exact ⟨s,u.1,u.2,none,read,few,reads,exited,goesOn unpaused live⟩

end VolumeBackup
