import VolumeBackup.Slots
import VolumeBackup.SessionSteps

namespace VolumeBackup
open ByteMemory

def WorkerPc.running : WorkerPc → Bool
  | .start | .test | .finish | .exited => false
  | _ => true

def WorkerPc.busy : WorkerPc → Bool
  | .hash _ | .diff _ | .free _ | .mark _ | .push _ => true
  | _ => false

def WorkerPc.gone : WorkerPc → Bool
  | .terminate _ | .leave | .test | .finish | .exited => true
  | _ => false

def BlockingQueue.Drained (queue : BlockingQueue) : Prop := queue.m_queue = [] ∧ queue.m_finished = true

-- The hasher can push nothing any more: no worker has a block, and none that is still to come can get
-- one, because the hashing queue is drained or because it will see the abort before it pops.
def Closed (s : Session) : Prop :=
  s.hasherTask.m_workers ≠ [] ∧ (∀ pc ∈ s.hasherTask.m_workers, pc.busy = false) ∧
    (s.hashingQueue.Drained ∨ s.hasherTask.task.m_abort = true ∧ ∀ pc ∈ s.hasherTask.m_workers, pc ≠ .pop)

structure FinishOrder (env : SessionEnv) (s : Session) : Prop where
  unused : env.config.hasherEnabled = false → s.hasherTask.m_workers = []
  running : s.hasherTask.m_workersRunning = s.hasherTask.m_workers.countP WorkerPc.running
  hashing : env.config.hasherEnabled = true → s.hashingQueue.m_finished = true → s.readerTask.pc = .exited
  plain : env.config.hasherEnabled = false → s.writeQueue.m_finished = true → s.readerTask.pc = .exited
  gone : ∀ pc ∈ s.hasherTask.m_workers, pc.gone = true → s.hashingQueue.Drained ∨ s.hasherTask.task.m_abort = true
  closed : env.config.hasherEnabled = true → s.writeQueue.m_finished = true ∨ .finish ∈ s.hasherTask.m_workers → Closed s

variable {env : SessionEnv} {source : Content} {s t : Session} {queue next : BlockingQueue} {block : VolumeConsumeBlock}
  {k : Nat} {pc : WorkerPc}

theorem push_finished (pushed : queue.BlockingPush block = some next) : next.m_finished = queue.m_finished := by
  unfold BlockingQueue.BlockingPush at pushed
  split at pushed
  · cases Option.some.inj pushed; rfl
  · split at pushed
    · cases Option.some.inj pushed; rfl
    · cases pushed

theorem push_open (pushed : queue.BlockingPush block = some next) (unfinished : queue.m_finished = false) :
    next = {queue with m_queue := queue.m_queue++[block]} := by
  unfold BlockingQueue.BlockingPush at pushed
  rw [if_neg (by simp [unfinished])] at pushed
  split at pushed
  · exact (Option.some.inj pushed).symm
  · cases pushed

theorem push_drained (pushed : queue.BlockingPush block = some next) (drained : queue.Drained) : next = queue := by
  unfold BlockingQueue.BlockingPush at pushed
  rw [if_pos drained.2] at pushed
  exact (Option.some.inj pushed).symm

theorem Closed.frame (closed : Closed s) (hasher : t.hasherTask = s.hasherTask)
    (drained : s.hashingQueue.Drained → t.hashingQueue.Drained) : Closed t := by
  unfold Closed
  rw [hasher]
  exact ⟨closed.1,closed.2.1,closed.2.2.imp_left drained⟩

theorem FinishOrder.readerMoves (valid : FinishOrder env s) (live : s.readerTask.pc ≠ .exited)
    (hasher : t.hasherTask = s.hasherTask) (hashing : t.hashingQueue = s.hashingQueue)
    (write : t.writeQueue = s.writeQueue) : FinishOrder env t := by
  refine ⟨?_,?_,?_,?_,?_,?_⟩
  · rw [hasher]; exact valid.unused
  · rw [hasher]; exact valid.running
  · rw [hashing]
    intro enabled finished
    exact absurd (valid.hashing enabled finished) live
  · rw [write]
    intro disabled finished
    exact absurd (valid.plain disabled finished) live
  · rw [hasher,hashing]; exact valid.gone
  · rw [hasher,write]
    intro enabled finished
    exact (valid.closed enabled finished).frame hasher (by rw [hashing]; exact id)

theorem FinishOrder.frame (valid : FinishOrder env s) (reader : t.readerTask.pc = s.readerTask.pc)
    (hasher : t.hasherTask = s.hasherTask) (hashing : t.hashingQueue = s.hashingQueue)
    (write : t.writeQueue.m_finished = s.writeQueue.m_finished) : FinishOrder env t := by
  refine ⟨?_,?_,?_,?_,?_,?_⟩
  · rw [hasher]; exact valid.unused
  · rw [hasher]; exact valid.running
  · rw [hashing,reader]; exact valid.hashing
  · rw [write,reader]; exact valid.plain
  · rw [hasher,hashing]; exact valid.gone
  · rw [hasher,write]
    intro enabled finished
    exact (valid.closed enabled finished).frame hasher (by rw [hashing]; exact id)

theorem FinishOrder.reader (valid : FinishOrder env s) (step : ReaderStep env source outcome s t) : FinishOrder env t := by
  cases step with
  | begin here | completed here | stopped here | aborted here | goOn here | paused here | unpaused here
  | skipped here | needed here | fetched here | timeout here | read here | unread here
  | terminate here =>
      exact valid.readerMoves (by simp [here]) rfl rfl rfl
  | retried here => exact valid
  | pushHashing here hasher pushed =>
      have unfinished : s.hashingQueue.m_finished = false := by
        cases finished : s.hashingQueue.m_finished with
        | false => rfl
        | true => have := valid.hashing hasher finished; simp [here] at this
      have kept := push_finished pushed
      refine ⟨valid.unused,valid.running,?_,?_,?_,?_⟩
      · intro _ finished
        rw [kept,unfinished] at finished
        cases finished
      · intro disabled
        rw [hasher] at disabled
        cases disabled
      · intro pc inside gone
        rcases valid.gone pc inside gone with drained | abort
        · cases unfinished.symm.trans drained.2
        · exact .inr abort
      · intro enabled finished
        exact (valid.closed enabled finished).frame rfl fun drained => nomatch unfinished.symm.trans drained.2
  | pushWrite here plain pushed =>
      have kept := push_finished pushed
      refine ⟨valid.unused,valid.running,?_,?_,valid.gone,?_⟩
      · intro enabled
        rw [plain] at enabled
        cases enabled
      · intro _ finished
        have earlier : s.writeQueue.m_finished = true := kept.symm.trans finished
        have := valid.plain plain earlier
        simp [here] at this
      · intro enabled
        rw [plain] at enabled
        cases enabled
  | finishHashing here hasher =>
      refine ⟨valid.unused,valid.running,fun _ _ => rfl,fun _ _ => rfl,?_,?_⟩
      · intro pc inside gone
        exact (valid.gone pc inside gone).imp_left fun drained => ⟨drained.1,rfl⟩
      · intro enabled finished
        exact (valid.closed enabled finished).frame rfl fun drained => ⟨drained.1,rfl⟩
  | finishWrite here plain =>
      refine ⟨valid.unused,valid.running,fun _ _ => rfl,fun _ _ => rfl,valid.gone,?_⟩
      intro enabled
      rw [plain] at enabled
      cases enabled

theorem FinishOrder.writer (valid : FinishOrder env s) (step : WriterStep env outcome s t) : FinishOrder env t := by
  cases step <;> exact valid.frame rfl rfl rfl rfl

theorem FinishOrder.workerMoves (valid : FinishOrder env s) (here : s.hasherTask.m_workers[k]? = some old)
    (reader : t.readerTask = s.readerTask) (abort : t.hasherTask.task.m_abort = s.hasherTask.task.m_abort)
    (workers : t.hasherTask.m_workers = s.hasherTask.m_workers.set k new)
    (count : t.hasherTask.m_workersRunning+(if old.running then 1 else 0) =
      s.hasherTask.m_workersRunning+(if new.running then 1 else 0))
    (hashing : t.hashingQueue = s.hashingQueue)
    (write : t.writeQueue.m_finished = s.writeQueue.m_finished) (unclosing : new ≠ .finish)
    (busy : new.busy = true → old.busy = true)
    (gone : new.gone = true → old.gone = true ∨ s.hashingQueue.Drained ∨ s.hasherTask.task.m_abort = true)
    (pop : new = .pop → s.hasherTask.task.m_abort = false) : FinishOrder env t := by
  have inside := Slots.present here
  refine ⟨?_,?_,?_,?_,?_,?_⟩
  · intro disabled
    have none := valid.unused disabled
    rw [none] at here
    simp at here
  · have moved := Slots.countP_set WorkerPc.running here new
    rw [workers]
    have before := valid.running
    omega
  · rw [hashing,reader]; exact valid.hashing
  · rw [write,reader]; exact valid.plain
  · rw [workers,hashing,abort]
    refine Slots.all_set valid.gone fun left => ?_
    rcases gone left with before | ended
    · exact valid.gone old inside before
    · exact ended
  · rw [write,workers]
    intro enabled finished
    have earlier : s.writeQueue.m_finished = true ∨ .finish ∈ s.hasherTask.m_workers := by
      refine finished.imp_right fun found => ?_
      rcases Slots.of_set found with same | before
      · exact absurd same.symm unclosing
      · exact before
    obtain ⟨some,idle,rest⟩ := valid.closed enabled earlier
    unfold Closed
    rw [workers,hashing,abort]
    refine ⟨by simpa using some,Slots.all_set idle ?_,?_⟩
    · cases busyNow : new.busy with
      | false => rfl
      | true => rw [← busy busyNow]; exact idle old inside
    · refine rest.imp_right fun ⟨flag,clear⟩ => ⟨flag,Slots.all_set clear fun same => ?_⟩
      cases (pop same).symm.trans flag

theorem FinishOrder.enabled (valid : FinishOrder env s) (here : s.hasherTask.m_workers[k]? = some pc) :
    env.config.hasherEnabled = true := by
  cases flag : env.config.hasherEnabled with
  | true => rfl
  | false =>
      rw [valid.unused flag] at here
      simp at here

theorem FinishOrder.worker (valid : FinishOrder env s) (step : WorkerStep env k s t) : FinishOrder env t := by
  cases step with
  | start here =>
      exact valid.workerMoves here rfl rfl rfl rfl rfl rfl nofun nofun nofun nofun
  | aborted here abort =>
      exact valid.workerMoves here rfl rfl rfl rfl rfl rfl nofun nofun (fun _ => .inr (.inr abort)) nofun
  | goOn here running =>
      exact valid.workerMoves here rfl rfl rfl rfl rfl rfl nofun nofun nofun fun _ => running
  | drained here empty finished =>
      exact valid.workerMoves here rfl rfl rfl rfl rfl rfl nofun nofun (fun _ => .inr (.inl ⟨empty,finished⟩)) nofun
  | popped here first =>
      rename_i block rest
      have inside := Slots.present here
      have full : ¬s.hashingQueue.Drained := fun drained => nomatch first.symm.trans drained.1
      refine ⟨?_,?_,valid.hashing (valid.enabled here) |> fun ended _ => ended,?_,?_,?_⟩
      · intro disabled
        rw [valid.enabled here] at disabled
        cases disabled
      · have moved := Slots.countP_set WorkerPc.running here (.hash block)
        have before := valid.running
        exact before.trans (by simpa [Session.worker,WorkerPc.running] using moved.symm)
      · intro disabled
        rw [valid.enabled here] at disabled
        cases disabled
      · refine Slots.all_set (fun pc found left => .inr ?_) nofun
        exact (valid.gone pc found left).resolve_left full
      · intro flag finished
        have earlier : s.writeQueue.m_finished = true ∨ .finish ∈ s.hasherTask.m_workers := by
          refine finished.imp_right fun found => ?_
          rcases Slots.of_set found with same | before
          · cases same
          · exact before
        obtain ⟨_,_,ended⟩ := valid.closed flag earlier
        rcases ended with drained | ⟨_,clear⟩
        · exact absurd drained full
        · exact absurd rfl (clear _ inside)
  | hashed here same =>
      refine valid.workerMoves here rfl rfl rfl ?_ rfl rfl ?_ (fun _ => rfl) ?_ ?_
      all_goals unfold hashedPc; split <;> first | rfl | nofun
  | unchanged here equal | changed here differ | freed here free =>
      exact valid.workerMoves here rfl rfl rfl rfl rfl rfl nofun (fun _ => rfl) nofun nofun
  | marked here => exact valid.workerMoves here rfl rfl rfl rfl rfl rfl nofun nofun nofun nofun
  | pushed here push =>
      exact valid.workerMoves here rfl rfl rfl rfl rfl (push_finished push) nofun nofun nofun nofun
  | terminate here => exact valid.workerMoves here rfl rfl rfl rfl rfl rfl nofun nofun (fun _ => .inl rfl) nofun
  | leave here =>
      have positive : 0 < s.hasherTask.m_workersRunning := by
        rw [valid.running]
        exact List.countP_pos_iff.mpr ⟨_,Slots.present here,rfl⟩
      exact valid.workerMoves here rfl rfl rfl (Nat.sub_add_cancel positive) rfl rfl nofun nofun (fun _ => .inl rfl) nofun
  | others here more => exact valid.workerMoves here rfl rfl rfl rfl rfl rfl nofun nofun (fun _ => .inl rfl) nofun
  | last here none =>
      have inside := Slots.present here
      -- No worker is running, so none has a block or is at its pop.
      have still : ∀ pc ∈ s.hasherTask.m_workers, pc.running = false := by
        intro pc found
        cases run : pc.running with
        | false => rfl
        | true =>
            have positive : 0 < s.hasherTask.m_workers.countP WorkerPc.running :=
              List.countP_pos_iff.mpr ⟨pc,found,run⟩
            rw [← valid.running,none] at positive
            cases positive
      have idle : ∀ pc ∈ s.hasherTask.m_workers, pc.busy = false := by
        intro pc found
        have stopped := still pc found
        cases pc <;> first | rfl | cases stopped
      have noPop : ∀ pc ∈ s.hasherTask.m_workers, pc ≠ .pop := by
        rintro pc found rfl
        cases still _ found
      refine ⟨?_,?_,valid.hashing,valid.plain,?_,?_⟩
      · intro disabled
        rw [valid.enabled here] at disabled
        cases disabled
      · have moved := Slots.countP_set WorkerPc.running here .finish
        exact valid.running.trans (by simpa [Session.worker,WorkerPc.running] using moved.symm)
      · exact Slots.all_set valid.gone fun _ => valid.gone _ inside rfl
      · intro _ _
        refine ⟨?_,Slots.all_set idle rfl,?_⟩
        · intro empty
          rw [Session.worker,List.set_eq_nil_iff] at empty
          rw [empty] at inside
          cases inside
        · refine (valid.gone _ inside rfl).imp_right fun abort => ⟨abort,Slots.all_set noPop nofun⟩
  | finish here =>
      have inside := Slots.present here
      have closed := valid.closed (valid.enabled here) (.inr inside)
      refine ⟨?_,?_,valid.hashing,?_,?_,?_⟩
      · intro disabled
        rw [valid.enabled here] at disabled
        cases disabled
      · have moved := Slots.countP_set WorkerPc.running here .exited
        exact valid.running.trans (by simpa [Session.worker,WorkerPc.running] using moved.symm)
      · intro disabled
        rw [valid.enabled here] at disabled
        cases disabled
      · exact Slots.all_set valid.gone fun _ => valid.gone _ inside rfl
      · intro _ _
        obtain ⟨some,idle,ended⟩ := closed
        refine ⟨by simpa [Session.worker] using some,Slots.all_set idle rfl,?_⟩
        exact ended.imp_right fun ⟨abort,clear⟩ => ⟨abort,Slots.all_set clear nofun⟩

theorem FinishOrder.control (valid : FinishOrder env s) (step : ControlStep env action s t) : FinishOrder env t := by
  cases step with
  | startReader here => exact valid.readerMoves (by simp [here]) rfl rfl rfl
  | hasherIdle status here idle =>
      exact ⟨valid.unused,valid.running,valid.hashing,valid.plain,valid.gone,valid.closed⟩
  | startHasher here hasher =>
      refine ⟨fun disabled => Bool.noConfusion (hasher.symm.trans disabled),?_,valid.hashing,valid.plain,?_,?_⟩
      · have none : s.hasherTask.m_workersRunning = 0 := by rw [valid.running,here]; rfl
        simp [none,List.countP_replicate,WorkerPc.running]
      · intro pc inside gone
        rw [List.eq_of_mem_replicate inside] at gone
        cases gone
      · intro enabled finished
        rcases finished with finished | found
        · exact absurd here (valid.closed enabled (.inl finished)).1
        · cases List.eq_of_mem_replicate found
  | startWriter here | pause => exact valid.frame rfl rfl rfl rfl
  | abort component =>
      cases component with
      | readerTask | writerTask => exact valid.frame rfl rfl rfl rfl
      | hasherTask =>
          refine ⟨valid.unused,valid.running,valid.hashing,valid.plain,fun _ _ _ => .inr rfl,?_⟩
          intro enabled finished
          obtain ⟨some,idle,ended⟩ := valid.closed enabled finished
          exact ⟨some,idle,ended.imp_right fun rest => ⟨rfl,rest.2⟩⟩
  | aborted component | aborting component =>
      cases component with
      | readerTask | writerTask => exact valid.frame rfl rfl rfl rfl
      | hasherTask => exact ⟨valid.unused,valid.running,valid.hashing,valid.plain,valid.gone,valid.closed⟩

theorem FinishOrder.step (valid : FinishOrder env s) (step : Step env source s action t) : FinishOrder env t := by
  cases action with
  | reader outcome => exact valid.reader step
  | worker k => exact valid.worker step
  | writer outcome => exact valid.writer step
  | start | pause | abort | aborted | aborting => exact valid.control step

theorem FinishOrder.new : FinishOrder env (.new config context processed written counter target) := by
  refine ⟨fun _ => rfl,rfl,nofun,nofun,nofun,?_⟩
  rintro _ (finished | found)
  · cases finished
  · cases found

-- No push is ever refused, because a queue that is pushed to is not finished.
theorem FinishOrder.hashingOpen (valid : FinishOrder env s) (here : s.readerTask.pc = .push block)
    (hasher : env.config.hasherEnabled = true) : s.hashingQueue.m_finished = false := by
  cases finished : s.hashingQueue.m_finished with
  | false => rfl
  | true => cases here.symm.trans (valid.hashing hasher finished)

theorem FinishOrder.readerOpen (valid : FinishOrder env s) (here : s.readerTask.pc = .push block)
    (plain : env.config.hasherEnabled = false) : s.writeQueue.m_finished = false := by
  cases finished : s.writeQueue.m_finished with
  | false => rfl
  | true => cases here.symm.trans (valid.plain plain finished)

theorem FinishOrder.workerOpen (valid : FinishOrder env s) (here : s.hasherTask.m_workers[k]? = some (WorkerPc.push block)) :
    s.writeQueue.m_finished = false := by
  cases finished : s.writeQueue.m_finished with
  | false => rfl
  | true => cases (valid.closed (valid.enabled here) (.inl finished)).2.1 _ (Slots.present here)

end VolumeBackup
