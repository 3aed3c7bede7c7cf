import VolumeBackup.Session

namespace VolumeBackup
open ByteMemory

-- Every transition of the machine with its guard, so that no later proof unfolds the step functions.
section steps
variable (env : SessionEnv) (source : Content)

inductive ReaderStep (outcome : Outcome) : Session → Session → Prop where
  | begin (here : s.readerTask.pc = .start) : ReaderStep outcome s
      {s with readerTask := {s.readerTask with m_currentIndex := InitCurrentIndex env s,pc := .check}}
  | completed (here : s.readerTask.pc = .check) (past : env.config.m_maxIndex < s.readerTask.m_currentIndex) :
      ReaderStep outcome s (s.reader (.terminate .SUCCEED))
  | stopped (here : s.readerTask.pc = .check) (failed : s.readerTask.task.m_failed = true) :
      ReaderStep outcome s (s.reader (.terminate .FAILED))
  | aborted (here : s.readerTask.pc = .check) (abort : s.readerTask.task.m_abort = true) :
      ReaderStep outcome s (s.reader (.terminate .ABORTED))
  | goOn (here : s.readerTask.pc = .check) (inside : s.readerTask.m_currentIndex ≤ env.config.m_maxIndex)
      (running : s.readerTask.task.m_abort = false) (working : s.readerTask.task.m_failed = false) :
      ReaderStep outcome s (s.reader .pause)
  | paused (here : s.readerTask.pc = .pause) : ReaderStep outcome s (s.reader .check)
  | unpaused (here : s.readerTask.pc = .pause) : ReaderStep outcome s (s.reader .skip)
  | skipped (here : s.readerTask.pc = .skip) (marked : SkipReadingBlock env s = true) : ReaderStep outcome s
      {s with readerTask := {s.readerTask with m_currentIndex := s.readerTask.m_currentIndex+1,pc := .check}}
  | needed (here : s.readerTask.pc = .skip) (unmarked : SkipReadingBlock env s = false) :
      ReaderStep outcome s (s.reader .fetch)
  | fetched (here : s.readerTask.pc = .fetch) (found : s.allocator.BlockAlloc = some (ptr,allocator)) :
      ReaderStep outcome s {s.reader (.read ptr) with allocator := allocator}
  | retried (here : s.readerTask.pc = .fetch) : ReaderStep outcome s s
  | timeout (here : s.readerTask.pc = .fetch) (none : s.allocator.BlockAlloc = none)
      (failed : outcome.isOk = false) : ReaderStep outcome s (s.reader (.terminate .FAILED))
  | read (here : s.readerTask.pc = .read ptr) (same : block = consumeBlock env s ptr)
      (done : env.dataReader.Read source block.volumeOffset block.length = some data) : ReaderStep outcome s
      {(s.reader (.push block)).record (.read block.index true) with
        pool := store s.pool ptr block.length data,
        counter := {s.counter with bytesRead := s.counter.bytesRead+block.length}}
  | unread (here : s.readerTask.pc = .read ptr) (same : block = consumeBlock env s ptr)
      (failed : outcome.isOk = false) : ReaderStep outcome s
      {(s.record (.read block.index false)) with
        readerTask := {s.readerTask with task := {s.readerTask.task with m_failed := true},pc := .terminate .FAILED}}
  | pushHashing (here : s.readerTask.pc = .push block) (hasher : env.config.hasherEnabled = true)
      (pushed : s.hashingQueue.BlockingPush block = some queue) : ReaderStep outcome s
      {s with
        hashingQueue := queue,counter := {s.counter with blocksToHash := s.counter.blocksToHash+1},
        readerTask := {s.readerTask with m_currentIndex := s.readerTask.m_currentIndex+1,pc := .check}}
  | pushWrite (here : s.readerTask.pc = .push block) (plain : env.config.hasherEnabled = false)
      (pushed : s.writeQueue.BlockingPush block = some queue) : ReaderStep outcome s
      {s with
        writeQueue := queue,counter := {s.counter with bytesToWrite := s.counter.bytesToWrite+block.length},
        readerTask := {s.readerTask with m_currentIndex := s.readerTask.m_currentIndex+1,pc := .check}}
  | terminate (here : s.readerTask.pc = .terminate status) : ReaderStep outcome s
      {s with readerTask := {s.readerTask with task := {s.readerTask.task with m_status := status},pc := .finish}}
  | finishHashing (here : s.readerTask.pc = .finish) (hasher : env.config.hasherEnabled = true) :
      ReaderStep outcome s {s.reader .exited with hashingQueue := s.hashingQueue.Finish}
  | finishWrite (here : s.readerTask.pc = .finish) (plain : env.config.hasherEnabled = false) :
      ReaderStep outcome s {s.reader .exited with writeQueue := s.writeQueue.Finish}

def hashedPc (mode : HasherForwardMode) (block : VolumeConsumeBlock) : WorkerPc :=
  match mode with
  | .DIRECT => .push block
  | .DIFF => .diff block

inductive WorkerStep : Nat → Session → Session → Prop where
  | start (here : s.hasherTask.m_workers[k]? = some .start) : WorkerStep k s
      {s with hasherTask := {s.hasherTask with
        m_workersRunning := s.hasherTask.m_workersRunning+1,m_workers := s.hasherTask.m_workers.set k .check}}
  | aborted (here : s.hasherTask.m_workers[k]? = some .check) (abort : s.hasherTask.task.m_abort = true) :
      WorkerStep k s (s.worker k (.terminate .ABORTED))
  | goOn (here : s.hasherTask.m_workers[k]? = some .check) (running : s.hasherTask.task.m_abort = false) :
      WorkerStep k s (s.worker k .pop)
  | drained (here : s.hasherTask.m_workers[k]? = some .pop) (empty : s.hashingQueue.m_queue = [])
      (finished : s.hashingQueue.m_finished = true) : WorkerStep k s (s.worker k (.terminate .SUCCEED))
  | popped (here : s.hasherTask.m_workers[k]? = some .pop) (first : s.hashingQueue.m_queue = block::rest) :
      WorkerStep k s {s.worker k (.hash block) with hashingQueue := {s.hashingQueue with m_queue := rest}}
  | hashed (here : s.hasherTask.m_workers[k]? = some (.hash block))
      (same : digest = env.sha256 (ByteMemory.read s.pool block.ptr block.length)) : WorkerStep k s
      {(s.worker k (hashedPc env.m_forwardMode block)).record (.hash block.index) with
        hashingContext := {s.hashingContext with
          lastestTable := setEntry s.hashingContext.lastestTable block.index digest},
        counter := {s.counter with blocksHashed := s.counter.blocksHashed+1}}
  | unchanged (here : s.hasherTask.m_workers[k]? = some (.diff block))
      (equal : memcmp s.hashingContext.previousTable (diffOffset block.index) s.hashingContext.lastestTable
        (diffOffset block.index) SHA256_CHECKSUM_SIZE = true) :
      WorkerStep k s ((s.worker k (.free block)).record (.drop block.index))
  | changed (here : s.hasherTask.m_workers[k]? = some (.diff block))
      (differ : memcmp s.hashingContext.previousTable (diffOffset block.index) s.hashingContext.lastestTable
        (diffOffset block.index) SHA256_CHECKSUM_SIZE = false) : WorkerStep k s (s.worker k (.push block))
  | freed (here : s.hasherTask.m_workers[k]? = some (.free block))
      (free : s.allocator.BlockFree block.ptr = some allocator) :
      WorkerStep k s {s.worker k (.mark block) with allocator := allocator}
  | marked (here : s.hasherTask.m_workers[k]? = some (.mark block)) :
      WorkerStep k s {s.worker k .check with processedBitmap := s.processedBitmap.Set block.index}
  | pushed (here : s.hasherTask.m_workers[k]? = some (.push block))
      (push : s.writeQueue.BlockingPush block = some queue) : WorkerStep k s
      {s.worker k .check with
        writeQueue := queue,counter := {s.counter with bytesToWrite := s.counter.bytesToWrite+block.length}}
  | terminate (here : s.hasherTask.m_workers[k]? = some (.terminate status)) : WorkerStep k s
      {s with hasherTask := {s.hasherTask with
        task := {s.hasherTask.task with m_status := status},m_workers := s.hasherTask.m_workers.set k .leave}}
  | leave (here : s.hasherTask.m_workers[k]? = some .leave) : WorkerStep k s
      {s with hasherTask := {s.hasherTask with
        m_workersRunning := s.hasherTask.m_workersRunning-1,m_workers := s.hasherTask.m_workers.set k .test}}
  | others (here : s.hasherTask.m_workers[k]? = some .test) (more : s.hasherTask.m_workersRunning ≠ 0) :
      WorkerStep k s (s.worker k .exited)
  | last (here : s.hasherTask.m_workers[k]? = some .test) (none : s.hasherTask.m_workersRunning = 0) :
      WorkerStep k s (s.worker k .finish)
  | finish (here : s.hasherTask.m_workers[k]? = some .finish) :
      WorkerStep k s {s.worker k .exited with writeQueue := s.writeQueue.Finish}

inductive WriterStep (outcome : Outcome) : Session → Session → Prop where
  | aborted (here : s.writerTask.pc = .check) (abort : s.writerTask.task.m_abort = true) :
      WriterStep outcome s (s.writer (.terminate .ABORTED))
  | goOn (here : s.writerTask.pc = .check) (running : s.writerTask.task.m_abort = false) : WriterStep outcome s (s.writer .pop)
  | drained (here : s.writerTask.pc = .pop) (empty : s.writeQueue.m_queue = [])
      (finished : s.writeQueue.m_finished = true) : WriterStep outcome s (s.writer (.terminate .SUCCEED))
  | taken (here : s.writerTask.pc = .pop) (first : s.writeQueue.m_queue = block::rest)
      (working : s.writerTask.task.m_failed = false) :
      WriterStep outcome s {s.writer (.write block) with writeQueue := {s.writeQueue with m_queue := rest}}
  | refused (here : s.writerTask.pc = .pop) (first : s.writeQueue.m_queue = block::rest)
      (failed : s.writerTask.task.m_failed = true) :
      WriterStep outcome s {s.writer (.discard block) with writeQueue := {s.writeQueue with m_queue := rest}}
  | discarded (here : s.writerTask.pc = .discard block) (free : s.allocator.BlockFree block.ptr = some allocator) :
      WriterStep outcome s {(s.writer .check).record (.discard block.index) with
        allocator := allocator,counter := {s.counter with blockesWriteFailed := s.counter.blockesWriteFailed+1}}
  | written (here : s.writerTask.pc = .write block) (needed : NeedToWrite env s.pool block.ptr block.length = true)
      (done : env.dataWriter.Write s.target block.volumeOffset block.length (fun k => s.pool (block.ptr+k)) = some target) :
      WriterStep outcome s {(s.writer (.markWritten block)).record
        (.write block.index block.volumeOffset (ByteMemory.read s.pool block.ptr block.length) true) with target := target}
  | torn (here : s.writerTask.pc = .write block) (needed : NeedToWrite env s.pool block.ptr block.length = true)
      (failed : outcome = .fail part) : WriterStep outcome s {(s.writer (.failed block)).record
        (.write block.index block.volumeOffset (ByteMemory.read s.pool block.ptr block.length) false) with
          target := s.target.tear (env.dataWriter.position block.volumeOffset) block.length
            (fun k => s.pool (block.ptr+k)) part}
  | empty (here : s.writerTask.pc = .write block) (zeros : NeedToWrite env s.pool block.ptr block.length = false) :
      WriterStep outcome s ((s.writer (.markWritten block)).record (.skipEmpty block.index))
  | failed (here : s.writerTask.pc = .failed block) (free : s.allocator.BlockFree block.ptr = some allocator) :
      WriterStep outcome s {s with
        allocator := allocator,
        counter := {s.counter with blockesWriteFailed := s.counter.blockesWriteFailed+1},
        writerTask := {s.writerTask with task := {s.writerTask.task with m_failed := true},pc := .markWritten block}}
  | markWritten (here : s.writerTask.pc = .markWritten block) :
      WriterStep outcome s {s.writer (.markProcessed block) with writtenBitmap := s.writtenBitmap.Set block.index}
  | markProcessed (here : s.writerTask.pc = .markProcessed block) :
      WriterStep outcome s {s.writer (.free block) with processedBitmap := s.processedBitmap.Set block.index}
  | freed (here : s.writerTask.pc = .free block) (free : s.allocator.BlockFree block.ptr = some allocator) :
      WriterStep outcome s {s.writer .check with
        allocator := allocator,counter := {s.counter with bytesWritten := s.counter.bytesWritten+block.length}}
  | terminate (here : s.writerTask.pc = .terminate status) : WriterStep outcome s
      {s with writerTask := {s.writerTask with task := {s.writerTask.task with m_status := status},pc := .review}}
  | provisional (here : s.writerTask.pc = .review) (failed : s.counter.blockesWriteFailed ≠ 0) :
      WriterStep outcome s (s.writer .revise)
  | reviewed (here : s.writerTask.pc = .review)
      (final : s.writerTask.task.m_status = .SUCCEED → s.counter.blockesWriteFailed = 0) : WriterStep outcome s (s.writer .exited)
  | revised (here : s.writerTask.pc = .revise) : WriterStep outcome s
      {s with writerTask := {s.writerTask with task := {s.writerTask.task with m_status := .FAILED},pc := .exited}}

inductive ControlStep : SessionAction → Session → Session → Prop where
  | startReader (here : s.readerTask.pc = .notStarted) : ControlStep (.start .readerTask) s
      {s with
        counter := {s.counter with bytesToRead := env.config.sessionSize.toNat},
        readerTask := {s.readerTask with task := {s.readerTask.task with m_status := .RUNNING},pc := .start}}
  | hasherIdle (status : TaskStatus) (here : s.hasherTask.m_workers = [])
      (idle : env.config.hasherEnabled = true → status = .FAILED) :
      ControlStep (.start .hasherTask) s (s.setTask .hasherTask {s.hasherTask.task with m_status := status})
  | startHasher (here : s.hasherTask.m_workers = []) (hasher : env.config.hasherEnabled = true) :
      ControlStep (.start .hasherTask) s
      {s with hasherTask := {s.hasherTask with
        task := {s.hasherTask.task with m_status := .RUNNING},
        m_workers := List.replicate env.config.hasherWorkerNum.toNat .start}}
  | startWriter (here : s.writerTask.pc = .notStarted) : ControlStep (.start .writerTask) s
      {s with writerTask := {s.writerTask with task := {s.writerTask.task with m_status := .RUNNING},pc := .check}}
  | pause (paused : Bool) : ControlStep (.pause paused) s {s with readerTask := {s.readerTask with m_pause := paused}}
  | abort (component : Component) :
      ControlStep (.abort component) s (s.setTask component {s.task component with m_abort := true})
  | aborted (component : Component) :
      ControlStep (.aborted component) s (s.setTask component {s.task component with m_status := .ABORTED})
  | aborting (component : Component) :
      ControlStep (.aborting component) s (s.setTask component {s.task component with m_status := .ABORTING})

def Step (s : Session) (action : SessionAction) (t : Session) : Prop :=
  match action with
  | .reader outcome => ReaderStep env source outcome s t
  | .worker k => WorkerStep env k s t
  | .writer outcome => WriterStep env outcome s t
  | _ => ControlStep env action s t

end steps

variable {env : SessionEnv} {source : Content} {s t : Session}

theorem readerStep_sound (step : readerStep env source outcome s = some t) : ReaderStep env source outcome s t := by
  unfold readerStep at step
  split at step
  · cases step
  · rename_i here
    cases Option.some.inj step
    exact .begin here
  · rename_i here
    split at step
    · rename_i past
      cases Option.some.inj step
      exact .completed here past
    · rename_i inside
      split at step
      · rename_i failed
        cases Option.some.inj step
        exact .stopped here failed
      · rename_i working
        split at step
        · rename_i abort
          cases Option.some.inj step
          exact .aborted here abort
        · rename_i running
          cases Option.some.inj step
          exact .goOn here (Nat.le_of_not_lt inside) (by simpa using running) (by simpa using working)
  · rename_i here
    cases Option.some.inj step
    split
    · exact .paused here
    · exact .unpaused here
  · rename_i here
    split at step
    · rename_i marked
      cases Option.some.inj step
      exact .skipped here marked
    · rename_i unmarked
      cases Option.some.inj step
      exact .needed here (by simpa using unmarked)
  · rename_i here
    split at step
    · rename_i found
      cases Option.some.inj step
      exact .fetched here found
    · cases Option.some.inj step
      exact .retried here
    · rename_i exhausted
      cases Option.some.inj step
      exact .timeout here exhausted rfl
  · rename_i here
    dsimp only at step
    split at step
    · obtain ⟨data,done,rfl⟩ := Option.map_eq_some_iff.mp step
      exact .read here rfl done
    · cases Option.some.inj step
      exact .unread here rfl rfl
  · rename_i here
    unfold BlockingPushForward at step
    split at step
    · rename_i hasher
      obtain ⟨queue,pushed,rfl⟩ := Option.map_eq_some_iff.mp step
      exact .pushHashing here hasher pushed
    · rename_i plain
      obtain ⟨queue,pushed,rfl⟩ := Option.map_eq_some_iff.mp step
      exact .pushWrite here (by simpa using plain) pushed
  · rename_i here
    cases Option.some.inj step
    exact .terminate here
  · rename_i here
    split at step
    · rename_i hasher
      cases Option.some.inj step
      exact .finishHashing here hasher
    · rename_i plain
      cases Option.some.inj step
      exact .finishWrite here (by simpa using plain)
  · cases step

theorem pop_block {queue next : BlockingQueue} (popped : queue.BlockingPop = some (some (block,next))) :
    ∃ rest, queue.m_queue = block::rest ∧ next = {queue with m_queue := rest} := by
  unfold BlockingQueue.BlockingPop at popped
  split at popped
  · split at popped <;> cases popped
  · rename_i first rest shape
    cases Option.some.inj (Option.some.inj popped)
    exact ⟨rest,shape,rfl⟩

theorem pop_end {queue : BlockingQueue} (popped : queue.BlockingPop = some none) :
    queue.m_queue = [] ∧ queue.m_finished = true := by
  unfold BlockingQueue.BlockingPop at popped
  split at popped
  · rename_i empty
    split at popped
    · rename_i finished
      exact ⟨empty,finished⟩
    · cases popped
  · cases popped

theorem workerStep_sound (step : workerStep env k s = some t) : WorkerStep env k s t := by
  unfold workerStep at step
  split at step
  · cases step
  · rename_i here
    cases Option.some.inj step
    exact .start here
  · rename_i here
    cases Option.some.inj step
    split
    · rename_i abort
      exact .aborted here abort
    · rename_i running
      exact .goOn here (by simpa using running)
  · rename_i here
    split at step
    · cases step
    · rename_i popped
      cases Option.some.inj step
      exact .drained here (pop_end popped).1 (pop_end popped).2
    · rename_i popped
      cases Option.some.inj step
      obtain ⟨rest,first,rfl⟩ := pop_block popped
      exact .popped here first
  · rename_i here
    cases Option.some.inj step
    have result : WorkerStep env k s _ := .hashed here rfl
    unfold hashedPc at result
    exact result
  · rename_i here
    dsimp only at step
    split at step
    · rename_i equal
      cases Option.some.inj step
      exact .unchanged here equal
    · rename_i differ
      cases Option.some.inj step
      exact .changed here (by simpa using differ)
  · rename_i here
    obtain ⟨allocator,free,rfl⟩ := Option.map_eq_some_iff.mp step
    exact .freed here free
  · rename_i here
    cases Option.some.inj step
    exact .marked here
  · rename_i here
    obtain ⟨queue,push,rfl⟩ := Option.map_eq_some_iff.mp step
    exact .pushed here push
  · rename_i here
    cases Option.some.inj step
    exact .terminate here
  · rename_i here
    cases Option.some.inj step
    exact .leave here
  · rename_i here
    cases Option.some.inj step
    split
    · rename_i more
      exact .others here more
    · rename_i none
      exact .last here (by simpa using none)
  · rename_i here
    cases Option.some.inj step
    exact .finish here
  · cases step

theorem writerStep_sound (step : writerStep env outcome s = some t) : WriterStep env outcome s t := by
  unfold writerStep at step
  split at step
  · cases step
  · rename_i here
    cases Option.some.inj step
    split
    · rename_i abort
      exact .aborted here abort
    · rename_i running
      exact .goOn here (by simpa using running)
  · rename_i here
    split at step
    · cases step
    · rename_i popped
      cases Option.some.inj step
      exact .drained here (pop_end popped).1 (pop_end popped).2
    · rename_i popped
      cases Option.some.inj step
      obtain ⟨rest,first,rfl⟩ := pop_block popped
      split
      · rename_i failed
        exact .refused here first failed
      · rename_i working
        exact .taken here first (by simpa using working)
  · rename_i here
    obtain ⟨allocator,free,rfl⟩ := Option.map_eq_some_iff.mp step
    exact .discarded here free
  · rename_i here
    split at step
    · rename_i needed
      dsimp only at step
      split at step
      · obtain ⟨target,done,rfl⟩ := Option.map_eq_some_iff.mp step
        exact .written here needed done
      · cases Option.some.inj step
        exact .torn here needed rfl
    · rename_i zeros
      cases Option.some.inj step
      exact .empty here (by simpa using zeros)
  · rename_i here
    obtain ⟨allocator,free,rfl⟩ := Option.map_eq_some_iff.mp step
    exact .failed here free
  · rename_i here
    cases Option.some.inj step
    exact .markWritten here
  · rename_i here
    cases Option.some.inj step
    exact .markProcessed here
  · rename_i here
    obtain ⟨allocator,free,rfl⟩ := Option.map_eq_some_iff.mp step
    exact .freed here free
  · rename_i here
    cases Option.some.inj step
    exact .terminate here
  · rename_i here
    cases Option.some.inj step
    split
    · rename_i failed
      exact .provisional here failed.2
    · rename_i final
      refine .reviewed here fun succeeded => ?_
      exact Decidable.byContradiction fun some => final ⟨succeeded,some⟩
  · rename_i here
    cases Option.some.inj step
    exact .revised here
  · cases step

theorem start_sound (step : s.start env component = some t) : ControlStep env (.start component) s t := by
  cases component with
  | readerTask =>
      dsimp only [Session.start] at step
      split at step
      · rename_i fresh
        cases Option.some.inj step
        exact .startReader fresh.2
      · cases step
  | hasherTask =>
      dsimp only [Session.start] at step
      split at step
      · cases step
      · rename_i fresh
        have none : s.hasherTask.m_workers = [] := by simpa using (not_or.mp fresh).2
        split at step
        · rename_i disabled
          cases Option.some.inj step
          refine .hasherIdle .SUCCEED none fun enabled => ?_
          simp [enabled] at disabled
        · rename_i enabled
          split at step
          · cases Option.some.inj step
            exact .hasherIdle .FAILED none fun _ => rfl
          · cases Option.some.inj step
            exact .startHasher none (by simpa using enabled)
  | writerTask =>
      dsimp only [Session.start] at step
      split at step
      · rename_i fresh
        cases Option.some.inj step
        exact .startWriter fresh.2
      · cases step

theorem sessionStep_sound (step : sessionStep env source s action = some t) : Step env source s action t := by
  cases action with
  | reader outcome => exact readerStep_sound step
  | worker k => exact workerStep_sound step
  | writer outcome => exact writerStep_sound step
  | start component => exact start_sound step
  | pause paused => cases Option.some.inj step; exact .pause paused
  | abort component => cases Option.some.inj step; exact .abort component
  | aborted component => cases Option.some.inj step; exact .aborted component
  | aborting component => cases Option.some.inj step; exact .aborting component

end VolumeBackup
