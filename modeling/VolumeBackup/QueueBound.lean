import VolumeBackup.FinishOrder

namespace VolumeBackup
open ByteMemory

@[simp] def ReaderPc.held : ReaderPc → Multiset Nat
  | .read ptr => {ptr}
  | .push block => {block.ptr}
  | _ => 0

@[simp] def WorkerPc.held : WorkerPc → Multiset Nat
  | .hash block | .diff block | .free block | .push block => {block.ptr}
  | _ => 0

@[simp] def WriterPc.held : WriterPc → Multiset Nat
  | .discard block | .write block | .failed block | .markWritten block | .markProcessed block | .free block => {block.ptr}
  | _ => 0

def BlockingQueue.held (queue : BlockingQueue) : Multiset Nat := queue.m_queue.map VolumeConsumeBlock.ptr

def Session.held (s : Session) : Multiset Nat :=
  s.readerTask.pc.held+s.hashingQueue.held+Slots.gather WorkerPc.held s.hasherTask.m_workers+s.writeQueue.held+s.writerTask.pc.held

def VolumeBlockAllocator.marks (allocator : VolumeBlockAllocator) : Nat := allocator.m_allocTable.count true

-- A failed write frees its buffer twice, and no write follows it: only once is a mark missing.
structure Bounded (s : Session) : Prop where
  table : s.allocator.m_allocTable.length = DEFAULT_ALLOCATOR_BLOCK_NUM
  marked : s.held.card ≤ s.allocator.marks+s.writerTask.task.m_failed.toNat
  working : (∃ block, s.writerTask.pc = .write block ∨ s.writerTask.pc = .failed block) → s.writerTask.task.m_failed = false
  hashingSize : s.hashingQueue.m_maxSize = DEFAULT_QUEUE_SIZE
  writeSize : s.writeQueue.m_maxSize = DEFAULT_QUEUE_SIZE

variable {env : SessionEnv} {source : Content} {s t : Session} {allocator next : VolumeBlockAllocator}
  {queue after : BlockingQueue} {block : VolumeConsumeBlock}

@[simp] theorem held_length : queue.held.card = queue.m_queue.length := by simp [BlockingQueue.held]

theorem alloc_marks (found : allocator.BlockAlloc = some (ptr,next)) :
    next.marks = allocator.marks+1 ∧ next.m_allocTable.length = allocator.m_allocTable.length := by
  unfold VolumeBlockAllocator.BlockAlloc at found
  dsimp only at found
  split at found
  · rename_i below
    have bound := int_bound below
    cases Option.some.inj found
    have unset : allocator.m_allocTable[allocator.m_allocTable.findIdx (· = false)] = false := by
      simpa using List.findIdx_getElem (w := bound)
    refine ⟨?_,List.length_set⟩
    unfold VolumeBlockAllocator.marks
    dsimp only
    rw [List.count_set bound,unset]
    simp
  · cases found

theorem count_clear (table : List Bool) (i : Nat) :
    (table.set i false).count true ≤ table.count true ∧ table.count true ≤ (table.set i false).count true+1 := by
  by_cases bound : i < table.length
  · rw [List.count_set bound]
    cases table[i] <;> simp
    omega
  · rw [List.set_eq_of_length_le (Nat.le_of_not_lt bound)]
    exact ⟨Nat.le_refl _,Nat.le_succ _⟩

theorem free_marks (free : allocator.BlockFree ptr = some next) :
    next.marks ≤ allocator.marks ∧ allocator.marks ≤ next.marks+1 ∧ next.m_allocTable.length = allocator.m_allocTable.length := by
  unfold VolumeBlockAllocator.BlockFree at free
  split at free
  · cases Option.some.inj free
    have cleared := count_clear allocator.m_allocTable (ptr/allocator.m_blockSize.toNat)
    exact ⟨cleared.1,cleared.2,List.length_set⟩
  · cases free

theorem push_length (pushed : queue.BlockingPush block = some after) :
    after.m_queue.length ≤ queue.m_queue.length+1 ∧ after.m_maxSize = queue.m_maxSize := by
  unfold BlockingQueue.BlockingPush at pushed
  split at pushed
  · cases Option.some.inj pushed
    exact ⟨Nat.le_succ _,rfl⟩
  · split at pushed
    · cases Option.some.inj pushed
      exact ⟨by simp,rfl⟩
    · cases pushed

theorem Bounded.reader (bounded : Bounded s) (step : ReaderStep env source outcome s t) : Bounded t := by
  obtain ⟨table,marked,working,hashingSize,writeSize⟩ := bounded
  unfold Session.held at marked
  cases step with
  | fetched here found =>
      have took := alloc_marks found
      refine ⟨took.2.trans table,?_,working,hashingSize,writeSize⟩
      simp [Session.held,Session.reader,here] at marked ⊢
      omega
  | retried here => exact ⟨table,marked,working,hashingSize,writeSize⟩
  | pushHashing here hasher pushed =>
      have grown := push_length pushed
      refine ⟨table,?_,working,grown.2.trans hashingSize,writeSize⟩
      simp [Session.held,here] at marked ⊢
      omega
  | pushWrite here plain pushed =>
      have grown := push_length pushed
      refine ⟨table,?_,working,hashingSize,grown.2.trans writeSize⟩
      simp [Session.held,here] at marked ⊢
      omega
  | begin here | completed here | stopped here | aborted here | goOn here | paused here | unpaused here | skipped here
  | needed here | timeout here | read here | unread here | terminate here | finishHashing here | finishWrite here =>
      refine ⟨table,?_,working,hashingSize,writeSize⟩
      simp [Session.held,Session.reader,Session.record,BlockingQueue.Finish,BlockingQueue.held,here] at marked ⊢
      omega

theorem Bounded.workerMoves (bounded : Bounded s) (here : s.hasherTask.m_workers[k]? = some old)
    (reader : t.readerTask = s.readerTask) (writer : t.writerTask = s.writerTask)
    (workers : t.hasherTask.m_workers = s.hasherTask.m_workers.set k new)
    (table : t.allocator.m_allocTable.length = s.allocator.m_allocTable.length)
    (hashingSize : t.hashingQueue.m_maxSize = s.hashingQueue.m_maxSize) (writeSize : t.writeQueue.m_maxSize = s.writeQueue.m_maxSize)
    (fewer : t.hashingQueue.m_queue.length+new.held.card+t.writeQueue.m_queue.length+s.allocator.marks ≤
      s.hashingQueue.m_queue.length+old.held.card+s.writeQueue.m_queue.length+t.allocator.marks) : Bounded t := by
  have moved := congrArg Multiset.card (Slots.gather_set WorkerPc.held here new)
  rw [← workers,Multiset.card_add,Multiset.card_add] at moved
  have before := bounded.marked
  refine ⟨table.trans bounded.table,?_,?_,hashingSize.trans bounded.hashingSize,writeSize.trans bounded.writeSize⟩
  · unfold Session.held at before ⊢
    rw [reader,writer]
    simp only [Multiset.card_add,held_length] at before ⊢
    omega
  · rw [writer]
    exact bounded.working

theorem Bounded.worker (bounded : Bounded s) (step : WorkerStep env k s t) : Bounded t := by
  cases step with
  | popped here first =>
      refine bounded.workerMoves here rfl rfl rfl rfl rfl rfl ?_
      simp [Session.worker,first]
  | hashed here same =>
      refine bounded.workerMoves here rfl rfl rfl rfl rfl rfl ?_
      cases env.m_forwardMode <;> simp [Session.worker,Session.record,hashedPc]
  | freed here free =>
      have given := free_marks free
      refine bounded.workerMoves here rfl rfl rfl given.2.2 rfl rfl ?_
      simp [Session.worker]
      omega
  | pushed here push =>
      have grown := push_length push
      refine bounded.workerMoves here rfl rfl rfl rfl rfl grown.2 ?_
      simp [Session.worker]
      omega
  | start here | aborted here | goOn here | drained here | unchanged here | changed here | marked here | terminate here
  | leave here | others here | last here | finish here =>
      refine bounded.workerMoves here rfl rfl rfl rfl rfl rfl ?_
      simp [Session.worker,Session.record,BlockingQueue.Finish]

theorem Bounded.writer (bounded : Bounded s) (step : WriterStep env outcome s t) : Bounded t := by
  obtain ⟨table,marked,working,hashingSize,writeSize⟩ := bounded
  unfold Session.held at marked
  cases step with
  | taken here first steady =>
      refine ⟨table,?_,fun _ => steady,hashingSize,writeSize⟩
      simp [Session.held,Session.writer,here,first] at marked ⊢
      omega
  | refused here first failed =>
      refine ⟨table,?_,by simp [Session.writer],hashingSize,writeSize⟩
      simp [Session.held,Session.writer,here,first] at marked ⊢
      omega
  | discarded here free | freed here free =>
      have given := free_marks free
      refine ⟨given.2.2.trans table,?_,by simp [Session.writer,Session.record],hashingSize,writeSize⟩
      simp [Session.held,Session.writer,Session.record,here] at marked ⊢
      omega
  | failed here free =>
      have given := free_marks free
      have steady := working ⟨_,.inr here⟩
      refine ⟨given.2.2.trans table,?_,by simp,hashingSize,writeSize⟩
      simp [Session.held,here,steady] at marked ⊢
      omega
  | torn here needed failed =>
      refine ⟨table,?_,fun _ => working ⟨_,.inl here⟩,hashingSize,writeSize⟩
      simpa [Session.held,Session.writer,Session.record,here] using marked
  | written here needed done | empty here zeros | markWritten here | markProcessed here | terminate here | reviewed here | revised here
  | aborted here | goOn here | drained here | provisional here =>
      refine ⟨table,?_,by simp [Session.writer,Session.record],hashingSize,writeSize⟩
      simpa [Session.held,Session.writer,Session.record,here] using marked

theorem Bounded.control (bounded : Bounded s) (step : ControlStep env action s t) : Bounded t := by
  obtain ⟨table,marked,working,hashingSize,writeSize⟩ := bounded
  unfold Session.held at marked
  cases step with
  | startReader here =>
      refine ⟨table,?_,working,hashingSize,writeSize⟩
      simpa [Session.held,here] using marked
  | startWriter here =>
      refine ⟨table,?_,nofun,hashingSize,writeSize⟩
      simpa [Session.held,here] using marked
  | startHasher here hasher =>
      have idle : Slots.gather WorkerPc.held (List.replicate env.config.hasherWorkerNum.toNat WorkerPc.start) = 0 := by
        apply Slots.gather_zero
        intro pc inside
        rw [List.eq_of_mem_replicate inside]
        rfl
      refine ⟨table,?_,working,hashingSize,writeSize⟩
      rw [here] at marked
      unfold Session.held
      rw [idle]
      exact marked
  | hasherIdle | pause => exact ⟨table,marked,working,hashingSize,writeSize⟩
  | abort component | aborted component | aborting component =>
      cases component <;> exact ⟨table,marked,working,hashingSize,writeSize⟩

theorem Bounded.step (bounded : Bounded s) (step : Step env source s action t) : Bounded t := by
  cases action with
  | reader outcome => exact bounded.reader step
  | worker k => exact bounded.worker step
  | writer outcome => exact bounded.writer step
  | start | pause | abort | aborted | aborting => exact bounded.control step

theorem Bounded.new : Bounded (.new config context processed written counter target) := by
  refine ⟨?_,?_,?_,rfl,rfl⟩
  · simp [Session.new,VolumeBlockAllocator.new]
  · simp [Session.held,Session.new,Slots.gather]
  · intro
    rfl

-- 32 buffers and one that was freed twice are fewer than a queue has room for.
theorem Bounded.short (bounded : Bounded s) :
    s.hashingQueue.m_queue.length < DEFAULT_QUEUE_SIZE ∧ s.writeQueue.m_queue.length < DEFAULT_QUEUE_SIZE := by
  have marked := bounded.marked
  have most : s.allocator.marks ≤ DEFAULT_ALLOCATOR_BLOCK_NUM := bounded.table ▸ List.count_le_length
  have once := Bool.toNat_le s.writerTask.task.m_failed
  unfold Session.held at marked
  simp only [Multiset.card_add,held_length] at marked
  unfold DEFAULT_ALLOCATOR_BLOCK_NUM at most
  unfold DEFAULT_QUEUE_SIZE
  omega

end VolumeBackup
