import VolumeBackup.SessionCounters
import VolumeBackup.CheckpointRestore
import VolumeBackup.ProcessedMark

namespace VolumeBackup
open ByteMemory LabelledRuns

def Bitmap.blocks (bitmap : Bitmap) (count : Nat) : Multiset Nat := (Multiset.range count).filter fun index => bitmap.Test index = true
def Bitmap.missing (bitmap : Bitmap) (count : Nat) : Multiset Nat := (Multiset.range count).filter fun index => ¬bitmap.Test index = true

section sums
variable {config : VolumeTaskSharedConfig} {bitmap left right : Bitmap} {count index : Nat}

theorem blocks_succ : bitmap.blocks (count+1) = if bitmap.Test count then count ::ₘ bitmap.blocks count else bitmap.blocks count := by
  unfold Bitmap.blocks
  rw [Multiset.range_succ,Multiset.filter_cons]
  split <;> simp

theorem mem_blocks : index ∈ bitmap.blocks count ↔ index < count ∧ bitmap.Test index = true := by
  simp [Bitmap.blocks]

theorem mem_missing : index ∈ bitmap.missing count ↔ index < count ∧ bitmap.Test index = false := by
  simp [Bitmap.missing]

theorem blocks_nodup : (bitmap.blocks count).Nodup := (Multiset.nodup_range _).filter _

theorem missing_nodup : (bitmap.missing count).Nodup := (Multiset.nodup_range _).filter _

theorem countSet_blocks : bitmap.countSet count = (bitmap.blocks count).card := by
  induction count with
  | zero => rfl
  | succ count ih =>
      rw [blocks_succ,Bitmap.countSet,ih]
      split <;> simp

theorem total_blocks (capacity : bitmap.m_capacity = (Bitmap.new config.TotalBlocks).m_capacity)
    (inside : ∀ index, bitmap.Test index = true → index < config.TotalBlocks) :
    bitmap.TotalSetCount = (bitmap.blocks config.TotalBlocks).card := by
  have bound : config.TotalBlocks ≤ bitmap.m_capacity*BITS_PER_UINT8 := by
    rw [capacity]
    simp only [Bitmap.new_capacity,BITS_PER_UINT8]
    omega
  have same : bitmap.blocks (bitmap.m_capacity*BITS_PER_UINT8) = bitmap.blocks config.TotalBlocks := by
    refine (blocks_nodup.ext blocks_nodup).mpr fun index => ?_
    rw [mem_blocks,mem_blocks]
    exact ⟨fun set => ⟨inside index set.2,set.2⟩,fun set => ⟨Nat.lt_of_lt_of_le set.1 bound,set.2⟩⟩
  rw [Bitmap.TotalSetCount,countSet_blocks,same]

theorem whole_block (before : index < config.m_maxIndex) : config.nBytesToRead index = config.blockSize.toNat := by
  have start : (index+1)*config.blockSize.toNat ≤ config.sessionSize.toNat := index_start before
  rw [Nat.succ_mul] at start
  unfold VolumeTaskSharedConfig.nBytesToRead
  omega

theorem blocks_whole (before : count ≤ config.m_maxIndex) :
    config.bytes (bitmap.blocks count) = (bitmap.blocks count).card*config.blockSize.toNat := by
  induction count with
  | zero => simp [Bitmap.blocks]
  | succ count ih =>
      have size : config.nBytesToRead count = config.blockSize.toNat := whole_block before
      rw [blocks_succ]
      split
      · rw [bytes_cons,Multiset.card_cons,ih (by omega),size,Nat.succ_mul,Nat.add_comm]
      · exact ih (by omega)

theorem blocks_bytes (some : 0 < config.TotalBlocks) :
    config.bytes (bitmap.blocks config.TotalBlocks)+
      (if bitmap.Test config.m_maxIndex then config.blockSize.toNat-config.nBytesToRead config.m_maxIndex else 0) =
    (bitmap.blocks config.TotalBlocks).card*config.blockSize.toNat := by
  have last : config.TotalBlocks = config.m_maxIndex+1 := by
    unfold VolumeTaskSharedConfig.m_maxIndex
    omega
  have before : config.bytes (bitmap.blocks config.m_maxIndex) = _ := blocks_whole (Nat.le_refl config.m_maxIndex)
  have short : config.nBytesToRead config.m_maxIndex ≤ config.blockSize.toNat := nBytesToRead_le
  rw [last,blocks_succ]
  split
  · rw [bytes_cons,Multiset.card_cons,before,Nat.succ_mul]
    omega
  · rw [before,Nat.add_zero]

theorem range_bytes (inside : count ≤ config.TotalBlocks) :
    config.bytes (Multiset.range count) = min (count*config.blockSize.toNat) config.sessionSize.toNat := by
  induction count with
  | zero => simp
  | succ count ih =>
      have within : count ≤ config.m_maxIndex := by
        unfold VolumeTaskSharedConfig.m_maxIndex
        omega
      have start := index_start within
      rw [Multiset.range_succ,bytes_cons,ih (by omega),Nat.succ_mul]
      unfold VolumeTaskSharedConfig.nBytesToRead
      omega

theorem session_bytes (positive : 0 < config.blockSize.toNat) :
    config.bytes (Multiset.range config.TotalBlocks) = config.sessionSize.toNat := by
  have split := Nat.div_add_mod config.sessionSize.toNat config.blockSize.toNat
  have small := Nat.mod_lt config.sessionSize.toNat positive
  rw [range_bytes (Nat.le_refl _)]
  refine Nat.min_eq_right ?_
  unfold VolumeTaskSharedConfig.TotalBlocks
  rw [Nat.mul_comm] at split
  dsimp only
  split
  · rw [Nat.succ_mul]
    omega
  · omega

theorem parts_bytes (positive : 0 < config.blockSize.toNat) :
    config.bytes (bitmap.blocks config.TotalBlocks)+config.bytes (bitmap.missing config.TotalBlocks) = config.sessionSize.toNat := by
  rw [← bytes_add,Bitmap.blocks,Bitmap.missing,Multiset.filter_add_not,session_bytes positive]

theorem parts_card : (bitmap.blocks count).card+(bitmap.missing count).card = count := by
  rw [← Multiset.card_add,Bitmap.blocks,Bitmap.missing,Multiset.filter_add_not,Multiset.card_range]

theorem bytes_le {some all : Multiset Nat} (less : some ≤ all) : config.bytes some ≤ config.bytes all := by
  obtain ⟨rest,rfl⟩ := Multiset.le_iff_exists_add.mp less
  rw [bytes_add]
  exact Nat.le_add_right _ _

end sums

def Direct (env : SessionEnv) : Prop := env.config.hasherEnabled = false ∨ env.m_forwardMode = .DIRECT

structure Undropped (env : SessionEnv) (s : Session) : Prop where
  plain : env.config.hasherEnabled = false → s.hasherTask.m_workers = []
  idle : ∀ pc ∈ s.hasherTask.m_workers, pc.hashed = 0 ∧ pc.settling = 0
  none : ∀ index, .drop index ∉ s.history
  capacity : s.processedBitmap.m_capacity = s.writtenBitmap.m_capacity
  ordered : ∀ index, s.processedBitmap.Test index = true → s.writtenBitmap.Test index = true
  marking : ∀ block, s.writerTask.pc = .markProcessed block → s.writtenBitmap.Test block.index = true ∨
    s.writtenBitmap.m_capacity*8 ≤ block.index

section undropped
variable {env : SessionEnv} {source : Content} {s t : Session}

theorem Undropped.reader (undropped : Undropped env s) (step : ReaderStep env source outcome s t) : Undropped env t := by
  obtain ⟨plain,idle,none,capacity,ordered,marking⟩ := undropped
  cases step with
  | read here same done | unread here same =>
      exact ⟨plain,idle,fun index inside => none index ((List.mem_cons.mp inside).resolve_left Event.noConfusion),capacity,ordered,marking⟩
  | _ => exact ⟨plain,idle,none,capacity,ordered,marking⟩

theorem Undropped.worker (undropped : Undropped env s) (direct : Direct env) (step : WorkerStep env k s t) : Undropped env t := by
  obtain ⟨plain,idle,none,capacity,ordered,marking⟩ := undropped
  have bare {pc : WorkerPc} (here : s.hasherTask.m_workers[k]? = some pc) (disabled : env.config.hasherEnabled = false)
      (new : WorkerPc) : s.hasherTask.m_workers.set k new = [] := by
    rw [plain disabled] at here
    cases here
  have moved {pc new : WorkerPc} (here : s.hasherTask.m_workers[k]? = some pc) (hashed : new.hashed = 0) (settling : new.settling = 0) :
      ∀ pc ∈ s.hasherTask.m_workers.set k new, pc.hashed = 0 ∧ pc.settling = 0 := Slots.all_set idle ⟨hashed,settling⟩
  cases step with
  | hashed here same =>
      rename_i digest block
      have enabled : env.config.hasherEnabled = true := by
        refine Bool.eq_true_of_not_eq_false fun disabled => ?_
        rw [plain disabled] at here
        cases here
      have mode : env.m_forwardMode = .DIRECT := direct.resolve_left (by simp [enabled])
      refine ⟨fun disabled => bare here disabled _,?_,?_,capacity,ordered,marking⟩
      · simp only [Session.record,Session.worker,hashedPc,mode]
        exact moved here rfl rfl
      · exact fun index inside => none index ((List.mem_cons.mp inside).resolve_left Event.noConfusion)
  | unchanged here equal | changed here differ =>
      exact absurd (idle _ (Slots.present here)).1 (Multiset.singleton_ne_zero _)
  | freed here free | marked here =>
      exact absurd (idle _ (Slots.present here)).2 (Multiset.singleton_ne_zero _)
  | start here | aborted here | goOn here | drained here | popped here | pushed here | terminate here | leave here | others here
  | last here | finish here =>
      exact ⟨fun disabled => bare here disabled _,moved here rfl rfl,none,capacity,ordered,marking⟩

theorem Undropped.writer (undropped : Undropped env s) (step : WriterStep env outcome s t) : Undropped env t := by
  obtain ⟨plain,idle,none,capacity,ordered,marking⟩ := undropped
  cases step with
  | markWritten here =>
      rename_i block
      refine ⟨plain,idle,none,by simpa [Session.writer] using capacity,fun index set => test_set_mono (ordered index set),?_⟩
      intro other same
      cases same
      by_cases inside : block.index < s.writtenBitmap.m_capacity*8
      · exact .inl (test_set_self inside)
      · refine .inr ?_
        simpa [Session.writer] using inside
  | markProcessed here =>
      rename_i block
      refine ⟨plain,idle,none,by simpa [Session.writer] using capacity,fun index set => ?_,fun _ => WriterPc.noConfusion⟩
      simp only [test_set,Bool.or_eq_true,decide_eq_true_eq] at set
      rcases set with earlier | ⟨rfl,inside⟩
      · exact ordered index earlier
      · rw [capacity] at inside
        exact (marking block here).resolve_right (Nat.not_le_of_lt inside)
  | discarded here | written here | torn here | empty here =>
      exact ⟨plain,idle,fun index inside => none index ((List.mem_cons.mp inside).resolve_left Event.noConfusion),capacity,ordered,fun _ => WriterPc.noConfusion⟩
  | _ => exact ⟨plain,idle,none,capacity,ordered,fun _ => WriterPc.noConfusion⟩

theorem Undropped.step (undropped : Undropped env s) (direct : Direct env) (step : Step env source s action t) : Undropped env t := by
  cases action with
  | reader outcome => exact undropped.reader step
  | worker k => exact undropped.worker direct step
  | writer outcome => exact undropped.writer step
  | start component =>
      obtain ⟨plain,idle,none,capacity,ordered,marking⟩ := undropped
      cases (step : ControlStep env _ s t) with
      | startReader | hasherIdle => exact ⟨plain,idle,none,capacity,ordered,marking⟩
      | startHasher here hasher =>
          refine ⟨fun disabled => (nomatch hasher.symm.trans disabled),fun pc inside => ?_,none,capacity,ordered,marking⟩
          rw [List.eq_of_mem_replicate inside]
          exact ⟨rfl,rfl⟩
      | startWriter here => exact ⟨plain,idle,none,capacity,ordered,fun _ => WriterPc.noConfusion⟩
  | pause | abort component | aborted component | aborting component =>
      obtain ⟨plain,idle,none,capacity,ordered,marking⟩ := undropped
      cases (step : ControlStep env _ s t)
      first | cases component | skip
      all_goals exact ⟨plain,idle,none,capacity,ordered,marking⟩

theorem Undropped.run (undropped : Undropped env s) (direct : Direct env) (path : Runs (sessionStep env source) allowed s actions t) :
    Undropped env t :=
  path.invariant (Undropped env) undropped fun _ _ _ known ran _ => known.step direct (sessionStep_sound ran)

theorem Undropped.new {context : BlockHashingContext} {processed written : Bitmap} {counter : SessionCounter} {target : Content}
    (capacity : processed.m_capacity = written.m_capacity)
    (ordered : ∀ index, processed.Test index = true → written.Test index = true) :
    Undropped env (.new env.config context processed written counter target) :=
  ⟨fun _ => rfl,nofun,nofun,capacity,ordered,fun _ => WriterPc.noConfusion⟩

end undropped

def SameBits (left right : Bitmap) : Prop := left.m_capacity = right.m_capacity ∧ ∀ index, left.Test index = right.Test index

-- The bitmaps that a session can be resumed with: those of a snapshot that an earlier run of it has taken, which
-- may have been resumed itself. A snapshot copies the processed bitmap first, and the threads go on meanwhile.
inductive Interrupted (env : SessionEnv) : Bitmap → Bitmap → Prop where
  | fresh : Interrupted env (.new env.config.TotalBlocks) (.new env.config.TotalBlocks)
  | saved (checkpoint : Interrupted env before earlier) (none : counter.blockesWriteFailed = 0)
      (past : Runs (sessionStep env source) Anything (.new env.config context before earlier counter target) actions s)
      (rest : Runs (sessionStep env source) Anything s later t)
      (marks : SameBits processed s.processedBitmap) (writes : SameBits written t.writtenBitmap) : Interrupted env processed written

-- A session that begins with the bitmaps of a checkpoint, and with the counters that RestoreSessionCounter makes of them.
def Session.resumed (env : SessionEnv) (context : BlockHashingContext) (processed written : Bitmap) (target : Content) : Session :=
  let restored := RestoreSessionCounter env.config
    {processedBitmap := processed,writtenBitmap := written,counter := {},hashingContext := context}
  .new env.config restored.hashingContext restored.processedBitmap restored.writtenBitmap restored.counter target

structure EndedWell (s : Session) : Prop where
  exited : AllExited s
  reader : s.readerTask.task.m_status = .SUCCEED
  hasher : s.hasherTask.task.m_abort = false
  writer : s.writerTask.task.m_status = .SUCCEED

structure ExactCounters (config : VolumeTaskSharedConfig) (counter : SessionCounter) : Prop where
  toRead : counter.bytesToRead = config.sessionSize.toNat
  read : counter.bytesRead = counter.bytesToRead
  toHash : config.hasherEnabled = true → counter.blocksToHash = config.TotalBlocks
  hashed : config.hasherEnabled = true → counter.blocksHashed = counter.blocksToHash
  written : counter.bytesWritten = counter.bytesToWrite
  bound : counter.bytesWritten ≤ config.sessionSize.toNat

def LastMarkedLast (config : VolumeTaskSharedConfig) (processed : Bitmap) : Prop :=
  (∀ index < config.TotalBlocks, processed.Test index = true) ∨ processed.Test config.m_maxIndex = false ∨
    config.nBytesToRead config.m_maxIndex = config.blockSize.toNat

def WrittenMarked (processed written : Bitmap) : Prop := ∀ index, written.Test index = true → processed.Test index = true

section checkpoint
variable {env : SessionEnv} {source : Content} {o : Flow} {s t : Session} {first : SessionCounter}
  {context : BlockHashingContext} {processed written : Bitmap} {target : Content}

structure Credible (config : VolumeTaskSharedConfig) (bitmap : Bitmap) : Prop where
  capacity : bitmap.m_capacity = (Bitmap.new config.TotalBlocks).m_capacity
  inside : ∀ index, bitmap.Test index = true → index < config.TotalBlocks

theorem Credible.new : Credible env.config (.new env.config.TotalBlocks) :=
  ⟨rfl,fun _ set => nomatch (test_new _ _).symm.trans set⟩

theorem Credible.copy (credible : Credible env.config written) (same : SameBits processed written) : Credible env.config processed :=
  ⟨same.1.trans credible.capacity,fun index set => credible.inside index ((same.2 index).symm.trans set)⟩

theorem Audited.read_counted (audited : Audited env source o first s) (read : index ∈ haveRead s.history) : index < env.config.TotalBlocks :=
  index_counted (audited.tokens.inside index read) (audited.passage.some index read)

theorem Audited.credible (audited : Audited env source o first s) (processed : Credible env.config o.processed)
    (written : Credible env.config o.written) : Credible env.config s.processedBitmap ∧ Credible env.config s.writtenBitmap := by
  have marks := audited.marks
  refine ⟨⟨marks.processed.capacity.trans processed.capacity,fun index set => ?_⟩,
    ⟨marks.written.capacity.trans written.capacity,fun index set => ?_⟩⟩
  · rcases marks.processed.justified index set with before | left
    · exact processed.inside index before
    · exact audited.read_counted (audited.tokens.done_read (settled_done left))
  · rcases marks.written.justified index set with before | left
    · exact written.inside index before
    · exact audited.read_counted (audited.tokens.done_read (settled_done (recorded_settled left)))

theorem audited_run (none : first.blockesWriteFailed = 0) (marks : Credible env.config processed) (writes : Credible env.config written)
    (path : Runs (sessionStep env source) allowed (.new env.config context processed written first target) actions s) :
    Audited env source ((Session.new env.config context processed written first target).flow env) first s :=
  (Audited.new none).run (roomy_capacity marks.capacity writes.capacity) path

theorem written_kept (audited : Audited env source o first s) (roomy : Roomy env o)
    (path : Runs (sessionStep env source) allowed s actions t) (index : Nat) (set : s.writtenBitmap.Test index = true) :
    t.writtenBitmap.Test index = true := by
  have both := path.invariant (fun s => Audited env source o first s ∧ s.writtenBitmap.Test index = true) ⟨audited,set⟩
    fun _ _ _ known ran _ => ⟨known.1.step roomy (sessionStep_sound ran),(known.1.toSound.bits (sessionStep_sound ran)).2 index known.2⟩
  exact both.2

theorem Interrupted.credible (checkpoint : Interrupted env processed written) :
    Credible env.config processed ∧ Credible env.config written := by
  induction checkpoint with
  | fresh => exact ⟨.new,.new⟩
  | saved checkpoint none past rest marks writes ih =>
      have now := audited_run none ih.1 ih.2 past
      have next := now.run (roomy_capacity ih.1.capacity ih.2.capacity) rest
      exact ⟨(now.credible ih.1 ih.2).1.copy marks,(next.credible ih.1 ih.2).2.copy writes⟩

theorem Interrupted.ordered (checkpoint : Interrupted env processed written) (direct : Direct env) :
    ∀ index, processed.Test index = true → written.Test index = true := by
  induction checkpoint with
  | fresh => exact fun _ set => nomatch (test_new _ _).symm.trans set
  | saved checkpoint none past rest marks writes ih =>
      have known := checkpoint.credible
      have undropped := (Undropped.new (known.1.capacity.trans known.2.capacity.symm) ih).run direct past
      have now := audited_run none known.1 known.2 past
      intro index set
      rw [writes.2 index]
      refine written_kept now (roomy_capacity known.1.capacity known.2.capacity) rest index ?_
      exact undropped.ordered index ((marks.2 index).symm.trans set)

theorem recorded_le {history : List Event} : (recorded history : Multiset Nat) ≤ done history := by
  induction history with
  | nil => exact le_refl _
  | cons event history ih =>
      cases event with
      | read | hash => exact ih
      | drop | discard => exact ih.trans (Multiset.le_cons_self _ _)
      | skipEmpty | write => exact Multiset.cons_le_cons _ ih

theorem recorded_all {history : List Event} (dropped : ∀ index, .drop index ∉ history) (kept : ¬Discarded history) :
    (recorded history : Multiset Nat) = done history := by
  induction history with
  | nil => rfl
  | cons event history ih =>
      have rest := ih (fun index inside => dropped index (List.mem_cons_of_mem _ inside))
        fun some => kept (some.imp fun _ inside => List.mem_cons_of_mem _ inside)
      cases event with
      | read | hash => exact rest
      | drop index => exact absurd List.mem_cons_self (dropped index)
      | discard index => exact absurd ⟨index,List.mem_cons_self⟩ kept
      | skipEmpty index | write index => exact congrArg (index ::ₘ ·) rest

theorem thrown_none {history : List Event} (kept : ¬Discarded history) : thrownAway history = 0 := by
  induction history with
  | nil => rfl
  | cons event history ih =>
      have rest := ih fun some => kept (some.imp fun _ inside => List.mem_cons_of_mem _ inside)
      cases event with
      | discard index => exact absurd ⟨index,List.mem_cons_self⟩ kept
      | _ => exact rest

structure Tally (env : SessionEnv) (first : SessionCounter) (processed : Bitmap) (s : Session) : Prop where
  toRead : s.counter.bytesToRead = env.config.sessionSize.toNat
  read : s.counter.bytesRead = first.bytesRead+env.config.bytes (processed.missing env.config.TotalBlocks)
  toHash : env.config.hasherEnabled = true →
    s.counter.blocksToHash = first.blocksToHash+(processed.missing env.config.TotalBlocks).card
  hashed : env.config.hasherEnabled = true →
    s.counter.blocksHashed = first.blocksHashed+(processed.missing env.config.TotalBlocks).card
  toWrite : s.counter.bytesToWrite = first.bytesToWrite+env.config.bytes (recorded s.history)
  written : s.counter.bytesWritten = first.bytesWritten+env.config.bytes (recorded s.history)
  less : (recorded s.history : Multiset Nat) ≤ processed.missing env.config.TotalBlocks
  all : (∀ index, .drop index ∉ s.history) → (recorded s.history : Multiset Nat) = processed.missing env.config.TotalBlocks
  some : ∀ index ∈ processed.missing env.config.TotalBlocks, 0 < env.config.nBytesToRead index

theorem EndedWell.kept (ended : EndedWell s) (outcome : WriterOutcome s) : ¬Discarded s.history := by
  intro discarded
  have none := outcome.final ended.exited.2.2 ended.writer
  rcases outcome.torn (outcome.discarded discarded) with ⟨block,here⟩ | ⟨_,some⟩
  · cases ended.exited.2.2.symm.trans here
  · exact some none

theorem EndedWell.tally (ended : EndedWell s) (audited : Audited env source o first s) (enabled : env.config.checkpointEnabled = true)
    (began : ∀ index, o.processed.Test index = processed.Test index) : Tally env first processed s := by
  have finished := Finished.of_status audited.toValid ended.reader ended.writer ended.hasher
  have empty := audited.empty finished
  have flight := empty.inFlight
  have kept := ended.kept audited.writer
  have left : done s.history = haveRead s.history := by
    have count := audited.tokens.count
    rwa [flight,Multiset.map_zero,Multiset.zero_add] at count
  -- each block without a bit has been read, once
  have read : haveRead s.history = processed.missing env.config.TotalBlocks := by
    refine (audited.tokens.nodup.ext missing_nodup).mpr fun index => ?_
    rw [mem_missing]
    constructor
    · exact fun inside => ⟨audited.read_counted inside,began index ▸ audited.coverage.fresh index inside enabled⟩
    · rintro ⟨below,unset⟩
      have within : index ≤ env.config.m_maxIndex := by
        unfold VolumeTaskSharedConfig.m_maxIndex
        omega
      refine (left ▸ audited.all_done finished within :
        index ∈ haveRead s.history ∨ env.config.checkpointEnabled = true ∧ o.processed.Test index = true).resolve_right fun marked => ?_
      cases unset.symm.trans ((began index).symm.trans marked.2)
  have hashes (hasher : env.config.hasherEnabled = true) : haveHashed s.history = haveRead s.history := by
    have none : (s.flow env).unhashed = 0 := by
      have parts := flight
      simp only [Flow.inFlight,add_eq_zero] at parts
      exact parts.1.1
    have known := audited.passage.hashed hasher
    rwa [none,Multiset.map_zero,Multiset.zero_add] at known
  have ledger := audited.ledger
  refine ⟨ledger.toRead.resolve_left (by simp [ended.exited.1]),?_,fun hasher => ?_,fun hasher => ?_,?_,?_,?_,fun dropped => ?_,?_⟩
  · rw [ledger.read,read]
  · simpa [ended.exited.1,read] using ledger.toHash hasher
  · rw [ledger.hashed,hashes hasher,read]
  · simpa [ended.exited.2.2,finished.drained.1,thrown_none kept] using ledger.toWrite
  · simpa [ended.exited.2.2] using ledger.written
  · rw [← read,← left]
    exact recorded_le
  · rw [← read,← left]
    exact recorded_all dropped kept
  · rw [← read]
    exact audited.passage.some

end checkpoint

section exactness
variable {config : VolumeTaskSharedConfig} {processed written bitmap : Bitmap}

theorem positive_of_missing (some : ∀ index ∈ processed.missing config.TotalBlocks, 0 < config.nBytesToRead index)
    (missing : index ∈ processed.missing config.TotalBlocks) : 0 < config.blockSize.toNat :=
  Nat.lt_of_lt_of_le (some index missing) nBytesToRead_le

theorem total_of_missing (missing : index ∈ processed.missing config.TotalBlocks) : 0 < config.TotalBlocks :=
  Nat.lt_of_le_of_lt (Nat.zero_le _) (mem_missing.mp missing).1

theorem full_or_missing (bitmap : Bitmap) (count : Nat) : (∀ index < count, bitmap.Test index = true) ∨ ∃ index, index ∈ bitmap.missing count := by
  by_cases full : ∀ index < count, bitmap.Test index = true
  · exact .inl full
  · push Not at full
    obtain ⟨index,below,unset⟩ := full
    exact .inr ⟨index,mem_missing.mpr ⟨below,by simpa using unset⟩⟩

theorem missing_none (full : ∀ index < count, bitmap.Test index = true) : bitmap.missing count = 0 := by
  refine Multiset.eq_zero_of_forall_notMem fun index inside => ?_
  obtain ⟨below,unset⟩ := mem_missing.mp inside
  cases (full index below).symm.trans unset

def restoredBytes (config : VolumeTaskSharedConfig) (bitmap : Bitmap) : Nat :=
  if bitmap.TotalSetCount = config.TotalBlocks then config.sessionSize.toNat else bitmap.TotalSetCount*config.blockSize.toNat

theorem restored_full (credible : Credible config bitmap) (full : ∀ index < config.TotalBlocks, bitmap.Test index = true) :
    restoredBytes config bitmap = config.sessionSize.toNat := by
  have parts : (bitmap.blocks config.TotalBlocks).card+_ = _ := parts_card
  rw [missing_none full,Multiset.card_zero,Nat.add_zero,← total_blocks credible.capacity credible.inside] at parts
  exact if_pos parts

theorem restored_part (credible : Credible config bitmap) (missing : index ∈ bitmap.missing config.TotalBlocks) :
    restoredBytes config bitmap = config.bytes (bitmap.blocks config.TotalBlocks)+
      if bitmap.Test config.m_maxIndex then config.blockSize.toNat-config.nBytesToRead config.m_maxIndex else 0 := by
  have parts : (bitmap.blocks config.TotalBlocks).card+_ = _ := parts_card
  have some : 0 < (bitmap.missing config.TotalBlocks).card := Multiset.card_pos_iff_exists_mem.mpr ⟨index,missing⟩
  have count := total_blocks credible.capacity credible.inside
  rw [blocks_bytes (total_of_missing missing),← count]
  exact if_neg (by omega)

theorem restored_least (credible : Credible config bitmap) (positive : 0 < config.blockSize.toNat) :
    config.bytes (bitmap.blocks config.TotalBlocks) ≤ restoredBytes config bitmap := by
  rcases full_or_missing bitmap config.TotalBlocks with full | ⟨index,missing⟩
  · rw [restored_full credible full,← session_bytes positive]
    exact bytes_le (Multiset.filter_le _ _)
  · rw [restored_part credible missing]
    exact Nat.le_add_right _ _

theorem restored_le (credible : Credible config bitmap) : restoredBytes config bitmap ≤ config.sessionSize.toNat := by
  rcases full_or_missing bitmap config.TotalBlocks with full | ⟨index,missing⟩
  · exact Nat.le_of_eq (restored_full credible full)
  · have parts : (bitmap.blocks config.TotalBlocks).card+_ = _ := parts_card
    have some : 0 < (bitmap.missing config.TotalBlocks).card := Multiset.card_pos_iff_exists_mem.mpr ⟨index,missing⟩
    have count := total_blocks credible.capacity credible.inside
    have few : bitmap.TotalSetCount ≤ config.m_maxIndex := by
      unfold VolumeTaskSharedConfig.m_maxIndex
      omega
    have start := index_start few
    exact (if_neg (by omega) : restoredBytes config bitmap = _).trans_le start

theorem restored_exact (credible : Credible config processed)
    (some : ∀ index ∈ processed.missing config.TotalBlocks, 0 < config.nBytesToRead index) :
    restoredBytes config processed+config.bytes (processed.missing config.TotalBlocks) = config.sessionSize.toNat ↔
      LastMarkedLast config processed := by
  rcases full_or_missing processed config.TotalBlocks with full | ⟨index,missing⟩
  · rw [restored_full credible full,missing_none full]
    exact ⟨fun _ => .inl full,fun _ => rfl⟩
  · have parts : config.bytes (processed.blocks config.TotalBlocks)+_ = _ := parts_bytes (positive_of_missing some missing)
    have short : config.nBytesToRead config.m_maxIndex ≤ config.blockSize.toNat := nBytesToRead_le
    rw [restored_part credible missing]
    constructor
    · intro same
      cases set : processed.Test config.m_maxIndex with
      | false => exact .inr (.inl set)
      | true =>
          rw [if_pos set] at same
          exact .inr (.inr (by omega))
    · rintro (full | unset | whole)
      · cases (full index (mem_missing.mp missing).1).symm.trans (mem_missing.mp missing).2
      · rw [if_neg (by simp [unset])]
        omega
      · rw [whole,Nat.sub_self,ite_self]
        omega

theorem blocks_le (marked : WrittenMarked processed written) : written.blocks count ≤ processed.blocks count :=
  Multiset.monotone_filter_right _ marked

theorem blocks_more (ordered : ∀ index, processed.Test index = true → written.Test index = true) (wrote : written.Test index = true)
    (missing : index ∈ processed.missing count) : index ::ₘ processed.blocks count ≤ written.blocks count := by
  obtain ⟨below,unset⟩ := mem_missing.mp missing
  have fresh : index ∉ processed.blocks count := fun inside => by cases unset.symm.trans (mem_blocks.mp inside).2
  refine (Multiset.le_iff_subset (Multiset.nodup_cons.mpr ⟨fresh,blocks_nodup⟩)).mpr fun other inside => ?_
  rcases Multiset.mem_cons.mp inside with rfl | earlier
  · exact mem_blocks.mpr ⟨below,wrote⟩
  · obtain ⟨within,set⟩ := mem_blocks.mp earlier
    exact mem_blocks.mpr ⟨within,ordered other set⟩

end exactness

section resumed
variable {env : SessionEnv} {source : Content} {s : Session} {first : SessionCounter} {processed written : Bitmap}

theorem Tally.bound (tally : Tally env first processed s) (writes : Credible env.config written)
    (last : LastMarkedLast env.config processed) (marked : WrittenMarked processed written) :
    restoredBytes env.config written+env.config.bytes (recorded s.history) ≤ env.config.sessionSize.toNat := by
  have rest : env.config.bytes (recorded s.history) ≤ _ := bytes_le tally.less
  rcases full_or_missing processed env.config.TotalBlocks with full | ⟨index,missing⟩
  · rw [missing_none full,bytes_zero] at rest
    have whole := restored_le writes
    omega
  · have parts : env.config.bytes (processed.blocks env.config.TotalBlocks)+_ = _ :=
      parts_bytes (positive_of_missing tally.some missing)
    have less : env.config.bytes (written.blocks env.config.TotalBlocks) ≤ _ := bytes_le (blocks_le marked)
    obtain ⟨below,unset⟩ := mem_missing.mp missing
    have unwritten : index ∈ written.missing env.config.TotalBlocks := by
      refine mem_missing.mpr ⟨below,Bool.eq_false_iff.mpr fun set => ?_⟩
      cases unset.symm.trans (marked index set)
    have exact : restoredBytes env.config written = env.config.bytes (written.blocks env.config.TotalBlocks) := by
      rw [restored_part writes unwritten]
      split
      · rename_i set
        rcases last with full | clear | whole
        · cases (full index below).symm.trans unset
        · cases clear.symm.trans (marked _ set)
        · rw [whole,Nat.sub_self,Nat.add_zero]
      · rfl
    omega

-- The counters of a session that was resumed from a checkpoint and has ended well are exact where the checkpoint
-- does not mark a short last block before the others and marks what it has written, and otherwise they are not.
theorem resumed_counters {context : BlockHashingContext} {target : Content} (checkpoint : Interrupted env processed written)
    (enabled : env.config.checkpointEnabled = true)
    (path : Runs (sessionStep env source) Anything (.resumed env context processed written target) actions s) (ended : EndedWell s) :
    (LastMarkedLast env.config processed ∧ WrittenMarked processed written → ExactCounters env.config s.counter) ∧
    (ExactCounters env.config s.counter →
      LastMarkedLast env.config processed ∧ (Direct env → WrittenMarked processed written)) := by
  have known := checkpoint.credible
  have audited : Audited _ _ _ (RestoreSessionCounter env.config ⟨processed,written,{},context⟩).counter _ :=
    audited_run rfl known.1 known.2 path
  have tally : Tally _ _ processed _ := ended.tally audited enabled fun _ => rfl
  have read : s.counter.bytesRead = restoredBytes env.config processed+
      env.config.bytes (processed.missing env.config.TotalBlocks) := tally.read
  have wrote : s.counter.bytesWritten = restoredBytes env.config written+env.config.bytes (recorded s.history) := tally.written
  have exact := restored_exact known.1 tally.some
  constructor
  · rintro ⟨last,marked⟩
    have count : (processed.blocks env.config.TotalBlocks).card+_ = _ := parts_card
    rw [← total_blocks known.1.capacity known.1.inside] at count
    refine ⟨tally.toRead,?_,fun hasher => ?_,fun hasher => ?_,tally.written.trans tally.toWrite.symm,?_⟩
    · rw [read,exact.mpr last,tally.toRead]
    · rw [tally.toHash hasher]
      simpa [RestoreSessionCounter,hasher] using count
    · rw [tally.hashed hasher,tally.toHash hasher]
      rfl
    · rw [wrote]
      exact tally.bound known.2 last marked
  · intro counters
    refine ⟨exact.mp ?_,fun direct index set => ?_⟩
    · rw [← read,counters.read,tally.toRead]
    · refine Bool.eq_true_of_not_eq_false fun unset => ?_
      have missing : index ∈ processed.missing env.config.TotalBlocks := mem_missing.mpr ⟨known.2.inside index set,unset⟩
      have positive := positive_of_missing tally.some missing
      have ordered := checkpoint.ordered direct
      have undropped := (Undropped.new (known.1.capacity.trans known.2.capacity.symm) ordered).run direct path
      have more : env.config.bytes _ ≤ env.config.bytes _ := bytes_le (blocks_more ordered set missing)
      have some := tally.some index missing
      have least := restored_least known.2 positive
      have parts : env.config.bytes (processed.blocks env.config.TotalBlocks)+_ = _ := parts_bytes positive
      have bound := counters.bound
      rw [wrote,tally.all undropped.none] at bound
      rw [bytes_cons] at more
      omega

end resumed

instance : Decidable (EndedWell s) :=
  decidable_of_iff (AllExited s ∧ s.readerTask.task.m_status = .SUCCEED ∧ s.hasherTask.task.m_abort = false ∧
    s.writerTask.task.m_status = .SUCCEED) ⟨fun ⟨exited,reader,hasher,writer⟩ => ⟨exited,reader,hasher,writer⟩,
      fun ⟨exited,reader,hasher,writer⟩ => ⟨exited,reader,hasher,writer⟩⟩

def shortEnv : SessionEnv where
  config := {letterConfig with sessionSize := 3,blockSize := 2,checkpointEnabled := true,hasherWorkerNum := 2}
  m_forwardMode := .DIRECT
  dataReader := ⟨0,0,true⟩
  dataWriter := ⟨0,0,false⟩
  sha256 := fun _ _ => 0

def shortTables : BlockHashingContext := ⟨64,0,zeros,zeros⟩

def shortStart (steps : Nat) : List SessionAction :=
  [.start .readerTask,.start .hasherTask,.start .writerTask]++.replicate steps (.reader .ok)

-- The first worker takes block 0, the second block 1; one of them goes on, and its block is written and marked.
def shortSaved (worker : Nat) : List SessionAction :=
  shortStart 13++.replicate 3 (.worker 0)++.replicate 3 (.worker 1)++.replicate 2 (.worker worker)++.replicate 5 (.writer .ok)

def shortResumed (worker : Nat) : List SessionAction :=
  shortStart (10+3*worker)++.replicate 11 (.worker 0)++.replicate 7 (.worker 1)++.replicate 10 (.writer .ok)

def shortSource : Content := .of 3 fun _ => 97

def shortRun (worker : Nat) : Option (Session × Session) :=
  (execute (sessionStep shortEnv shortSource) (fun _ _ => true)
    (.new shortEnv.config shortTables (.new shortEnv.config.TotalBlocks) (.new shortEnv.config.TotalBlocks) {} (.of 3 zeros))
    (shortSaved worker)).bind fun saved =>
  (execute (sessionStep shortEnv shortSource) (fun _ _ => true)
    (.resumed shortEnv shortTables saved.processedBitmap saved.writtenBitmap (.of 3 zeros)) (shortResumed worker)).map fun ended => (saved,ended)

theorem shortRun_parts {worker : Nat} {good : Session × Session → Bool} (ran : (shortRun worker).any good = true) : ∃ saved ended,
    good (saved,ended) = true ∧ Interrupted shortEnv saved.processedBitmap saved.writtenBitmap ∧
    Runs (sessionStep shortEnv shortSource) Anything
      (.resumed shortEnv shortTables saved.processedBitmap saved.writtenBitmap (.of 3 zeros)) (shortResumed worker) ended := by
  obtain ⟨both,done,passed⟩ := (Option.any_eq_true _ _).mp ran
  obtain ⟨saved,first,rest⟩ := Option.bind_eq_some_iff.mp done
  obtain ⟨ended,second,rfl⟩ := Option.map_eq_some_iff.mp rest
  have past : Runs _ Anything _ _ _ := execute_runs (fun _ _ _ => trivial) first
  exact ⟨saved,ended,passed,.saved .fresh rfl past .nil ⟨rfl,fun _ => rfl⟩ ⟨rfl,fun _ => rfl⟩,
    execute_runs (fun _ _ _ => trivial) second⟩

theorem resumed_first : (shortRun 0).any (fun run => EndedWell run.2 ∧ run.1.processedBitmap.Test 1 = false ∧
    run.1.writtenBitmap.Test 1 = false ∧ run.1.processedBitmap.Test 0 = true) = true := by decide +kernel

theorem resumed_counters_first : ∃ s, EndedWell s ∧ ExactCounters shortEnv.config s.counter := by
  obtain ⟨saved,ended,passed,checkpoint,path⟩ := shortRun_parts resumed_first
  obtain ⟨well,last,unwritten,first⟩ := of_decide_eq_true passed
  refine ⟨ended,well,(resumed_counters checkpoint rfl path well).1 ⟨.inr (.inl last),fun index set => ?_⟩⟩
  have inside : index < 2 := checkpoint.credible.2.inside index set
  match index with
  | 0 => exact first
  | 1 => cases unwritten.symm.trans set

-- With only the short block 1 marked, it counts as two bytes, and four bytes have been read of three.
theorem resumed_second : (shortRun 1).any (fun run => EndedWell run.2 ∧ run.2.counter.bytesToRead = 3 ∧
    run.2.counter.bytesRead = 4) = true := by decide +kernel

theorem short_block_counted_whole : ¬∀ (processed written : Bitmap) (actions : List SessionAction) (s : Session),
    Interrupted shortEnv processed written →
    Runs (sessionStep shortEnv shortSource) Anything (.resumed shortEnv shortTables processed written (.of 3 zeros)) actions s →
    EndedWell s → ExactCounters shortEnv.config s.counter := by
  intro claim
  obtain ⟨saved,ended,passed,checkpoint,path⟩ := shortRun_parts resumed_second
  obtain ⟨well,all,read⟩ := of_decide_eq_true passed
  have same := (claim _ _ _ _ checkpoint path well).read
  rw [all,read] at same
  cases same

end VolumeBackup
