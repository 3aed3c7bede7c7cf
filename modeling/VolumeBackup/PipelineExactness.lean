import Mathlib.Data.Fintype.Pi
import VolumeBackup.SessionEnd

namespace VolumeBackup
open ByteMemory LabelledRuns

def Untroubled (_ : Session) : SessionAction → Prop
  | .reader outcome | .writer outcome => outcome.isOk = true
  | .abort _ | .aborted _ | .aborting _ => False
  | _ => True

instance : Decidable (Untroubled s action) :=
  match action with
  | .reader outcome | .writer outcome => inferInstanceAs (Decidable (outcome.isOk = true))
  | .abort _ | .aborted _ | .aborting _ => inferInstanceAs (Decidable False)
  | .worker _ | .start _ | .pause _ => inferInstanceAs (Decidable True)

def AllExited (s : Session) : Prop :=
  s.readerTask.pc = .exited ∧ (∀ pc ∈ s.hasherTask.m_workers, pc = .exited) ∧ s.writerTask.pc = .exited

instance : Decidable (AllExited s) := inferInstanceAs (Decidable (_ ∧ _ ∧ _))

structure CalmReader (env : SessionEnv) (s : Session) : Prop where
  abort : s.readerTask.task.m_abort = false
  failed : s.readerTask.task.m_failed = false
  clean : ¬Unread s.history
  status : ∀ status, s.readerTask.pc = .terminate status → status = .SUCCEED
  gone : s.readerTask.pc = .finish ∨ s.readerTask.pc = .exited → env.config.m_maxIndex < s.readerTask.m_currentIndex

structure CalmWriter (s : Session) : Prop where
  abort : s.writerTask.task.m_abort = false
  whole : ¬Torn s.history
  status : ∀ status, s.writerTask.pc = .terminate status → status = .SUCCEED
  gone : s.writerTask.pc = .review ∨ s.writerTask.pc = .revise ∨ s.writerTask.pc = .exited → s.writeQueue.Drained

structure Calm (env : SessionEnv) (s : Session) : Prop where
  reader : CalmReader env s
  hasher : s.hasherTask.task.m_abort = false
  writer : CalmWriter s

variable {env : SessionEnv} {source : Content} {o : Flow} {s t : Session}

theorem CalmReader.frame (calm : CalmReader env s) (reader : t.readerTask = s.readerTask)
    (history : Unread t.history → Unread s.history) : CalmReader env t := by
  refine ⟨?_,?_,fun unread => calm.clean (history unread),?_,?_⟩ <;> rw [reader]
  · exact calm.abort
  · exact calm.failed
  · exact calm.status
  · exact calm.gone

theorem CalmWriter.frame (calm : CalmWriter s) (writer : t.writerTask = s.writerTask)
    (queue : s.writeQueue.Drained → t.writeQueue.Drained) (history : Torn t.history → Torn s.history) : CalmWriter t := by
  refine ⟨?_,fun torn => calm.whole (history torn),?_,?_⟩
  · rw [writer]; exact calm.abort
  · rw [writer]; exact calm.status
  · rw [writer]; exact fun gone => queue (calm.gone gone)

theorem Calm.readerStep (calm : Calm env s) (outcome : ReaderOutcome env s) (step : ReaderStep env source result s t)
    (quiet : result.isOk = true) : Calm env t := by
  obtain ⟨⟨abort,failed,clean,status,gone⟩,hasher,writer⟩ := calm
  cases step with
  | stopped here stop => cases failed.symm.trans stop
  | aborted here aborted => cases abort.symm.trans aborted
  | timeout here none failed | unread here same failed => cases failed.symm.trans quiet
  | retried here => exact ⟨⟨abort,failed,clean,status,gone⟩,hasher,writer⟩
  | completed here past =>
      refine ⟨⟨abort,failed,clean,?_,nofun⟩,hasher,writer.frame rfl id id⟩
      rintro status same
      cases same
      rfl
  | terminate here =>
      cases status _ here
      exact ⟨⟨abort,failed,clean,nofun,fun _ => outcome.past here⟩,hasher,writer.frame rfl id id⟩
  | finishHashing here enabled =>
      exact ⟨⟨abort,failed,clean,nofun,fun _ => gone (.inl here)⟩,hasher,writer.frame rfl id id⟩
  | finishWrite here plain =>
      exact ⟨⟨abort,failed,clean,nofun,fun _ => gone (.inl here)⟩,hasher,writer.frame rfl (fun drained => ⟨drained.1,rfl⟩) id⟩
  | pushWrite here plain pushed =>
      exact ⟨⟨abort,failed,clean,nofun,nofun⟩,hasher,writer.frame rfl (drained_push pushed) id⟩
  | read here same done =>
      exact ⟨⟨abort,failed,fun unread => clean ((unread_cons (by simp)).mp unread),nofun,nofun⟩,hasher,
        writer.frame rfl id (torn_cons (by simp)).mp⟩
  | _ => exact ⟨⟨abort,failed,clean,nofun,nofun⟩,hasher,writer.frame rfl id id⟩

theorem Calm.workerStep (calm : Calm env s) (step : WorkerStep env k s t) : Calm env t := by
  obtain ⟨reader,hasher,writer⟩ := calm
  cases step with
  | hashed here same | unchanged here equal =>
      exact ⟨reader.frame rfl (unread_cons (by simp)).mp,hasher,writer.frame rfl id (torn_cons (by simp)).mp⟩
  | pushed here push => exact ⟨reader.frame rfl id,hasher,writer.frame rfl (drained_push push) id⟩
  | finish here => exact ⟨reader.frame rfl id,hasher,writer.frame rfl (fun drained => ⟨drained.1,rfl⟩) id⟩
  | _ => exact ⟨reader.frame rfl id,hasher,writer.frame rfl id id⟩

theorem Calm.writerStep (calm : Calm env s) (outcome : WriterOutcome s) (known : Local env s)
    (step : WriterStep env result s t) (quiet : result.isOk = true) : Calm env t := by
  obtain ⟨reader,hasher,⟨abort,whole,status,gone⟩⟩ := calm
  cases step with
  | aborted here aborted => cases abort.symm.trans aborted
  | torn here needed failed =>
      rw [failed] at quiet
      cases quiet
  | failed here free => exact absurd (known.torn here) whole
  | drained here empty finished =>
      refine ⟨reader.frame rfl id,hasher,⟨abort,whole,?_,nofun⟩⟩
      rintro status same
      cases same
      rfl
  | terminate here =>
      cases status _ here
      exact ⟨reader.frame rfl id,hasher,⟨abort,whole,nofun,fun _ => outcome.past here⟩⟩
  | discarded here free | written here needed done | empty here zeros =>
      exact ⟨reader.frame rfl (unread_cons (by simp)).mp,hasher,⟨abort,fun torn => whole ((torn_cons (by simp)).mp torn),nofun,nofun⟩⟩
  | provisional here failed =>
      exact ⟨reader.frame rfl id,hasher,⟨abort,whole,nofun,fun _ => gone (.inl here)⟩⟩
  | reviewed here final =>
      exact ⟨reader.frame rfl id,hasher,⟨abort,whole,nofun,fun _ => gone (.inl here)⟩⟩
  | revised here => exact ⟨reader.frame rfl id,hasher,⟨abort,whole,nofun,fun _ => gone (.inr (.inl here))⟩⟩
  | _ => exact ⟨reader.frame rfl id,hasher,⟨abort,whole,nofun,nofun⟩⟩

theorem Calm.step (calm : Calm env s) (valid : Valid env source o s) (step : Step env source s action t)
    (quiet : Untroubled s action) : Calm env t := by
  cases action with
  | reader result => exact calm.readerStep valid.reader step quiet
  | worker k => exact calm.workerStep step
  | writer result => exact calm.writerStep valid.writer valid.known step quiet
  | start component =>
      obtain ⟨⟨abort,failed,clean,status,gone⟩,hasher,⟨flag,whole,ended,drained⟩⟩ := calm
      cases (step : ControlStep env _ s t) with
      | startReader here => exact ⟨⟨abort,failed,clean,nofun,nofun⟩,hasher,⟨flag,whole,ended,drained⟩⟩
      | hasherIdle | startHasher => exact ⟨⟨abort,failed,clean,status,gone⟩,hasher,⟨flag,whole,ended,drained⟩⟩
      | startWriter here => exact ⟨⟨abort,failed,clean,status,gone⟩,hasher,⟨flag,whole,nofun,nofun⟩⟩
  | pause paused =>
      cases (step : ControlStep env _ s t)
      obtain ⟨⟨abort,failed,clean,status,gone⟩,hasher,⟨flag,whole,ended,drained⟩⟩ := calm
      exact ⟨⟨abort,failed,clean,status,gone⟩,hasher,⟨flag,whole,ended,drained⟩⟩
  | abort | aborted | aborting => exact quiet.elim

theorem calm_new {context : BlockHashingContext} {processed written : Bitmap} {counter : SessionCounter} {target : Content} :
    Calm env (.new env.config context processed written counter target) :=
  ⟨⟨rfl,rfl,nofun,nofun,nofun⟩,rfl,⟨rfl,nofun,nofun,nofun⟩⟩

theorem Calm.run (calm : Calm env s) (valid : Valid env source o s) (roomy : Roomy env o)
    (path : Runs (sessionStep env source) Untroubled s actions t) : Calm env t := by
  have both := path.invariant (fun s => Valid env source o s ∧ Calm env s) ⟨valid,calm⟩ fun _ _ _ known ran quiet =>
    ⟨known.1.step roomy (sessionStep_sound ran),known.2.step known.1 (sessionStep_sound ran) quiet⟩
  exact both.2

theorem Calm.finished (calm : Calm env s) (exited : AllExited s) : Finished env s where
  past := calm.reader.gone (.inr exited.1)
  reader := .inr exited.1
  writer := .inr (.inr exited.2.2)
  drained := calm.writer.gone (.inr (.inr exited.2.2))
  hasher := calm.hasher

structure Ordinary (env : SessionEnv) : Prop where
  some : 1 ≤ env.config.sessionSize.toNat
  ends : env.config.sessionOffset.toNat+env.config.sessionSize.toNat < 2^64
  block : 1 ≤ env.config.blockSize.toNat
  buffers : 32*env.config.blockSize.toNat < 2^32
  few : env.config.TotalBlocks ≤ 2^27
  plain : env.config.skipEmptyBlock = false

theorem Ordinary.pooled (ordinary : Ordinary env) : Pooled env.config := ⟨ordinary.block,ordinary.buffers⟩

theorem total_positive (some : 1 ≤ env.config.sessionSize.toNat) (block : 1 ≤ env.config.blockSize.toNat) :
    0 < env.config.TotalBlocks := by
  have inside := (address_block block some).1
  refine Nat.pos_of_ne_zero fun none => ?_
  unfold VolumeTaskSharedConfig.TotalBlocks at none
  have split := Nat.div_add_mod env.config.sessionSize.toNat env.config.blockSize.toNat
  generalize env.config.sessionSize.toNat/env.config.blockSize.toNat = count at none split
  dsimp only at none
  split at none
  · cases none
  · rw [none,Nat.mul_zero] at split
    omega

theorem Ordinary.comparable (ordinary : Ordinary env) : Comparable env := by
  intro _
  have positive := total_positive ordinary.some ordinary.block
  have few := ordinary.few
  unfold VolumeTaskSharedConfig.m_maxIndex
  omega

theorem roomy_new {context : BlockHashingContext} {counter : SessionCounter} {target : Content} :
    Roomy env ((Session.new env.config context (.new env.config.TotalBlocks) (.new env.config.TotalBlocks) counter
      target).flow env) := by
  have room : env.config.m_maxIndex < (env.config.TotalBlocks/8+1)*8 := by
    unfold VolumeTaskSharedConfig.m_maxIndex
    omega
  exact ⟨room,room⟩

def Unchanged (env : SessionEnv) (source : Content) (previous : Memory) (index : Nat) : Bool :=
  env.config.hasherEnabled && env.m_forwardMode = .DIFF && decide (entry previous index = blockDigest env source index)

def blockWrite (env : SessionEnv) (source : Content) (index : Nat) : Event :=
  let offset := env.config.sessionOffset.toNat+index*env.config.blockSize.toNat
  let length := min env.config.blockSize.toNat (env.config.sessionSize.toNat-index*env.config.blockSize.toNat)
  .write index offset (read source.byte (env.dataReader.position offset) length) true

def Event.isWrite : Event → Bool
  | .write _ _ _ _ => true
  | _ => false

-- What an untroubled session leaves behind, each write in it made once.
structure Exact (env : SessionEnv) (source : Content) (previous : Memory) (s : Session) : Prop where
  writes : (s.history.filter Event.isWrite).Perm
    (((List.range env.config.TotalBlocks).filter fun index => !Unchanged env source previous index).map (blockWrite env source))
  processed : ∀ index, s.processedBitmap.Test index = true ↔ index < env.config.TotalBlocks
  written : ∀ index, s.writtenBitmap.Test index = true ↔
    index < env.config.TotalBlocks ∧ Unchanged env source previous index = false
  stored : ∀ index < env.config.TotalBlocks, Unchanged env source previous index = false →
    s.target.Holds (writePosition env index) (env.config.nBytesToRead index) source.byte (readPosition env index)
  checksums : env.config.hasherEnabled = true → ∀ index < env.config.TotalBlocks,
    entry s.hashingContext.lastestTable index = blockDigest env source index
  empty : Empty (s.flow env)
  free : ∀ marked ∈ s.allocator.m_allocTable, marked = false

section exactness
variable {context : BlockHashingContext} {target : Content}

theorem index_total (ordinary : Ordinary env) : index ≤ env.config.m_maxIndex ↔ index < env.config.TotalBlocks := by
  have positive := total_positive ordinary.some ordinary.block
  unfold VolumeTaskSharedConfig.m_maxIndex
  omega

theorem offset_exact (ordinary : Ordinary env) (inside : index ≤ env.config.m_maxIndex) :
    env.config.consumeBlockOffset index = env.config.sessionOffset.toNat+index*env.config.blockSize.toNat := by
  have start := index_start inside
  have ends := ordinary.ends
  unfold VolumeTaskSharedConfig.consumeBlockOffset
  rw [Nat.mod_eq_of_lt (by omega),Nat.add_comm]

structure Ended (env : SessionEnv) (source : Content) (o : Flow) (s : Session) : Prop where
  valid : Valid env source o s
  calm : Calm env s
  exited : AllExited s
  fresh : ∀ index, o.processed.Test index = false ∧ o.written.Test index = false

theorem Ended.intact (ended : Ended env source o s) (ordinary : Ordinary env) : Intact env source o (s.flow env) :=
  ended.valid.intact ordinary.pooled ended.calm.writer.whole

theorem Ended.none_left (ended : Ended env source o s) : Empty (s.flow env) :=
  ended.valid.empty (ended.calm.finished ended.exited)

theorem Ended.done (ended : Ended env source o s) (inside : index ≤ env.config.m_maxIndex) : index ∈ done s.history := by
  refine (ended.valid.all_done (ended.calm.finished ended.exited) inside).resolve_right fun marked => ?_
  cases (ended.fresh index).1.symm.trans marked.2

theorem Ended.inside (ended : Ended env source o s) (left : index ∈ VolumeBackup.done s.history) : index ≤ env.config.m_maxIndex :=
  ended.valid.tokens.inside index (ended.valid.tokens.done_read left)

theorem Ended.settled (ended : Ended env source o s) : index ∈ settled s.history ↔ index ≤ env.config.m_maxIndex :=
  ⟨fun left => ended.inside (settled_done left),fun inside =>
    done_cases (ended.done inside) fun some => ended.calm.writer.whole (ended.valid.writer.discarded some)⟩

-- What was dropped is unchanged and what was written is not, so each tells whether a block is unchanged.
theorem Ended.dropped (ended : Ended env source o s) (ordinary : Ordinary env) (drop : .drop index ∈ s.history) :
    Unchanged env source o.previous index = true := by
  obtain ⟨enabled,diff,equal⟩ := (ended.intact ordinary).checksums.dropped ordinary.comparable index drop
  have same : entry o.previous index = blockDigest env source index := ended.valid.previous ▸ equal
  simp [Unchanged,enabled,diff,same]

theorem Ended.changed (ended : Ended env source o s) (ordinary : Ordinary env) (left : index ∈ recorded s.history) :
    Unchanged env source o.previous index = false := by
  have differ := (ended.intact ordinary).checksums.recorded ordinary.comparable
  rw [show (s.flow env).previous = o.previous from ended.valid.previous] at differ
  unfold Unchanged
  cases enabled : env.config.hasherEnabled with
  | false => rfl
  | true =>
      cases mode : env.m_forwardMode with
      | DIRECT => rfl
      | DIFF => simpa using differ enabled mode index left

theorem Ended.unskipped (ended : Ended env source o s) (ordinary : Ordinary env) : .skipEmpty index ∉ s.history := by
  intro empty
  cases ordinary.plain.symm.trans ((ended.intact ordinary).stored.empty index empty).1

theorem write_recorded (wrote : .write index offset data ok ∈ history) : index ∈ recorded history :=
  List.mem_filterMap.mpr ⟨_,wrote,rfl⟩

theorem Ended.wrote (ended : Ended env source o s) (ordinary : Ordinary env) (inside : index ≤ env.config.m_maxIndex)
    (changed : Unchanged env source o.previous index = false) : ∃ offset data, .write index offset data true ∈ s.history := by
  rcases ended.valid.all_settled ended.calm.writer.whole (ended.done inside) with drop | empty | wrote
  · cases changed.symm.trans (ended.dropped ordinary drop)
  · exact absurd empty (ended.unskipped ordinary)
  · exact wrote

theorem Ended.write (ended : Ended env source o s) (ordinary : Ordinary env) (wrote : .write index offset data ok ∈ s.history) :
    .write index offset data ok = blockWrite env source index ∧ index ≤ env.config.m_maxIndex := by
  have inside := ended.inside (write_done wrote)
  cases ok with
  | false => exact absurd ⟨_,_,_,wrote⟩ ended.calm.writer.whole
  | true =>
      obtain ⟨place,bytes,_⟩ := (ended.intact ordinary).stored.written index offset data wrote
      refine ⟨?_,inside⟩
      rw [place,bytes,blockBytes,readPosition,offset_exact ordinary inside]
      rfl

theorem Ended.writes (ended : Ended env source o s) (ordinary : Ordinary env) :
    (s.history.filter Event.isWrite).Perm (((List.range env.config.TotalBlocks).filter fun index =>
      !Unchanged env source o.previous index).map (blockWrite env source)) := by
  have once : (s.history.filterMap Event.doneIndex).Nodup := by
    have nodup := ended.valid.tokens.nodup
    rw [← ended.valid.tokens.count] at nodup
    exact Multiset.coe_nodup.mp (Multiset.nodup_add.mp nodup).2.1
  refine (List.perm_ext_iff_of_nodup ?_ ?_).mpr ?_
  · refine (List.pairwise_filterMap.mp once).filter _ |>.imp_of_mem ?_
    rintro left right present _ apart rfl
    have write := (List.mem_filter.mp present).2
    cases left with
    | write index offset data ok => exact apart index rfl index rfl rfl
    | _ => cases write
  · refine List.Nodup.map (fun left right same => ?_) (List.nodup_range.filter _)
    simp only [blockWrite,Event.write.injEq] at same
    exact same.1
  · intro event
    simp only [List.mem_filter,List.mem_map,List.mem_range,Bool.not_eq_true']
    constructor
    · rintro ⟨present,write⟩
      cases event with
      | write index offset data ok =>
          obtain ⟨same,inside⟩ := ended.write ordinary present
          exact ⟨index,⟨(index_total ordinary).mp inside,ended.changed ordinary (write_recorded present)⟩,same.symm⟩
      | _ => cases write
    · rintro ⟨index,⟨below,changed⟩,rfl⟩
      obtain ⟨offset,data,wrote⟩ := ended.wrote ordinary ((index_total ordinary).mpr below) changed
      exact ⟨(ended.write ordinary wrote).1 ▸ wrote,rfl⟩

theorem Ended.recorded (ended : Ended env source o s) (ordinary : Ordinary env) : index ∈ recorded s.history ↔
    index < env.config.TotalBlocks ∧ Unchanged env source o.previous index = false := by
  rw [← index_total ordinary]
  constructor
  · intro left
    exact ⟨ended.inside (settled_done (recorded_settled left)),ended.changed ordinary left⟩
  · rintro ⟨inside,changed⟩
    obtain ⟨offset,data,wrote⟩ := ended.wrote ordinary inside changed
    exact write_recorded wrote

theorem Marking.test (marking : Marking before now due 0) (fresh : before.Test index = false) :
    now.Test index = true ↔ index ∈ due := by
  constructor
  · intro set
    exact (marking.justified index set).resolve_left fun earlier => nomatch fresh.symm.trans earlier
  · intro left
    exact (marking.marked index left).resolve_right (Multiset.notMem_zero index)

theorem Ended.exact (ended : Ended env source o s) (ordinary : Ordinary env) : Exact env source o.previous s where
  writes := ended.writes ordinary
  processed := by
    intro index
    have marking := ended.valid.marks.processed
    rw [ended.none_left.settling] at marking
    rw [← index_total ordinary,← ended.settled]
    exact marking.test (ended.fresh index).1
  written := by
    intro index
    have marking := ended.valid.marks.written
    rw [ended.none_left.recording] at marking
    rw [← ended.recorded ordinary]
    exact marking.test (ended.fresh index).2
  stored := by
    intro index below changed
    obtain ⟨offset,data,wrote⟩ := ended.wrote ordinary ((index_total ordinary).mpr below) changed
    exact ((ended.intact ordinary).stored.written index offset data wrote).2.2.2
  checksums := by
    intro enabled index below
    have hashed := (ended.intact ordinary).checksums.done enabled index (ended.done ((index_total ordinary).mpr below))
    exact (ended.intact ordinary).checksums.stored index hashed
  empty := ended.none_left
  free := by
    intro marked present
    obtain ⟨k,at_k⟩ := List.mem_iff_getElem?.mp present
    cases marked with
    | false => rfl
    | true =>
        have held := ((ended.intact ordinary).buffers.marked.resolve_left ended.calm.reader.clean) k at_k
        rw [Flow.buffers,ended.none_left.inFlight,ended.none_left.loose] at held
        cases held

theorem pipeline_exact (ordinary : Ordinary env) (path : Runs (sessionStep env source) Untroubled
      (.new env.config context (.new env.config.TotalBlocks) (.new env.config.TotalBlocks) {} target) actions s)
    (exited : AllExited s) : Exact env source context.previousTable s := by
  have ended : Ended env source _ s := ⟨(Valid.new rfl).run roomy_new path,calm_new.run (Valid.new rfl) roomy_new path,exited,
    fun _ => ⟨test_new _ _,test_new _ _⟩⟩
  exact ended.exact ordinary

end exactness

-- A volume of the one byte 'a', backed up against a previous table that does not have its checksum.
def letterDigest : List UInt8 := [202,151,129,18,202,27,189,202,250,194,49,179,154,35,220,77,
  167,134,239,248,20,124,78,114,185,128,119,133,175,238,72,187]

def letterConfig : VolumeTaskSharedConfig where
  sessionOffset := 0
  sessionSize := 1
  blockSize := 1
  hasherEnabled := true
  checkpointEnabled := false
  hasherWorkerNum := 1
  volumePath := "/dev/sda1"
  copyFilePath := "/copy/c.copydata.img"
  copyFormat := .IMAGE
  lastestChecksumBinPath := "/meta/c.0.sha256.meta.bin"
  prevChecksumBinPath := "/previous/c.0.sha256.meta.bin"
  checkpointFilePath := "/checkpoint/c.0.checkpoint.bin"
  skipEmptyBlock := false

def letterEnv : SessionEnv where
  config := letterConfig
  m_forwardMode := .DIFF
  dataReader := ⟨0,0,true⟩
  dataWriter := ⟨0,0,false⟩
  sha256 := fun bytes k => if bytes = [97] then letterDigest.getD k 0 else 0

def letter : Content := .of 1 fun _ => 97

def letterStart : Session :=
  .new letterEnv.config ⟨32,32,zeros,zeros⟩ (.new letterEnv.config.TotalBlocks) (.new letterEnv.config.TotalBlocks) {} (.of 1 zeros)

def letterActions : List SessionAction :=
  [.start .readerTask,.start .hasherTask,.start .writerTask]++.replicate 7 (.reader .ok)++.replicate 6 (.worker 0)++
    .replicate 6 (.writer .ok)++.replicate 3 (.reader .ok)++.replicate 6 (.worker 0)++.replicate 4 (.writer .ok)

-- The bytes 'a' and 'b' as two blocks, of which the previous checksums have the second.
def pair : Content := .of 2 fun address => if address = 0 then 97 else 98

def pairBlocks : SessionEnv :=
  {letterEnv with config := {letterConfig with sessionSize := 2},sha256 := fun bytes _ => bytes.headD 0}

def pairTable : Memory := fun address => if address < 32 then 0 else 98

def pairStart (previousTable : Memory) : Session :=
  .new pairBlocks.config ⟨64,64,zeros,previousTable⟩ (.new pairBlocks.config.TotalBlocks)
    (.new pairBlocks.config.TotalBlocks) {} (.of 2 zeros)

def pairActions : List SessionAction :=
  [.start .readerTask,.start .hasherTask,.start .writerTask]++.replicate 7 (.reader .ok)++.replicate 6 (.worker 0)++
    .replicate 5 (.reader .ok)++.replicate 6 (.writer .ok)++.replicate 4 (.reader .ok)++.replicate 12 (.worker 0)++.replicate 4 (.writer .ok)

def pairRun : Option Session :=
  execute (sessionStep pairBlocks pair) (fun s action => decide (Untroubled s action)) (pairStart pairTable) pairActions

theorem pairRun_some : pairRun.isSome = true := by decide +kernel

theorem pipeline_exact_pair : Exact pairBlocks pair pairTable (pairRun.get pairRun_some) := by
  have path := execute_runs (fun _ _ => of_decide_eq_true) (Option.some_get pairRun_some).symm
  exact pipeline_exact ⟨by decide,by decide,by decide,by decide,by decide,rfl⟩ path (by decide +kernel)

end VolumeBackup
