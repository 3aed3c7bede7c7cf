import VolumeBackup.CheckpointSnapshot
import VolumeBackup.SessionInvariant

namespace VolumeBackup
open ByteMemory LabelledRuns

-- The size of either table in bytes, and the place where ComputeSHA256 puts a checksum, both in 64 bits.
def checksumTableSize (config : VolumeTaskSharedConfig) : Nat := config.TotalBlocks*SHA256_CHECKSUM_SIZE % 2^64

def storeOffset (index : Nat) : Nat := index*SHA256_CHECKSUM_SIZE % 2^64

-- Between storing the checksum of a block and comparing it, a worker stays where it is; and nobody else
-- stores one for the same block.
def KeepsEntry (k index : Nat) (s : Session) : SessionAction → Prop
  | .worker j => j ≠ k ∧ ∀ block, s.hasherTask.m_workers[j]? = some (.hash block) → block.index ≠ index
  | _ => True

-- The places at which the tables are used are the exact ones and lie inside; a worker drops a block just where
-- the checksum that it has computed is the block's previous one; and no two workers have the same block.
structure LooksAtOwn (env : SessionEnv) : Prop where
  places : ∀ index < env.config.TotalBlocks, storeOffset index = 32*index ∧ diffOffset index = 32*index ∧
    32*index+32 ≤ checksumTableSize env.config
  decides : ∀ source (s : Session) (k : Nat) block computed others compared next, s.hasherTask.m_workers[k]? = some (.hash block) →
    block.index < env.config.TotalBlocks → workerStep env k s = some computed →
    Runs (sessionStep env source) (KeepsEntry k block.index) computed others compared → workerStep env k compared = some next →
    (next.hasherTask.m_workers[k]? = some (.free block) ↔
      env.sha256 (read s.pool block.ptr block.length) = entry s.hashingContext.previousTable block.index)
  alone : ∀ source context processed written counter target actions (s : Session), Runs (sessionStep env source) Anything
    (.new env.config context processed written counter target) actions s → ∀ (k j : Nat) block other, j ≠ k →
    s.hasherTask.m_workers[k]? = some (.hash block) ∨ s.hasherTask.m_workers[k]? = some (.diff block) →
    s.hasherTask.m_workers[j]? = some (.hash other) → other.index ≠ block.index

theorem diffOffset_exact_iff (inside : index ≤ 2^27) : diffOffset index = 32*index ↔ index < 2^27 := by
  unfold diffOffset SHA256_CHECKSUM_SIZE
  omega

variable {env : SessionEnv} {source : Content} {s t : Session} {block other : VolumeConsumeBlock} {j k : Nat}

section waiting
variable (digest : Digest) (previous : Memory) (k : Nat) (block : VolumeConsumeBlock)

structure AboutToCompare (s : Session) : Prop where
  here : s.hasherTask.m_workers[k]? = some (.diff block)
  computed : entry s.hashingContext.lastestTable block.index = digest
  previous : s.hashingContext.previousTable = previous

end waiting

variable {digest : Digest} {previous : Memory}

theorem AboutToCompare.frame (about : AboutToCompare digest previous k block s)
    (workers : t.hasherTask.m_workers = s.hasherTask.m_workers) (context : t.hashingContext = s.hashingContext) :
    AboutToCompare digest previous k block t := by
  refine ⟨?_,?_,?_⟩
  · rw [workers]; exact about.here
  · rw [context]; exact about.computed
  · rw [context]; exact about.previous

theorem ReaderStep.table (step : ReaderStep env source outcome s t) :
    t.hasherTask = s.hasherTask ∧ t.hashingContext = s.hashingContext := by
  cases step <;> exact ⟨rfl,rfl⟩

theorem WriterStep.table (step : WriterStep env outcome s t) :
    t.hasherTask = s.hasherTask ∧ t.hashingContext = s.hashingContext := by
  cases step <;> exact ⟨rfl,rfl⟩

theorem WorkerStep.table (step : WorkerStep env j s t) :
    (∃ pc, t.hasherTask.m_workers = s.hasherTask.m_workers.set j pc) ∧
      t.hashingContext.previousTable = s.hashingContext.previousTable ∧
      (t.hashingContext = s.hashingContext ∨ ∃ block digest, s.hasherTask.m_workers[j]? = some (.hash block) ∧
        t.hashingContext.lastestTable = setEntry s.hashingContext.lastestTable block.index digest) := by
  cases step with
  | hashed here same => exact ⟨⟨_,rfl⟩,rfl,.inr ⟨_,_,here,rfl⟩⟩
  | _ => exact ⟨⟨_,rfl⟩,rfl,.inl rfl⟩

theorem AboutToCompare.step (about : AboutToCompare digest previous k block s) (step : Step env source s action t)
    (keeps : KeepsEntry k block.index s action) : AboutToCompare digest previous k block t := by
  cases action with
  | reader outcome =>
      obtain ⟨hasher,context⟩ := ReaderStep.table step
      exact about.frame (by rw [hasher]) context
  | writer outcome =>
      obtain ⟨hasher,context⟩ := WriterStep.table step
      exact about.frame (by rw [hasher]) context
  | worker j =>
      obtain ⟨⟨pc,workers⟩,same,table⟩ := WorkerStep.table step
      obtain ⟨another,apart⟩ := keeps
      refine ⟨?_,?_,same.trans about.previous⟩
      · rw [workers,List.getElem?_set_ne another]
        exact about.here
      · rcases table with unchanged | ⟨other,_,here,stored⟩
        · rw [unchanged]
          exact about.computed
        · rw [stored,entry_setEntry_other (Ne.symm (apart other here))]
          exact about.computed
  | start component =>
      cases (step : ControlStep env (.start component) s t) with
      | startReader | hasherIdle | startWriter => exact about.frame rfl rfl
      | startHasher none =>
          have here := about.here
          rw [none] at here
          cases here
  | pause paused =>
      cases (step : ControlStep env (.pause paused) s t)
      exact about.frame rfl rfl
  | abort component =>
      cases (step : ControlStep env (.abort component) s t)
      cases component <;> exact about.frame rfl rfl
  | aborted component =>
      cases (step : ControlStep env (.aborted component) s t)
      cases component <;> exact about.frame rfl rfl
  | aborting component =>
      cases (step : ControlStep env (.aborting component) s t)
      cases component <;> exact about.frame rfl rfl

theorem AboutToCompare.run (about : AboutToCompare digest previous k block s)
    (path : Runs (sessionStep env source) (KeepsEntry k block.index) s actions t) : AboutToCompare digest previous k block t :=
  path.invariant (AboutToCompare digest previous k block) about fun _ _ _ known ran keeps =>
    known.step (sessionStep_sound ran) keeps

theorem computed_about (diff : env.m_forwardMode = .DIFF) (here : s.hasherTask.m_workers[k]? = some (.hash block))
    (ran : workerStep env k s = some t) :
    AboutToCompare (env.sha256 (read s.pool block.ptr block.length)) s.hashingContext.previousTable k block t := by
  obtain ⟨bound,_⟩ := List.getElem?_eq_some_iff.mp here
  unfold workerStep at ran
  rw [here] at ran
  simp only [diff] at ran
  cases ran
  refine ⟨?_,entry_setEntry_self,rfl⟩
  simp only [Session.worker,Session.record]
  exact List.getElem?_set_self bound

theorem compared_free (about : AboutToCompare digest previous k block s) (short : block.index < 2^27)
    (ran : workerStep env k s = some t) : t.hasherTask.m_workers[k]? = some (.free block) ↔ digest = entry previous block.index := by
  obtain ⟨here,computed,same⟩ := about
  obtain ⟨bound,_⟩ := List.getElem?_eq_some_iff.mp here
  have compare : memcmp s.hashingContext.previousTable (diffOffset block.index) s.hashingContext.lastestTable
      (diffOffset block.index) SHA256_CHECKSUM_SIZE = true ↔ digest = entry previous block.index := by
    rw [diffOffset_exact short]
    apply memcmp_entry.trans
    rw [computed,same]
    exact eq_comm
  unfold workerStep at ran
  rw [here] at ran
  dsimp only at ran
  split at ran
  · rename_i equal
    cases ran
    have moved : (s.hasherTask.m_workers.set k (.free block))[k]? = some (.free block) := List.getElem?_set_self bound
    exact iff_of_true moved (compare.mp equal)
  · rename_i differ
    cases ran
    have moved : (s.hasherTask.m_workers.set k (.push block))[k]? = some (.push block) := List.getElem?_set_self bound
    refine iff_of_false ?_ fun equal => differ (compare.mpr equal)
    intro dropped
    cases moved.symm.trans dropped

structure Tracked (env : SessionEnv) (s : Session) : Prop where
  order : FinishOrder env s
  known : Local env s
  tokens : Tokens env (s.flow env)

theorem Tracked.step (tracked : Tracked env s) (step : Step env source s action t) : Tracked env t := by
  refine ⟨tracked.order.step step,tracked.known.step step,?_⟩
  rcases s.flow_step tracked.order tracked.known step with same | moved
  · rw [same]
    exact tracked.tokens
  · exact tracked.tokens.step moved

theorem Tracked.new {context : BlockHashingContext} {processed written : Bitmap} {counter : SessionCounter} {target : Content} :
    Tracked env (.new env.config context processed written counter target) := by
  have sound : Sound env .empty _ (.new env.config context processed written counter target) := .new
  exact ⟨sound.order,sound.known,sound.tokens⟩

theorem Tracked.apart (tracked : Tracked env s) (flight : (s.flow env).inFlight = block ::ₘ r) (inside : other ∈ r) :
    other.index ≠ block.index := by
  have distinct : ((s.flow env).inFlight.map VolumeConsumeBlock.index).Nodup := by
    apply Multiset.nodup_of_le _ tracked.tokens.nodup
    rw [← tracked.tokens.count]
    exact Multiset.le_add_right _ _
  rw [flight,Multiset.map_cons,Multiset.nodup_cons] at distinct
  intro same
  apply distinct.1
  rw [← same]
  exact Multiset.mem_map_of_mem _ inside

theorem Tracked.alone (tracked : Tracked env s) (another : j ≠ k)
    (here : s.hasherTask.m_workers[k]? = some (.hash block) ∨ s.hasherTask.m_workers[k]? = some (.diff block))
    (there : s.hasherTask.m_workers[j]? = some (.hash other)) : other.index ≠ block.index := by
  have left : other ∈ Slots.gather WorkerPc.unhashed (s.hasherTask.m_workers.set k .check) := by
    apply Slots.mem_gather.mpr
    refine ⟨.hash other,List.mem_of_getElem? (i := j) ?_,by simp⟩
    rw [List.getElem?_set_ne (Ne.symm another)]
    exact there
  rcases here with computing | comparing
  · have given := Slots.gather_give WorkerPc.unhashed computing .check rfl rfl
    apply tracked.apart (r := (if env.config.hasherEnabled then s.readerTask.pc.block else 0)+s.hashingQueue.m_queue+
      Slots.gather WorkerPc.unhashed (s.hasherTask.m_workers.set k .check)+(s.flow env).hashed+(s.flow env).unwritten)
    · simp only [Flow.inFlight,Session.flow,given,Multiset.add_cons,Multiset.cons_add]
    · simp [left]
  · have given := Slots.gather_give WorkerPc.hashed comparing .check rfl rfl
    have kept := Slots.gather_keep WorkerPc.unhashed comparing .check rfl
    rw [kept] at left
    apply tracked.apart (r := (s.flow env).unhashed+Slots.gather WorkerPc.hashed (s.hasherTask.m_workers.set k .check)+
      (s.flow env).unwritten)
    · simp only [Flow.inFlight,Session.flow,given,Multiset.add_cons,Multiset.cons_add]
    · simp [Session.flow,left]

theorem places_exact (few : env.config.TotalBlocks ≤ 2^27) (inside : index < env.config.TotalBlocks) :
    storeOffset index = 32*index ∧ diffOffset index = 32*index ∧ 32*index+32 ≤ checksumTableSize env.config := by
  refine ⟨?_,(diffOffset_exact_iff (by omega)).mpr (by omega),?_⟩
  · unfold storeOffset SHA256_CHECKSUM_SIZE
    omega
  · unfold checksumTableSize SHA256_CHECKSUM_SIZE
    omega

theorem tables_sized (increment : backup.IsIncrementBackup = true) (few : config.TotalBlocks < 2^59)
    (tables : InitHashingContext disk config (.backup backup volumeSize) = some context) :
    context.lastestSize = checksumTableSize config ∧ context.previousSize = checksumTableSize config := by
  have exact : checksumTableSize config = config.TotalBlocks*SHA256_CHECKSUM_SIZE := by
    unfold checksumTableSize SHA256_CHECKSUM_SIZE
    omega
  unfold InitHashingContext at tables
  simp only [increment,if_true] at tables
  obtain ⟨table,_,rfl⟩ := Option.map_eq_some_iff.mp tables
  exact ⟨exact.symm,exact.symm⟩

-- A worker looks at the checksum of its own block just where a session has at most 2^27 blocks, for which both tables have room.
theorem looks_at_own (diff : env.m_forwardMode = .DIFF) : (LooksAtOwn env ↔ env.config.TotalBlocks ≤ 2^27) ∧
    ∀ (disk : Disk) (backup : VolumeBackupConfig) (volumeSize : UInt64) (context : BlockHashingContext),
      backup.IsIncrementBackup = true → env.config.TotalBlocks < 2^59 →
      InitHashingContext disk env.config (.backup backup volumeSize) = some context →
      context.lastestSize = checksumTableSize env.config ∧ context.previousSize = checksumTableSize env.config := by
  refine ⟨?_,fun disk backup volumeSize context => tables_sized⟩
  constructor
  · intro looks
    apply Nat.le_of_not_lt
    intro many
    obtain ⟨_,place,_⟩ := looks.places (2^27) many
    exact absurd ((diffOffset_exact_iff (Nat.le_refl _)).mp place) (Nat.lt_irrefl _)
  · intro few
    refine ⟨fun index => places_exact few,?_,?_⟩
    · intro source s k block computed others compared next here inside computes path compares
      have about := (computed_about diff here computes).run path
      exact compared_free about (by omega) compares
    · intro source context processed written counter target actions s path k j block other another here there
      have tracked := path.invariant (Tracked env) .new fun _ _ _ known ran _ => known.step (sessionStep_sound ran)
      exact tracked.alone another here there

def tableConfig (blockSize : UInt32) : VolumeTaskSharedConfig where
  sessionOffset := 0
  sessionSize := DEFAULT_SESSION_SIZE
  blockSize := blockSize
  hasherEnabled := true
  checkpointEnabled := false
  hasherWorkerNum := 1
  volumePath := "/dev/sda1"
  copyFilePath := "/data/copy.copydata.bin"
  copyFormat := .BIN
  lastestChecksumBinPath := "/meta/copy.0.sha256.meta.bin"
  prevChecksumBinPath := "/previous/copy.0.sha256.meta.bin"
  checkpointFilePath := "/checkpoint/copy.0.checkpoint.bin"
  skipEmptyBlock := false

def tableEnv (blockSize : UInt32) : SessionEnv where
  config := tableConfig blockSize
  m_forwardMode := .DIFF
  dataReader := ⟨0,0,true⟩
  dataWriter := ⟨-1,0,false⟩
  sha256 := fun _ _ => 1

theorem looks_at_own_default : LooksAtOwn (tableEnv DEFAULT_BLOCK_SIZE) :=
  (looks_at_own rfl).1.mpr (by decide)

-- In blocks of 4096 bytes the session has 2^28 of them, and a worker comes to the one of index 2^27.
def farBlock : VolumeConsumeBlock := ⟨0,134217728,549755813888,4096⟩

def farSession : Session :=
  (Session.new (tableConfig 4096) ⟨8589934592,8589934592,zeros,zeros⟩ (.new 0) (.new 0) {} .empty |>
    fun s => {s with hasherTask := {s.hasherTask with m_workers := [.hash farBlock]}})

-- Its checksum differs from the previous one, but the first entries of the tables are compared, and they are equal.
theorem looks_at_another : ¬LooksAtOwn (tableEnv 4096) ∧ ∃ computed next,
    workerStep (tableEnv 4096) 0 farSession = some computed ∧ workerStep (tableEnv 4096) 0 computed = some next ∧
    next.hasherTask.m_workers[0]? = some (.free farBlock) ∧ farBlock.index < (tableConfig 4096).TotalBlocks ∧
    (tableEnv 4096).sha256 (read farSession.pool farBlock.ptr farBlock.length) ≠
      entry farSession.hashingContext.previousTable farBlock.index := by
  have dropped : ((workerStep (tableEnv 4096) 0 farSession).bind fun computed => (workerStep (tableEnv 4096) 0 computed).map
      fun next => next.hasherTask.m_workers) = some [.free farBlock] := by decide +kernel
  have differ : (tableEnv 4096).sha256 (read farSession.pool farBlock.ptr farBlock.length) ≠
      entry farSession.hashingContext.previousTable farBlock.index := by
    intro same
    exact absurd (congrFun same 0) (by decide)
  obtain ⟨computed,computes,rest⟩ := Option.bind_eq_some_iff.mp dropped
  obtain ⟨next,compares,workers⟩ := Option.map_eq_some_iff.mp rest
  have free : next.hasherTask.m_workers[0]? = some (.free farBlock) := by
    rw [workers]
    rfl
  have inside : farBlock.index < (tableConfig 4096).TotalBlocks := by decide
  refine ⟨?_,computed,next,computes,compares,free,inside,differ⟩
  intro looks
  exact differ ((looks.decides .empty farSession 0 farBlock computed [] computed next rfl inside computes .nil compares).mp free)

end VolumeBackup
