import VolumeBackup.ChecksumTable
import VolumeBackup.Preparation
import VolumeBackup.SkipEmpty

namespace VolumeBackup
open ByteMemory LabelledRuns

section law
variable (env : TaskEnv) (source : VolumeTaskSharedConfig → Content) (disk : Disk) (queue : List VolumeTaskSharedConfig)

def TableMatches (config : VolumeTaskSharedConfig) (index : Nat) : Prop := ∃ copy table, disk config.copyFilePath = some copy ∧
  disk config.lastestChecksumBinPath = some table ∧
  writePosition (env.sessionEnv config) index+config.nBytesToRead index ≤ copy.size ∧ index*32+32 ≤ table.size ∧
  entry table.byte index =
    env.sha256 (read copy.byte (writePosition (env.sessionEnv config) index) (config.nBytesToRead index))

def Matching : Prop := ∀ config ∈ queue, ∀ context ∈ InitSessionContext disk config env.task, ∀ index ≤ config.m_maxIndex,
  ¬Rewrites (env.sessionEnv config) (source config) context index → ∀ before ∈ disk (env.targetPath config),
    (∀ address < writePosition (env.sessionEnv config) index+config.nBytesToRead index, address < before.size ∨
      ∃ patch, Patches env source disk queue (env.targetPath config) patch ∧ address < patch.position+patch.length) ∧
    env.sha256 (read before.byte (writePosition (env.sessionEnv config) index) (config.nBytesToRead index)) =
      blockDigest (env.sessionEnv config) (source config) index

end law

-- A backup that saves the final checksum table of each session, over a copy that matches where it writes nothing.
def Saving (env : TaskEnv) (source : VolumeTaskSharedConfig → Content) (queue : List VolumeTaskSharedConfig) (p : Process)
    (action : TaskAction) : Prop :=
  Observed env source p action ∧ OnSession (fun _ => Flushed) p action ∧ (p.pc = .prepared → Matching env source p.disk queue)

-- What the checksum files of the sessions ask, whatever these take over: each session has its own, and no session or
-- checkpoint of the task is written over it.
structure Keeping (env : TaskEnv) (disk : Disk) (queue : List VolumeTaskSharedConfig) : Prop where
  backup : env.task.isBackup = true
  hasher : ∀ config ∈ queue, config.hasherEnabled = true
  size : ∀ config ∈ queue, ∀ context ∈ InitSessionContext disk config env.task,
    context.hashingContext.lastestSize = config.TotalBlocks*32
  files : ∀ config ∈ queue, SeparateFiles env config
  kept : queue.Pairwise fun config other => config.lastestChecksumBinPath ∉ env.writes other
  checkpoints : ∀ config ∈ queue, ∀ other ∈ queue, config.lastestChecksumBinPath ≠ other.checkpointFilePath

section backup
variable {env : TaskEnv} {backup : VolumeBackupConfig} {volumeSize : UInt64} {queue : List VolumeTaskSharedConfig} {volume : Content}
  {config other : VolumeTaskSharedConfig} {disk : Disk}
  (task : env.task = .backup backup volumeSize) (sessions : env.task.sessions = some queue)
include task sessions

omit task sessions in
theorem fresh_unmarked (absent : disk config.checkpointFilePath = none) :
    ∀ context ∈ InitSessionContext disk config env.task, ∀ index, context.processedBitmap.Test index = false := by
  intro context found index
  obtain ⟨hashing,_,opened⟩ := init_opened found
  exact Bool.eq_false_iff.mpr fun set => marks_absent absent (opened.marked index set).2.1

theorem backup_keeping (hasher : backup.hasherEnabled = true) : Keeping env disk queue where
  backup := by rw [task]; rfl
  hasher := by
    intro config member
    obtain ⟨i,start,size,_,rfl⟩ := backup_member task sessions member
    exact hasher
  size := by
    intro config member context found
    rw [task] at found
    obtain ⟨hashing,made,opened⟩ := init_opened found
    exact opened.size.trans (hashing_size made)
  files := by
    intro config member
    obtain ⟨i,start,size,_,rfl⟩ := backup_member task sessions member
    exact separate_backup task
  kept := by
    rw [task] at sessions
    refine split_pairwise sessions fun start size i origin length j less => ?_
    rw [unwritten,backup_target task]
    exact ⟨copy_checksum.symm,fun same => Nat.ne_of_lt less (checksum_inj same).2,checksum_checkpoint⟩
  checkpoints := by
    intro config member other second
    obtain ⟨i,start,size,_,rfl⟩ := backup_member task sessions member
    obtain ⟨j,origin,length,_,rfl⟩ := backup_member task sessions second
    exact checksum_checkpoint

theorem backup_hashing (hasher : backup.hasherEnabled = true) (unmarked : ∀ config ∈ queue,
    ∀ context ∈ InitSessionContext disk config env.task, ∀ index, context.processedBitmap.Test index = false) :
    Hashing env disk queue :=
  {backup_keeping task sessions hasher with unmarked := unmarked}

theorem backup_apart (positive : 1 ≤ backup.blockSize.toNat) (short : ∀ config ∈ queue, ∀ index ≤ config.m_maxIndex,
      readPosition (env.sessionEnv config) index+config.nBytesToRead index < 2^63) (member : config ∈ queue) (second : other ∈ queue)
    (differ : config ≠ other) (shared : env.targetPath config = env.targetPath other) (inside : i ≤ config.m_maxIndex)
    (within : j ≤ other.m_maxIndex) : Apart (writePosition (env.sessionEnv config) i) (config.nBytesToRead i)
      (writePosition (env.sessionEnv other) j) (other.nBytesToRead j) := by
  have straight (config : VolumeTaskSharedConfig) (member : config ∈ queue) := by
    have some : 0 < config.sessionSize.toNat ∧ config.blockSize = backup.blockSize := by
      rw [task] at sessions
      obtain ⟨start,size,k,rfl,some⟩ := split_some sessions member
      exact ⟨some,rfl⟩
    refine session_within (some.2 ▸ positive) some.1 fun index inside => ?_
    have bound := short config member index inside
    rw [(backup_positions task config index).1] at bound
    exact bound
  cases format : backup.copyFormat with
  | BIN =>
      obtain ⟨k,start,size,found,same⟩ := backup_member task sessions member
      obtain ⟨l,origin,length,present,equal⟩ := backup_member task sessions second
      rw [backup_target task,backup_target task] at shared
      have path : GetCopyDataFilePath backup.outputCopyDataDirPath backup.copyName .BIN k =
          GetCopyDataFilePath backup.outputCopyDataDirPath backup.copyName .BIN l := by
        rw [same,equal] at shared
        rw [← format]
        exact shared
      cases part_inj path
      exact absurd (Option.some.inj (found.symm.trans present)) differ
  | IMAGE =>
      have image (config : VolumeTaskSharedConfig) (member : config ∈ queue) (index : Nat) (inside : index ≤ config.m_maxIndex) :
          writePosition (env.sessionEnv config) index = index*config.blockSize.toNat+config.sessionOffset.toNat := by
        obtain ⟨k,start,size,_,same⟩ := backup_member task sessions member
        have plain : config.copyFormat = .IMAGE := by rw [same]; exact format
        rw [(backup_positions task config index).2,← (straight config member).1 index inside]
        unfold TaskEnv.copyData
        rw [plain]
        rfl
      let apart (config other : VolumeTaskSharedConfig) : Prop :=
        config.sessionOffset.toNat+config.sessionSize.toNat ≤ other.sessionOffset.toNat ∨
          other.sessionOffset.toNat+other.sessionSize.toNat ≤ config.sessionOffset.toNat
      have either : apart config other := by
        have symmetric : Std.Symm apart := ⟨fun _ _ => Or.symm⟩
        have pairwise : queue.Pairwise apart := by
          rw [task] at sessions
          refine split_ordered sessions (fun start size k known => ?_) fun _ _ _ _ _ _ behind => .inl behind
          exact Nat.lt_trans (straight _ known).2 (by decide)
        exact pairwise.forall member second differ
      unfold apart at either
      rw [image config member i inside,image other second j within]
      have first := index_end inside
      have last := index_end within
      unfold Apart
      omega

section patches
variable (positive : 1 ≤ backup.blockSize.toNat) (short : ∀ config ∈ queue, ∀ index ≤ config.m_maxIndex,
  readPosition (env.sessionEnv config) index+config.nBytesToRead index < 2^63)
include positive short

theorem backup_uncovered {context : VolumeTaskSharedContext} (member : config ∈ queue)
    (opened : InitSessionContext disk config env.task = some context) (inside : index ≤ config.m_maxIndex)
    (left : ¬Rewrites (env.sessionEnv config) volume context index) (bound : k < config.nBytesToRead index) {patch : Patch}
    (known : Patches env (fun _ => volume) disk queue (env.targetPath config) patch) :
    ¬patch.Covers (writePosition (env.sessionEnv config) index+k) := by
  obtain ⟨other,second,shared,taken,found,j,rewrites,rfl⟩ := known
  have apart : Apart (writePosition (env.sessionEnv config) index) (config.nBytesToRead index)
      (writePosition (env.sessionEnv other) j) (other.nBytesToRead j) := by
    by_cases same : config = other
    · subst same
      cases opened.symm.trans found
      have differ : index ≠ j := fun equal => left (equal ▸ rewrites)
      exact blocks_apart differ inside rewrites.1
    · exact backup_apart task sessions positive short member second same shared.symm inside rewrites.1
  rintro ⟨lower,upper⟩
  have start : writePosition (env.sessionEnv other) j ≤ writePosition (env.sessionEnv config) index+k := lower
  have stop : writePosition (env.sessionEnv config) index+k < writePosition (env.sessionEnv other) j+other.nBytesToRead j := upper
  unfold Apart at apart
  omega

end patches

section run
variable (hasher : backup.hasherEnabled = true) (positive : 1 ≤ backup.blockSize.toNat) (addresses : 32*backup.blockSize.toNat < 2^32)
  (few : backup.IsIncrementBackup = true → ∀ config ∈ queue, config.m_maxIndex < 2^27)
include hasher positive addresses few

theorem backup_block {fresh : Disk} {r p : Process} {actions : List TaskAction}
    (reached : Reached (taskNext env) Anything (.new fresh) r) (here : r.pc = .prepared)
    (unmarked : ∀ config ∈ queue, ∀ context ∈ InitSessionContext r.disk config env.task, ∀ index,
      context.processedBitmap.Test index = false)
    (path : Runs (taskNext env) (fun p action => Observed env (fun _ => volume) p action ∧ OnSession (fun _ => Flushed) p action) r actions p)
    (status : p.task.m_status = .SUCCEED) (member : config ∈ queue) (inside : index < config.TotalBlocks) :
    HashOnDisk env config volume p.disk index ∧ ∃ context before after, InitSessionContext r.disk config env.task = some context ∧
      r.disk (env.targetPath config) = some before ∧ p.disk (env.targetPath config) = some after ∧
      AllPatched (Patches env (fun _ => volume) r.disk queue (env.targetPath config)) before after ∧
      (Rewrites (env.sessionEnv config) volume context index → HoldsBlock (env.sessionEnv config) volume after index) ∧
      (¬Rewrites (env.sessionEnv config) volume context index → Same (config.nBytesToRead index) after.byte
        (writePosition (env.sessionEnv config) index) before.byte (writePosition (env.sessionEnv config) index)) := by
  have arrangement : Arrangement env (fun _ => volume) queue := backup_arrangement task sessions positive addresses few
  have hashing := backup_hashing task sessions hasher unmarked
  have tables : Tables env (fun _ => volume) r.disk queue p := path.invariant (Tables env (fun _ => volume) r.disk queue)
    (.start reached here) fun _ _ _ known ran saving => known.step arrangement hashing (taskNext_sound ran) saving.1 saving.2
  have order := tables.rewriting.queued.finished status
  rw [sessions] at order
  have tabled (other : VolumeTaskSharedConfig) (second : other ∈ queue) : Tabled env (fun _ => volume) r.disk p other := by
    rw [Option.some.inj order] at second
    obtain ⟨running,done,same⟩ := List.mem_map.mp second
    exact same ▸ tables.completed running (List.mem_reverse.mp done)
  obtain ⟨before,after,origin,there,all⟩ := copy_outcome arrangement reached here (path.weaken fun _ _ saving => saving.1) status member
  obtain ⟨context,opened⟩ := (tabled config member).opened
  have bound : index ≤ config.m_maxIndex := Nat.le_sub_one_of_lt inside
  refine ⟨(tabled config member).table index inside,context,before,after,opened,origin,there,all,fun rewrites => ?_,fun left k below => ?_⟩
  · exact holds_patch.mpr (all.held _ ⟨config,member,rfl,context,opened,index,rewrites,rfl⟩)
  · exact all.uncovered fun patch found => backup_uncovered task sessions positive
      (fun other second => (tabled other second).positioned) member opened bound left below found

theorem backup_tables {fresh : Disk} {r p : Process} {actions : List TaskAction}
    (reached : Reached (taskNext env) Anything (.new fresh) r) (here : r.pc = .prepared)
    (absent : ∀ config ∈ queue, r.disk config.checkpointFilePath = none) (matching : Matching env (fun _ => volume) r.disk queue)
    (path : Runs (taskNext env) (Saving env (fun _ => volume) queue) r actions p) (status : p.task.m_status = .SUCCEED)
    (member : config ∈ queue) (inside : index < config.TotalBlocks) : TableMatches env p.disk config index := by
  obtain ⟨⟨table,saved,room,digest⟩,context,before,after,opened,origin,there,all,written,kept⟩ :=
    backup_block task sessions hasher positive addresses few reached here (fun config member => fresh_unmarked (absent config member))
      (path.weaken fun _ _ saving => ⟨saving.1,saving.2.1⟩) status member inside
  have copy : p.disk config.copyFilePath = some after := by rw [← backup_target task]; exact there
  by_cases rewrites : Rewrites (env.sessionEnv config) volume context index
  · obtain ⟨size,bytes⟩ := written rewrites
    refine ⟨after,table,copy,saved,size,room,digest.trans ?_⟩
    exact congrArg env.sha256 (read_same.mpr bytes.symm)
  · obtain ⟨reaches,same⟩ := matching config member context opened index (Nat.le_sub_one_of_lt inside) rewrites before origin
    refine ⟨after,table,copy,saved,?_,room,?_⟩
    · refine Nat.le_of_not_lt fun less => Nat.lt_irrefl _ (all.size.mpr (reaches after.size less))
    · rw [digest,← same,read_same.mpr (kept rewrites).symm]

end run

end backup

theorem written_matching {env : TaskEnv} {source : VolumeTaskSharedConfig → Content} {disk : Disk} {queue : List VolumeTaskSharedConfig}
    (all : ∀ config ∈ queue, ∀ context ∈ InitSessionContext disk config env.task, ∀ index ≤ config.m_maxIndex,
      Rewrites (env.sessionEnv config) (source config) context index) : Matching env source disk queue :=
  fun config member context opened index inside left => absurd (all config member context opened index inside) left

instance leftOutDecidable {env : SessionEnv} {source : Content} : Decidable (LeftOut env source index) :=
  inferInstanceAs (Decidable (_ ∧ ∀ k < env.config.nBytesToRead index, _))

instance rewritesDecidable {env : SessionEnv} {source : Content} {context : VolumeTaskSharedContext} :
    Decidable (Rewrites env source context index) := inferInstanceAs (Decidable (_ ∧ _ ∧ _))

def SavesAll (p : Process) (action : TaskAction) : Bool :=
  decide (Observed savedEnv (fun _ => letter) p action) && decide (OnSession (fun _ => Flushed) p action) &&
    decide (p.pc = .prepared → ∀ config ∈ [savedConfig], ∀ context ∈ InitSessionContext p.disk config savedEnv.task,
      ∀ index ≤ config.m_maxIndex, Rewrites (savedEnv.sessionEnv config) letter context index)

theorem SavesAll.saving (passed : SavesAll p action = true) : Saving savedEnv (fun _ => letter) [savedConfig] p action := by
  simp only [SavesAll,Bool.and_eq_true,decide_eq_true_eq] at passed
  exact ⟨passed.1.1,passed.1.2,fun here => written_matching (passed.2 here)⟩

def tabledActions (reply : Reply) : List TaskAction :=
  threads 14++readers 10++hashers 11++writers 10++threads 9++[.thread reply]++threads 10

def DataMoves : TaskAction → Bool
  | .component (.reader outcome) | .component (.writer outcome) => outcome.isOk
  | _ => true

-- A directory in which the checksum file of an earlier copy was left, of a block that is not 'a'.
def staleDisk : Disk := plainDisk.put savedConfig.lastestChecksumBinPath (.of 32 zeros)

end VolumeBackup
