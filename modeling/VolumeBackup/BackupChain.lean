import VolumeBackup.IdleIncrement
import VolumeBackup.IncrementResume

namespace VolumeBackup
open ByteMemory LabelledRuns

-- A step that nothing is lost by: Writes return true, no status is sampled at the wrong moment, the sessions find what they are to
-- read, and their last checksum tables are saved.
def Lossless (env : TaskEnv) (source : VolumeTaskSharedConfig → Content) (p : Process) (action : TaskAction) : Prop :=
  Observed env source p action ∧ OnSession (fun _ => Flushed) p action

section link
variable {env : TaskEnv} {backup : VolumeBackupConfig} {volumeSize : UInt64} {queue : List VolumeTaskSharedConfig} {volume : Content}
  {config : VolumeTaskSharedConfig} {disk : Disk} {p : Process} {actions : List TaskAction}

theorem untabled_unmarked (hasher : config.hasherEnabled = true) (absent : disk config.lastestChecksumBinPath = none) :
    ∀ context ∈ InitSessionContext disk config env.task, ∀ index, context.processedBitmap.Test index = false := by
  intro context found index
  obtain ⟨hashing,_,opened⟩ := init_opened found
  apply Bool.eq_false_iff.mpr
  intro set
  obtain ⟨content,present,_⟩ := (opened.marked index set).2.2 hasher
  cases absent.symm.trans present

variable (task : env.task = .backup backup volumeSize) (sessions : env.task.sessions = some queue)
include task sessions

-- A backup that ends with SUCCEED, without checksum files to begin with, leaves every block in the copy and its checksum in the
-- table: it has written the block, or has found there what the previous table says.
theorem backup_held (accepted : Accepted backup queue) (hasher : backup.hasherEnabled = true)
    (untabled : ∀ session ∈ queue, disk session.lastestChecksumBinPath = none)
    (nonzero : ∀ session ∈ queue, NonZero env session volume)
    (known : ∀ after : Disk, (∀ file, ¬env.MakesData file → ¬env.MakesRecord file → after file = disk file) →
      ∀ session ∈ queue, KnownTable env after session volume)
    (path : Runs (taskNext env) (Lossless env fun _ => volume) (.new disk) actions p) (status : p.task.m_status = .SUCCEED)
    (member : config ∈ queue) (inside : index < config.TotalBlocks) :
    Held env p.disk config volume index ∧ HashOnDisk env config volume p.disk index := by
  obtain ⟨r,earlier,later,before,here,frame,rest⟩ := prepared_between path status
  have keeping : Keeping env r.disk queue := backup_keeping task sessions hasher
  have unmarked (session : VolumeTaskSharedConfig) (second : session ∈ queue) :
      ∀ context ∈ InitSessionContext r.disk session env.task, ∀ index, context.processedBitmap.Test index = false := by
    apply untabled_unmarked (keeping.hasher session second)
    obtain ⟨k,start,size,_,same⟩ := backup_member task sessions second
    have absent := untabled session second
    rw [same] at absent ⊢
    exact (prepare_leaves task frame backup.outputCopyMetaDirPath k).2.trans absent
  obtain ⟨saved,context,found,after,opened,origin,there,all,written,kept⟩ := backup_block task sessions hasher accepted.positive
    accepted.addresses accepted.few ⟨_,before.free⟩ here unmarked rest status member inside
  have bound : index ≤ config.m_maxIndex := Nat.le_sub_one_of_lt inside
  refine ⟨⟨after,there,?_⟩,saved⟩
  by_cases rewrites : Rewrites (env.sessionEnv config) volume context index
  · exact written rewrites
  · have plan : Plan env (fun _ => volume) queue := backup_plan task sessions accepted
    have plain := (plan.copyable config member).plain
    have skipped : Skipped (env.sessionEnv config) volume context index := by
      apply Decidable.byContradiction
      intro unskipped
      exact rewrites ⟨bound,unskipped,fun left => by cases plain.symm.trans left.1⟩
    have unchanged := skipped.resolve_left fun marked => by
      cases (unmarked config member context opened index).symm.trans marked.2
    obtain ⟨hashing,made,restored⟩ := init_opened opened
    rw [restored.previous] at unchanged
    obtain ⟨content,present,size,bytes⟩ := (known r.disk frame config member).unchanged (nonzero config member) made bound unchanged
    cases present.symm.trans origin
    refine ⟨Nat.le_of_not_lt fun less => ?_,(kept rewrites).trans bytes⟩
    exact Nat.lt_irrefl _ (all.size.mpr (.inl (Nat.lt_of_lt_of_le less size)))

end link

structure Alike (config other : VolumeTaskSharedConfig) : Prop where
  offset : config.sessionOffset = other.sessionOffset
  size : config.sessionSize = other.sessionSize
  block : config.blockSize = other.blockSize
  format : config.copyFormat = other.copyFormat
  file : config.copyFilePath = other.copyFilePath

section alike
variable {config other : VolumeTaskSharedConfig} (alike : Alike config other)
include alike

theorem Alike.blocks : config.TotalBlocks = other.TotalBlocks := by
  unfold VolumeTaskSharedConfig.TotalBlocks
  rw [alike.size,alike.block]

theorem Alike.length (index : Nat) : config.nBytesToRead index = other.nBytesToRead index := by
  unfold VolumeTaskSharedConfig.nBytesToRead
  rw [alike.size,alike.block]

theorem Alike.place (index : Nat) : config.consumeBlockOffset index = other.consumeBlockOffset index := by
  unfold VolumeTaskSharedConfig.consumeBlockOffset
  rw [alike.offset,alike.block]

theorem Alike.positions (env next : TaskEnv) (index : Nat) :
    (env.copyData config).position (config.consumeBlockOffset index) = (next.copyData other).position (other.consumeBlockOffset index) ∧
    (env.volumeData config).position (config.consumeBlockOffset index) =
      (next.volumeData other).position (other.consumeBlockOffset index) := by
  rw [alike.place index]
  refine ⟨?_,rfl⟩
  unfold TaskEnv.copyData
  rw [alike.format,alike.offset]
  cases other.copyFormat <;> rfl

variable {env next : TaskEnv} {backup following : VolumeBackupConfig} {volumeSize : UInt64} {disk after : Disk} {volume : Content}
  (task : env.task = .backup backup volumeSize) (later : next.task = .backup following volumeSize)
include task later

theorem Alike.held (same : disk other.copyFilePath = after other.copyFilePath) (held : Held next disk other volume index) :
    Held env after config volume index := by
  obtain ⟨content,present,size,bytes⟩ := held
  obtain ⟨copy,source⟩ := alike.positions env next index
  have target : env.targetPath config = other.copyFilePath := (backup_target task config).trans alike.file
  refine ⟨content,?_,?_⟩
  · rw [target,← same,← backup_target later]
    exact present
  · have writes := (backup_positions later other index).2
    have reads := (backup_positions later other index).1
    unfold HoldsBlock
    rw [(backup_positions task config index).2,(backup_positions task config index).1,copy,source,← writes,← reads]
    have length : (env.sessionEnv config).config.nBytesToRead index = (next.sessionEnv other).config.nBytesToRead index := alike.length index
    rw [length]
    exact ⟨size,bytes⟩

theorem Alike.bytes (volume : Content) (index : Nat) :
    blockBytes (env.sessionEnv config) volume index = blockBytes (next.sessionEnv other) volume index := by
  have length : (env.sessionEnv config).config.nBytesToRead index = (next.sessionEnv other).config.nBytesToRead index := alike.length index
  unfold blockBytes
  rw [length,(backup_positions task config index).1,(backup_positions later other index).1,(alike.positions env next index).2]

end alike

structure Follows (earlier config : VolumeBackupConfig) : Prop where
  type : config.backupType = .FOREVER_INC
  name : config.copyName = earlier.copyName
  format : config.copyFormat = earlier.copyFormat
  session : config.sessionSize = earlier.sessionSize
  data : config.outputCopyDataDirPath = earlier.outputCopyDataDirPath
  previous : config.prevCopyMetaDirPath = earlier.outputCopyMetaDirPath

section law
variable (allowed : TaskEnv → (VolumeTaskSharedConfig → Content) → Process → TaskAction → Prop) (env : TaskEnv) (volumeSize : UInt64)
  (blocks : Set (List UInt8))

-- A backup by a run of allowed steps that ends with SUCCEED, where the directory of its metadata has no checksum files before; its
-- blocks are among those that occur.
structure BackedUp (config : VolumeBackupConfig) (queue : List VolumeTaskSharedConfig) (volume : Content) (disk after : Disk) : Prop where
  hasher : config.hasherEnabled = true
  plain : config.skipEmptyBlock = false
  size : config.blockSize = DEFAULT_BLOCK_SIZE
  sessions : (ProtectTask.backup config volumeSize).sessions = some queue
  few : ∀ session ∈ queue, session.TotalBlocks ≤ 2^27
  occur : SessionBlocks (env.on (.backup config volumeSize)) queue volume ⊆ blocks
  fresh : ∀ k, disk (GetChecksumBinPath config.outputCopyMetaDirPath config.copyName k) = none
  run : ∃ actions p, Runs (taskNext (env.on (.backup config volumeSize)))
    (allowed (env.on (.backup config volumeSize)) fun _ => volume) (.new disk) actions p ∧ p.task.m_status = .SUCCEED ∧ p.disk = after

-- A full backup with its increments, with the volume that the last one was made of and the disk that it has left. From one
-- backup to the next the files of the copy and the checksum files stay, whatever becomes of the rest.
inductive BackupChain : VolumeBackupConfig → Content → Disk → Prop
  | full (type : config.backupType = .FULL) (made : BackedUp allowed env volumeSize blocks config queue volume disk after) :
      BackupChain config volume after
  | increment (chain : BackupChain earlier before left) (follows : Follows earlier config)
      (copied : ∀ k, disk (GetCopyDataFilePath config.outputCopyDataDirPath config.copyName config.copyFormat k) =
        left (GetCopyDataFilePath config.outputCopyDataDirPath config.copyName config.copyFormat k))
      (tables : ∀ k, disk (GetChecksumBinPath config.prevCopyMetaDirPath config.copyName k) =
        left (GetChecksumBinPath config.prevCopyMetaDirPath config.copyName k))
      (made : BackedUp allowed env volumeSize blocks config queue volume disk after) : BackupChain config volume after

end law

def Established (env : TaskEnv) (queue : List VolumeTaskSharedConfig) (volume : Content) (disk : Disk) : Prop :=
  ∀ session ∈ queue, ∀ index < session.TotalBlocks, Held env disk session volume index ∧ HashOnDisk env session volume disk index

section chain
variable {env : TaskEnv} {volumeSize : UInt64} {blocks : Set (List UInt8)} {earlier config : VolumeBackupConfig}
  {queue following : List VolumeTaskSharedConfig} {before volume : Content} {left disk after : Disk}

section made
variable (made : BackedUp Lossless env volumeSize blocks config queue volume disk after)
include made

theorem BackedUp.counted (member : session ∈ queue) (inside : index ≤ session.m_maxIndex) : index < session.TotalBlocks := by
  obtain ⟨start,size,k,same,some⟩ := split_some made.sessions member
  have blocks : 0 < session.TotalBlocks := totalBlocks_positive (by rw [same]; exact some)
  unfold VolumeTaskSharedConfig.m_maxIndex at inside
  omega

theorem BackedUp.accepted : Accepted config queue where
  plain := made.plain
  positive := by rw [made.size]; decide
  addresses := by rw [made.size]; decide
  few := by
    intro _ session member
    have few := made.few session member
    have counted := made.counted member (Nat.le_refl _)
    unfold VolumeTaskSharedConfig.m_maxIndex at counted ⊢
    omega

theorem BackedUp.established (distinguishes : Distinguishes env.sha256 blocks)
    (known : ∀ taken : Disk, (∀ file, ¬(env.on (.backup config volumeSize)).MakesData file →
      ¬(env.on (.backup config volumeSize)).MakesRecord file → taken file = disk file) →
      ∀ session ∈ queue, KnownTable (env.on (.backup config volumeSize)) taken session volume) :
    Established (env.on (.backup config volumeSize)) queue volume after := by
  obtain ⟨actions,p,path,status,rfl⟩ := made.run
  intro session member index inside
  have own : (env.on (.backup config volumeSize)).task = .backup config volumeSize := rfl
  refine backup_held own made.sessions made.accepted made.hasher ?_ ?_ known path status member inside
  · intro other second
    obtain ⟨k,start,size,_,rfl⟩ := backup_member own made.sessions second
    exact made.fresh k
  · intro other second _ i below
    exact distinguishes.nonzero _ (made.occur ⟨other,second,i,below,rfl⟩)

theorem BackedUp.full (distinguishes : Distinguishes env.sha256 blocks) (type : config.backupType = .FULL) :
    Established (env.on (.backup config volumeSize)) queue volume after := by
  apply made.established distinguishes
  intro taken frame session member compares
  have plain : config.IsIncrementBackup = true := compares
  simp [VolumeBackupConfig.IsIncrementBackup,type] at plain

section increment
variable (follows : Follows earlier config) (size : earlier.blockSize = DEFAULT_BLOCK_SIZE)
  (sessions : (ProtectTask.backup earlier volumeSize).sessions = some following)
include follows size sessions

theorem BackedUp.alike (member : session ∈ queue) : ∃ other ∈ following, ∃ k, Alike session other ∧
    session.copyFilePath = GetCopyDataFilePath config.outputCopyDataDirPath config.copyName config.copyFormat k ∧
    session.prevChecksumBinPath = GetChecksumBinPath config.prevCopyMetaDirPath config.copyName k ∧
    session.prevChecksumBinPath = other.lastestChecksumBinPath := by
  have first : splitVolume earlier.NewVolumeTaskSession volumeSize config.sessionSize (volumeSize.toNat+1) 0 0 = some following := by
    rw [follows.session]
    exact sessions
  obtain ⟨start,length,k,rfl,inside⟩ := split_both first made.sessions member
  have increment : config.IsIncrementBackup = true := by simp [VolumeBackupConfig.IsIncrementBackup,follows.type]
  have previous := @previous_path config start length k increment
  refine ⟨_,inside,k,⟨rfl,rfl,made.size.trans size.symm,follows.format,?_⟩,rfl,previous,?_⟩
  · simp only [VolumeBackupConfig.NewVolumeTaskSession,follows.data,follows.name,follows.format]
  · rw [previous,follows.previous,follows.name]
    rfl

theorem BackedUp.known (distinguishes : Distinguishes env.sha256 blocks)
    (occur : SessionBlocks (env.on (.backup earlier volumeSize)) following before ⊆ blocks)
    (established : Established (env.on (.backup earlier volumeSize)) following before left)
    (copied : ∀ k, disk (GetCopyDataFilePath config.outputCopyDataDirPath config.copyName config.copyFormat k) =
      left (GetCopyDataFilePath config.outputCopyDataDirPath config.copyName config.copyFormat k))
    (tables : ∀ k, disk (GetChecksumBinPath config.prevCopyMetaDirPath config.copyName k) =
      left (GetChecksumBinPath config.prevCopyMetaDirPath config.copyName k))
    {taken : Disk} (frame : ∀ file, ¬(env.on (.backup config volumeSize)).MakesData file →
      ¬(env.on (.backup config volumeSize)).MakesRecord file → taken file = disk file) (member : session ∈ queue) :
    KnownTable (env.on (.backup config volumeSize)) taken session volume := by
  intro _ table present index inside equal
  have own : (env.on (.backup config volumeSize)).task = .backup config volumeSize := rfl
  have old : (env.on (.backup earlier volumeSize)).task = .backup earlier volumeSize := rfl
  obtain ⟨other,second,k,alike,file,path,shared⟩ := made.alike follows size sessions member
  have counted : index < other.TotalBlocks := alike.blocks ▸ made.counted member inside
  obtain ⟨held,content,saved,_,entries⟩ := established other second index counted
  have found : taken session.prevChecksumBinPath = left other.lastestChecksumBinPath := by
    rw [← shared,path,(prepare_leaves own frame config.prevCopyMetaDirPath k).2]
    exact tables k
  cases (found.symm.trans present).symm.trans saved
  have bytes := alike.bytes own old
  have same : blockBytes ((env.on (.backup config volumeSize)).sessionEnv session) before index =
      blockBytes ((env.on (.backup config volumeSize)).sessionEnv session) volume index := by
    apply distinguishes.injective
    · rw [bytes before index]
      exact occur ⟨other,second,index,Nat.le_sub_one_of_lt counted,rfl⟩
    · exact made.occur ⟨session,member,index,inside,rfl⟩
    · rw [bytes before index]
      exact entries.symm.trans equal
  refine Held.same (alike.held own old ?_ held) same
  rw [← alike.file,file,← copied k]
  symm
  apply frame
  · rintro ⟨backup,length,task,full,_⟩
    cases own.symm.trans task
    cases full.symm.trans follows.type
  · rintro ⟨backup,length,task,record⟩
    cases own.symm.trans task
    exact copy_meta record

end increment

end made

theorem BackupChain.established (chain : BackupChain Lossless env volumeSize blocks config volume disk)
    (distinguishes : Distinguishes env.sha256 blocks) :
    ∃ found queue, BackedUp Lossless env volumeSize blocks config queue volume found disk ∧
      Established (env.on (.backup config volumeSize)) queue volume disk := by
  induction chain with
  | full type made => exact ⟨_,_,made,made.full distinguishes type⟩
  | increment chain follows copied tables made ih =>
      obtain ⟨found,following,previous,established⟩ := ih
      refine ⟨_,_,made,made.established distinguishes fun taken frame session member => ?_⟩
      exact made.known follows previous.size previous.sessions distinguishes previous.occur established copied tables frame member

theorem smooth_lossless {env : TaskEnv} {source : VolumeTaskSharedConfig → Content} {p : Process} {actions : List TaskAction}
    (path : Runs (taskNext env) (Smooth env source) (.new disk) actions p) :
    Runs (taskNext env) (Lossless env source) (.new disk) actions p := (smooth_observed path).weaken fun _ _ known => known.2

theorem BackedUp.lossless (made : BackedUp Smooth env volumeSize blocks config queue volume disk after) :
    BackedUp Lossless env volumeSize blocks config queue volume disk after := by
  obtain ⟨actions,p,path,ended⟩ := made.run
  exact {made with run := ⟨actions,p,smooth_lossless path,ended⟩}

theorem BackupChain.lossless (chain : BackupChain Smooth env volumeSize blocks config volume disk) :
    BackupChain Lossless env volumeSize blocks config volume disk := by
  induction chain with
  | full type made => exact .full type made.lossless
  | increment _ follows copied tables made ih => exact .increment ih follows copied tables made.lossless

end chain

section law
variable (env : TaskEnv) (config : VolumeBackupConfig) (volumeSize : UInt64) (volume : Content) (left : Disk)

def CopiesVolume : Prop := ∃ queue, (ProtectTask.backup config volumeSize).sessions = some queue ∧ ∀ address < volumeSize.toNat,
  (∃ session ∈ queue, Covers session address) ∧
  ∀ session ∈ queue, Covers session address → CopyHolds env left session volume.byte address

-- A restore that is built from the copy on a disk and from the copy's metadata, with what its sessions are to read. The volume
-- is none of the files that the sessions keep.
structure RestoresCopy (restore : VolumeRestoreConfig) (volumeCopyMeta : VolumeCopyMeta) (queue : List VolumeTaskSharedConfig)
    (copy : VolumeTaskSharedConfig → Content) : Prop where
  record : config.volumeCopyMeta volumeSize = some volumeCopyMeta
  dir : restore.copyDataDirPath = config.outputCopyDataDirPath
  sessions : (ProtectTask.restore restore volumeCopyMeta).sessions = some queue
  files : ∀ session ∈ queue, left session.copyFilePath = some (copy session)
  apart : ∀ session ∈ queue, restore.volumePath ≠ session.checkpointFilePath ∧ restore.volumePath ≠ session.lastestChecksumBinPath

def MarksRestored (queue : List VolumeTaskSharedConfig) (copy : VolumeTaskSharedConfig → Content) (disk : Disk) : Prop :=
  ∀ session ∈ queue, session.checkpointEnabled = true → ∀ index ≤ session.m_maxIndex, Checkpointed disk session index →
    Held env disk session (copy session) index

end law

section restore
variable {env : TaskEnv} {volumeSize : UInt64} {blocks : Set (List UInt8)} {config : VolumeBackupConfig} {queue : List VolumeTaskSharedConfig}
  {volume : Content} {found left : Disk} (made : BackedUp Lossless env volumeSize blocks config queue volume found left)
  (established : Established (env.on (.backup config volumeSize)) queue volume left)
include made established

theorem Established.copies : CopiesVolume env config volumeSize volume left := by
  have own : (env.on (.backup config volumeSize)).task = .backup config volumeSize := rfl
  refine ⟨queue,made.sessions,fun address inside => ⟨backup_covers own made.sessions inside,fun session member covers => ?_⟩⟩
  have plan : Plan (env.on (.backup config volumeSize)) (fun _ => volume) queue := backup_plan own made.sessions made.accepted
  exact Held.copy own (plan.copyable session member).pooled.positive
    (fun index below => (established session member index (made.counted member below)).1) covers (Nat.lt_trans inside volumeSize.toNat_lt)

variable {restore : VolumeRestoreConfig} {volumeCopyMeta : VolumeCopyMeta} {following : List VolumeTaskSharedConfig}
  {copy : VolumeTaskSharedConfig → Content}
  (restores : RestoresCopy config volumeSize left restore volumeCopyMeta following copy)
include restores

theorem RestoresCopy.complete (member : session ∈ following) : CompleteCopy env (copy session) volume session := by
  obtain ⟨segments,size,name,format⟩ := recorded_parts restores.record
  cases Option.some.inj restores.sessions
  obtain ⟨segment,inside,rfl⟩ := List.mem_map.mp member
  obtain ⟨start,length,k,rfl,second⟩ := split_both made.sessions segments inside
  have alike : Alike (restore.session volumeCopyMeta (config.NewCopySegment start length k)) (config.NewVolumeTaskSession start length k) := by
    refine ⟨rfl,rfl,size.trans made.size.symm,format,?_⟩
    simp only [VolumeRestoreConfig.session,VolumeBackupConfig.NewVolumeTaskSession,VolumeBackupConfig.NewCopySegment,restores.dir,name,format]
  intro index below
  have own : (env.on (.backup config volumeSize)).task = .backup config volumeSize := rfl
  have bound : index ≤ (config.NewVolumeTaskSession start length k).m_maxIndex := by
    unfold VolumeTaskSharedConfig.m_maxIndex at below ⊢
    rw [← alike.blocks]
    exact below
  obtain ⟨content,present,holds⟩ := (established _ second index (made.counted second bound)).1
  have there := restores.files _ member
  rw [backup_target own] at present
  rw [alike.file,present] at there
  cases there
  have positions := backup_positions own (config.NewVolumeTaskSession start length k) index
  obtain ⟨writes,reads⟩ := alike.positions env (env.on (.backup config volumeSize)) index
  unfold HoldsBlock at holds
  rw [positions.1,positions.2] at holds
  rw [writes,reads,alike.length]
  exact holds

end restore

-- The copy of a chain of backups by which nothing is lost is the volume that the last one was made of, and a restore of it that
-- ends with SUCCEED has made the target that volume, if what a checkpoint marks that the restore finds is in the target.
theorem chain_restores {env : TaskEnv} {volumeSize : UInt64} {blocks : Set (List UInt8)} {config : VolumeBackupConfig} {volume : Content}
    {left : Disk} (distinguishes : Distinguishes env.sha256 blocks) (chain : BackupChain Lossless env volumeSize blocks config volume left) :
    CopiesVolume env config volumeSize volume left ∧ ∀ restore volumeCopyMeta queue copy, RestoresCopy config volumeSize left restore
      volumeCopyMeta queue copy → ∀ disk, MarksRestored (env.on (.restore restore volumeCopyMeta)) queue copy disk →
      ∀ actions p, Runs (taskNext (env.on (.restore restore volumeCopyMeta))) (Observed (env.on (.restore restore volumeCopyMeta)) copy)
        (.new disk) actions p → p.task.m_status = .SUCCEED →
      ∀ address < volumeSize.toNat, VolumeHolds p.disk restore.volumePath volume.byte address := by
  obtain ⟨found,queue,made,established⟩ := chain.established distinguishes
  refine ⟨established.copies made,?_⟩
  intro restore volumeCopyMeta following copy restores disk marked actions p path status address inside
  have own : (env.on (.restore restore volumeCopyMeta)).task = .restore restore volumeCopyMeta := rfl
  obtain ⟨segments,size,_,_⟩ := recorded_parts restores.record
  have complete (session : VolumeTaskSharedConfig) (member : session ∈ following) :
      CompleteCopy (env.on (.restore restore volumeCopyMeta)) (copy session) volume session :=
    restores.complete made established member
  have recoverable : Recoverable (env.on (.restore restore volumeCopyMeta)) copy following :=
    restore_recoverable own restores.sessions segments (by rw [size]; decide) (by rw [size]; decide) restores.apart complete
  obtain ⟨session,member,covers⟩ := restore_covers own restores.sessions segments inside
  refine Held.restored own (recoverable.copyable session member).pooled.positive (restore_target own restores.sessions member)
    (complete session member) (fun index below => ?_) covers (Nat.lt_trans inside volumeSize.toNat_lt)
  exact recovered_exact recoverable (fun session member => ⟨marked session member,fun compares => by cases compares⟩) path status member
    below

def Uniform (size : Nat) : Set (List UInt8) := {block | ∃ byte, byte ≠ 0 ∧ block = read (fun _ => byte) 0 size}

theorem uniform_digest (some : 0 < size) : firstByte (read (fun _ => byte) 0 size) = fun _ => byte := by
  cases size with
  | zero => cases some
  | succ rest => rfl

theorem uniform_distinguishes (some : 0 < size) : Distinguishes firstByte (Uniform size) where
  injective := by
    rintro first ⟨byte,_,rfl⟩ second ⟨other,_,rfl⟩ equal
    rw [uniform_digest some,uniform_digest some] at equal
    have same : byte = other := congrFun equal 0
    rw [same]
  nonzero := by
    rintro block ⟨byte,nonzero,rfl⟩ equal
    rw [uniform_digest some] at equal
    exact nonzero (congrFun equal 0)

theorem uniform_occurs {env : TaskEnv} {config : VolumeBackupConfig} {size : UInt64} (nonzero : byte ≠ 0)
    (last : (config.NewVolumeTaskSession 0 size 0).m_maxIndex = 0) (length : (config.NewVolumeTaskSession 0 size 0).nBytesToRead 0 = n) :
    SessionBlocks (env.on (.backup config size)) [config.NewVolumeTaskSession 0 size 0] (.of n fun _ => byte) ⊆ Uniform n := by
  rintro block ⟨session,member,index,inside,rfl⟩
  cases List.mem_singleton.mp member
  have first : index = 0 := by omega
  subst first
  have own : (env.on (.backup config size)).task = .backup config size := rfl
  have start : readPosition ((env.on (.backup config size)).sessionEnv (config.NewVolumeTaskSession 0 size 0)) 0 = 0 := by
    rw [(backup_positions own _ 0).1,VolumeTaskSharedConfig.consumeBlockOffset,Nat.zero_mul]
    rfl
  have bytes : ((env.on (.backup config size)).sessionEnv (config.NewVolumeTaskSession 0 size 0)).config.nBytesToRead 0 = n := length
  refine ⟨byte,nonzero,?_⟩
  unfold blockBytes
  rw [start,bytes]
  exact read_same.mpr Content.of_same

def chainEnv (volumeSize : UInt64) : TaskEnv := {wholeEnv volumeSize with sha256 := firstByte}

def leaves (env : TaskEnv) (actions : List TaskAction) (disk : Disk) : Option Disk :=
  (execute (taskNext env) (fun p action => decide (Grants p action)) (.new disk) actions).bind fun p =>
    if p.task.m_status = .SUCCEED then some p.disk else none

theorem leaves_run (left : leaves env actions disk = some after) :
    ∃ p, Runs (taskNext env) Grants (.new disk) actions p ∧ p.task.m_status = .SUCCEED ∧ p.disk = after := by
  obtain ⟨p,ran,ended⟩ := Option.bind_eq_some_iff.mp left
  split at ended
  · exact ⟨p,execute_runs (fun _ _ => of_decide_eq_true) ran,‹_›,Option.some.inj ended⟩
  · cases ended

def nextBackup : VolumeBackupConfig := wholeBackup.again "/next"

def changed : Content := .of 4194304 fun _ => 98

def otherRestore (enableCheckpoint : Bool) : VolumeRestoreConfig where
  volumePath := "/dev/sdb1"
  copyDataDirPath := "/copy"
  enableCheckpoint := enableCheckpoint
  checkpointDirPath := "/checkpoint"

def otherSession (backup : VolumeBackupConfig) (volumeSize : UInt64) (enableCheckpoint : Bool) : VolumeTaskSharedConfig :=
  (otherRestore enableCheckpoint).session (segmentMeta backup volumeSize) (backup.NewCopySegment 0 volumeSize 0)

def backupEnv (backup : VolumeBackupConfig) (volumeSize : UInt64) : TaskEnv := (chainEnv volumeSize).on (.backup backup volumeSize)

def otherEnv (backup : VolumeBackupConfig) (volumeSize : UInt64) (enableCheckpoint : Bool) : TaskEnv :=
  (chainEnv volumeSize).on (.restore (otherRestore enableCheckpoint) (segmentMeta backup volumeSize))

def nextActions : List TaskAction := threads 12++readers 10++hashers 12++writers 10++threads 17

def otherActions : List TaskAction := threads 8++readers 10++writers 10++threads 16

def chainRun : Option (Disk × Disk × Disk) :=
  (leaves (backupEnv wholeBackup 4194304) (wholeActions 1) (wholeDisk 4194304)).bind fun first =>
  (leaves (backupEnv nextBackup 4194304) nextActions (first.put "/dev/sda1" changed)).bind fun second =>
  (leaves (otherEnv nextBackup 4194304 false) otherActions (second.put "/dev/sdb1" (letters 4194304))).map fun restored =>
    (first,second,restored)

theorem chain_run : chainRun.isSome = true := by decide +kernel

theorem next_sessions : (ProtectTask.backup nextBackup 4194304).sessions = some [nextBackup.NewVolumeTaskSession 0 4194304 0] := rfl

section second
variable {first second : Disk} (left : leaves (backupEnv wholeBackup 4194304) (wholeActions 1) (wholeDisk 4194304) = some first)
  (more : leaves (backupEnv nextBackup 4194304) nextActions (first.put "/dev/sda1" changed) = some second)
include left

theorem first_made : BackedUp Smooth (chainEnv 4194304) 4194304 (Uniform 4194304) wholeBackup [wholeBackup.NewVolumeTaskSession 0 4194304 0]
    (letters 4194304) (wholeDisk 4194304) first where
  hasher := rfl
  plain := rfl
  size := rfl
  sessions := whole_sessions
  few := by decide
  occur := uniform_occurs (by decide) (by decide) (by decide)
  fresh := fun k => if_neg (@whole_apart "/meta" _ (by decide) (by decide)).symm
  run := by
    obtain ⟨p,path,ended⟩ := leaves_run left
    exact ⟨_,p,dirs_smooth rfl whole_sessions rfl (by decide) rfl path,ended⟩

include more

theorem second_made : BackedUp Smooth (chainEnv 4194304) 4194304 (Uniform 4194304) nextBackup [nextBackup.NewVolumeTaskSession 0 4194304 0]
    changed (first.put "/dev/sda1" changed) second where
  hasher := rfl
  plain := rfl
  size := rfl
  sessions := next_sessions
  few := by decide
  occur := uniform_occurs (by decide) (by decide) (by decide)
  fresh := by
    intro k
    obtain ⟨p,path,_,rfl⟩ := leaves_run left
    have own : (backupEnv wholeBackup 4194304).task = .backup wholeBackup 4194304 := rfl
    calc p.disk.put "/dev/sda1" changed (GetChecksumBinPath "/next" "c" k)
        = p.disk (GetChecksumBinPath "/next" "c" k) := put_other (@whole_apart "/next" _ (by decide) (by decide)).symm
      _ = wholeDisk 4194304 (GetChecksumBinPath "/next" "c" k) :=
          checksums_kept own whole_sessions (show "/next" ≠ "/meta" by decide) path k
      _ = none := if_neg (@whole_apart "/next" _ (by decide) (by decide)).symm
  run := by
    obtain ⟨p,path,ended⟩ := leaves_run more
    exact ⟨_,p,dirs_smooth rfl next_sessions rfl (by decide) put_same path,ended⟩

theorem second_chain : BackupChain Smooth (chainEnv 4194304) 4194304 (Uniform 4194304) nextBackup changed second := by
  refine .increment (.full rfl (first_made left)) ⟨rfl,rfl,rfl,rfl,rfl,rfl⟩ ?_ ?_ (second_made left more)
  · exact fun k => put_other (@whole_apart "/copy" _ (by decide) (by decide)).symm
  · exact fun k => put_other (@whole_apart "/meta" _ (by decide) (by decide)).symm

end second

section other
variable {backup : VolumeBackupConfig} {volumeSize : UInt64} {enableCheckpoint : Bool} {copy target : Content} {left : Disk}

theorem other_smooth (apart : (otherSession backup volumeSize enableCheckpoint).copyFilePath ∉
      (otherEnv backup volumeSize enableCheckpoint).writes (otherSession backup volumeSize enableCheckpoint))
    (present : left (otherSession backup volumeSize enableCheckpoint).copyFilePath = some copy)
    (path : Runs (taskNext (otherEnv backup volumeSize enableCheckpoint)) Grants (.new (left.put "/dev/sdb1" target)) actions p) :
    Runs (taskNext (otherEnv backup volumeSize enableCheckpoint)) (Smooth (otherEnv backup volumeSize enableCheckpoint) fun _ => copy)
      (.new (left.put "/dev/sdb1" target)) actions p := by
  have sessions : (otherEnv backup volumeSize enableCheckpoint).task.sessions = some [otherSession backup volumeSize enableCheckpoint] := rfl
  refine sources_smooth sessions (List.forall_mem_singleton.mpr ⟨?_,?_⟩) ?_ (List.forall_mem_singleton.mpr ?_) path
  · rintro ⟨_,_,known,_⟩
    cases known
  · rintro ⟨_,_,known,_⟩
    cases known
  · simp only [List.forall_mem_singleton]
    exact apart
  · refine (put_other fun same => apart ?_).trans present
    have source : (otherSession backup volumeSize enableCheckpoint).copyFilePath = "/dev/sdb1" := same
    rw [source]
    exact List.mem_cons_self

end other

theorem chain_restores_changed : ∃ second restored, CopiesVolume (chainEnv 4194304) nextBackup 4194304 changed second ∧
    leaves (otherEnv nextBackup 4194304 false) otherActions (second.put "/dev/sdb1" (letters 4194304)) = some restored ∧
    VolumeHolds restored "/dev/sdb1" changed.byte 0 := by
  obtain ⟨_,ran⟩ := Option.isSome_iff_exists.mp chain_run
  unfold chainRun at ran
  simp only [Option.bind_eq_some_iff,Option.map_eq_some_iff] at ran
  obtain ⟨first,left,second,more,restored,last,_⟩ := ran
  obtain ⟨copies,restores⟩ := chain_restores (uniform_distinguishes (by decide)) (second_chain left more).lossless
  refine ⟨second,restored,copies,last,?_⟩
  obtain ⟨p,path,status,rfl⟩ := leaves_run last
  obtain ⟨queue,sessions,holds⟩ := copies
  cases next_sessions.symm.trans sessions
  obtain ⟨copy,there,_⟩ := (holds 0 (by decide)).2 _ List.mem_cons_self ⟨by decide,by decide⟩
  have present : second (otherSession nextBackup 4194304 false).copyFilePath = some copy := there
  have built : RestoresCopy nextBackup 4194304 second (otherRestore false) (segmentMeta nextBackup 4194304)
      [otherSession nextBackup 4194304 false] fun _ => copy :=
    ⟨by decide +kernel,rfl,rfl,List.forall_mem_singleton.mpr present,by decide +kernel⟩
  have lossless := smooth_lossless (other_smooth (by decide +kernel) present path)
  have unmarked : MarksRestored (otherEnv nextBackup 4194304 false) [otherSession nextBackup 4194304 false] (fun _ => copy)
      (second.put "/dev/sdb1" (letters 4194304)) := List.forall_mem_singleton.mpr nofun
  exact restores _ _ _ _ built _ unmarked _ _ (lossless.weaken fun _ _ known => known.1) status 0 (by decide)

-- A backup of a volume of one byte leaves its checkpoint, and a restore that keeps its checkpoints in the same directory takes that one
-- for its own, and writes nothing.
def keptBackup : VolumeBackupConfig := {wholeBackup with enableCheckpoint := true,clearCheckpointsOnSucceed := false}

def keptActions : List TaskAction := threads 14++readers 10++hashers 11++writers 10++threads 19

def staleActions : List TaskAction := threads 8++readers 4++writers 4++threads 18

def staleRun : Option (Disk × Disk) :=
  (leaves (backupEnv keptBackup 1) keptActions plainDisk).bind fun kept =>
  (leaves (otherEnv keptBackup 1 true) staleActions (kept.put "/dev/sdb1" otherLetter)).map fun restored => (kept,restored)

theorem stale_run : (staleRun.map fun disks => decide (VolumeHolds disks.2 "/dev/sdb1" letter.byte 0)) = some false := by decide +kernel

theorem kept_sessions : (ProtectTask.backup keptBackup 1).sessions = some [keptBackup.NewVolumeTaskSession 0 1 0] := rfl

theorem kept_made (left : leaves (backupEnv keptBackup 1) keptActions plainDisk = some kept) :
    BackedUp Smooth (chainEnv 1) 1 (Uniform 1) keptBackup [keptBackup.NewVolumeTaskSession 0 1 0] letter plainDisk kept where
  hasher := rfl
  plain := rfl
  size := rfl
  sessions := kept_sessions
  few := by decide
  occur := uniform_occurs (by decide) (by decide) (by decide)
  fresh := fun k => if_neg (@whole_apart "/meta" _ (by decide) (by decide)).symm
  run := by
    obtain ⟨p,path,ended⟩ := leaves_run left
    exact ⟨_,p,dirs_smooth rfl kept_sessions rfl (by decide) rfl path,ended⟩

theorem restore_trusts_backup_checkpoint : ¬(Distinguishes (chainEnv 1).sha256 (Uniform 1) →
    ∀ config volume left, BackupChain Smooth (chainEnv 1) 1 (Uniform 1) config volume left →
    ∀ restore volumeCopyMeta queue copy, RestoresCopy config 1 left restore volumeCopyMeta queue copy → ∀ disk actions p,
    Runs (taskNext ((chainEnv 1).on (.restore restore volumeCopyMeta))) (Smooth ((chainEnv 1).on (.restore restore volumeCopyMeta)) copy)
      (.new disk) actions p → p.task.m_status = .SUCCEED → ∀ address < 1, VolumeHolds p.disk restore.volumePath volume.byte address) := by
  intro always
  obtain ⟨_,ran,stale⟩ := Option.map_eq_some_iff.mp stale_run
  simp only [staleRun,Option.bind_eq_some_iff,Option.map_eq_some_iff] at ran
  obtain ⟨kept,left,restored,last,rfl⟩ := ran
  obtain ⟨p,path,status,rfl⟩ := leaves_run last
  have made := kept_made left
  obtain ⟨queue,sessions,holds⟩ := (made.lossless.full (uniform_distinguishes (by decide)) rfl).copies made.lossless
  cases kept_sessions.symm.trans sessions
  obtain ⟨copy,there,_⟩ := (holds 0 (by decide)).2 _ List.mem_cons_self ⟨by decide,by decide⟩
  have present : kept (otherSession keptBackup 1 true).copyFilePath = some copy := there
  have built : RestoresCopy keptBackup 1 kept (otherRestore true) (segmentMeta keptBackup 1) [otherSession keptBackup 1 true] fun _ => copy :=
    ⟨by decide +kernel,rfl,rfl,List.forall_mem_singleton.mpr present,by decide +kernel⟩
  have smooth := other_smooth (by decide +kernel) present path
  exact of_decide_eq_false stale (always (uniform_distinguishes (by decide)) _ _ _ (.full rfl made) _ _ _ _ built _ _ _ smooth status 0
    (by decide))

end VolumeBackup
