import VolumeBackup.BackupContent

namespace VolumeBackup
open ByteMemory LabelledRuns

def VolumeHolds (disk : Disk) (path : String) (volume : Memory) (address : Nat) : Prop :=
  ∃ content, disk path = some content ∧ address < content.size ∧ content.byte address = volume address

def CompleteCopy (env : TaskEnv) (copy volume : Content) (config : VolumeTaskSharedConfig) : Prop :=
  ∀ index ≤ config.m_maxIndex, copy.Holds ((env.copyData config).position (config.consumeBlockOffset index)) (config.nBytesToRead index)
    volume.byte ((env.volumeData config).position (config.consumeBlockOffset index))

variable {env : TaskEnv} {config other : VolumeTaskSharedConfig} {queue : List VolumeTaskSharedConfig} {backup : VolumeBackupConfig}
  {restore : VolumeRestoreConfig} {volumeCopyMeta : VolumeCopyMeta} {volumeSize : UInt64} {disk : Disk} {volume : Content}
  {copy : VolumeTaskSharedConfig → Content} {p : Process}

theorem recorded_parts (record : backup.volumeCopyMeta volumeSize = some volumeCopyMeta) :
    backup.split volumeSize backup.NewCopySegment = some volumeCopyMeta.segments ∧
      volumeCopyMeta.blockSize = DEFAULT_BLOCK_SIZE ∧ volumeCopyMeta.copyName = backup.copyName ∧
      volumeCopyMeta.copyFormat = backup.copyFormat := by
  obtain ⟨segments,split,rfl⟩ := Option.map_eq_some_iff.mp record
  exact ⟨split,rfl,rfl,rfl⟩

section restore
variable (task : env.task = .restore restore volumeCopyMeta)
include task

theorem restore_member (sessions : env.task.sessions = some queue) (member : config ∈ queue) :
    ∃ segment ∈ volumeCopyMeta.segments, config = restore.session volumeCopyMeta segment := by
  rw [task] at sessions
  cases Option.some.inj sessions
  obtain ⟨segment,inside,same⟩ := List.mem_map.mp member
  exact ⟨segment,inside,same.symm⟩

theorem restore_covers (sessions : env.task.sessions = some queue)
    (segments : backup.split volumeSize backup.NewCopySegment = some volumeCopyMeta.segments)
    (inside : address < volumeSize.toNat) : ∃ config ∈ queue, Covers config address := by
  rw [task] at sessions
  cases Option.some.inj sessions
  obtain ⟨start,size,k,member,within⟩ := split_covers segments (Nat.zero_le _) inside
  exact ⟨_,List.mem_map_of_mem member,within⟩

theorem restore_target (sessions : env.task.sessions = some queue) (member : config ∈ queue) :
    env.targetPath config = restore.volumePath := by
  obtain ⟨segment,_,rfl⟩ := restore_member task sessions member
  unfold TaskEnv.targetPath
  rw [task]
  rfl

theorem restore_positions (config : VolumeTaskSharedConfig) (index : Nat) :
    readPosition (env.sessionEnv config) index = (env.copyData config).position (config.consumeBlockOffset index) ∧
    writePosition (env.sessionEnv config) index = (env.volumeData config).position (config.consumeBlockOffset index) := by
  unfold readPosition writePosition TaskEnv.sessionEnv
  rw [task]
  exact ⟨rfl,rfl⟩

theorem restore_coherent (first : CompleteCopy env (copy config) volume config) (second : CompleteCopy env (copy other) volume other) :
    Coherent env copy config other := by
  intro _ i inside j within k bound l short place
  have left := (first i inside).2 k bound
  have right := (second j within).2 l short
  rw [← (restore_positions task config i).1,← (restore_positions task config i).2] at left
  rw [← (restore_positions task other j).1,← (restore_positions task other j).2] at right
  rw [left,right,place]

theorem restore_plan (sessions : env.task.sessions = some queue) (positive : 1 ≤ volumeCopyMeta.blockSize.toNat)
    (addresses : 32*volumeCopyMeta.blockSize.toNat < 2^32)
    (apart : ∀ config ∈ queue, restore.volumePath ≠ config.checkpointFilePath ∧ restore.volumePath ≠ config.lastestChecksumBinPath)
    (complete : ∀ config ∈ queue, CompleteCopy env (copy config) volume config) : Plan env copy queue where
  sessions := sessions
  copyable := by
    intro config member
    obtain ⟨segment,_,rfl⟩ := restore_member task sessions member
    refine ⟨⟨positive,addresses⟩,rfl,fun diff => ?_⟩
    unfold TaskEnv.sessionEnv at diff
    rw [task] at diff
    cases diff
  separate := by
    intro config member other second
    refine ⟨?_,?_⟩ <;> rw [restore_target task sessions second]
    · exact (apart config member).2
    · exact (apart config member).1
  coherent := fun config member other second => restore_coherent task (complete config member) (complete other second)

theorem Held.restored (positive : 0 < config.blockSize.toNat) (path : env.targetPath config = restore.volumePath)
    (complete : CompleteCopy env (copy config) volume config)
    (all : ∀ index ≤ config.m_maxIndex, Held env disk config (copy config) index)
    (covers : Covers config address) (within : address < 2^64) : VolumeHolds disk restore.volumePath volume.byte address := by
  obtain ⟨index,inside,k,bound,rfl⟩ := covers_block positive covers
  obtain ⟨content,present,size,bytes⟩ := all index inside
  have positions := restore_positions task config index
  have byte := bytes k bound
  have source := (complete index inside).2 k bound
  rw [path] at present
  rw [positions.2] at size byte
  rw [positions.1,source,volume_position within] at byte
  rw [← @volume_position env _ _ _ within]
  refine ⟨content,present,Nat.lt_of_lt_of_le (Nat.add_lt_add_left bound _) size,?_⟩
  rw [volume_position within]
  exact byte

-- A restore of a complete copy that ends with SUCCEED has made the volume equal to the one that was backed
-- up, whatever other tasks have left, if what its sessions skip was in the volume when they were opened.
theorem restore_reproduces (sessions : env.task.sessions = some queue) (record : backup.volumeCopyMeta volumeSize = some volumeCopyMeta)
    (apart : ∀ config ∈ queue, restore.volumePath ≠ config.checkpointFilePath ∧ restore.volumePath ≠ config.lastestChecksumBinPath)
    (complete : ∀ config ∈ queue, CompleteCopy env (copy config) volume config)
    (path : Runs (taskNext env) (Attempt env copy) (.new disk) actions p) (status : p.task.m_status = .SUCCEED)
    (inside : address < volumeSize.toNat) : VolumeHolds p.disk restore.volumePath volume.byte address := by
  obtain ⟨segments,size,_,_⟩ := recorded_parts record
  have plan := restore_plan task sessions (by rw [size]; decide) (by rw [size]; decide) apart complete
  obtain ⟨config,member,covers⟩ := restore_covers task sessions segments inside
  exact Held.restored task (plan.copyable config member).pooled.positive (restore_target task sessions member) (complete config member)
    (fun index below => Copying.exact plan path status member below) covers (Nat.lt_trans inside volumeSize.toNat_lt)

end restore

instance {memory : Memory} : Decidable (VolumeHolds disk path memory address) :=
  decidable_of_iff (∃ content ∈ disk path, address < content.size ∧ content.byte address = memory address) Iff.rfl

instance : Decidable (CompleteCopy env content volume config) := inferInstanceAs (Decidable (∀ index ≤ config.m_maxIndex, _))

def plainMeta : VolumeCopyMeta where
  copyName := "c"
  backupType := .FULL
  copyFormat := .IMAGE
  volumeSize := 1
  blockSize := DEFAULT_BLOCK_SIZE
  segments := [plainBackup.NewCopySegment 0 1 0]
  volumePath := "/dev/sda1"

def restoreEnv (volumePath : String) : TaskEnv where
  task := .restore {volumePath := volumePath,copyDataDirPath := "/copy",checkpointDirPath := "/checkpoint"} plainMeta
  sha256 := fun _ _ => 0
  json := CopyMetaFile.recordLibrary []
  device := fun path => path = "/dev/sda1" ∨ path = "/dev/sdb1"

def copyDisk : Disk := fun path =>
  if path = "/copy/c.copydata.img" then some letter
  else if path = "/dev/sda1" ∨ path = "/dev/sdb1" then some otherLetter else none

theorem restore_reproduces_letter : ∃ p : Process, p.task.m_status = .SUCCEED ∧ VolumeHolds p.disk "/dev/sda1" letter.byte 0 := by
  have run : (execute (taskNext (restoreEnv "/dev/sda1")) (fun p action => decide (Attempt (restoreEnv "/dev/sda1") (fun _ => letter) p action))
      (.new copyDisk) (threads 8++readers 10++writers 10++threads 18)).any (fun p => decide (p.task.m_status = .SUCCEED)) = true := by
    decide +kernel
  obtain ⟨p,path,good⟩ := execute_ends (fun _ _ => of_decide_eq_true) run
  have succeeded := of_decide_eq_true good
  have record : plainBackup.volumeCopyMeta 1 = some plainMeta := by decide +kernel
  exact ⟨p,succeeded,restore_reproduces rfl rfl record (by decide) (by decide +kernel) path succeeded (show 0 < 1 by decide)⟩

theorem elsewhere_some : (execute (taskNext (restoreEnv "/dev/sdb1")) (fun p action => decide (Careful p action) && Faultless action)
    (.new copyDisk) (threads 8++readers 10++writers 10++threads 11)).isSome = true := by decide +kernel

def elsewhereDisk : Disk := ((execute (taskNext (restoreEnv "/dev/sdb1")) (fun p action => decide (Careful p action) && Faultless action)
  (.new copyDisk) (threads 8++readers 10++writers 10++threads 11)).get elsewhere_some).disk

-- A restore onto another volume dies behind its checkpoint; the next one takes that checkpoint for its own and writes nothing.
theorem restore_trusts_other_checkpoint : ¬∀ p, Reached (taskNext (restoreEnv "/dev/sdb1"))
    (fun p action => Careful p action ∧ Faultless action = true) (.new copyDisk) p →
    ∀ q, Reached (taskNext (restoreEnv "/dev/sda1")) (fun p action => Careful p action ∧ Faultless action = true) (.new p.disk) q →
    q.task.m_status = .SUCCEED → VolumeHolds q.disk "/dev/sda1" letter.byte 0 := by
  intro always
  have first := execute_runs careful_faultless (Option.some_get elsewhere_some).symm
  have run : (execute (taskNext (restoreEnv "/dev/sda1")) (fun p action => decide (Careful p action) && Faultless action)
      (.new elsewhereDisk) (threads 8++readers 4++writers 4++threads 18)).any (fun q =>
        decide (q.task.m_status = .SUCCEED ∧ ¬VolumeHolds q.disk "/dev/sda1" letter.byte 0)) = true := by decide +kernel
  obtain ⟨q,second,good⟩ := execute_ends careful_faultless run
  obtain ⟨succeeded,unwritten⟩ := of_decide_eq_true good
  exact unwritten (always _ ⟨_,first⟩ q ⟨_,second⟩ succeeded)

end VolumeBackup
