import VolumeBackup.AttemptExactness
import VolumeBackup.NoFalseSuccess
import VolumeBackup.SessionSplit

namespace VolumeBackup
open ByteMemory LabelledRuns

def CopyHolds (env : TaskEnv) (disk : Disk) (config : VolumeTaskSharedConfig) (volume : Memory) (address : Nat) : Prop :=
  ∃ content, disk config.copyFilePath = some content ∧ (env.copyData config).position address < content.size ∧
    content.byte ((env.copyData config).position address) = volume address

variable {env : TaskEnv} {config other : VolumeTaskSharedConfig} {queue : List VolumeTaskSharedConfig} {backup : VolumeBackupConfig}
  {volumeSize : UInt64} {disk : Disk} {volume : Content} {p : Process}

theorem copy_position (inside : config.sessionOffset.toNat+index*config.blockSize.toNat+k < 2^64) :
    (env.copyData config).position (config.consumeBlockOffset index)+k =
      (env.copyData config).position (config.sessionOffset.toNat+index*config.blockSize.toNat+k) := by
  unfold TaskEnv.copyData
  cases config.copyFormat with
  | IMAGE =>
      rw [position_volume inside]
      rfl
  | BIN =>
      rw [position_part inside]
      have bound := config.sessionOffset.toNat_lt
      unfold RawData.position
      rw [if_neg (show ¬(0 : Int) < -1 by decide),if_pos (show (-1 : Int) < 0 by decide)]
      dsimp only
      omega

theorem volume_position (inside : config.sessionOffset.toNat+index*config.blockSize.toNat+k < 2^64) :
    (env.volumeData config).position (config.consumeBlockOffset index)+k =
      config.sessionOffset.toNat+index*config.blockSize.toNat+k := position_volume inside

section backup
variable (task : env.task = .backup backup volumeSize)
include task

theorem backup_member (sessions : env.task.sessions = some queue) (member : config ∈ queue) :
    ∃ i start size, queue[i]? = some config ∧ config = backup.NewVolumeTaskSession start size i := by
  rw [task] at sessions
  obtain ⟨i,start,size,found,same⟩ := split_member sessions member
  exact ⟨i,start,size,found,by rw [same,Nat.zero_add]⟩

theorem backup_covers (sessions : env.task.sessions = some queue) (inside : address < volumeSize.toNat) :
    ∃ config ∈ queue, Covers config address := by
  rw [task] at sessions
  obtain ⟨start,size,k,member,within⟩ := split_covers sessions (Nat.zero_le _) inside
  exact ⟨_,member,within⟩

theorem backup_target (config : VolumeTaskSharedConfig) : env.targetPath config = config.copyFilePath := by
  unfold TaskEnv.targetPath
  rw [task]

theorem backup_source (config : VolumeTaskSharedConfig) : env.sourcePath config = config.volumePath := by
  unfold TaskEnv.sourcePath
  rw [task]

theorem backup_positions (config : VolumeTaskSharedConfig) (index : Nat) :
    readPosition (env.sessionEnv config) index = (env.volumeData config).position (config.consumeBlockOffset index) ∧
    writePosition (env.sessionEnv config) index = (env.copyData config).position (config.consumeBlockOffset index) := by
  unfold readPosition writePosition TaskEnv.sessionEnv
  rw [task]
  exact ⟨rfl,rfl⟩

theorem backup_coherent (sessions : env.task.sessions = some queue) (member : config ∈ queue) (second : other ∈ queue) :
    Coherent env (fun _ => volume) config other := by
  obtain ⟨i,start,size,found,same⟩ := backup_member task sessions member
  obtain ⟨j,origin,length,present,equal⟩ := backup_member task sessions second
  cases format : backup.copyFormat with
  | BIN =>
      intro shared
      have path : GetCopyDataFilePath backup.outputCopyDataDirPath backup.copyName .BIN i =
          GetCopyDataFilePath backup.outputCopyDataDirPath backup.copyName .BIN j := by
        rw [backup_target task,backup_target task,same,equal,← format] at *
        exact shared
      cases part_inj path
      cases found.symm.trans present
      have own : Coherent env (fun _ => volume) config config := .self
      exact own shared
  | IMAGE =>
      intro _ block _ next _ k _ l _ place
      have image (config : VolumeTaskSharedConfig) (format : config.copyFormat = .IMAGE) (index : Nat) :
          readPosition (env.sessionEnv config) index = writePosition (env.sessionEnv config) index := by
        rw [(backup_positions task config index).1,(backup_positions task config index).2]
        unfold TaskEnv.copyData
        rw [format]
        rfl
      rw [image config (by rw [same]; exact format),image other (by rw [equal]; exact format),place]

theorem backup_separate (sessions : env.task.sessions = some queue) (member : config ∈ queue) (second : other ∈ queue) :
    Separate env config other := by
  obtain ⟨i,start,size,_,rfl⟩ := backup_member task sessions member
  obtain ⟨j,origin,length,_,rfl⟩ := backup_member task sessions second
  refine ⟨?_,?_⟩ <;> rw [backup_target task]
  · exact copy_checksum
  · exact copy_checkpoint

-- What a backup needs to copy: no block is left out as empty, its buffers have 32-bit addresses, and an
-- incremental one compares the entries of its own blocks.
structure Accepted (backup : VolumeBackupConfig) (queue : List VolumeTaskSharedConfig) : Prop where
  plain : backup.skipEmptyBlock = false
  positive : 1 ≤ backup.blockSize.toNat
  addresses : 32*backup.blockSize.toNat < 2^32
  few : backup.IsIncrementBackup = true → ∀ config ∈ queue, config.m_maxIndex < 2^27

theorem backup_plan (sessions : env.task.sessions = some queue) (accepted : Accepted backup queue) :
    Plan env (fun _ => volume) queue where
  sessions := sessions
  copyable := by
    intro config member
    obtain ⟨i,start,size,_,same⟩ := backup_member task sessions member
    refine ⟨by rw [same]; exact ⟨accepted.positive,accepted.addresses⟩,by rw [same]; exact accepted.plain,fun diff => ?_⟩
    refine accepted.few ?_ config member
    unfold TaskEnv.sessionEnv at diff
    rw [task] at diff
    dsimp only at diff
    split at diff
    · assumption
    · cases diff
  separate := fun _ member _ second => backup_separate task sessions member second
  coherent := fun _ member _ second => backup_coherent task sessions member second

theorem Held.copy (positive : 0 < config.blockSize.toNat) (all : ∀ index ≤ config.m_maxIndex, Held env disk config volume index)
    (covers : Covers config address) (within : address < 2^64) : CopyHolds env disk config volume.byte address := by
  obtain ⟨index,inside,k,bound,rfl⟩ := covers_block positive covers
  obtain ⟨content,present,size,bytes⟩ := all index inside
  have positions := backup_positions task config index
  have byte := bytes k bound
  rw [backup_target task] at present
  rw [positions.2] at size byte
  rw [positions.1,volume_position within] at byte
  have place := @copy_position env _ _ _ within
  refine ⟨content,present,?_,?_⟩
  · rw [← place]
    exact Nat.lt_of_lt_of_le (Nat.add_lt_add_left bound _) size
  · rw [← place]
    exact byte

-- A backup that ends with SUCCEED has made the copy equal to the volume that it read, whatever earlier
-- attempts have left, if what its sessions skip was in the copy when they were opened.
theorem backup_copies (sessions : env.task.sessions = some queue) (accepted : Accepted backup queue)
    (path : Runs (taskNext env) (Attempt env fun _ => volume) (.new disk) actions p) (status : p.task.m_status = .SUCCEED)
    (inside : address < volumeSize.toNat) :
    (∃ config ∈ queue, Covers config address) ∧
      ∀ config ∈ queue, Covers config address → CopyHolds env p.disk config volume.byte address := by
  have plan : Plan env (fun _ => volume) queue := backup_plan task sessions accepted
  refine ⟨backup_covers task sessions inside,fun config member covers => ?_⟩
  have within : address < 2^64 := Nat.lt_trans inside volumeSize.toNat_lt
  exact Held.copy task (plan.copyable config member).pooled.positive
    (fun index below => Copying.exact plan path status member below) covers within

end backup

instance : Decidable (CopyHolds env disk config memory address) :=
  decidable_of_iff (∃ content ∈ disk config.copyFilePath, (env.copyData config).position address < content.size ∧
    content.byte ((env.copyData config).position address) = memory address) Iff.rfl

theorem backup_copies_plain : ∃ p : Process, p.task.m_status = .SUCCEED ∧
    CopyHolds plainEnv p.disk (plainBackup.NewVolumeTaskSession 0 1 0) letter.byte 0 := by
  have run : (execute (taskNext plainEnv) (fun p action => decide (Attempt plainEnv (fun _ => letter) p action)) (.new plainDisk)
      plainActions).any (fun p => decide (p.task.m_status = .SUCCEED)) = true := by decide +kernel
  obtain ⟨p,path,good⟩ := execute_ends (fun _ _ => of_decide_eq_true) run
  have succeeded := of_decide_eq_true good
  have accepted : Accepted plainBackup [plainBackup.NewVolumeTaskSession 0 1 0] :=
    ⟨rfl,by decide,by decide,fun increment => absurd increment (by decide)⟩
  exact ⟨p,succeeded,(backup_copies rfl rfl accepted path succeeded (show 0 < 1 by decide)).2 _ List.mem_cons_self ⟨by decide,by decide⟩⟩

def Faultless : TaskAction → Bool
  | .thread reply => reply.isYes
  | .component (.reader outcome) | .component (.writer outcome) => outcome.isOk
  | _ => true

def markedEnv : TaskEnv := {plainEnv with task := .backup {plainBackup with enableCheckpoint := true} 1}

def otherLetter : Content := .of 1 fun _ => 98

def diedActions : List TaskAction := threads 14++readers 10++writers 10++threads 13

theorem died_some : (execute (taskNext markedEnv) (fun p action => decide (Careful p action) && Faultless action) (.new plainDisk)
    diedActions).isSome = true := by decide +kernel

def leftDisk : Disk := (((execute (taskNext markedEnv) (fun p action => decide (Careful p action) && Faultless action)
  (.new plainDisk) diedActions).get died_some).disk).put "/dev/sda1" otherLetter

-- The process dies when the only block is marked; the next attempt finds the volume changed, and skips that block all the same.
def resumedActions : List TaskAction := threads 11++readers 4++writers 4++threads 20

theorem careful_faultless (p : Process) (action : TaskAction) (passed : (decide (Careful p action) && Faultless action) = true) :
    Careful p action ∧ Faultless action = true := by
  simpa using passed

theorem backup_keeps_stale_block : ¬∀ p, Reached (taskNext markedEnv) (fun p action => Careful p action ∧ Faultless action = true)
    (.new plainDisk) p → ∀ q, Reached (taskNext markedEnv) (fun p action => Careful p action ∧ Faultless action = true)
    (.new (p.disk.put "/dev/sda1" otherLetter)) q → q.task.m_status = .SUCCEED →
    CopyHolds markedEnv q.disk (plainBackup.NewVolumeTaskSession 0 1 0) otherLetter.byte 0 := by
  intro always
  have first := execute_runs careful_faultless (Option.some_get died_some).symm
  have run : (execute (taskNext markedEnv) (fun p action => decide (Careful p action) && Faultless action) (.new leftDisk)
      resumedActions).any (fun q => decide (q.task.m_status = .SUCCEED ∧
        ¬CopyHolds markedEnv q.disk (plainBackup.NewVolumeTaskSession 0 1 0) otherLetter.byte 0)) = true := by decide +kernel
  obtain ⟨q,second,good⟩ := execute_ends careful_faultless run
  obtain ⟨succeeded,stale⟩ := of_decide_eq_true good
  exact stale (always _ ⟨_,first⟩ q ⟨_,second⟩ succeeded)

end VolumeBackup
