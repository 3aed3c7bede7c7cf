import VolumeBackup.CrashRecovery
import VolumeBackup.RestoreContent

namespace VolumeBackup
open ByteMemory LabelledRuns

def TargetHolds (env : TaskEnv) (disk : Disk) (config : VolumeTaskSharedConfig) (volume : Memory) (address : Nat) : Prop :=
  match env.task with
  | .backup _ _ => CopyHolds env disk config volume address
  | .restore restore _ => VolumeHolds disk restore.volumePath volume address

-- A full backup of the volume, or a restore of a copy of it that has every block, with what their sessions read.
inductive Resumable (env : TaskEnv) (volume : Content) (volumeSize : UInt64) :
    (VolumeTaskSharedConfig → Content) → List VolumeTaskSharedConfig → Prop where
  | backup {full : VolumeBackupConfig} {configs : List VolumeTaskSharedConfig} (task : env.task = .backup full volumeSize)
      (type : full.backupType = .FULL) (accepted : Accepted full configs) : Resumable env volume volumeSize (fun _ => volume) configs
  | restore {config : VolumeRestoreConfig} {record : VolumeCopyMeta} {original : VolumeBackupConfig}
      {copy : VolumeTaskSharedConfig → Content} {configs : List VolumeTaskSharedConfig} (task : env.task = .restore config record)
      (segments : original.split volumeSize original.NewCopySegment = some record.segments)
      (positive : 1 ≤ record.blockSize.toNat) (addresses : 32*record.blockSize.toNat < 2^32)
      (apart : ∀ session ∈ configs, config.volumePath ≠ session.checkpointFilePath ∧ config.volumePath ≠ session.lastestChecksumBinPath)
      (complete : ∀ session ∈ configs, CompleteCopy env (copy session) volume session) : Resumable env volume volumeSize copy configs

variable {env : TaskEnv} {config other : VolumeTaskSharedConfig} {queue : List VolumeTaskSharedConfig} {backup : VolumeBackupConfig}
  {restore : VolumeRestoreConfig} {volumeCopyMeta : VolumeCopyMeta} {volumeSize : UInt64} {disk after : Disk} {volume : Content}
  {source : VolumeTaskSharedConfig → Content} {p : Process}

theorem fresh_trusted (plain : env.task.compares = false) (absent : disk config.checkpointFilePath = none)
    {content : Content} : Trusted env disk config content where
  marked := fun _ _ _ marks => absurd marks (marks_absent absent)
  known := fun compares => Bool.noConfusion (plain.symm.trans compares)

theorem previous_path (increment : backup.IsIncrementBackup = true) :
    (backup.NewVolumeTaskSession start size index).prevChecksumBinPath =
      GetChecksumBinPath backup.prevCopyMetaDirPath backup.copyName index := if_pos increment

section backup
variable (task : env.task = .backup backup volumeSize) (sessions : env.task.sessions = some queue) (accepted : Accepted backup queue)
include task sessions accepted

omit accepted in
theorem backup_numbers (member : config ∈ queue) (second : other ∈ queue) (differ : config ≠ other) : ∃ start size i origin length j,
    config = backup.NewVolumeTaskSession start size i ∧ other = backup.NewVolumeTaskSession origin length j ∧ j ≠ i := by
  obtain ⟨i,start,size,found,same⟩ := backup_member task sessions member
  obtain ⟨j,origin,length,present,equal⟩ := backup_member task sessions second
  refine ⟨start,size,i,origin,length,j,same,equal,?_⟩
  rintro rfl
  exact differ (Option.some.inj (found.symm.trans present))

theorem backup_recoverable (nonzero : ∀ config ∈ queue, NonZero env config volume) : Recoverable env (fun _ => volume) queue where
  toPlan := backup_plan task sessions accepted
  nonzero := nonzero
  distinct := by
    rw [task] at sessions
    refine split_pairwise sessions fun start size k origin length l less same => ?_
    have path : GetWriterBitmapFilePath backup.checkpointDirPath backup.copyName k =
        GetWriterBitmapFilePath backup.checkpointDirPath backup.copyName l :=
      congrArg VolumeTaskSharedConfig.checkpointFilePath same
    exact Nat.ne_of_lt less (checkpoint_inj path).2
  files := by
    intro config member
    obtain ⟨i,start,size,_,rfl⟩ := backup_member task sessions member
    exact separate_backup task
  marks := by
    intro config member other second differ
    obtain ⟨start,size,i,origin,length,j,same,equal,number⟩ := backup_numbers task sessions member second differ
    rw [unwritten,backup_target task,same,equal]
    exact ⟨copy_checkpoint.symm,checksum_checkpoint.symm,fun path => number (checkpoint_inj path).2⟩
  previous := by
    intro compares config member other second differ
    obtain ⟨start,size,i,origin,length,j,same,equal,number⟩ := backup_numbers task sessions member second differ
    rw [task] at compares
    rw [unwritten,backup_target task,equal,previous_path compares,same]
    exact ⟨copy_checksum.symm,fun path => number (checksum_inj path).2,checksum_checkpoint⟩
  own := by
    intro compares config member
    obtain ⟨i,start,size,_,same⟩ := backup_member task sessions member
    rw [task] at compares
    rw [backup_target task,same,previous_path compares]
    exact ⟨copy_checksum.symm,checksum_checkpoint⟩
  shared := by
    intro compares config member path
    obtain ⟨i,start,size,_,same⟩ := backup_member task sessions member
    rw [task] at compares ⊢
    rw [same,previous_path compares] at path
    exact ⟨compares,(checksum_inj path).1⟩
  prepared := by
    intro path made config member
    obtain ⟨i,start,size,_,same⟩ := backup_member task sessions member
    rcases made with ⟨known,length,equal,_,format,k,rfl⟩ | ⟨known,length,equal,rfl⟩
    · cases task.symm.trans equal
      refine ⟨by rw [same]; exact copy_checkpoint.symm,fun compares => ?_⟩
      rw [task] at compares
      rw [same,previous_path compares]
      exact copy_checksum.symm
    · cases task.symm.trans equal
      refine ⟨by rw [same]; exact checkpoint_meta,fun compares => ?_⟩
      rw [task] at compares
      rw [same,previous_path compares]
      exact checksum_meta
  record := by
    rintro path ⟨known,length,equal,rfl⟩ config member
    cases task.symm.trans equal
    obtain ⟨i,start,size,_,same⟩ := backup_member task sessions member
    rw [backup_target task,same]
    exact copy_meta
  some := by
    intro config member index inside
    rw [task] at sessions
    obtain ⟨start,size,k,rfl,positive⟩ := split_some sessions member
    exact index_positive inside accepted.positive positive

end backup

section restore
variable (task : env.task = .restore restore volumeCopyMeta)
include task

theorem restore_recoverable (sessions : env.task.sessions = some queue)
    (segments : backup.split volumeSize backup.NewCopySegment = some volumeCopyMeta.segments) (positive : 1 ≤ volumeCopyMeta.blockSize.toNat)
    (addresses : 32*volumeCopyMeta.blockSize.toNat < 2^32)
    (apart : ∀ config ∈ queue, restore.volumePath ≠ config.checkpointFilePath ∧ restore.volumePath ≠ config.lastestChecksumBinPath)
    (complete : ∀ config ∈ queue, CompleteCopy env (source config) volume config) : Recoverable env source queue where
  toPlan := restore_plan task sessions positive addresses apart complete
  files := by
    intro config member
    have target := restore_target task sessions member
    obtain ⟨segment,_,same⟩ := restore_member task sessions member
    refine ⟨?_,?_,?_⟩
    · rw [target]
      exact (apart config member).2.symm
    · rw [target]
      exact (apart config member).1.symm
    · rw [same]
      exact checkpoint_some.symm
  marks := by
    intro config member other second differ
    obtain ⟨segment,inside,same⟩ := restore_member task sessions member
    obtain ⟨next,within,equal⟩ := restore_member task sessions second
    obtain ⟨i,start,size,found,first⟩ := split_member segments inside
    obtain ⟨j,origin,length,present,last⟩ := split_member segments within
    have number : next.index ≠ segment.index := by
      intro index
      have left : segment.index = 0+i := by rw [first]; rfl
      have right : next.index = 0+j := by rw [last]; rfl
      have place : j = i := by omega
      subst place
      cases found.symm.trans present
      exact differ (same.trans equal.symm)
    rw [unwritten]
    refine ⟨?_,?_,?_⟩
    · rw [restore_target task sessions member]
      exact (apart other second).1.symm
    · rw [same,equal]
      exact checkpoint_some
    · rw [same,equal]
      exact fun path => number (checkpoint_inj path).2
  previous := by
    intro compares
    rw [task] at compares
    cases compares
  own := by
    intro compares
    rw [task] at compares
    cases compares
  shared := by
    intro compares
    rw [task] at compares
    cases compares
  nonzero := by
    intro config member compares
    rw [task] at compares
    cases compares
  distinct := by
    rw [task] at sessions
    cases Option.some.inj sessions
    refine List.Pairwise.map _ (fun _ _ => id) (split_pairwise segments fun start size k origin length l less same => ?_)
    exact Nat.ne_of_lt less (checkpoint_inj (congrArg VolumeTaskSharedConfig.checkpointFilePath same)).2
  prepared := by
    rintro path (⟨known,size,equal,_⟩ | ⟨known,size,equal,_⟩)
    · cases task.symm.trans equal
    · cases task.symm.trans equal
  record := by
    rintro path ⟨known,size,equal,_⟩
    cases task.symm.trans equal
  some := by
    intro config member index inside
    obtain ⟨segment,within,rfl⟩ := restore_member task sessions member
    obtain ⟨start,size,k,rfl,some⟩ := split_some segments within
    exact index_positive inside positive some

end restore

section resumable
variable (resumable : Resumable env volume volumeSize source queue) (sessions : env.task.sessions = some queue)
include resumable sessions

omit sessions in
theorem Resumable.plain : env.task.compares = false := by
  cases resumable with
  | backup task full accepted =>
      rw [task]
      simp [ProtectTask.compares,VolumeBackupConfig.IsIncrementBackup,full]
  | restore task => rw [task]; rfl

theorem Resumable.recoverable : Recoverable env source queue := by
  have plain := resumable.plain
  cases resumable with
  | backup task full accepted =>
      refine backup_recoverable task sessions accepted fun config member compares => ?_
      exact Bool.noConfusion (plain.symm.trans compares)
  | restore task segments positive addresses apart complete =>
      exact restore_recoverable task sessions segments positive addresses apart complete

theorem Resumable.bytes (all : ∀ config ∈ queue, ∀ index ≤ config.m_maxIndex, Held env disk config (source config) index)
    (inside : address < volumeSize.toNat) : (∃ config ∈ queue, Covers config address) ∧
      ∀ config ∈ queue, Covers config address → TargetHolds env disk config volume.byte address := by
  have within : address < 2^64 := Nat.lt_trans inside volumeSize.toNat_lt
  have copyable := (resumable.recoverable sessions).copyable
  unfold TargetHolds
  cases resumable with
  | backup task full accepted =>
      refine ⟨backup_covers task sessions inside,fun config member covers => ?_⟩
      rw [task]
      exact Held.copy task (copyable config member).pooled.positive (all config member) covers within
  | restore task segments positive addresses apart complete =>
      refine ⟨restore_covers task sessions segments inside,fun config member covers => ?_⟩
      rw [task]
      exact Held.restored task (copyable config member).pooled.positive (restore_target task sessions member) (complete config member)
        (all config member) covers within

-- A full backup, or a restore, that starts without checkpoints, crashes any number of times and ends with SUCCEED, has left in its
-- target every byte of the volume.
theorem crash_resumes (fresh : ∀ config ∈ queue, disk config.checkpointFilePath = none)
    (crashes : Attempts (taskNext env) (Sturdy env source) .new (Breaks env Anything) disk after)
    (path : Runs (taskNext env) (Observed env source) (.new after) actions p) (status : p.task.m_status = .SUCCEED)
    (inside : address < volumeSize.toNat) : (∃ config ∈ queue, Covers config address) ∧
      ∀ config ∈ queue, Covers config address → TargetHolds env p.disk config volume.byte address := by
  have recoverable := resumable.recoverable sessions
  have tidy (p : Process) (action : TaskAction) : Tidy env p action := fun overwrites =>
    Bool.noConfusion (resumable.plain.symm.trans (overwrites_compares overwrites))
  have trusted := crashes_trusted recoverable (fun config member => fresh_trusted resumable.plain (fresh config member)) <|
    crashes.weaken (fun p action sturdy => ⟨sturdy,tidy p action⟩) fun p left broken =>
      broken.imp_right fun ⟨action,q,ran,_,same⟩ => ⟨action,q,ran,tidy p action,same⟩
  exact resumable.bytes sessions (fun config member index below => recovered_exact recoverable trusted path status member below) inside

end resumable

instance : Decidable (Sturdy env source p action) :=
  inferInstanceAs (Decidable (OnSession _ _ _ ∧ ∀ config ∈ p.pc.opening, _))

instance targetHoldsDecidable {volume : Memory} : Decidable (TargetHolds env disk config volume address) :=
  match task : env.task with
  | .backup _ _ => decidable_of_iff (CopyHolds env disk config volume address) (by unfold TargetHolds; rw [task])
  | .restore restore _ => decidable_of_iff (VolumeHolds disk restore.volumePath volume address) (by unfold TargetHolds; rw [task])

theorem crashed_some : (execute (taskNext markedEnv) (fun p action => decide (Sturdy markedEnv (fun _ => letter) p action)) (.new plainDisk)
    diedActions).isSome = true := by decide +kernel

def crashedDisk : Disk := ((execute (taskNext markedEnv) (fun p action => decide (Sturdy markedEnv (fun _ => letter) p action))
  (.new plainDisk) diedActions).get crashed_some).disk

def markedConfig : VolumeTaskSharedConfig := {plainBackup with enableCheckpoint := true}.NewVolumeTaskSession 0 1 0

theorem crash_resumes_letter : ∃ p : Process, p.task.m_status = .SUCCEED ∧ TargetHolds markedEnv p.disk markedConfig letter.byte 0 := by
  have died := execute_runs (fun _ _ => of_decide_eq_true) (Option.some_get crashed_some).symm
  have run : (execute (taskNext markedEnv) (fun p action => decide (Observed markedEnv (fun _ => letter) p action)) (.new crashedDisk)
      resumedActions).any (fun p => decide (p.task.m_status = .SUCCEED)) = true := by decide +kernel
  obtain ⟨p,path,good⟩ := execute_ends (fun _ _ => of_decide_eq_true) run
  have succeeded := of_decide_eq_true good
  have accepted : Accepted {plainBackup with enableCheckpoint := true} [markedConfig] :=
    ⟨rfl,by decide,by decide,fun increment => absurd increment (by decide)⟩
  exact ⟨p,succeeded,(crash_resumes (.backup rfl rfl accepted) rfl (fun config member => by cases List.mem_singleton.mp member; rfl)
    (.again .start died (.inl rfl)) path succeeded (show 0 < 1 by decide)).2 _ List.mem_cons_self ⟨by decide,by decide⟩⟩

def longBackup : VolumeBackupConfig := {plainBackup with enableCheckpoint := true,sessionSize := 33}

def longEnv : TaskEnv := {plainEnv with task := .backup longBackup 33}

def longDisk : Disk := fun path => if path = "/dev/sda1" then some (.of 33 fun _ => 97) else none

def CallsSucceed (p : Process) (action : TaskAction) : Bool :=
  Faultless action || match action with
    | .component (.reader _) => p.running.any fun running => running.run.state.readerTask.pc == .fetch
    | _ => false

-- All buffers are taken, and the wait for one more times out; the reader publishes that when IsFailed has looked at it.
def timeoutActions : List TaskAction := threads 14++readers 196++[.component (.reader (.fail ⟨fun _ => false,0⟩))]++threads 5++
  readers 2++writers 196++threads 15

theorem timeout_loses_block : ¬∀ after, Attempts (taskNext longEnv) (fun p action => CallsSucceed p action = true) .new (Breaks longEnv Anything)
    longDisk after → ∀ p, Reached (taskNext longEnv) (fun p action => CallsSucceed p action = true) (.new after) p →
    p.task.m_status = .SUCCEED → ∀ address < 33, CopyHolds longEnv p.disk (longBackup.NewVolumeTaskSession 0 33 0) (fun _ => 97) address := by
  intro always
  have run : (execute (taskNext longEnv) CallsSucceed (.new longDisk) timeoutActions).any (fun p => decide (p.task.m_status = .SUCCEED ∧
      ¬CopyHolds longEnv p.disk (longBackup.NewVolumeTaskSession 0 33 0) (fun _ => 97) 32)) = true := by decide +kernel
  obtain ⟨p,path,good⟩ := execute_ends (fun _ _ passed => passed) run
  obtain ⟨succeeded,lost⟩ := of_decide_eq_true good
  exact lost (always _ .start p ⟨_,path⟩ succeeded 32 (by decide))

end VolumeBackup
