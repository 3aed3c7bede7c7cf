import VolumeBackup.BackupContent
import VolumeBackup.CopyOutcome

namespace VolumeBackup
open ByteMemory LabelledRuns

section backup
variable {env : TaskEnv} {backup : VolumeBackupConfig} {volumeSize : UInt64} {queue : List VolumeTaskSharedConfig} {volume : Content}
  (task : env.task = .backup backup volumeSize) (sessions : env.task.sessions = some queue)
include task sessions

theorem backup_foreign : queue.Pairwise (Foreign env) := by
  rw [task] at sessions
  refine split_pairwise sessions fun start size i origin length j less => ?_
  have table (dir : String) : GetChecksumBinPath dir backup.copyName j ∉ env.writes (backup.NewVolumeTaskSession start size i) := by
    rw [unwritten,backup_target task]
    exact ⟨copy_checksum.symm,fun same => Nat.ne_of_gt less (checksum_inj same).2,checksum_checkpoint⟩
  refine ⟨?_,table _,fun compares => ?_⟩
  · rw [unwritten,backup_target task]
    exact ⟨copy_checkpoint.symm,checksum_checkpoint.symm,fun same => Nat.ne_of_gt less (checkpoint_inj same).2⟩
  · rw [task] at compares
    have previous : (backup.NewVolumeTaskSession origin length j).prevChecksumBinPath =
        GetChecksumBinPath backup.prevCopyMetaDirPath backup.copyName j := if_pos compares
    rw [previous]
    exact table _

theorem backup_arrangement (positive : 1 ≤ backup.blockSize.toNat) (addresses : 32*backup.blockSize.toNat < 2^32)
    (few : backup.IsIncrementBackup = true → ∀ config ∈ queue, config.m_maxIndex < 2^27) :
    Arrangement env (fun _ => volume) queue where
  sessions := sessions
  pooled := by
    intro config member
    obtain ⟨i,start,size,_,rfl⟩ := backup_member task sessions member
    exact ⟨positive,addresses⟩
  comparable := by
    intro config member diff
    refine few ?_ config member
    unfold TaskEnv.sessionEnv at diff
    rw [task] at diff
    dsimp only at diff
    split at diff
    · assumption
    · cases diff
  separate := fun _ member _ second => backup_separate task sessions member second
  coherent := fun _ member _ second => backup_coherent task sessions member second
  foreign := backup_foreign task sessions

end backup

def TaskEnv.on (env : TaskEnv) (task : ProtectTask) : TaskEnv := {env with task := task}

def VolumeBackupConfig.skipping (backup : VolumeBackupConfig) : VolumeBackupConfig := {backup with skipEmptyBlock := true}

def VolumeTaskSharedConfig.skipping (config : VolumeTaskSharedConfig) : VolumeTaskSharedConfig := {config with skipEmptyBlock := true}

section alike
variable {env : TaskEnv} {backup : VolumeBackupConfig} {volumeSize : UInt64} {queue : List VolumeTaskSharedConfig} {volume : Content}
  {config : VolumeTaskSharedConfig} {context : VolumeTaskSharedContext} {disk : Disk}

theorem skipping_sessions (sessions : (ProtectTask.backup backup volumeSize).sessions = some queue) :
    (ProtectTask.backup backup.skipping volumeSize).sessions = some (queue.map VolumeTaskSharedConfig.skipping) := by
  unfold ProtectTask.sessions VolumeBackupConfig.split at sessions ⊢
  dsimp only at sessions ⊢
  have mapped : splitVolume (fun offset size index => (backup.NewVolumeTaskSession offset size index).skipping) volumeSize
      backup.sessionSize (volumeSize.toNat+1) 0 0 = (splitVolume backup.NewVolumeTaskSession volumeSize backup.sessionSize
      (volumeSize.toNat+1) 0 0).map (List.map VolumeTaskSharedConfig.skipping) := split_map _
  rw [sessions] at mapped
  exact mapped

theorem skipping_skipped : Skipped ((env.on (.backup backup.skipping volumeSize)).sessionEnv config.skipping) volume context index ↔
    Skipped ((env.on (.backup backup volumeSize)).sessionEnv config) volume context index := Iff.rfl

variable (env backup volumeSize volume)

def EmptyBlock (config : VolumeTaskSharedConfig) (index : Nat) : Prop := ∀ k < config.nBytesToRead index,
  volume.byte (readPosition ((env.on (.backup backup volumeSize)).sessionEnv config) index+k) = 0

def SparsePatches (disk : Disk) (queue : List VolumeTaskSharedConfig) (path : String) : Patch → Prop :=
  Patches (env.on (.backup backup.skipping volumeSize)) (fun _ => volume) disk (queue.map VolumeTaskSharedConfig.skipping) path

-- The copy reads as zeros in the block although the block is not written.
def ReadsEmpty (disk : Disk) (queue : List VolumeTaskSharedConfig) (config : VolumeTaskSharedConfig) (index : Nat) : Prop :=
  ∀ before ∈ disk config.copyFilePath, ∀ k < config.nBytesToRead index,
    ZeroWithout (SparsePatches env backup volumeSize volume disk queue config.copyFilePath) before
      ((env.copyData config).position (config.consumeBlockOffset index)+k)

def CopyByte (disk : Disk) (config : VolumeTaskSharedConfig) (index k : Nat) : Option UInt8 :=
  (disk config.copyFilePath).bind fun content => content.byteAt ((env.copyData config).position (config.consumeBlockOffset index)+k)

variable {env backup volumeSize volume}

theorem sparse_patch (plain : config.skipEmptyBlock = false) :
    Rewrites ((env.on (.backup backup.skipping volumeSize)).sessionEnv config.skipping) volume context index ↔
    Rewrites ((env.on (.backup backup volumeSize)).sessionEnv config) volume context index ∧ ¬EmptyBlock env backup volumeSize volume config index := by
  have full : ¬LeftOut ((env.on (.backup backup volumeSize)).sessionEnv config) volume index := fun left => by
    cases plain.symm.trans left.1
  have sparse : LeftOut ((env.on (.backup backup.skipping volumeSize)).sessionEnv config.skipping) volume index ↔
      EmptyBlock env backup volumeSize volume config index := ⟨fun left => left.2,fun empty => ⟨rfl,empty⟩⟩
  unfold Rewrites
  rw [sparse,skipping_skipped]
  exact ⟨fun ⟨inside,fresh,part⟩ => ⟨⟨inside,fresh,full⟩,part⟩,fun ⟨⟨inside,fresh,_⟩,part⟩ => ⟨inside,fresh,part⟩⟩

section patches
variable (sessions : (ProtectTask.backup backup volumeSize).sessions = some queue) (plain : backup.skipEmptyBlock = false)
include sessions plain

theorem plain_member (member : config ∈ queue) : config.skipEmptyBlock = false ∧ 0 < config.sessionSize.toNat ∧
    config.blockSize = backup.blockSize := by
  obtain ⟨start,size,k,rfl,some⟩ := split_some sessions member
  exact ⟨plain,some,rfl⟩

theorem sparse_subset {path : String} {patch : Patch} (known : SparsePatches env backup volumeSize volume disk queue path patch) :
    Patches (env.on (.backup backup volumeSize)) (fun _ => volume) disk queue path patch := by
  obtain ⟨skipping,inside,target,context,found,index,rewrites,made⟩ := known
  obtain ⟨config,member,rfl⟩ := List.mem_map.mp inside
  exact ⟨config,member,target,context,found,index,((sparse_patch (plain_member sessions plain member).1).mp rewrites).1,made⟩

theorem sparse_omits {path : String} {patch : Patch} (known : Patches (env.on (.backup backup volumeSize)) (fun _ => volume) disk queue path patch)
    (omitted : ¬SparsePatches env backup volumeSize volume disk queue path patch) : ∃ config ∈ queue, config.copyFilePath = path ∧
      ∃ context ∈ InitSessionContext disk config (.backup backup volumeSize), ∃ index,
        Rewrites ((env.on (.backup backup volumeSize)).sessionEnv config) volume context index ∧
        EmptyBlock env backup volumeSize volume config index ∧
        patch = blockPatch ((env.on (.backup backup volumeSize)).sessionEnv config) volume index := by
  obtain ⟨config,member,target,context,found,index,rewrites,made⟩ := known
  refine ⟨config,member,target,context,found,index,rewrites,?_,made⟩
  by_contra filled
  exact omitted ⟨config.skipping,List.mem_map_of_mem member,target,context,found,index,
    (sparse_patch (plain_member sessions plain member).1).mpr ⟨rewrites,filled⟩,made⟩

theorem sparse_zeros (positive : 1 ≤ backup.blockSize.toNat) {path : String} {patch : Patch}
    (known : Patches (env.on (.backup backup volumeSize)) (fun _ => volume) disk queue path patch)
    (omitted : ¬SparsePatches env backup volumeSize volume disk queue path patch) :
    0 < patch.length ∧ ∀ k < patch.length, patch.data k = 0 := by
  obtain ⟨config,member,_,context,_,index,rewrites,empty,rfl⟩ := sparse_omits sessions plain known omitted
  obtain ⟨_,size,block⟩ := plain_member sessions plain member
  exact ⟨index_positive rewrites.1 (block ▸ positive) size,empty⟩

end patches

section runs
variable (sessions : (ProtectTask.backup backup volumeSize).sessions = some queue) (accepted : Accepted backup queue)
  {fresh another : Disk} {p q p' q' : Process} {actions later : List TaskAction}
  (reached : Reached (taskNext (env.on (.backup backup volumeSize))) Anything (.new fresh) p) (here : p.pc = .prepared)
  (other : Reached (taskNext (env.on (.backup backup.skipping volumeSize))) Anything (.new another) q) (there : q.pc = .prepared)
  (same : q.disk = p.disk)
  (plain : Runs (taskNext (env.on (.backup backup volumeSize))) (Observed (env.on (.backup backup volumeSize)) fun _ => volume)
    p actions p') (status : p'.task.m_status = .SUCCEED)
  (sparse : Runs (taskNext (env.on (.backup backup.skipping volumeSize)))
    (Observed (env.on (.backup backup.skipping volumeSize)) fun _ => volume) q later q') (success : q'.task.m_status = .SUCCEED)
include sessions accepted reached here other there same plain status sparse success

theorem both_copies (member : config ∈ queue) : ∃ before after content, p.disk config.copyFilePath = some before ∧
    p'.disk config.copyFilePath = some after ∧ q'.disk config.copyFilePath = some content ∧
    AllPatched (Patches (env.on (.backup backup volumeSize)) (fun _ => volume) p.disk queue config.copyFilePath) before after ∧
    AllPatched (SparsePatches env backup volumeSize volume p.disk queue config.copyFilePath) before content := by
  have full : Arrangement (env.on (.backup backup volumeSize)) (fun _ => volume) queue :=
    backup_arrangement rfl sessions accepted.positive accepted.addresses accepted.few
  have thin : Arrangement (env.on (.backup backup.skipping volumeSize)) (fun _ => volume) (queue.map VolumeTaskSharedConfig.skipping) := by
    refine backup_arrangement rfl (skipping_sessions sessions) accepted.positive accepted.addresses fun increment config member => ?_
    obtain ⟨config,inside,rfl⟩ := List.mem_map.mp member
    exact accepted.few increment config inside
  obtain ⟨before,after,prior,ended,all⟩ := copy_outcome full reached here plain status member
  obtain ⟨origin,content,first,last,fewer⟩ := copy_outcome thin other there sparse success (List.mem_map_of_mem member)
  rw [same] at first fewer
  cases Option.some.inj (prior.symm.trans first)
  exact ⟨before,after,content,prior,ended,last,all,fewer⟩

-- From one disk, the backup with skipEmptyBlock leaves the copy readable as the plain one does exactly where every empty block
-- that is neither marked nor unchanged reads as zeros without being written.
theorem skip_agrees :
    (∀ config ∈ queue, ∀ index ≤ config.m_maxIndex, ∀ k < config.nBytesToRead index,
      CopyByte env q'.disk config index k = CopyByte env p'.disk config index k) ↔
    ∀ config ∈ queue, ∀ context ∈ InitSessionContext p.disk config (.backup backup volumeSize), ∀ index ≤ config.m_maxIndex,
      EmptyBlock env backup volumeSize volume config index →
      ¬Skipped ((env.on (.backup backup volumeSize)).sessionEnv config) volume context index →
      ReadsEmpty env backup volumeSize volume p.disk queue config index := by
  constructor
  · intro agrees config member context found index inside empty fresh before prior k bound
    obtain ⟨_,after,content,first,ended,last,all,fewer⟩ :=
      both_copies sessions accepted reached here other there same plain status sparse success member
    cases Option.some.inj (first.symm.trans prior)
    have known : Patches (env.on (.backup backup volumeSize)) (fun _ => volume) p.disk queue config.copyFilePath
        (blockPatch ((env.on (.backup backup volumeSize)).sessionEnv config) volume index) :=
      ⟨config,member,rfl,context,found,index,⟨inside,fresh,fun left => by
        cases (plain_member sessions accepted.plain member).1.symm.trans left.1⟩,rfl⟩
    have covers : (blockPatch ((env.on (.backup backup volumeSize)).sessionEnv config) volume index).Covers
        ((env.copyData config).position (config.consumeBlockOffset index)+k) :=
      ⟨Nat.le_add_right _ _,Nat.add_lt_add_left bound _⟩
    by_cases written : SparsePatches env backup volumeSize volume p.disk queue config.copyFilePath
        (blockPatch ((env.on (.backup backup volumeSize)).sessionEnv config) volume index)
    · exact .inl ⟨_,written,covers⟩
    · refine AllPatched.zero_without fewer all (fun patch more omitted => sparse_zeros sessions accepted.plain accepted.positive more omitted)
        known written covers ?_
      have byte := agrees config member index inside k bound
      rw [CopyByte,CopyByte,last,ended] at byte
      exact byte
  · intro clear config member index inside k bound
    obtain ⟨before,after,content,first,ended,last,all,fewer⟩ :=
      both_copies sessions accepted reached here other there same plain status sparse success member
    have equal : content = after := by
      refine AllPatched.same fewer all (fun patch known => sparse_subset sessions accepted.plain known)
        (fun patch more omitted => sparse_zeros sessions accepted.plain accepted.positive more omitted) ?_
      intro patch more omitted address covers
      obtain ⟨config',second,target,context,found,index,rewrites,empty,rfl⟩ := sparse_omits sessions accepted.plain more omitted
      have zero := clear config' second context found index rewrites.1 empty rewrites.2.1 before (target ▸ first) _ covers.inside
      rw [← target]
      have place : (blockPatch ((env.on (.backup backup volumeSize)).sessionEnv config') volume index).position+(address-
          (blockPatch ((env.on (.backup backup volumeSize)).sessionEnv config') volume index).position) = address :=
        Nat.add_sub_cancel' covers.1
      exact place ▸ zero
    rw [CopyByte,CopyByte,last,ended,equal]

end runs

end alike

instance : Decidable (EmptyBlock env backup volumeSize volume config index) :=
  inferInstanceAs (Decidable (∀ k < config.nBytesToRead index, _))

def emptyVolume : Content := .of 1 zeros

def emptyDisk : Disk := fun path => if path = "/dev/sda1" then some emptyVolume else none

def fullEnv : TaskEnv := plainEnv.on (.backup plainBackup 1)
def sparseEnv : TaskEnv := plainEnv.on (.backup plainBackup.skipping 1)

def copyingActions : List TaskAction := threads 7++readers 10++writers 10++threads 18

theorem fullPrepared_some : (execute (taskNext fullEnv) (fun _ _ => true) (.new emptyDisk) (threads 7)).isSome = true := by
  decide +kernel

theorem sparsePrepared_some : (execute (taskNext sparseEnv) (fun _ _ => true) (.new emptyDisk) (threads 7)).isSome = true := by
  decide +kernel

theorem fullCopied_some : (execute (taskNext fullEnv) (fun p action => decide (Observed fullEnv (fun _ => emptyVolume) p action))
    ((execute (taskNext fullEnv) (fun _ _ => true) (.new emptyDisk) (threads 7)).get fullPrepared_some) copyingActions).isSome = true := by
  decide +kernel

theorem sparseCopied_some : (execute (taskNext sparseEnv) (fun p action => decide (Observed sparseEnv (fun _ => emptyVolume) p action))
    ((execute (taskNext sparseEnv) (fun _ _ => true) (.new emptyDisk) (threads 7)).get sparsePrepared_some) copyingActions).isSome = true := by
  decide +kernel

theorem skip_agrees_empty : ∃ p q : Process, p.task.m_status = .SUCCEED ∧ q.task.m_status = .SUCCEED ∧
    CopyByte plainEnv q.disk (plainBackup.NewVolumeTaskSession 0 1 0) 0 0 =
      CopyByte plainEnv p.disk (plainBackup.NewVolumeTaskSession 0 1 0) 0 0 := by
  have first : Runs _ Anything _ _ _ := execute_runs (fun _ _ _ => trivial) (Option.some_get fullPrepared_some).symm
  have second : Runs _ Anything _ _ _ := execute_runs (fun _ _ _ => trivial) (Option.some_get sparsePrepared_some).symm
  have full := execute_runs (fun _ _ => of_decide_eq_true) (Option.some_get fullCopied_some).symm
  have sparse := execute_runs (fun _ _ => of_decide_eq_true) (Option.some_get sparseCopied_some).symm
  have same : ((execute (taskNext sparseEnv) (fun _ _ => true) (.new emptyDisk) (threads 7)).get sparsePrepared_some).disk =
      ((execute (taskNext fullEnv) (fun _ _ => true) (.new emptyDisk) (threads 7)).get fullPrepared_some).disk := rfl
  have made : ((execute (taskNext fullEnv) (fun _ _ => true) (.new emptyDisk) (threads 7)).get fullPrepared_some).disk
      "/copy/c.copydata.img" = some emptyVolume := by decide +kernel
  have agrees := skip_agrees rfl ⟨rfl,by decide,by decide,fun increment => absurd increment (by decide)⟩ ⟨_,first⟩ (by decide +kernel)
    ⟨_,second⟩ (by decide +kernel) same full (by decide +kernel) sparse (by decide +kernel)
  refine ⟨_,_,?_,?_,agrees.mpr ?_ _ List.mem_cons_self 0 (by decide) 0 (by decide)⟩
  · decide +kernel
  · decide +kernel
  · intro config member context found index inside empty fresh before prior k bound
    cases List.mem_singleton.mp member
    have first : index = 0 := Nat.le_zero.mp inside
    subst first
    have only : k = 0 := Nat.lt_one_iff.mp bound
    subst only
    cases Option.some.inj (prior.symm.trans made)
    exact .inr ⟨by decide +kernel,.inl (by decide +kernel)⟩

-- Over an older copy that holds 'a', the backup of the empty volume with skipEmptyBlock leaves the 'a' where it is.
def olderDisk : Disk := fun path =>
  if path = "/dev/sda1" then some emptyVolume else if path = "/copy/c.copydata.img" then some letter else none

def overActions : List TaskAction := threads 11++readers 10++writers 10++threads 18

theorem skip_keeps_old_block : ¬∀ p, Reached (taskNext fullEnv)
    (fun p action => Observed fullEnv (fun _ => emptyVolume) p action ∧ Faultless action = true) (.new olderDisk) p →
    p.task.m_status = .SUCCEED → ∀ q, Reached (taskNext sparseEnv)
    (fun p action => Observed sparseEnv (fun _ => emptyVolume) p action ∧ Faultless action = true) (.new olderDisk) q →
    q.task.m_status = .SUCCEED → CopyByte plainEnv q.disk (plainBackup.NewVolumeTaskSession 0 1 0) 0 0 =
      CopyByte plainEnv p.disk (plainBackup.NewVolumeTaskSession 0 1 0) 0 0 := by
  intro always
  have full : (execute (taskNext fullEnv) (fun p action => decide (Observed fullEnv (fun _ => emptyVolume) p action) && Faultless action)
      (.new olderDisk) overActions).any (fun p => decide (p.task.m_status = .SUCCEED ∧
        CopyByte plainEnv p.disk (plainBackup.NewVolumeTaskSession 0 1 0) 0 0 = some 0)) = true := by decide +kernel
  have sparse : (execute (taskNext sparseEnv) (fun p action => decide (Observed sparseEnv (fun _ => emptyVolume) p action) && Faultless action)
      (.new olderDisk) overActions).any (fun q => decide (q.task.m_status = .SUCCEED ∧
        CopyByte plainEnv q.disk (plainBackup.NewVolumeTaskSession 0 1 0) 0 0 = some 97)) = true := by decide +kernel
  obtain ⟨p,first,written⟩ := execute_ends (fun p action passed => by simpa using passed) full
  obtain ⟨q,second,skipped⟩ := execute_ends (fun p action passed => by simpa using passed) sparse
  obtain ⟨succeeded,zero⟩ := of_decide_eq_true written
  obtain ⟨ended,old⟩ := of_decide_eq_true skipped
  have same := always p ⟨_,first⟩ succeeded q ⟨_,second⟩ ended
  rw [zero,old] at same
  cases same

end VolumeBackup
