import VolumeBackup.LabelledRuns
import VolumeBackup.ProtectTask
import VolumeBackup.SessionSplit

namespace VolumeBackup
open ByteMemory LabelledRuns

section resource
variable (disk : Disk)

-- The file is created only where there is none, and no file is longer than a signed 64-bit size allows;
-- the calls that can succeed do.
def TruncateCreateFile (path : String) (size : UInt64) : Bool × Disk :=
  if IsFileExists disk path then (false,disk)
  else if size.toNat < 2^63 then (true,disk.put path (Content.empty.resize size.toNat))
  else (false,disk.put path .empty)

def CreateFragmentBinaryBackupCopy : List (String × UInt64) → Disk → Bool × Disk
  | [],disk => (true,disk)
  | (path,size)::rest,disk =>
    match TruncateCreateFile disk path size with
    | (true,disk) => CreateFragmentBinaryBackupCopy rest disk
    | (false,disk) => (false,disk)

def ResourceExists (config : VolumeBackupConfig) (volumeSize : UInt64) : Option Bool :=
  (config.copyResource volumeSize).map fun files => files.all fun file => IsFileExists disk file.1

-- PrepareCopyResource of a backup: neither format has anything to attach or to initialize.
def PrepareCopyResource (config : VolumeBackupConfig) (volumeSize : UInt64) : Option (Bool × Disk) :=
  (config.copyResource volumeSize).map fun files =>
    if config.backupType = .FULL ∧ !(files.all fun file => IsFileExists disk file.1) then CreateFragmentBinaryBackupCopy files disk
    else (true,disk)

end resource

def EmptyDirectory (disk : Disk) (dirPath : String) : Prop := ∀ filename, disk (PathJoin dirPath filename) = none

-- A full backup into an empty directory gets just the files of its sessions, each with its session's
-- size, and they count as there just where all of them are.
structure PreparesSessions (config : VolumeBackupConfig) (volumeSize : UInt64) (sessions : List VolumeTaskSharedConfig) : Prop where
  created : ∀ disk, EmptyDirectory disk config.outputCopyDataDirPath →
    ∃ after, PrepareCopyResource disk config volumeSize = some (true,after) ∧
      ∀ path size, (disk path = none ∧ ∃ content, after path = some content ∧ content.size = size) ↔
        ∃ session ∈ sessions, path = session.copyFilePath ∧ size = session.sessionSize.toNat
  exists_iff : ∀ disk, ResourceExists disk config volumeSize = some true ↔
    ∀ session ∈ sessions, IsFileExists disk session.copyFilePath = true

variable {env : TaskEnv} {config : VolumeBackupConfig} {volumeSize : UInt64} {disk : Disk} {p : Process}
  {β : Type} {piece : UInt64 → UInt64 → Nat → β} {maxSessionSize offset : UInt64} {fragments : List (String × UInt64)}

theorem truncate_short {size : UInt64} (fresh : IsFileExists disk path = false) (short : size.toNat < 2^63) :
    TruncateCreateFile disk path size = (true,disk.put path (Content.empty.resize size.toNat)) := by
  unfold TruncateCreateFile
  rw [if_neg (by simp [fresh]),if_pos short]

theorem truncate_long {size : UInt64} (fresh : IsFileExists disk path = false) (long : ¬size.toNat < 2^63) :
    TruncateCreateFile disk path size = (false,disk.put path .empty) := by
  unfold TruncateCreateFile
  rw [if_neg (by simp [fresh]),if_neg long]

theorem create_runs : Reached (taskNext env) Anything {p with pc := .create fragments}
    {p with
      disk := (CreateFragmentBinaryBackupCopy fragments p.disk).2
      pc := if (CreateFragmentBinaryBackupCopy fragments p.disk).1 then .validate else .unprepared} := by
  induction fragments generalizing p with
  | nil =>
      have ended : taskNext env {p with pc := .create []} (.thread .yes) = some {p with pc := .validate} := rfl
      exact Reached.refl.step ended trivial
  | cons fragment rest ih =>
      obtain ⟨path,size⟩ := fragment
      by_cases there : IsFileExists p.disk path = true
      · have refused : taskNext env {p with pc := .create ((path,size)::rest)} (.thread .yes) = some {p with pc := .unprepared} := by
          simp [taskNext,taskStep,prepareStep,there]
        have same : CreateFragmentBinaryBackupCopy ((path,size)::rest) p.disk = (false,p.disk) := by
          simp [CreateFragmentBinaryBackupCopy,TruncateCreateFile,there]
        rw [same]
        exact Reached.refl.step refused trivial
      · simp only [Bool.not_eq_true] at there
        have opened : taskNext env {p with pc := .create ((path,size)::rest)} (.thread .yes) =
            some {p with disk := p.disk.put path .empty,pc := .truncate path size rest} := by
          simp [taskNext,taskStep,prepareStep,there,Reply.isYes]
        have begun := (@Reached.refl _ _ (taskNext env) Anything _).step opened trivial
        by_cases short : size.toNat < 2^63
        · have same : CreateFragmentBinaryBackupCopy ((path,size)::rest) p.disk =
              CreateFragmentBinaryBackupCopy rest (p.disk.put path (Content.empty.resize size.toNat)) := by
            simp only [CreateFragmentBinaryBackupCopy,truncate_short there short]
          have cut : taskNext env {p with disk := p.disk.put path .empty,pc := .truncate path size rest} (.thread .yes) =
              some {p with disk := p.disk.put path (Content.empty.resize size.toNat),pc := .create rest} := by
            simp [taskNext,taskStep,prepareStep,Reply.isYes]
          rw [same]
          exact (begun.step cut trivial).trans (@ih {p with disk := p.disk.put path (Content.empty.resize size.toNat)})
        · have same : CreateFragmentBinaryBackupCopy ((path,size)::rest) p.disk = (false,p.disk.put path .empty) := by
            simp only [CreateFragmentBinaryBackupCopy,truncate_long there short]
          have failed : taskNext env {p with disk := p.disk.put path .empty,pc := .truncate path size rest} (.thread (.no none)) =
              some {p with disk := p.disk.put path .empty,pc := .unprepared} := by
            simp [taskNext,taskStep,prepareStep,Reply.isYes]
          rw [same]
          exact begun.step failed trivial

theorem prepare_runs (task : env.task = .backup config volumeSize) (here : p.pc = .resource)
    (prepared : PrepareCopyResource p.disk config volumeSize = some (ok,after)) :
    Reached (taskNext env) Anything p {p with disk := after,pc := if ok then .validate else .unprepared} := by
  obtain ⟨files,split,result⟩ := Option.map_eq_some_iff.mp prepared
  have first : taskNext env p (.thread .yes) = some {p with
      pc := if config.backupType = .FULL ∧ !(files.all fun file => IsFileExists p.disk file.1) then .create files else .validate} := by
    simp [taskNext,taskStep,prepareStep,here,task,split]
  have asked := (@Reached.refl _ _ (taskNext env) Anything p).step first trivial
  split at result
  · rename_i missing
    rw [if_pos missing] at asked
    have created := asked.trans create_runs
    rwa [result] at created
  · rename_i present
    rw [if_neg present] at asked
    cases result
    exact asked

theorem split_ends (positive : 0 < maxSessionSize.toNat) (room : volumeSize.toNat+maxSessionSize.toNat < 2^64)
    (enough : volumeSize.toNat-offset.toNat < rounds) :
    ∃ pieces, splitVolume piece volumeSize maxSessionSize rounds offset index = some pieces := by
  induction rounds generalizing offset index with
  | zero => omega
  | succ rounds ih =>
      rw [splitVolume]
      split
      · rename_i inside
        have bound := UInt64.lt_iff_toNat_lt.mp inside
        have next := @ih (offset+if volumeSize ≤ offset+maxSessionSize then volumeSize-offset else maxSessionSize) (index+1) (by
          split
          · rename_i last
            rw [UInt64.toNat_add,UInt64.toNat_sub_of_le _ _ (UInt64.le_of_lt inside)]
            have limit := volumeSize.toNat_lt
            omega
          · rw [UInt64.toNat_add]
            omega)
        obtain ⟨pieces,more⟩ := next
        exact ⟨_,by simp only [more]; rfl⟩
      · exact ⟨[],rfl⟩

theorem split_single (some : 0 < volumeSize) (fits : volumeSize ≤ maxSessionSize) :
    splitVolume piece volumeSize maxSessionSize (volumeSize.toNat+1) 0 0 = .some [piece 0 volumeSize 0] := by
  have positive := UInt64.lt_iff_toNat_lt.mp some
  simp only [splitVolume,some,fits,UInt64.zero_add,UInt64.sub_zero,if_true]
  obtain ⟨rounds,more⟩ : ∃ rounds, volumeSize.toNat = rounds+1 := ⟨volumeSize.toNat-1,by simp at positive; omega⟩
  simp [more,splitVolume]

theorem split_several (positive : 0 < maxSessionSize) (long : maxSessionSize < volumeSize)
    (split : splitVolume piece volumeSize maxSessionSize rounds 0 0 = some pieces) :
    ∃ size rest, pieces = piece 0 maxSessionSize 0::piece maxSessionSize size 1::rest := by
  cases splitVolume_sound split with
  | done past => exact absurd (UInt64.lt_trans positive long) (UInt64.not_lt.mpr past)
  | next _ cut rest =>
      rcases cut with ⟨_,last⟩ | ⟨rfl,_⟩
      · rw [UInt64.zero_add] at last
        exact absurd long (UInt64.not_lt.mpr last)
      · rw [UInt64.zero_add] at rest
        cases rest with
        | done past => exact absurd long (UInt64.not_lt.mpr past)
        | next => exact ⟨_,_,rfl⟩

theorem create_one (fresh : IsFileExists disk path = false) (short : size.toNat < 2^63) :
    CreateFragmentBinaryBackupCopy [(path,size)] disk = (true,disk.put path (Content.empty.resize size.toNat)) := by
  simp only [CreateFragmentBinaryBackupCopy,truncate_short fresh short]

-- The second part has the name of the first, which is there by then.
theorem create_twice (fresh : IsFileExists disk path = false) :
    (CreateFragmentBinaryBackupCopy ((path,size)::(path,other)::rest) disk).1 = false := by
  by_cases short : size.toNat < 2^63
  · simp only [CreateFragmentBinaryBackupCopy,truncate_short fresh short]
    simp [TruncateCreateFile,IsFileExists]
  · simp only [CreateFragmentBinaryBackupCopy,truncate_long fresh short]

variable {sessions : List VolumeTaskSharedConfig}

theorem prepares_single (format : config.copyFormat = .BIN) (full : config.backupType = .FULL)
    (some : 0 < volumeSize) (fits : volumeSize ≤ config.sessionSize) (room : volumeSize.toNat < 2^63) :
    PreparesSessions config volumeSize [config.NewVolumeTaskSession 0 volumeSize 0] := by
  have files : config.copyResource volumeSize =
      .some [(GetCopyDataFilePath config.outputCopyDataDirPath config.copyName .BIN 0,volumeSize)] := by
    simp only [VolumeBackupConfig.copyResource,format]
    exact split_single some fits
  have path : (config.NewVolumeTaskSession 0 volumeSize 0).copyFilePath =
      GetCopyDataFilePath config.outputCopyDataDirPath config.copyName .BIN 0 := by
    simp only [VolumeBackupConfig.NewVolumeTaskSession,format]
  refine ⟨fun disk empty => ?_,fun disk => ?_⟩
  · have none : disk (GetCopyDataFilePath config.outputCopyDataDirPath config.copyName .BIN 0) = .none := empty _
    have fresh : IsFileExists disk (GetCopyDataFilePath config.outputCopyDataDirPath config.copyName .BIN 0) = false := by
      simp [IsFileExists,none]
    refine ⟨disk.put (GetCopyDataFilePath config.outputCopyDataDirPath config.copyName .BIN 0) (Content.empty.resize volumeSize.toNat),
      by simp [PrepareCopyResource,files,full,fresh,create_one fresh room],fun other size => ?_⟩
    simp only [List.mem_singleton,exists_eq_left,path]
    constructor
    · rintro ⟨absent,content,present,rfl⟩
      by_cases same : other = GetCopyDataFilePath config.outputCopyDataDirPath config.copyName .BIN 0
      · subst same
        cases put_same.symm.trans present
        exact ⟨rfl,rfl⟩
      · rw [put_other same,absent] at present
        cases present
    · rintro ⟨rfl,rfl⟩
      exact ⟨none,_,put_same,rfl⟩
  · simp [ResourceExists,files,path]

-- A backup of a BIN copy prepares the files of its sessions just where it has one session; its thread prepares what
-- PrepareCopyResource does.
theorem copy_prepared (config : VolumeBackupConfig) (volumeSize : UInt64) (full : config.backupType = .FULL)
    (format : config.copyFormat = .BIN) (some : 1 ≤ volumeSize.toNat) (positive : 1 ≤ config.sessionSize.toNat)
    (room : volumeSize.toNat+config.sessionSize.toNat < 2^64) :
    ((∃ sessions, config.split volumeSize config.NewVolumeTaskSession = .some sessions ∧
      PreparesSessions config volumeSize sessions) ↔ volumeSize ≤ config.sessionSize) ∧
    ∀ (env : TaskEnv) (p : Process) (ok : Bool) (after : Disk), env.task = .backup config volumeSize → p.pc = .resource →
      PrepareCopyResource p.disk config volumeSize = .some (ok,after) →
      Reached (taskNext env) Anything p {p with disk := after,pc := if ok then .validate else .unprepared} := by
  refine ⟨?_,fun env p ok after => prepare_runs⟩
  constructor
  · rintro ⟨sessions,_,prepares⟩
    apply UInt64.not_lt.mp
    intro long
    have ends := @split_ends volumeSize _ (fun _ sessionSize _ =>
      (GetCopyDataFilePath config.outputCopyDataDirPath config.copyName .BIN 0,sessionSize)) config.sessionSize 0
      (volumeSize.toNat+1) 0 positive room (by simp)
    obtain ⟨fragments,split⟩ := ends
    obtain ⟨size,rest,rfl⟩ := split_several (UInt64.lt_iff_toNat_lt.mpr positive) long split
    obtain ⟨after,prepared,_⟩ := prepares.created (fun _ => none) fun _ => rfl
    have files : config.copyResource volumeSize =
        .some ((GetCopyDataFilePath config.outputCopyDataDirPath config.copyName .BIN 0,config.sessionSize)::
          (GetCopyDataFilePath config.outputCopyDataDirPath config.copyName .BIN 0,size)::rest) := by
      simp only [VolumeBackupConfig.copyResource,format]
      exact split
    have fresh : IsFileExists (fun _ => none) (GetCopyDataFilePath config.outputCopyDataDirPath config.copyName .BIN 0) = false := rfl
    have refused : (CreateFragmentBinaryBackupCopy
        ((GetCopyDataFilePath config.outputCopyDataDirPath config.copyName .BIN 0,config.sessionSize)::
          (GetCopyDataFilePath config.outputCopyDataDirPath config.copyName .BIN 0,size)::rest) fun _ => none).1 = false :=
      create_twice fresh
    simp only [PrepareCopyResource,files,full,Option.map_some,List.all_cons,fresh] at prepared
    simp at prepared
    rw [prepared] at refused
    cases refused
  · intro fits
    have above : 0 < volumeSize := UInt64.lt_iff_toNat_lt.mpr some
    refine ⟨_,split_single above fits,prepares_single format full above fits ?_⟩
    have bound := UInt64.le_iff_toNat_le.mp fits
    omega

def bytewiseConfig (sessionSize : UInt64) : VolumeBackupConfig where
  volumePath := "/dev/sda1"
  prevCopyMetaDirPath := ""
  outputCopyDataDirPath := "/data"
  outputCopyMetaDirPath := "/meta"
  checkpointDirPath := "/meta"
  sessionSize := sessionSize

theorem copy_prepared_whole : (∃ sessions, (bytewiseConfig 2).split 2 (bytewiseConfig 2).NewVolumeTaskSession = .some sessions ∧
    PreparesSessions (bytewiseConfig 2) 2 sessions) ↔ (2 : UInt64) ≤ (bytewiseConfig 2).sessionSize :=
  (copy_prepared (bytewiseConfig 2) 2 rfl rfl (by decide) (by decide) (by decide)).1

-- Cut in two, the volume cannot be backed up: the second part is to be created under the first one's name.
theorem copy_prepared_parts : ¬∃ sessions, (bytewiseConfig 1).split 2 (bytewiseConfig 1).NewVolumeTaskSession = .some sessions ∧
    PreparesSessions (bytewiseConfig 1) 2 sessions := by
  rintro ⟨sessions,_,prepares⟩
  obtain ⟨after,prepared,_⟩ := prepares.created (fun _ => none) fun _ => rfl
  have refused : (PrepareCopyResource (fun _ => none) (bytewiseConfig 1) 2).map Prod.fst = some false := by decide +kernel
  rw [prepared] at refused
  cases refused

end VolumeBackup
