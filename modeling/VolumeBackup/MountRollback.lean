import VolumeBackup.LabelledRuns
import VolumeBackup.RecordNames

namespace VolumeBackup
open ByteMemory LabelledRuns LinuxDeviceMapperMountProvider

structure Answers where
  replies : List Bool := []
  opened : Nat → Bool := fun _ => true
  granted : Nat → Nat → Bool := fun _ _ => true
  now : Nat := 0

def MountHost.answered (host : MountHost) (answers : Answers) : MountHost :=
  {host with replies := answers.replies,opened := answers.opened,granted := answers.granted,now := answers.now}

inductive MountAction where
  | mount (provider : LinuxDeviceMapperMountProvider) (answers : Answers)
  | umount (mountRecordJsonFilePath : String) (answers : Answers)

-- Mounts of copies that share an output directory, whether they succeed or not, and unmounts by a record.
def mountNext (json : MountJson) (outputDirPath : String) (host : MountHost) : MountAction → Option MountHost
  | .mount provider answers =>
    if provider.m_outputDirPath = outputDirPath then some (provider.Mount json (host.answered answers)).2 else none
  | .umount mountRecordJsonFilePath answers =>
    (VolumeCopyUmountProviderBuild json host mountRecordJsonFilePath).map fun provider => (provider.Umount (host.answered answers)).2

structure LeavesOthers (host after : MountHost) : Prop where
  attached : List.Sublist host.attached after.attached
  dmDevices : List.Sublist host.dmDevices after.dmDevices
  mounts : List.Sublist host.mounts after.mounts
  records : ∀ path, CreationRecord path → (host.files.lookup path).isSome → (after.files.lookup path).isSome

-- A file in the directory that the rollback of a mount takes for a record of what the mount has made.
def IsRecord (dir path : String) : Prop :=
  path = PathJoin dir (GetFileName path) ∧ ((findText (GetFileName path) LOOPBACK_DEVICE_CREATION_RECORD_SUFFIX).isSome ∨
    (findText (GetFileName path) DEVICE_MAPPER_DEVICE_CREATION_RECORD_SUFFIX).isSome)

def Unrecorded (dir : String) (host : MountHost) : Prop := ∀ file ∈ host.files, ¬IsRecord dir file.1

inductive Own (dir : String) (host : MountHost) (path : String) : Prop where
  | loop (n : Nat) (fresh : host.attached.lookup (loopDevice n) = none) (here : path = PathJoin dir (loopRecordName n))
  | dm (now : Nat) (fresh : ∀ made ∈ host.dmDevices, made.name ≠ dmName now) (here : path = PathJoin dir (dmRecordName now))

-- A state that a mount on the host may come to: the host is as it was, with devices more, and the records in the
-- directory are of those.
structure Made (dir : String) (host s : MountHost) : Prop where
  others : LeavesOthers host s
  own : ∀ file ∈ s.files, IsRecord dir file.1 → Own dir host file.1

section step
variable {provider : LinuxDeviceMapperMountProvider} {json : MountJson} {dir name path : String} {host s after : MountHost}

theorem LeavesOthers.refl : LeavesOthers host host := ⟨.refl _,.refl _,.refl _,fun _ _ there => there⟩

theorem lookup_none {entries : List (String × β)} (none : entries.lookup name = none) : ∀ entry ∈ entries, entry.1 ≠ name := by
  intro entry inside same
  have differ := List.lookup_eq_none_iff.mp none entry inside
  simp [same] at differ

theorem Own.isRecord (own : Own dir host path) : IsRecord dir path := by
  cases own with
  | loop n fresh here =>
      rw [here]
      unfold IsRecord
      rw [file_name loopRecord_plain]
      exact ⟨rfl,.inl contains_ending⟩
  | dm now fresh here =>
      rw [here]
      unfold IsRecord
      rw [file_name dmRecord_plain]
      exact ⟨rfl,.inr contains_ending⟩

theorem Made.same (made : Made dir host s) (attached : after.attached = s.attached) (dmDevices : after.dmDevices = s.dmDevices)
    (mounts : after.mounts = s.mounts) (files : after.files = s.files) : Made dir host after := by
  refine ⟨⟨?_,?_,?_,?_⟩,?_⟩
  · rw [attached]
    exact made.others.attached
  · rw [dmDevices]
    exact made.others.dmDevices
  · rw [mounts]
    exact made.others.mounts
  · rw [files]
    exact made.others.records
  · rw [files]
    exact made.own

theorem create_made (own : Own dir host (PathJoin dir name)) (made : Made dir host s) :
    Made dir host (CreateEmptyFile s dir name).2 := by
  simp only [CreateEmptyFile]
  split
  · split
    · exact made.same rfl rfl rfl rfl
    · refine ⟨⟨made.others.attached,made.others.dmDevices,made.others.mounts,?_⟩,?_⟩
      · intro path record there
        have kept : (s.ask.2.files.lookup path).isSome := made.others.records path record there
        rw [List.lookup_append,Option.isSome_or,kept,Bool.true_or]
      · intro file inside record
        apply (List.mem_append.mp inside).elim
        · intro earlier
          exact made.own file earlier record
        · intro last
          rw [List.mem_singleton.mp last]
          exact own
  · exact made.same rfl rfl rfl rfl

theorem remove_made (fresh : Unrecorded dir host) (own : Own dir host (PathJoin dir name)) (made : Made dir host s) :
    Made dir host (RemoveFileAt s dir name).2 := by
  simp only [RemoveFileAt]
  split
  · split
    · refine ⟨⟨made.others.attached,made.others.dmDevices,made.others.mounts,?_⟩,?_⟩
      · intro path record there
        have kept := made.others.records path record there
        -- The host has no record in the directory, so that the file removed is none of its.
        have apart : path ≠ PathJoin dir name := by
          intro same
          obtain ⟨file,inside,equal⟩ := List.lookup_isSome_iff.mp there
          have at_path : path = file.1 := by simpa using equal
          apply fresh file inside
          rw [← at_path,same]
          exact own.isRecord
        obtain ⟨file,inside,equal⟩ := List.lookup_isSome_iff.mp kept
        apply List.lookup_isSome_iff.mpr
        have at_path : path = file.1 := by simpa using equal
        refine ⟨file,List.mem_filter.mpr ⟨inside,?_⟩,equal⟩
        rw [← at_path]
        exact decide_eq_true apart
      · intro file inside record
        exact made.own file (List.mem_filter.mp inside).1 record
    · exact made.same rfl rfl rfl rfl
  · exact made

theorem saveLoop_device (n : Nat) : SaveLoopDeviceCreationRecord s dir (loopDevice n) = (CreateEmptyFile s dir (loopRecordName n)).2 := by
  unfold SaveLoopDeviceCreationRecord loopDevice
  rw [if_pos starts_front,drop_front]
  rfl

theorem removeLoop_device (n : Nat) : RemoveLoopDeviceCreationRecord s dir (loopDevice n) = (RemoveFileAt s dir (loopRecordName n)).2 := by
  unfold RemoveLoopDeviceCreationRecord loopDevice
  rw [if_pos starts_front,drop_front]
  rfl

theorem saveLoop_made {n : Nat} (own : Own dir host (PathJoin dir (loopRecordName n))) (made : Made dir host s) :
    Made dir host (SaveLoopDeviceCreationRecord s dir (loopDevice n)) := by
  rw [saveLoop_device]
  exact create_made own made

theorem removeLoop_made {n : Nat} (fresh : Unrecorded dir host) (own : Own dir host (PathJoin dir (loopRecordName n)))
    (made : Made dir host s) : Made dir host (RemoveLoopDeviceCreationRecord s dir (loopDevice n)) := by
  rw [removeLoop_device]
  exact remove_made fresh own made

theorem saveDm_made {now : Nat} (own : Own dir host (PathJoin dir (dmRecordName now))) (made : Made dir host s) :
    Made dir host (SaveDmDeviceCreationRecord s dir (dmName now)) := by
  unfold SaveDmDeviceCreationRecord
  split
  · exact made
  · exact create_made own made

theorem removeDm_made {now : Nat} (fresh : Unrecorded dir host) (own : Own dir host (PathJoin dir (dmRecordName now)))
    (made : Made dir host s) : Made dir host (RemoveDmDeviceCreationRecord s dir (dmName now)) := by
  unfold RemoveDmDeviceCreationRecord
  split
  · exact made
  · exact remove_made fresh own made

theorem attach_made (here : provider.m_outputDirPath = dir) (filePath : String) (made : Made dir host s) :
    Made dir host (provider.AttachDmLoopDevice filePath s).2 := by
  unfold AttachDmLoopDevice
  split
  · rename_i after failed
    obtain ⟨attached,dmDevices,mounts,files⟩ := attach_none failed
    exact made.same attached dmDevices mounts files
  · rename_i device after done
    obtain ⟨free,rfl⟩ := attach_some done
    obtain ⟨n,number⟩ : ∃ n, freeLoopDevice s = loopDevice n := ⟨_,rfl⟩
    have vacant : s.attached.lookup (loopDevice n) = none := number ▸ free_fresh
    have fresh : host.attached.lookup (loopDevice n) = none := by
      apply List.lookup_eq_none_iff.mpr
      intro entry inside
      exact List.lookup_eq_none_iff.mp vacant entry (made.others.attached.subset inside)
    rw [free,number,here]
    apply saveLoop_made (.loop n fresh rfl)
    exact ⟨⟨made.others.attached.trans (List.sublist_append_left _ _),made.others.dmDevices,made.others.mounts,made.others.records⟩,
      made.own⟩

theorem attachSegments_made (here : provider.m_outputDirPath = dir) (segments : List CopySegment)
    (mountRecord : LinuxDeviceMapperCopyMountRecord) (made : Made dir host s) :
    Made dir host (provider.attachSegments segments mountRecord s).2 := by
  induction segments generalizing mountRecord s with
  | nil => exact made
  | cons segment rest ih =>
      have attached := attach_made here (GetCopyDataFilePath provider.m_copyDataDirPath provider.m_copyName .BIN segment.index) made
      simp only [attachSegments]
      split
      · rename_i failed
        rwa [failed] at attached
      · rename_i done
        rw [done] at attached
        exact ih _ attached

theorem dmTargets_made (copySlices : List CopySliceTarget) (made : Made dir host s) : Made dir host (dmTargets copySlices s).2 := by
  induction copySlices generalizing s with
  | nil => exact made
  | cons copySlice rest ih =>
      have asked : Made dir host s.ask.2 := made.same rfl rfl rfl rfl
      simp only [dmTargets]
      split
      · exact ih asked
      · exact asked

-- What the device mapper does to devices of a name that the host has none of.
theorem Made.device (vacant : ∀ device ∈ host.dmDevices, device.name ≠ name) (only : OnlyDevice name s after) (made : Made dir host s) :
    Made dir host after := by
  refine ⟨⟨?_,?_,?_,?_⟩,?_⟩
  · rw [only.attached]
    exact made.others.attached
  · have kept : host.dmDevices.filter (fun device => device.name ≠ name) = host.dmDevices := by
      apply List.filter_eq_self.mpr
      intro device inside
      exact decide_eq_true (vacant device inside)
    have others := made.others.dmDevices.filter fun device => device.name ≠ name
    rw [kept,← only.others] at others
    exact others.trans List.filter_sublist
  · rw [only.mounts]
    exact made.others.mounts
  · rw [only.files]
    exact made.others.records
  · rw [only.files]
    exact made.own

theorem dmCreate_made (device : String) (targets : List DmTargetLinear) (readOnly : Bool) (made : Made dir host s) :
    Made dir host (dmCreateDevice s device targets readOnly).2 := by
  have only : OnlyDevice device s (dmCreateDevice s device targets readOnly).2 := dmCreate_device
  cases dmCreate_vacant with
  | inl vacant => exact made.device (fun other inside => vacant other (made.others.dmDevices.subset inside)) only
  | inr same => exact made.same only.attached same only.mounts only.files

theorem createDm_made (here : provider.m_outputDirPath = dir) (copySlices : List CopySliceTarget) (made : Made dir host s) :
    Made dir host (provider.CreateDmDevice copySlices s).2 := by
  simp only [CreateDmDevice]
  have asked := dmTargets_made copySlices made
  split
  · rename_i failed
    rwa [failed] at asked
  · rename_i targets middle done
    rw [done] at asked
    have created := dmCreate_made (GenerateNewDmDeviceName s) targets provider.m_readOnly asked
    split
    · rename_i failed
      rwa [failed] at created
    · rename_i path after done
      rw [done] at created
      rw [here]
      apply saveDm_made _ created
      -- The device mapper has no two devices of one name.
      apply Own.dm s.now _ rfl
      intro device inside
      exact (dmCreate_some done).2 device (asked.others.dmDevices.subset inside)

theorem chooseDevice_made (here : provider.m_outputDirPath = dir) (mountRecord : LinuxDeviceMapperCopyMountRecord)
    (made : Made dir host s) : Made dir host (provider.chooseDevice mountRecord s).2 := by
  unfold chooseDevice
  split
  · exact made
  · have created := createDm_made here mountRecord.copySlices made
    split
    · rename_i failed
      rwa [failed] at created
    · rename_i done
      rwa [done] at created

theorem linuxMount_made (target devicePath mountFsType mountOptions : String) (readOnly : Bool) (made : Made dir host s) :
    Made dir host (linuxMount s target devicePath mountFsType mountOptions readOnly).2 := by
  simp only [linuxMount]
  split
  · exact ⟨⟨made.others.attached,made.others.dmDevices,made.others.mounts.trans (List.sublist_append_left _ _),
      made.others.records⟩,made.own⟩
  · exact made.same rfl rfl rfl rfl

theorem loopbackDetach_made {device : String} (vacant : host.attached.lookup device = none) (made : Made dir host s) :
    Made dir host (loopbackDetach s device).2 := by
  simp only [loopbackDetach]
  split
  · refine ⟨⟨?_,made.others.dmDevices,made.others.mounts,made.others.records⟩,made.own⟩
    have kept : host.attached.filter (fun entry => entry.1 ≠ device) = host.attached := by
      apply List.filter_eq_self.mpr
      intro entry inside
      exact decide_eq_true (lookup_none vacant entry inside)
    rw [← kept]
    exact made.others.attached.filter _
  · exact made.same rfl rfl rfl rfl

-- What the question, the detachment and the removal of the record all keep.
theorem detach_keeps {holds : MountHost → Prop} (asks : ∀ s, holds s → holds s.ask.2) (detaches : ∀ s, holds s → holds (loopbackDetach s name).2)
    (removes : ∀ s, holds s → holds (RemoveLoopDeviceCreationRecord s provider.m_outputDirPath name)) (before : holds s) :
    holds (provider.DetachLoopDeviceIfAttached name s).2 := by
  have asked : holds (loopbackAttached s name).2 := asks s before
  unfold DetachLoopDeviceIfAttached
  split
  · rename_i missing
    rw [missing] at asked
    exact removes _ asked
  · rename_i listed
    rw [listed] at asked
    have detached := detaches _ asked
    split
    · rename_i failed
      rwa [failed] at detached
    · rename_i done
      rw [done] at detached
      exact removes _ detached

theorem detach_made {n : Nat} (fresh : Unrecorded dir host) (here : provider.m_outputDirPath = dir)
    (vacant : host.attached.lookup (loopDevice n) = none) (made : Made dir host s) :
    Made dir host (provider.DetachLoopDeviceIfAttached (loopDevice n) s).2 := by
  have own : Own dir host (PathJoin dir (loopRecordName n)) := .loop n vacant rfl
  apply detach_keeps _ _ _ made
  · intro middle made'
    exact made'.same rfl rfl rfl rfl
  · intro middle made'
    exact loopbackDetach_made vacant made'
  · intro middle made'
    rw [here]
    exact removeLoop_made fresh own made'

theorem removeDevice_made {now : Nat} (fresh : Unrecorded dir host) (here : provider.m_outputDirPath = dir)
    (vacant : ∀ device ∈ host.dmDevices, device.name ≠ dmName now) (made : Made dir host s) :
    Made dir host (provider.RemoveDmDeviceIfExists (dmName now) s).2 := by
  have removed : Made dir host (RemoveDeviceIfExists s (dmName now)).2 := made.device vacant removeIfExists_device
  unfold RemoveDmDeviceIfExists
  split
  · rename_i failed
    rwa [failed] at removed
  · rename_i done
    rw [done] at removed
    rw [here]
    exact removeDm_made fresh (.dm now vacant rfl) removed

theorem removeEach_made {remove : String → MountHost → Bool × MountHost} {names : List String}
    (each : ∀ name ∈ names, ∀ s, Made dir host s → Made dir host (remove name s).2) (made : Made dir host s) :
    Made dir host (removeEach remove names s).2 := by
  induction names generalizing s with
  | nil => exact made
  | cons name rest ih =>
      simp only [removeEach]
      apply ih fun name inside => each name (List.mem_cons_of_mem _ inside)
      exact each name List.mem_cons_self s made

theorem listed (inside : name ∈ ((ListRecordFiles s dir).1.getD [])) : ∃ file ∈ s.files, file.1 = PathJoin dir name ∧ GetFileName file.1 = name := by
  simp only [ListRecordFiles] at inside
  split at inside
  · obtain ⟨file,there,found⟩ := List.mem_filterMap.mp inside
    split at found
    · rename_i at_dir
      cases found
      exact ⟨file,there,at_dir,rfl⟩
    · cases found
  · cases inside

theorem residual_own {suffix device : String} {cut : String → Nat → String}
    (record : suffix = LOOPBACK_DEVICE_CREATION_RECORD_SUFFIX ∨ suffix = DEVICE_MAPPER_DEVICE_CREATION_RECORD_SUFFIX) (made : Made dir host s)
    (inside : device ∈ (((ListRecordFiles s dir).1.getD []).filterMap fun name => (findText name suffix).map (cut name))) :
    ∃ path pos, findText (GetFileName path) suffix = some pos ∧ cut (GetFileName path) pos = device ∧ Own dir host path := by
  obtain ⟨name,there,named⟩ := List.mem_filterMap.mp inside
  obtain ⟨file,kept,at_dir,rfl⟩ := listed there
  obtain ⟨pos,found,same⟩ := Option.map_eq_some_iff.mp named
  have known : (findText (GetFileName file.1) suffix).isSome := Option.isSome_of_mem found
  refine ⟨file.1,pos,found,same,made.own file kept ⟨at_dir,?_⟩⟩
  rcases record with rfl | rfl
  · exact .inl known
  · exact .inr known

theorem residualLoop_own (here : provider.m_outputDirPath = dir) (made : Made dir host s) :
    ∀ device ∈ (provider.LoadResidualLoopDeviceList s).1, ∃ n, device = loopDevice n ∧ host.attached.lookup (loopDevice n) = none := by
  subst here
  intro device inside
  obtain ⟨path,pos,found,rfl,own⟩ := residual_own (.inl rfl) made inside
  cases own with
  | loop n fresh here =>
      rw [here,file_name loopRecord_plain] at found ⊢
      cases (record_found digits_clear).1.symm.trans found
      refine ⟨n,?_,fresh⟩
      unfold loopRecordName loopDevice
      rw [take_front]
  | dm now fresh here =>
      rw [here,file_name dmRecord_plain] at found
      cases (record_found dmName_clear).2.2.symm.trans found

theorem residualDm_own (here : provider.m_outputDirPath = dir) (made : Made dir host s) :
    ∀ device ∈ (provider.LoadResidualDmDeviceList s).1, ∃ now, device = dmName now ∧
      ∀ made ∈ host.dmDevices, made.name ≠ dmName now := by
  subst here
  intro device inside
  obtain ⟨path,pos,found,rfl,own⟩ := residual_own (.inr rfl) made inside
  cases own with
  | loop n fresh here =>
      rw [here,file_name loopRecord_plain] at found
      cases (record_found digits_clear).2.1.symm.trans found
  | dm now fresh here =>
      rw [here,file_name dmRecord_plain]
      exact ⟨now,take_ending,fresh⟩

theorem rollback_made (fresh : Unrecorded dir host) (here : provider.m_outputDirPath = dir) (made : Made dir host s) :
    Made dir host (provider.RollbackClearResidue s).2 := by
  simp only [RollbackClearResidue]
  have asked : Made dir host (provider.LoadResidualDmDeviceList s).2 := made.same rfl rfl rfl rfl
  have removed : Made dir host (removeEach provider.RemoveDmDeviceIfExists (provider.LoadResidualDmDeviceList s).1
      (provider.LoadResidualDmDeviceList s).2).2 := by
    apply removeEach_made _ asked
    intro name inside middle made'
    obtain ⟨now,rfl,vacant⟩ := residualDm_own here made name inside
    exact removeDevice_made fresh here vacant made'
  generalize removeEach provider.RemoveDmDeviceIfExists (provider.LoadResidualDmDeviceList s).1
    (provider.LoadResidualDmDeviceList s).2 = middle at removed
  have again : Made dir host (provider.LoadResidualLoopDeviceList middle.2).2 := removed.same rfl rfl rfl rfl
  apply removeEach_made _ again
  intro name inside last made'
  obtain ⟨n,rfl,vacant⟩ := residualLoop_own here removed name inside
  exact detach_made fresh here vacant made'

theorem mount_made (fresh : Unrecorded dir host) (here : provider.m_outputDirPath = dir) (made : Made dir host s) :
    Made dir host (provider.Mount json s).2 := by
  unfold Mount rollback
  have attached := attachSegments_made here provider.m_segments
    {copyFormat := .BIN,mountTargetPath := provider.m_mountTargetPath} made
  split
  · rename_i failed
    rw [failed] at attached
    exact rollback_made fresh here attached
  · rename_i mountRecord middle done
    rw [done] at attached
    have chosen := chooseDevice_made here mountRecord attached
    split
    · rename_i failed
      rw [failed] at chosen
      exact rollback_made fresh here chosen
    · rename_i named second ready
      rw [ready] at chosen
      have mounted := linuxMount_made provider.m_mountTargetPath named.devicePath provider.m_mountFsType
        provider.m_mountOptions provider.m_readOnly chosen
      split
      · rename_i failed
        rw [failed] at mounted
        exact rollback_made fresh here mounted
      · rename_i last done
        rw [done] at mounted
        split
        · exact rollback_made fresh here mounted
        · exact mounted

end step

end VolumeBackup
