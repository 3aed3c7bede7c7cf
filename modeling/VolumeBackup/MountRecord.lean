import VolumeBackup.MappedDevices

namespace VolumeBackup
open ByteMemory

namespace LinuxDeviceMapperMountProvider
variable {provider : LinuxDeviceMapperMountProvider} {host after : MountHost} {json : MountJson} {dir name path : String}

def Leaves (path : String) (host after : MountHost) : Prop := after.files.lookup path = host.files.lookup path

theorem Leaves.refl : Leaves path host host := rfl

theorem Leaves.trans {middle : MountHost} (left : Leaves path host middle) (right : Leaves path middle after) :
    Leaves path host after := Eq.trans right left

theorem lookup_append_other {files : List (String × Content)} {other : String} (differ : path ≠ other) :
    (files++[(other,content)]).lookup path = files.lookup path := by
  induction files with
  | nil => simp [differ]
  | cons file rest ih =>
      obtain ⟨first,bytes⟩ := file
      rw [List.cons_append,List.lookup_cons,List.lookup_cons,ih]

theorem create_leaves (differ : path ≠ PathJoin dir name) : Leaves path host (CreateEmptyFile host dir name).2 := by
  simp only [CreateEmptyFile,Leaves]
  split
  · split
    · rfl
    · exact lookup_append_other differ
  · rfl

theorem record_ends : Ends provider.GetMountRecordPath BIN_COPY_MOUNT_RECORD_FILE_SUFFIX :=
  ⟨provider.m_outputDirPath++"/"++provider.m_copyName,by simp only [GetMountRecordPath,PathJoin,String.append_assoc]⟩

theorem creation_ends (suffix : String) : Ends (PathJoin dir (name++suffix)) suffix :=
  ⟨dir++"/"++name,by simp only [PathJoin,String.append_assoc]⟩

theorem record_loop : provider.GetMountRecordPath ≠ PathJoin dir (name++LOOPBACK_DEVICE_CREATION_RECORD_SUFFIX) :=
  record_ends.apart (creation_ends _) (by decide) (by decide)

theorem record_dm : provider.GetMountRecordPath ≠ PathJoin dir (name++DEVICE_MAPPER_DEVICE_CREATION_RECORD_SUFFIX) :=
  record_ends.apart (creation_ends _) (by decide) (by decide)

theorem saveLoop_leaves : Leaves provider.GetMountRecordPath host (SaveLoopDeviceCreationRecord host dir name) := by
  unfold SaveLoopDeviceCreationRecord
  split
  · exact create_leaves record_loop
  · exact .refl

theorem saveDm_leaves : Leaves provider.GetMountRecordPath host (SaveDmDeviceCreationRecord host dir name) := by
  unfold SaveDmDeviceCreationRecord
  split
  · exact .refl
  · exact create_leaves record_dm

theorem attach_leaves (filePath : String) : Leaves path host (loopbackAttach host filePath).2 := by
  simp only [loopbackAttach,GetFreeLoopDevice,Leaves]
  split
  · split
    · rename_i refused
      split at refused <;> cases refused
      rfl
    · rename_i found
      split at found <;> cases found
      split <;> rfl
  · rfl

theorem attachDm_leaves (filePath : String) : Leaves provider.GetMountRecordPath host (provider.AttachDmLoopDevice filePath host).2 := by
  unfold AttachDmLoopDevice
  have attached := @attach_leaves host provider.GetMountRecordPath filePath
  split
  · rename_i none
    rwa [none] at attached
  · rename_i some
    rw [some] at attached
    exact attached.trans saveLoop_leaves

theorem attachSegments_leaves (segments : List CopySegment) (mountRecord : LinuxDeviceMapperCopyMountRecord) :
    Leaves provider.GetMountRecordPath host (provider.attachSegments segments mountRecord host).2 := by
  induction segments generalizing mountRecord host with
  | nil => exact .refl
  | cons segment rest ih =>
      have attached := @attachDm_leaves provider host
        (GetCopyDataFilePath provider.m_copyDataDirPath provider.m_copyName .BIN segment.index)
      simp only [attachSegments]
      split
      · rename_i none
        rwa [none] at attached
      · rename_i some
        rw [some] at attached
        exact attached.trans (ih _)

theorem dmTargets_leaves (copySlices : List CopySliceTarget) : Leaves path host (dmTargets copySlices host).2 := by
  induction copySlices generalizing host with
  | nil => exact .refl
  | cons copySlice rest ih =>
      simp only [dmTargets]
      split
      · exact Leaves.trans rfl ih
      · rfl

theorem chooseDevice_leaves (mountRecord : LinuxDeviceMapperCopyMountRecord) :
    Leaves provider.GetMountRecordPath host (provider.chooseDevice mountRecord host).2 := by
  unfold chooseDevice
  split
  · exact .refl
  · have created : Leaves provider.GetMountRecordPath host (provider.CreateDmDevice mountRecord.copySlices host).2 := by
      simp only [CreateDmDevice]
      have targets := @dmTargets_leaves host provider.GetMountRecordPath mountRecord.copySlices
      split
      · rename_i none
        rwa [none] at targets
      · rename_i table middle some
        rw [some] at targets
        have device : Leaves provider.GetMountRecordPath middle
            (dmCreateDevice middle (GenerateNewDmDeviceName host) table provider.m_readOnly).2 := by
          unfold Leaves
          rw [dmCreate_device.files]
        split
        · rename_i none
          rw [none] at device
          exact targets.trans device
        · rename_i some
          rw [some] at device
          exact (targets.trans device).trans saveDm_leaves
    split
    · rename_i none
      rwa [none] at created
    · rename_i some
      rwa [some] at created

theorem mount_leaves (devicePath mountFsType mountOptions : String) (readOnly : Bool) :
    Leaves path host (linuxMount host name devicePath mountFsType mountOptions readOnly).2 := by
  simp only [linuxMount,Leaves]
  split <;> rfl

-- Mount reads its record where it should save it, and so fails where no record is there yet.
theorem mount_unrecorded (fresh : host.files.lookup provider.GetMountRecordPath = none) : (provider.Mount json host).1 = false := by
  unfold Mount
  have attached := @attachSegments_leaves provider host provider.m_segments {copyFormat := .BIN,mountTargetPath := provider.m_mountTargetPath}
  split
  · rfl
  · rename_i mountRecord middle some
    rw [some] at attached
    have chosen := @chooseDevice_leaves provider middle mountRecord
    split
    · rfl
    · rename_i named second ready
      rw [ready] at chosen
      have mounted := @mount_leaves second provider.m_mountTargetPath provider.GetMountRecordPath named.devicePath
        provider.m_mountFsType provider.m_mountOptions provider.m_readOnly
      split
      · rfl
      · rename_i last done
        rw [done] at mounted
        have kept : last.files.lookup provider.GetMountRecordPath = none :=
          Eq.trans ((attached.trans chosen).trans mounted) fresh
        simp [JsonDeserialize,kept,rollback]

def CreationRecord (path : String) : Prop :=
  Ends path LOOPBACK_DEVICE_CREATION_RECORD_SUFFIX ∨ Ends path DEVICE_MAPPER_DEVICE_CREATION_RECORD_SUFFIX

-- Mount returns true with a record that names what this mount made, and the provider built from the record
-- takes all of it away again.
structure MountsAndUmounts (json : MountJson) (provider : LinuxDeviceMapperMountProvider) (host : MountHost) : Prop where
  mounted : (provider.Mount json host).1 = true
  recorded : ∃ mountRecord, JsonDeserialize json.Deserialize (provider.Mount json host).2 provider.GetMountRecordPath =
      some mountRecord ∧
    mountRecord.loopDevices = ((provider.Mount json host).2.attached.drop host.attached.length).map Prod.fst ∧
    (if mountRecord.dmDeviceName = "" then [] else [mountRecord.dmDeviceName]) =
      ((provider.Mount json host).2.dmDevices.drop host.dmDevices.length).map DmDevice.name ∧
    mountRecord.mountTargetPath = provider.m_mountTargetPath
  umounted : ∃ umounter, VolumeCopyUmountProviderBuild json (provider.Mount json host).2 provider.GetMountRecordPath =
      some umounter ∧
    (umounter.Umount (provider.Mount json host).2).1 = true ∧
    (∀ device, device ∈ (umounter.Umount (provider.Mount json host).2).2.attached ↔ device ∈ host.attached) ∧
    (∀ device, device ∈ (umounter.Umount (provider.Mount json host).2).2.dmDevices ↔ device ∈ host.dmDevices) ∧
    (∀ entry, entry ∈ (umounter.Umount (provider.Mount json host).2).2.mounts ↔ entry ∈ host.mounts) ∧
    ∀ path, CreationRecord path →
      (((umounter.Umount (provider.Mount json host).2).2.files.lookup path).isSome ↔ (host.files.lookup path).isSome)

-- No copy whose record is not there yet is mounted, however many segments it has.
theorem bin_mount_never (json : MountJson) (provider : LinuxDeviceMapperMountProvider) (host : MountHost)
    (fresh : host.files.lookup provider.GetMountRecordPath = none) : ¬MountsAndUmounts json provider host := by
  intro works
  cases (mount_unrecorded fresh).symm.trans works.mounted

def partedProvider : LinuxDeviceMapperMountProvider where
  m_outputDirPath := "/out"
  m_copyDataDirPath := "/data"
  m_copyMetaDirPath := "/meta"
  m_copyName := "copy"
  m_mountTargetPath := "/mnt"
  m_mountFsType := "ext4"
  m_mountOptions := ""
  m_segments := [⟨"copy.copydata.bin","copy.0.sha256.meta.bin",0,0,512⟩,⟨"copy.copydata.bin.part1","copy.1.sha256.meta.bin",1,512,512⟩]

def partedHost : MountHost where
  files := [("/data/copy.copydata.bin",.empty),("/data/copy.copydata.bin.part1",.empty)]
  attached := []
  blockDevices := []
  dmDevices := []
  mounts := []
  now := 0
  sectorSize := fun _ => 512

def plainJson : MountJson := ⟨fun _ => some {},fun _ => some .BIN⟩

theorem bin_mount_never_parted : partedHost.files.lookup partedProvider.GetMountRecordPath = none ∧
    ¬MountsAndUmounts plainJson partedProvider partedHost :=
  ⟨by decide,bin_mount_never _ _ _ (by decide)⟩

-- A copy of one segment: its loop device is attached and mounted, the record is missed, and the mount
-- stays although the loop device behind it is detached again.
theorem single_mount_fails : ¬MountsAndUmounts plainJson {partedProvider with m_segments := partedProvider.m_segments.take 1} partedHost ∧
    (({partedProvider with m_segments := partedProvider.m_segments.take 1} : LinuxDeviceMapperMountProvider).Mount plainJson
      partedHost).2.mounts = [⟨"/dev/loop0","/mnt","ext4",""⟩] := by
  refine ⟨fun works => ?_,by decide +kernel⟩
  have failed : (({partedProvider with m_segments := partedProvider.m_segments.take 1} : LinuxDeviceMapperMountProvider).Mount
      plainJson partedHost).1 = false := by decide +kernel
  cases failed.symm.trans works.mounted

end LinuxDeviceMapperMountProvider

end VolumeBackup
