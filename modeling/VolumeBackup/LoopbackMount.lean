import VolumeBackup.MountResidue

namespace VolumeBackup
open ByteMemory

def IMAGE_COPY_MOUNT_RECORD_FILE_SUFFIX : String := ".image.mount.record.json"

structure LinuxImageCopyMountRecord where
  copyFormat : CopyFormat
  loopbackDevicePath : String
  mountTargetPath : String
  mountFsType : String
  mountOptions : String
  deriving DecidableEq, Repr

section records
variable (host : MountHost)

-- The first line of the table that has the target.
def GetMountDevicePath (mountTargetPath : String) : String :=
  ((host.mounts.find? fun entry => entry.mountTargetPath = mountTargetPath).map MountEntry.devicePath).getD ""

-- Without an opened file nothing is written.
def JsonSerialize (text : Content) (filepath : String) : Bool × MountHost :=
  let (granted,host) := host.ask
  if granted then (true,{host with files := (filepath,text)::host.files.filter fun file => file.1 ≠ filepath}) else (false,host)

end records

structure LinuxLoopbackUmountProvider where
  m_outputDirPath : String
  m_mountTargetPath : String
  m_loopbackDevicePath : String
  deriving DecidableEq, Repr

namespace LinuxLoopbackUmountProvider
variable (provider : LinuxLoopbackUmountProvider)

def umountTarget (host : MountHost) : Bool × MountHost :=
  if provider.m_mountTargetPath = "" then (true,host) else linuxUmount host provider.m_mountTargetPath

def detachDevice (host : MountHost) : Bool × MountHost :=
  if provider.m_loopbackDevicePath = "" then (true,host)
  else
    match loopbackAttached host provider.m_loopbackDevicePath with
    | (false,host) => (true,host)
    | (true,host) => loopbackDetach host provider.m_loopbackDevicePath

def Umount (host : MountHost) : Bool × MountHost :=
  match provider.umountTarget host with
  | (false,host) => (false,host)
  | (true,host) =>
    match umountAll host provider.m_loopbackDevicePath with
    | (false,host) => (false,host)
    | (true,host) =>
      match provider.detachDevice host with
      | (false,host) => (false,host)
      | (true,host) => (true,RemoveLoopDeviceCreationRecord host provider.m_outputDirPath provider.m_loopbackDevicePath)

end LinuxLoopbackUmountProvider

structure LinuxLoopbackMountProvider where
  m_outputDirPath : String
  m_copyName : String
  m_imageFilePath : String
  m_mountTargetPath : String
  m_readOnly : Bool := true
  m_mountFsType : String
  m_mountOptions : String
  deriving DecidableEq, Repr

namespace LinuxLoopbackMountProvider
variable (provider : LinuxLoopbackMountProvider)

def GetMountRecordPath : String :=
  PathJoin provider.m_outputDirPath (provider.m_copyName++IMAGE_COPY_MOUNT_RECORD_FILE_SUFFIX)

def PosixLoopbackMountRollback (loopbackDevicePath : String) (host : MountHost) : Bool × MountHost :=
  if loopbackDevicePath = "" then (true,host)
  else if IsMountPoint host provider.m_mountTargetPath = true ∧
      GetMountDevicePath host provider.m_mountTargetPath ≠ loopbackDevicePath then (true,host)
  else LinuxLoopbackUmountProvider.Umount ⟨provider.m_outputDirPath,provider.m_mountTargetPath,loopbackDevicePath⟩ host

def mountRecord (loopDevicePath : String) : LinuxImageCopyMountRecord :=
  ⟨.IMAGE,loopDevicePath,provider.m_mountTargetPath,provider.m_mountFsType,provider.m_mountOptions⟩

def saveCheckpoint (loopDevicePath : String) (host : MountHost) : MountHost :=
  (CreateEmptyFile host provider.m_outputDirPath
    (dropText loopDevicePath LOOPBACK_DEVICE_PATH_PREFIX.length++LOOPBACK_DEVICE_CREATION_RECORD_SUFFIX)).2

def Mount (Serialize : LinuxImageCopyMountRecord → Content) (host : MountHost) : Bool × MountHost :=
  match loopbackAttach host provider.m_imageFilePath with
  | (none,host) => (false,host)
  | (some loopDevicePath,host) =>
    match linuxMount (provider.saveCheckpoint loopDevicePath host) provider.m_mountTargetPath loopDevicePath provider.m_mountFsType
        provider.m_mountOptions provider.m_readOnly with
    | (false,host) => (false,(provider.PosixLoopbackMountRollback loopDevicePath host).2)
    | (true,host) =>
      match JsonSerialize host (Serialize (provider.mountRecord loopDevicePath)) provider.GetMountRecordPath with
      | (false,host) => (false,(provider.PosixLoopbackMountRollback loopDevicePath host).2)
      | (true,host) => (true,host)

variable {provider} {Serialize : LinuxImageCopyMountRecord → Content} {host last : MountHost} {device : String}

-- The steps at which Mount fails with a loop device attached, and the host that it then rolls back on.
inductive Fails (provider : LinuxLoopbackMountProvider) (Serialize : LinuxImageCopyMountRecord → Content) (host : MountHost)
    (device : String) (last : MountHost) : Prop where
  | refused {middle : MountHost} (attached : loopbackAttach host provider.m_imageFilePath = (some device,middle))
      (failed : linuxMount (provider.saveCheckpoint device middle) provider.m_mountTargetPath device provider.m_mountFsType
        provider.m_mountOptions provider.m_readOnly = (false,last))
  | unrecorded {middle mounted : MountHost} (attached : loopbackAttach host provider.m_imageFilePath = (some device,middle))
      (done : linuxMount (provider.saveCheckpoint device middle) provider.m_mountTargetPath device provider.m_mountFsType
        provider.m_mountOptions provider.m_readOnly = (true,mounted))
      (failed : JsonSerialize mounted (Serialize (provider.mountRecord device)) provider.GetMountRecordPath = (false,last))

structure Willing (host : MountHost) : Prop where
  replies : ∀ reply ∈ host.replies, reply = true
  opened : ∀ k, host.opened k = true
  granted : host.granted = fun _ _ => true

structure LeavesNothing (provider : LinuxLoopbackMountProvider) (device : String) (host after : MountHost) : Prop where
  detached : after.attached.lookup device = none
  unrecorded : after.files.lookup (PathJoin provider.m_outputDirPath
    (dropText device LOOPBACK_DEVICE_PATH_PREFIX.length++LOOPBACK_DEVICE_CREATION_RECORD_SUFFIX)) = none
  unmounted : ∀ entry ∈ after.mounts, entry.devicePath ≠ device
  devices : after.attached.filter (fun other => other.1 ≠ device) = host.attached.filter fun other => other.1 ≠ device
  mounts : after.mounts.filter (fun entry => entry.devicePath ≠ device) = host.mounts.filter fun entry => entry.devicePath ≠ device

theorem Willing.ask (willing : Willing host) : host.ask.1 = true ∧ Willing host.ask.2 := by
  obtain ⟨replies,opened,granted⟩ := willing
  unfold MountHost.ask
  cases answers : host.replies with
  | nil => exact ⟨rfl,nofun,opened,granted⟩
  | cons reply rest =>
      rw [answers] at replies
      exact ⟨replies reply List.mem_cons_self,fun other inside => replies other (List.mem_cons_of_mem _ inside),opened,granted⟩

-- What the steps of the umount do when every call succeeds: the mount on the target goes first, then all that the table lists, whatever
-- the device, and then the loop device.
theorem Willing.target (willing : Willing host) (umounter : LinuxLoopbackUmountProvider) : ∃ after, umounter.umountTarget host = (true,after) ∧
    Willing after ∧ after.attached = host.attached ∧ after.blockDevices = host.blockDevices := by
  unfold LinuxLoopbackUmountProvider.umountTarget
  split
  · exact ⟨host,rfl,willing,rfl,rfl⟩
  · unfold linuxUmount
    split
    · obtain ⟨granted,next⟩ := willing.ask
      exact ⟨_,Prod.ext granted rfl,⟨next.replies,next.opened,next.granted⟩,rfl,rfl⟩
    · exact ⟨host,rfl,willing,rfl,rfl⟩

theorem Willing.clear (willing : Willing host) (device : String) : umountAll host device = (true,{host with mounts := []}) := by
  have none := @umountAll_granted host.mounts device host.opened (willing.opened 0)
  have all := @umountAll_result host.mounts device host.opened (fun _ _ => true) (willing.opened 0)
    ⟨willing.opened 1,willing.opened 2,willing.opened 3⟩
  rw [none] at all
  have gone : UmountAll host.mounts device host.opened (fun _ _ => true) = (true,[]) := Prod.ext all none
  unfold umountAll
  rw [willing.granted,gone]

theorem Willing.detach (willing : Willing host) (there : (host.attached.lookup device).isSome) :
    ∃ after, loopbackDetach host device = (true,after) ∧ after.attached = host.attached.filter (fun other => other.1 ≠ device) ∧
      after.mounts = host.mounts ∧ Willing after := by
  obtain ⟨granted,next⟩ := willing.ask
  exact ⟨_,if_pos (Bool.and_eq_true_iff.mpr ⟨granted,there⟩),rfl,rfl,next.replies,next.opened,next.granted⟩

theorem Willing.listed (willing : Willing host) (listed : device ∈ host.blockDevices) : loopbackAttached host device = (true,host.ask.2) :=
  Prod.ext (Bool.and_eq_true_iff.mpr ⟨willing.ask.1,List.contains_iff_mem.mpr listed⟩) rfl

structure Pending (provider : LinuxLoopbackMountProvider) (device : String) (host last : MountHost) : Prop where
  numbered : ∃ n, device = loopDevice n
  free : host.attached.lookup device = none
  attached : last.attached = host.attached++[(device,provider.m_imageFilePath)]
  listed : device ∈ last.blockDevices
  mounts : last.mounts = host.mounts ∨ last.mounts = host.mounts++
    [⟨device,provider.m_mountTargetPath,provider.m_mountFsType,provider.m_mountOptions⟩]

theorem Fails.pending (fails : Fails provider Serialize host device last) : Pending provider device host last := by
  have started {middle : MountHost} (attached : loopbackAttach host provider.m_imageFilePath = (some device,middle)) :
      (∃ n, device = loopDevice n) ∧ host.attached.lookup device = none ∧
        (provider.saveCheckpoint device middle).attached = host.attached++[(device,provider.m_imageFilePath)] ∧
        device ∈ (provider.saveCheckpoint device middle).blockDevices ∧
        (provider.saveCheckpoint device middle).mounts = host.mounts := by
    obtain ⟨same,shape⟩ := attach_some attached
    have only : OnlyFiles middle (provider.saveCheckpoint device middle) := create_only
    refine ⟨⟨_,same⟩,same ▸ free_fresh,?_,?_,?_⟩
    · rw [only.attached,shape]
    · rw [only.blockDevices,shape]
      exact List.mem_insert_self
    · rw [only.mounts,shape]
  cases fails with
  | refused attached failed =>
      obtain ⟨numbered,free,devices,listed,mounts⟩ := started attached
      simp only [linuxMount] at failed
      split at failed
      · cases failed
      · cases failed
        exact ⟨numbered,free,devices,listed,.inl mounts⟩
  | unrecorded attached done failed =>
      obtain ⟨numbered,free,devices,listed,mounts⟩ := started attached
      simp only [linuxMount] at done
      split at done
      · cases done
        simp only [JsonSerialize] at failed
        split at failed
        · cases failed
        · cases failed
          exact ⟨numbered,free,devices,listed,.inr (congrArg (·++[_]) mounts)⟩
      · cases done

theorem Fails.mount (fails : Fails provider Serialize host device last) :
    provider.Mount Serialize host = (false,(provider.PosixLoopbackMountRollback device last).2) := by
  cases fails with
  | refused attached failed =>
      unfold Mount
      rw [attached]
      dsimp only
      rw [failed]
  | unrecorded attached done failed =>
      unfold Mount
      rw [attached]
      dsimp only
      rw [done]
      dsimp only
      rw [failed]

section rollback
variable (pending : Pending provider device host last)
include pending

theorem Pending.named : device ≠ "" := by
  obtain ⟨n,rfl⟩ := pending.numbered
  intro empty
  have length := congrArg String.length empty
  rw [loopDevice,String.length_append] at length
  have long : LOOPBACK_DEVICE_PATH_PREFIX.length = 9 := by decide
  have none : "".length = 0 := rfl
  omega

-- Another mount's device on the target makes the rollback return at once, with the loop device still there.
theorem Pending.foreign (mounted : IsMountPoint last provider.m_mountTargetPath = true)
    (other : GetMountDevicePath last provider.m_mountTargetPath ≠ device) :
    (provider.PosixLoopbackMountRollback device last).2 = last ∧ ∃ entry ∈ host.mounts, entry.devicePath ≠ device := by
  unfold PosixLoopbackMountRollback
  rw [if_neg pending.named,if_pos ⟨mounted,other⟩]
  refine ⟨rfl,?_⟩
  cases found : last.mounts.find? fun entry => entry.mountTargetPath = provider.m_mountTargetPath with
  | none =>
      obtain ⟨entry,inside,same⟩ := List.any_eq_true.mp mounted
      exact absurd same (List.find?_eq_none.mp found entry inside)
  | some entry =>
      have path : GetMountDevicePath last provider.m_mountTargetPath = entry.devicePath := by
        simp only [GetMountDevicePath,found,Option.map_some,Option.getD_some]
      rw [path] at other
      have inside := List.mem_of_find?_eq_some found
      rcases pending.mounts with same | more
      · exact ⟨entry,same ▸ inside,other⟩
      · rw [more,List.mem_append,List.mem_singleton] at inside
        rcases inside with inside | own
        · exact ⟨entry,inside,other⟩
        · exact absurd (congrArg MountEntry.devicePath own) other

theorem Pending.present : (last.attached.lookup device).isSome := by
  rw [pending.attached,List.lookup_append,pending.free]
  simp

theorem Pending.own (willing : Willing last)
    (own : ¬(IsMountPoint last provider.m_mountTargetPath = true ∧ GetMountDevicePath last provider.m_mountTargetPath ≠ device)) :
    ∃ after, (provider.PosixLoopbackMountRollback device last).2 = after ∧ after.mounts = [] ∧
      after.attached = last.attached.filter (fun other => other.1 ≠ device) ∧
      after.files.lookup (PathJoin provider.m_outputDirPath
        (dropText device LOOPBACK_DEVICE_PATH_PREFIX.length++LOOPBACK_DEVICE_CREATION_RECORD_SUFFIX)) = none := by
  let umounter : LinuxLoopbackUmountProvider := ⟨provider.m_outputDirPath,provider.m_mountTargetPath,device⟩
  obtain ⟨first,targeted,ready,devices,blocks⟩ := willing.target umounter
  have cleared := ready.clear device
  have second : Willing {first with mounts := []} := ⟨ready.replies,ready.opened,ready.granted⟩
  have there : (first.attached.lookup device).isSome := devices ▸ pending.present
  have listed : device ∈ first.blockDevices := blocks ▸ pending.listed
  obtain ⟨third,done,left,unmounted,final⟩ := second.ask.2.detach there
  have detached : umounter.detachDevice {first with mounts := []} = (true,third) := by
    unfold LinuxLoopbackUmountProvider.detachDevice
    rw [if_neg pending.named,second.listed listed]
    exact done
  have whole : (provider.PosixLoopbackMountRollback device last).2 =
      RemoveLoopDeviceCreationRecord third provider.m_outputDirPath device := by
    unfold PosixLoopbackMountRollback
    rw [if_neg pending.named,if_neg own]
    unfold LinuxLoopbackUmountProvider.Umount
    rw [targeted]
    dsimp only
    rw [cleared]
    dsimp only
    rw [detached]
  have only : OnlyFiles third (RemoveLoopDeviceCreationRecord third provider.m_outputDirPath device) := removeLoop_only
  refine ⟨_,whole,only.mounts.trans unmounted,(only.attached.trans left).trans (congrArg _ devices),?_⟩
  obtain ⟨n,rfl⟩ := pending.numbered
  have name : dropText (loopDevice n) LOOPBACK_DEVICE_PATH_PREFIX.length++LOOPBACK_DEVICE_CREATION_RECORD_SUFFIX = loopRecordName n := by
    unfold loopDevice loopRecordName
    rw [drop_front]
  rw [name,removeLoop_device]
  exact gone_lookup (remove_gone final.ask.1)

end rollback

def refusedCopy : LinuxLoopbackMountProvider where
  m_outputDirPath := "/out"
  m_copyName := "copy"
  m_imageFilePath := "/data/copy.copydata.img"
  m_mountTargetPath := "/mnt"
  m_mountFsType := "ext4"
  m_mountOptions := ""

def refusingHost (mounts : List MountEntry) : MountHost :=
  {MountHost.bare with files := [("/data/copy.copydata.img",.empty)],mounts := mounts,replies := [true,true,true,true,false]}

def rollbackHost (mounts : List MountEntry) : MountHost :=
  {MountHost.bare with
    files := [("/data/copy.copydata.img",.empty),("/out/0.loop.record",.empty)]
    attached := [("/dev/loop0","/data/copy.copydata.img")]
    blockDevices := ["/dev/loop0"]
    mounts := mounts}

theorem refused_fails (mounts : List MountEntry) :
    Fails refusedCopy Serialize (refusingHost mounts) "/dev/loop0" (rollbackHost mounts) := by
  have device : loopDevice 0 = "/dev/loop0" := by decide +kernel
  have record : PathJoin "/out" (dropText "/dev/loop0" LOOPBACK_DEVICE_PATH_PREFIX.length++LOOPBACK_DEVICE_CREATION_RECORD_SUFFIX) =
      "/out/0.loop.record" := by decide +kernel
  have free : freeLoopDevice (refusingHost mounts) = "/dev/loop0" := device
  have attached := @attach_granted (refusingHost mounts) refusedCopy.m_imageFilePath _ rfl rfl
  rw [free] at attached
  apply Fails.refused attached
  simp only [linuxMount,saveCheckpoint,CreateEmptyFile,MountHost.ask,refusedCopy]
  simp [record]
  rfl

theorem refused_willing (mounts : List MountEntry) : Willing (rollbackHost mounts) := ⟨nofun,fun _ => rfl,rfl⟩

-- With a mount of another device in the table the rollback takes it away, or, where it is on the target, leaves the loop device attached.
def rootMount : MountEntry := ⟨"/dev/sda1","/","ext4","rw"⟩

def diskMount : MountEntry := ⟨"/dev/sdb1","/mnt","ext4","rw"⟩

end LinuxLoopbackMountProvider

end VolumeBackup
