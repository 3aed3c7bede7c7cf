import VolumeBackup.MountUtils
import VolumeBackup.ProtectConfig

namespace VolumeBackup
open ByteMemory

def LOOPBACK_DEVICE_PATH_PREFIX : String := "/dev/loop"
def BIN_COPY_MOUNT_RECORD_FILE_SUFFIX : String := ".bin.mount.record.json"
def DEVICE_MAPPER_DEVICE_NAME_PREFIX : String := "volumeprotect_dm_copy_"
def LOOPBACK_DEVICE_CREATION_RECORD_SUFFIX : String := ".loop.record"
def DEVICE_MAPPER_DEVICE_CREATION_RECORD_SUFFIX : String := ".dm.record"
def DM_DEVICE_PATH_PREFIX : String := "/dev/dm-"
def DM_NAME_LEN : Nat := 128

structure DmTargetLinear where
  m_blockDevicePath : String
  m_startSector : Nat
  m_sectorsCount : Nat
  m_physicalSector : Nat
  deriving DecidableEq, Repr

structure DmDevice where
  name : String
  number : Nat
  m_targets : List DmTargetLinear
  m_readonly : Bool
  deriving DecidableEq, Repr

-- What a mount works on: the files, the loop devices with the file behind each, those that /sys/block
-- lists, the device mapper's devices and the mounts. `replies` are the answers of the system still to
-- come, and where there are none left every call succeeds; `now` is the clock in microseconds.
structure MountHost where
  files : List (String × Content)
  attached : List (String × String)
  blockDevices : List String
  dmDevices : List DmDevice
  mounts : List MountEntry
  replies : List Bool := []
  opened : Nat → Bool := fun _ => true
  granted : Nat → Nat → Bool := fun _ _ => true
  now : Nat
  sectorSize : String → Nat

def MountHost.ask (host : MountHost) : Bool × MountHost := (host.replies.headD true,{host with replies := host.replies.tail})

section files
variable (host : MountHost) (dirPath filename : String)

def CreateEmptyFile : Bool × MountHost :=
  let (granted,host) := host.ask
  if granted then
    let path := PathJoin dirPath filename
    (true,if (host.files.lookup path).isSome then host else {host with files := host.files++[(path,.empty)]})
  else (false,host)

def RemoveFileAt : Bool × MountHost :=
  let path := PathJoin dirPath filename
  if (host.files.lookup path).isSome then
    let (granted,host) := host.ask
    if granted then (true,{host with files := host.files.filter fun file => file.1 ≠ path}) else (false,host)
  else (true,host)

def ListRecordFiles : Option (List String) × MountHost :=
  let (granted,host) := host.ask
  (if granted then some (host.files.filterMap fun file =>
      if file.1 = PathJoin dirPath (GetFileName file.1) then some (GetFileName file.1) else none) else none,host)

end files

section text

def hasPrefix (text first : String) : Bool := first.toList.isPrefixOf text.toList

def dropText (text : String) (n : Nat) : String := String.ofList (text.toList.drop n)

def takeText (text : String) (n : Nat) : String := String.ofList (text.toList.take n)

def findChars (part : List Char) : List Char → Option Nat
  | [] => if part.isEmpty then some 0 else none
  | c::rest => if part.isPrefixOf (c::rest) then some 0 else (findChars part rest).map (·+1)

def findText (text part : String) : Option Nat := findChars part.toList text.toList

end text

section loopback
variable (host : MountHost) (loopDevicePath : String)

def loopDevice (n : Nat) : String := LOOPBACK_DEVICE_PATH_PREFIX++toString n

-- LOOP_CTL_GET_FREE: the least number without a file behind it, which /sys/block lists from then on.
def freeLoopDevice : String :=
  loopDevice ((List.range host.attached.length).findIdx fun n => (host.attached.lookup (loopDevice n)).isNone)

def GetFreeLoopDevice : Option String × MountHost :=
  let (granted,host) := host.ask
  if granted then
    let device := freeLoopDevice host
    (some device,{host with blockDevices := host.blockDevices.insert device})
  else (none,host)

def loopbackAttach (filePath : String) : Option String × MountHost :=
  let (opened,host) := host.ask
  if opened && (host.files.lookup filePath).isSome then
    match GetFreeLoopDevice host with
    | (none,host) => (none,host)
    | (some device,host) =>
      let (granted,host) := host.ask
      if granted then (some device,{host with attached := host.attached++[(device,filePath)]}) else (none,host)
  else (none,host)

-- Any loop device that /sys/block lists counts as attached, and none does where the directory cannot be opened.
def loopbackAttached : Bool × MountHost :=
  let (granted,host) := host.ask
  (granted && host.blockDevices.contains loopDevicePath,host)

def loopbackDetach : Bool × MountHost :=
  let (granted,host) := host.ask
  if granted && (host.attached.lookup loopDevicePath).isSome then
    (true,{host with attached := host.attached.filter fun device => device.1 ≠ loopDevicePath})
  else (false,host)

end loopback

section devicemapper
variable (host : MountHost) (name : String)

def freeDmNumber : Nat := (List.range host.dmDevices.length).findIdx fun n => host.dmDevices.all fun device => device.number ≠ n

-- Whether the status is other than INVALID, which it also is where it cannot be asked for.
def GetDeviceStatus : Bool × MountHost :=
  let (granted,host) := host.ask
  (granted && host.dmDevices.any fun device => device.name = name,host)

-- A device that is made here has a UUID, which is all that its unique path needs.
def GetDeviceStatusUniquePath : Bool × MountHost := GetDeviceStatus host name

def GetDevicePathByName : Option String × MountHost :=
  let (granted,host) := host.ask
  (if granted then (host.dmDevices.find? fun device => device.name = name).map fun device =>
    DM_DEVICE_PATH_PREFIX++toString device.number else none,host)

-- Once the device is gone, its event or the wait for its node may still fail.
def RemoveDevice : Bool × MountHost :=
  match GetDeviceStatus host name with
  | (false,host) => (true,host)
  | (true,host) =>
    match GetDevicePathByName host name with
    | (none,host) => (false,host)
    | (some _,host) =>
      let (granted,host) := host.ask
      if granted then MountHost.ask {host with dmDevices := host.dmDevices.filter fun device => device.name ≠ name} else (false,host)

def RemoveDeviceIfExists : Bool × MountHost :=
  match GetDeviceStatus host name with
  | (false,host) => (true,host)
  | (true,host) => RemoveDevice host name

-- A new device that has targets or is open is refused, and stays.
def CreateEmptyDevice : Bool × MountHost :=
  if name = "" ∨ DM_NAME_LEN ≤ name.utf8ByteSize then (false,host)
  else
    let (granted,host) := host.ask
    if granted && host.dmDevices.all fun device => device.name ≠ name then
      MountHost.ask {host with dmDevices := host.dmDevices++[⟨name,freeDmNumber host,[],false⟩]}
    else (false,host)

def DmDevice.load (targets : List DmTargetLinear) (readOnly : Bool) (device : DmDevice) : DmDevice :=
  if device.name = name then {device with m_targets := targets,m_readonly := readOnly} else device

-- A table that is loaded has no effect before it is activated.
def dmLoadTable (targets : List DmTargetLinear) (readOnly : Bool) : Bool × MountHost :=
  let (loaded,host) := host.ask
  if loaded then
    let (activated,host) := host.ask
    if activated then (true,{host with dmDevices := host.dmDevices.map (DmDevice.load name targets readOnly)}) else (false,host)
  else (false,host)

def WaitForDeviceCreated : Option String × MountHost :=
  match GetDeviceStatusUniquePath host name with
  | (false,host) => (none,(RemoveDevice host name).2)
  | (true,host) =>
    match GetDevicePathByName host name with
    | (none,host) => (none,(RemoveDevice host name).2)
    | (some path,host) =>
      let (granted,host) := host.ask
      (if granted then some path else none,host)

def dmCreateDevice (targets : List DmTargetLinear) (readOnly : Bool) : Option String × MountHost :=
  match CreateEmptyDevice host name with
  | (false,host) => (none,host)
  | (true,host) =>
    match dmLoadTable host name targets readOnly with
    | (false,host) => (none,(RemoveDevice host name).2)
    | (true,host) =>
      match WaitForDeviceCreated host name with
      | (none,host) => (none,(RemoveDevice host name).2)
      | (some path,host) => (some path,host)

end devicemapper

section mountutil
variable (host : MountHost) (mountTargetPath : String)

def linuxMount (devicePath mountFsType mountOptions : String) (_readOnly : Bool) : Bool × MountHost :=
  let (granted,host) := host.ask
  if granted then (true,{host with mounts := host.mounts++[⟨devicePath,mountTargetPath,mountFsType,mountOptions⟩]})
  else (false,host)

def IsMountPoint : Bool := host.mounts.any fun entry => entry.mountTargetPath = mountTargetPath

def linuxUmount : Bool × MountHost :=
  if IsMountPoint host mountTargetPath then
    let (granted,host) := host.ask
    (granted,{host with mounts := umount2 host.mounts mountTargetPath granted})
  else (true,host)

def umountAll (devicePath : String) : Bool × MountHost :=
  let (done,mounts) := UmountAll host.mounts devicePath host.opened host.granted
  (done,{host with mounts := mounts})

end mountutil

structure CopySliceTarget where
  copyFilePath : String
  volumeOffset : UInt64
  size : UInt64
  loopDevicePath : String
  deriving DecidableEq, Repr

structure LinuxDeviceMapperCopyMountRecord where
  copyFormat : CopyFormat := .BIN
  dmDeviceName : String := ""
  loopDevices : List String := []
  devicePath : String := ""
  mountTargetPath : String := ""
  copySlices : List CopySliceTarget := []
  copyDataDirPath : String := ""
  copyMetaDirPath : String := ""
  copyName : String := ""
  mountFsType : String := ""
  mountOptions : String := ""
  deriving DecidableEq, Repr

-- The JSON library: what it reads of a record, and of the format that all kinds of records begin with.
structure MountJson where
  Deserialize : Content → Option LinuxDeviceMapperCopyMountRecord
  DeserializeCommon : Content → Option CopyFormat

def JsonDeserialize (parse : Content → Option α) (host : MountHost) (filepath : String) : Option α :=
  (host.files.lookup filepath).bind parse

section records
variable (host : MountHost) (outputDirPath : String)

def SaveLoopDeviceCreationRecord (loopDevicePath : String) : MountHost :=
  if hasPrefix loopDevicePath LOOPBACK_DEVICE_PATH_PREFIX then
    (CreateEmptyFile host outputDirPath
      (dropText loopDevicePath LOOPBACK_DEVICE_PATH_PREFIX.length++LOOPBACK_DEVICE_CREATION_RECORD_SUFFIX)).2
  else host

def SaveDmDeviceCreationRecord (dmDeviceName : String) : MountHost :=
  if dmDeviceName.toList.any fun c => c = '/' ∨ c = '\\' then host
  else (CreateEmptyFile host outputDirPath (dmDeviceName++DEVICE_MAPPER_DEVICE_CREATION_RECORD_SUFFIX)).2

def RemoveLoopDeviceCreationRecord (loopDevicePath : String) : MountHost :=
  if hasPrefix loopDevicePath LOOPBACK_DEVICE_PATH_PREFIX then
    (RemoveFileAt host outputDirPath
      (dropText loopDevicePath LOOPBACK_DEVICE_PATH_PREFIX.length++LOOPBACK_DEVICE_CREATION_RECORD_SUFFIX)).2
  else host

def RemoveDmDeviceCreationRecord (dmDeviceName : String) : MountHost :=
  if dmDeviceName.toList.any fun c => c = '/' ∨ c = '\\' then host
  else (RemoveFileAt host outputDirPath (dmDeviceName++DEVICE_MAPPER_DEVICE_CREATION_RECORD_SUFFIX)).2

end records

structure LinuxDeviceMapperMountProvider where
  m_outputDirPath : String
  m_copyDataDirPath : String
  m_copyMetaDirPath : String
  m_copyName : String
  m_mountTargetPath : String
  m_readOnly : Bool := true
  m_mountFsType : String
  m_mountOptions : String
  m_segments : List CopySegment
  deriving DecidableEq, Repr

namespace LinuxDeviceMapperMountProvider
variable (provider : LinuxDeviceMapperMountProvider)

def GetMountRecordPath : String :=
  PathJoin provider.m_outputDirPath (provider.m_copyName++BIN_COPY_MOUNT_RECORD_FILE_SUFFIX)

def AttachDmLoopDevice (filePath : String) (host : MountHost) : Option String × MountHost :=
  match loopbackAttach host filePath with
  | (none,host) => (none,host)
  | (some loopDevicePath,host) => (some loopDevicePath,SaveLoopDeviceCreationRecord host provider.m_outputDirPath loopDevicePath)

def DetachLoopDeviceIfAttached (loopDevicePath : String) (host : MountHost) : Bool × MountHost :=
  match loopbackAttached host loopDevicePath with
  | (false,host) => (true,RemoveLoopDeviceCreationRecord host provider.m_outputDirPath loopDevicePath)
  | (true,host) =>
    match loopbackDetach host loopDevicePath with
    | (false,host) => (false,host)
    | (true,host) => (true,RemoveLoopDeviceCreationRecord host provider.m_outputDirPath loopDevicePath)

def GenerateNewDmDeviceName (host : MountHost) : String := DEVICE_MAPPER_DEVICE_NAME_PREFIX++toString host.now

-- The sector size of each loop device is asked for; a failure throws, and is caught.
def dmTargets : List CopySliceTarget → MountHost → Option (List DmTargetLinear) × MountHost
  | [],host => (some [],host)
  | copySlice::rest,host =>
    let (granted,host) := host.ask
    if granted then
      let sectorSize := host.sectorSize copySlice.loopDevicePath
      let (targets,host) := dmTargets rest host
      (targets.map fun targets =>
        ⟨copySlice.loopDevicePath,copySlice.volumeOffset.toNat/sectorSize,copySlice.size.toNat/sectorSize,0⟩::targets,host)
    else (none,host)

def CreateDmDevice (copySlices : List CopySliceTarget) (host : MountHost) : Option (String × String) × MountHost :=
  let dmDeviceName := GenerateNewDmDeviceName host
  match dmTargets copySlices host with
  | (none,host) => (none,host)
  | (some targets,host) =>
    match dmCreateDevice host dmDeviceName targets provider.m_readOnly with
    | (none,host) => (none,host)
    | (some dmDevicePath,host) =>
      (some (dmDeviceName,dmDevicePath),SaveDmDeviceCreationRecord host provider.m_outputDirPath dmDeviceName)

def RemoveDmDeviceIfExists (dmDeviceName : String) (host : MountHost) : Bool × MountHost :=
  match RemoveDeviceIfExists host dmDeviceName with
  | (false,host) => (false,host)
  | (true,host) => (true,RemoveDmDeviceCreationRecord host provider.m_outputDirPath dmDeviceName)

def LoadResidualLoopDeviceList (host : MountHost) : List String × MountHost :=
  let (filelist,host) := ListRecordFiles host provider.m_outputDirPath
  ((filelist.getD []).filterMap fun filename =>
    (findText filename LOOPBACK_DEVICE_CREATION_RECORD_SUFFIX).map fun pos =>
      LOOPBACK_DEVICE_PATH_PREFIX++takeText filename pos,host)

def LoadResidualDmDeviceList (host : MountHost) : List String × MountHost :=
  let (filelist,host) := ListRecordFiles host provider.m_outputDirPath
  ((filelist.getD []).filterMap fun filename =>
    (findText filename DEVICE_MAPPER_DEVICE_CREATION_RECORD_SUFFIX).map fun _ =>
      takeText filename (filename.length-DEVICE_MAPPER_DEVICE_CREATION_RECORD_SUFFIX.length),host)

-- Every removal is tried, and the result says whether all of them succeeded.
def removeEach (remove : String → MountHost → Bool × MountHost) : List String → MountHost → Bool × MountHost
  | [],host => (true,host)
  | name::rest,host =>
    let (removed,host) := remove name host
    let (others,host) := removeEach remove rest host
    (removed && others,host)

def RollbackClearResidue (host : MountHost) : Bool × MountHost :=
  let (dmDeviceResidualList,host) := provider.LoadResidualDmDeviceList host
  let (dmRemoved,host) := removeEach provider.RemoveDmDeviceIfExists dmDeviceResidualList host
  let (loopDeviceResidualList,host) := provider.LoadResidualLoopDeviceList host
  let (loopRemoved,host) := removeEach provider.DetachLoopDeviceIfAttached loopDeviceResidualList host
  (dmRemoved && loopRemoved,host)

def attachSegments : List CopySegment → LinuxDeviceMapperCopyMountRecord → MountHost →
    Option LinuxDeviceMapperCopyMountRecord × MountHost
  | [],mountRecord,host => (some mountRecord,host)
  | segment::rest,mountRecord,host =>
    let copyFilePath := GetCopyDataFilePath provider.m_copyDataDirPath provider.m_copyName .BIN segment.index
    match provider.AttachDmLoopDevice copyFilePath host with
    | (none,host) => (none,host)
    | (some loopDevicePath,host) =>
      attachSegments rest {mountRecord with
        loopDevices := mountRecord.loopDevices++[loopDevicePath]
        copySlices := mountRecord.copySlices++[⟨copyFilePath,segment.offset,segment.length,loopDevicePath⟩]} host

def chooseDevice (mountRecord : LinuxDeviceMapperCopyMountRecord) (host : MountHost) :
    Option LinuxDeviceMapperCopyMountRecord × MountHost :=
  if mountRecord.copySlices.length = 1 then (some {mountRecord with devicePath := mountRecord.loopDevices.headD ""},host)
  else
    match provider.CreateDmDevice mountRecord.copySlices host with
    | (none,host) => (none,host)
    | (some (dmDeviceName,dmDevicePath),host) =>
      (some {mountRecord with dmDeviceName := dmDeviceName,devicePath := dmDevicePath},host)

def rollback (host : MountHost) : Bool × MountHost := (false,(provider.RollbackClearResidue host).2)

-- The record is read from the path at which it should be saved.
def Mount (json : MountJson) (host : MountHost) : Bool × MountHost :=
  match provider.attachSegments provider.m_segments {copyFormat := .BIN,mountTargetPath := provider.m_mountTargetPath} host with
  | (none,host) => provider.rollback host
  | (some mountRecord,host) =>
    match provider.chooseDevice mountRecord host with
    | (none,host) => provider.rollback host
    | (some mountRecord,host) =>
      match linuxMount host provider.m_mountTargetPath mountRecord.devicePath provider.m_mountFsType provider.m_mountOptions
          provider.m_readOnly with
      | (false,host) => provider.rollback host
      | (true,host) =>
        match JsonDeserialize json.Deserialize host provider.GetMountRecordPath with
        | none => provider.rollback host
        | some _ => (true,host)

end LinuxDeviceMapperMountProvider

structure LinuxDeviceMapperUmountProvider where
  m_outputDirPath : String
  m_mountTargetPath : String
  m_dmDeviceName : String
  m_loopDevices : List String
  deriving DecidableEq, Repr

def GetParentDirectoryPath (fullpath : String) : String :=
  let parentDirPath := (fullpath.toList.reverse.dropWhile fun c => c = '/').reverse
  match parentDirPath.reverse.dropWhile fun c => c ≠ '/' with
  | [] => ""
  | _::rest => String.ofList (fullpath.toList.take rest.length)

namespace LinuxDeviceMapperUmountProvider

def Build (json : MountJson) (host : MountHost) (mountRecordJsonFilePath outputDirPath : String) :
    Option LinuxDeviceMapperUmountProvider :=
  (JsonDeserialize json.Deserialize host mountRecordJsonFilePath).map fun mountRecord =>
    ⟨outputDirPath,mountRecord.mountTargetPath,mountRecord.dmDeviceName,mountRecord.loopDevices⟩

variable (provider : LinuxDeviceMapperUmountProvider)

-- The creation record of a loop device is removed where it could not be detached.
def detachLoopDevice (loopDevicePath : String) (host : MountHost) : Bool × MountHost :=
  match loopbackAttached host loopDevicePath with
  | (false,host) => (true,host)
  | (true,host) =>
    match loopbackDetach host loopDevicePath with
    | (true,host) => (true,host)
    | (false,host) => (false,RemoveLoopDeviceCreationRecord host provider.m_outputDirPath loopDevicePath)

def Umount (host : MountHost) : Bool × MountHost :=
  let (target,host) := linuxUmount host provider.m_mountTargetPath
  let (device,host) := umountAll host provider.m_dmDeviceName
  let (removed,host) := if provider.m_dmDeviceName = "" then (true,host) else RemoveDeviceIfExists host provider.m_dmDeviceName
  let (detached,host) := LinuxDeviceMapperMountProvider.removeEach provider.detachLoopDevice provider.m_loopDevices host
  (target && device && removed && detached,host)

end LinuxDeviceMapperUmountProvider

-- VolumeCopyUmountProvider::Build for the record of a BIN copy; that of an image has another provider.
def VolumeCopyUmountProviderBuild (json : MountJson) (host : MountHost) (mountRecordJsonFilePath : String) :
    Option LinuxDeviceMapperUmountProvider :=
  if (host.files.lookup mountRecordJsonFilePath).isSome then
    match JsonDeserialize json.DeserializeCommon host mountRecordJsonFilePath with
    | some .BIN => LinuxDeviceMapperUmountProvider.Build json host mountRecordJsonFilePath (GetParentDirectoryPath mountRecordJsonFilePath)
    | _ => none
  else none

end VolumeBackup
