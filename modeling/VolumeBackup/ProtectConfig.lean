import VolumeBackup.CopyMetaFile
import VolumeBackup.Session

namespace VolumeBackup
open ByteMemory

def DEFAULT_VOLUME_COPY_NAME : String := "volumeprotect"
def DEFAULT_SESSION_SIZE : UInt64 := 1099511627776
def DEFAULT_HASHER_NUM : UInt32 := 8

structure VolumeBackupConfig where
  backupType : BackupType := .FULL
  copyFormat : CopyFormat := .BIN
  copyName : String := DEFAULT_VOLUME_COPY_NAME
  volumePath : String
  prevCopyMetaDirPath : String
  outputCopyDataDirPath : String
  outputCopyMetaDirPath : String
  blockSize : UInt32 := DEFAULT_BLOCK_SIZE
  sessionSize : UInt64 := DEFAULT_SESSION_SIZE
  hasherNum : UInt32 := DEFAULT_HASHER_NUM
  hasherEnabled : Bool := true
  enableCheckpoint : Bool := true
  checkpointDirPath : String
  clearCheckpointsOnSucceed : Bool := true
  skipEmptyBlock : Bool := false
  deriving DecidableEq, Repr

structure VolumeRestoreConfig where
  volumePath : String
  copyDataDirPath : String
  enableCheckpoint : Bool := true
  checkpointDirPath : String
  clearCheckpointsOnSucceed : Bool := true
  deriving DecidableEq, Repr

structure CopySegment where
  copyDataFile : String
  checksumBinFile : String
  index : Nat
  offset : UInt64
  length : UInt64
  deriving DecidableEq, Repr

structure VolumeCopyMeta where
  copyName : String
  backupType : BackupType
  copyFormat : CopyFormat
  volumeSize : UInt64
  blockSize : UInt32
  segments : List CopySegment
  volumePath : String
  deriving DecidableEq, Repr

namespace CopyMetaFile

def ofSegment (segment : VolumeBackup.CopySegment) : CopySegment :=
  ⟨ofString segment.copyDataFile,ofString segment.checksumBinFile,.ofNat segment.index,segment.offset,segment.length⟩

def ofMeta (volumeCopyMeta : VolumeBackup.VolumeCopyMeta) : VolumeCopyMeta where
  copyName := ofString volumeCopyMeta.copyName
  backupType := ofBackupType volumeCopyMeta.backupType
  copyFormat := ofCopyFormat volumeCopyMeta.copyFormat
  volumeSize := volumeCopyMeta.volumeSize
  blockSize := volumeCopyMeta.blockSize
  segments := volumeCopyMeta.segments.map ofSegment
  volumePath := ofString volumeCopyMeta.volumePath

end CopyMetaFile

-- The loop over the sessions of a volume, in uint64_t arithmetic. A round moves the offset on, so that
-- the loop has ended after as many rounds as the volume has bytes, or it never ends: `none`. The int sessionIndex
-- counts on without a bound here; the code's is good for 2^31 sessions.
def splitVolume (piece : UInt64 → UInt64 → Nat → β) (volumeSize maxSessionSize : UInt64) :
    Nat → UInt64 → Nat → Option (List β)
  | 0,_,_ => none
  | rounds+1,sessionOffset,sessionIndex =>
    if sessionOffset < volumeSize then
      let sessionSize := if volumeSize ≤ sessionOffset+maxSessionSize then volumeSize-sessionOffset else maxSessionSize
      (splitVolume piece volumeSize maxSessionSize rounds (sessionOffset+sessionSize) (sessionIndex+1)).map
        (piece sessionOffset sessionSize sessionIndex :: ·)
    else some []

section backup
variable (config : VolumeBackupConfig) (volumeSize : UInt64)

def VolumeBackupConfig.IsIncrementBackup : Bool := config.backupType = .FOREVER_INC

def VolumeBackupConfig.NewVolumeTaskSession (sessionOffset sessionSize : UInt64) (sessionIndex : Nat) :
    VolumeTaskSharedConfig where
  sessionOffset := sessionOffset
  sessionSize := sessionSize
  blockSize := config.blockSize
  hasherEnabled := config.hasherEnabled
  checkpointEnabled := config.enableCheckpoint
  hasherWorkerNum := config.hasherNum
  volumePath := config.volumePath
  copyFilePath := GetCopyDataFilePath config.outputCopyDataDirPath config.copyName config.copyFormat sessionIndex
  copyFormat := config.copyFormat
  lastestChecksumBinPath := GetChecksumBinPath config.outputCopyMetaDirPath config.copyName sessionIndex
  prevChecksumBinPath :=
    if config.IsIncrementBackup then GetChecksumBinPath config.prevCopyMetaDirPath config.copyName sessionIndex else ""
  checkpointFilePath := GetWriterBitmapFilePath config.checkpointDirPath config.copyName sessionIndex
  skipEmptyBlock := config.skipEmptyBlock

def VolumeBackupConfig.NewCopySegment (sessionOffset sessionSize : UInt64) (sessionIndex : Nat) : CopySegment where
  copyDataFile := GetFileName (GetCopyDataFilePath config.outputCopyDataDirPath config.copyName config.copyFormat sessionIndex)
  checksumBinFile := GetFileName (GetChecksumBinPath config.outputCopyMetaDirPath config.copyName sessionIndex)
  index := sessionIndex
  offset := sessionOffset
  length := sessionSize

def VolumeBackupConfig.split (piece : UInt64 → UInt64 → Nat → β) : Option (List β) :=
  splitVolume piece volumeSize config.sessionSize (volumeSize.toNat+1) 0 0

-- The block size that is recorded is the default one, whatever the configured one is.
def VolumeBackupConfig.volumeCopyMeta : Option VolumeCopyMeta :=
  (config.split volumeSize config.NewCopySegment).map fun segments =>
    {copyName := config.copyName,backupType := config.backupType,copyFormat := config.copyFormat,volumeSize := volumeSize,
      blockSize := DEFAULT_BLOCK_SIZE,segments := segments,volumePath := config.volumePath}

-- SplitFragmentBinaryBackupCopy: its sessionIndex stays 0.
def SplitFragmentBinaryBackupCopy : Option (List (String × UInt64)) :=
  config.split volumeSize fun _ sessionSize _ => (GetCopyDataFilePath config.outputCopyDataDirPath config.copyName .BIN 0,sessionSize)

def VolumeBackupConfig.copyResource : Option (List (String × UInt64)) :=
  match config.copyFormat with
  | .BIN => SplitFragmentBinaryBackupCopy config volumeSize
  | .IMAGE => some [(GetCopyDataFilePath config.outputCopyDataDirPath config.copyName .IMAGE 0,volumeSize)]

end backup

section restore
variable (config : VolumeRestoreConfig) (volumeCopyMeta : VolumeCopyMeta)

-- The fields of a session that a restore leaves alone are false, 0 or empty.
def VolumeRestoreConfig.session (segment : CopySegment) : VolumeTaskSharedConfig where
  sessionOffset := segment.offset
  sessionSize := segment.length
  blockSize := volumeCopyMeta.blockSize
  hasherEnabled := false
  checkpointEnabled := config.enableCheckpoint
  hasherWorkerNum := 0
  volumePath := config.volumePath
  copyFilePath := GetCopyDataFilePath config.copyDataDirPath volumeCopyMeta.copyName volumeCopyMeta.copyFormat segment.index
  copyFormat := volumeCopyMeta.copyFormat
  lastestChecksumBinPath := ""
  prevChecksumBinPath := ""
  checkpointFilePath := GetWriterBitmapFilePath config.checkpointDirPath volumeCopyMeta.copyName segment.index
  skipEmptyBlock := false

end restore

inductive ProtectTask where
  | backup (config : VolumeBackupConfig) (volumeSize : UInt64)
  | restore (config : VolumeRestoreConfig) (volumeCopyMeta : VolumeCopyMeta)

def ProtectTask.sessions : ProtectTask → Option (List VolumeTaskSharedConfig)
  | .backup config volumeSize => config.split volumeSize config.NewVolumeTaskSession
  | .restore config volumeCopyMeta => some (volumeCopyMeta.segments.map (config.session volumeCopyMeta))

def ProtectTask.clearsCheckpoints : ProtectTask → Bool
  | .backup config _ => config.enableCheckpoint && config.clearCheckpointsOnSucceed
  | .restore config _ => config.enableCheckpoint && config.clearCheckpointsOnSucceed

def ProtectTask.isBackup : ProtectTask → Bool
  | .backup _ _ => true
  | .restore _ _ => false

-- The components of a session in the order in which they are started, asked and aborted; a restore
-- has no hasher.
def ProtectTask.components : ProtectTask → List Component
  | .backup _ _ => [.readerTask,.hasherTask,.writerTask]
  | .restore _ _ => [.readerTask,.writerTask]

structure TaskEnv where
  task : ProtectTask
  sha256 : List UInt8 → Digest
  json : CopyMetaFile.MiniJson CopyMetaFile.VolumeCopyMeta
  device : String → Bool

def TaskEnv.Serialize (env : TaskEnv) (volumeCopyMeta : VolumeCopyMeta) : Content :=
  .ofText (env.json.Serialize (CopyMetaFile.ofMeta volumeCopyMeta))

section rawio
variable (env : TaskEnv) (config : VolumeTaskSharedConfig)

-- OpenRawDataCopyReader and OpenRawDataCopyWriter: the file of a BIN session starts at the session's offset.
def TaskEnv.copyData : RawData :=
  match config.copyFormat with
  | .BIN => ⟨-1,config.sessionOffset,env.device config.copyFilePath⟩
  | .IMAGE => ⟨0,0,env.device config.copyFilePath⟩

def TaskEnv.volumeData : RawData := ⟨0,0,env.device config.volumePath⟩

def TaskEnv.sourcePath : String :=
  match env.task with
  | .backup _ _ => config.volumePath
  | .restore _ _ => config.copyFilePath

def TaskEnv.targetPath : String :=
  match env.task with
  | .backup _ _ => config.copyFilePath
  | .restore _ _ => config.volumePath

def TaskEnv.sessionEnv : SessionEnv where
  config := config
  m_forwardMode := match env.task with
    | .backup config _ => if config.IsIncrementBackup then .DIFF else .DIRECT
    | .restore _ _ => .DIRECT
  dataReader := match env.task with
    | .backup _ _ => env.volumeData config
    | .restore _ _ => env.copyData config
  dataWriter := match env.task with
    | .backup _ _ => env.copyData config
    | .restore _ _ => env.volumeData config
  sha256 := env.sha256

end rawio

end VolumeBackup
