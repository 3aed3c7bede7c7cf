import VolumeBackup.PipelineExactness
import VolumeBackup.NoFalseSuccess
import VolumeBackup.NoLateWrite
import VolumeBackup.CheckpointConsistency
import VolumeBackup.BackupContent
import VolumeBackup.RestoreContent
import VolumeBackup.MountRecord
import VolumeBackup.DeadlockFreedom
import VolumeBackup.BufferOwnership
import VolumeBackup.TerminalStatus
import VolumeBackup.CopyResource
import VolumeBackup.ZeroCopyRestore
import VolumeBackup.IncrementValidation
import VolumeBackup.SkipEmpty
import VolumeBackup.UsableMetadata
import VolumeBackup.CrashResume
import VolumeBackup.IncrementResume
import VolumeBackup.ResumedReader
import VolumeBackup.BlockAllocator
import VolumeBackup.SessionPartition
import VolumeBackup.AcceptedConfig
import VolumeBackup.OwnChecksum
import VolumeBackup.QueueCalls
import VolumeBackup.DmTable
import VolumeBackup.MountResidue
import VolumeBackup.IdleIncrement
import VolumeBackup.BackupChain
import VolumeBackup.CheckpointFile
import VolumeBackup.SessionCounters
import VolumeBackup.ResumedCounters
import VolumeBackup.ReportedProgress
import VolumeBackup.ZeroCopyEnd
import VolumeBackup.RawWrites
import VolumeBackup.CopyMetaFile
import VolumeBackup.FileNames
import VolumeBackup.CommandLine
import VolumeBackup.DeviceMapperControl
import VolumeBackup.LoopbackMount
import VolumeBackup.BitmapSet
import VolumeBackup.PosixPaths
import VolumeBackup.SplitPaths
import VolumeBackup.ChecksumDump
import VolumeBackup.PromptAbort
import VolumeBackup.SessionRefinement
import VolumeBackup.SequentialRefinement
import VolumeBackup.SequentialTask
import VolumeBackup.RootCause
import VolumeBackup.CheckpointCrash
