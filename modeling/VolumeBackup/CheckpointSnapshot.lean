import VolumeBackup.ProtectConfig

namespace VolumeBackup
open ByteMemory

structure CheckpointSnapshot where
  bitmapBufferBytesLength : Nat
  processedBitmapBuffer : Memory
  writtenBitmapBuffer : Memory

-- The part of the shared context that outlives a crash through the checkpoint files; the queues and the
-- buffers start afresh with the session.
structure VolumeTaskSharedContext where
  processedBitmap : Bitmap
  writtenBitmap : Bitmap
  counter : SessionCounter
  hashingContext : BlockHashingContext

def CheckpointSnapshot.LoadFrom (disk : Disk) (filepath : String) : Option CheckpointSnapshot :=
  let totalSize := GetFileSize disk filepath
  if totalSize = 0 ∨ totalSize % 2 ≠ 0 then none
  else (ReadBinaryBuffer disk filepath totalSize).map fun buffer =>
    {bitmapBufferBytesLength := totalSize/2,processedBitmapBuffer := buffer,
      writtenBitmapBuffer := fun k => buffer (totalSize/2+k)}

def CheckpointSnapshot.buffer (snapshot : CheckpointSnapshot) : Memory := fun k =>
  if k < snapshot.bitmapBufferBytesLength then snapshot.processedBitmapBuffer k
  else snapshot.writtenBitmapBuffer (k-snapshot.bitmapBufferBytesLength)

def CheckpointSnapshot.SaveTo (snapshot : CheckpointSnapshot) (disk : Disk) (filepath : String) (reply : Reply) : Disk :=
  WriteBinaryBuffer disk filepath snapshot.buffer (2*snapshot.bitmapBufferBytesLength) reply

def TakeSessionCheckpointSnapshot (s : Session) : CheckpointSnapshot where
  bitmapBufferBytesLength := s.writtenBitmap.m_capacity
  processedBitmapBuffer := s.processedBitmap.m_table
  writtenBitmapBuffer := s.writtenBitmap.m_table

section restore
variable (disk : Disk) (config : VolumeTaskSharedConfig)

def IsSessionRestarted : Bool := IsFileExists disk config.checkpointFilePath

-- LoadSessionPreviousCopyChecksum: whole blocks only, counted and multiplied in 32 bits.
def LoadSessionPreviousCopyChecksum : Option Memory :=
  let blockCount := config.sessionSize.toNat/config.blockSize.toNat % 2^32
  let prevChecksumTableSize := blockCount*SHA256_CHECKSUM_SIZE % 2^32
  (ReadBinaryBuffer disk config.prevChecksumBinPath prevChecksumTableSize).map fun buffer =>
    store zeros 0 prevChecksumTableSize buffer

-- A restore has no hashing context.
def InitHashingContext (task : ProtectTask) : Option BlockHashingContext :=
  let lastestChecksumTableSize := config.TotalBlocks*SHA256_CHECKSUM_SIZE
  match task with
  | .restore _ _ => some {lastestSize := 0,previousSize := 0}
  | .backup backup _ =>
    if backup.IsIncrementBackup then
      (LoadSessionPreviousCopyChecksum disk config).map fun previousTable =>
        {lastestSize := lastestChecksumTableSize,previousSize := lastestChecksumTableSize,previousTable := previousTable}
    else some {lastestSize := lastestChecksumTableSize,previousSize := 0}

def ReadLatestHashingTable (context : VolumeTaskSharedContext) : Option VolumeTaskSharedContext :=
  let lastestChecksumTableSize := context.hashingContext.lastestSize
  (ReadBinaryBuffer disk config.lastestChecksumBinPath lastestChecksumTableSize).map fun buffer =>
    {context with hashingContext := {context.hashingContext with
      lastestTable := store context.hashingContext.lastestTable 0 lastestChecksumTableSize buffer}}

def RestoreSessionBitmap (context : VolumeTaskSharedContext) : Option VolumeTaskSharedContext :=
  (CheckpointSnapshot.LoadFrom disk config.checkpointFilePath).bind fun snapshot =>
    if snapshot.bitmapBufferBytesLength = context.writtenBitmap.m_capacity then
      some {context with
        processedBitmap := ⟨snapshot.bitmapBufferBytesLength,snapshot.processedBitmapBuffer⟩
        writtenBitmap := ⟨snapshot.bitmapBufferBytesLength,snapshot.writtenBitmapBuffer⟩}
    else none

def RestoreSessionCounter (context : VolumeTaskSharedContext) : VolumeTaskSharedContext :=
  let sessionSize := config.sessionSize.toNat
  let blockSize := config.blockSize.toNat
  let processedCount := context.processedBitmap.TotalSetCount
  let writtenCount := context.writtenBitmap.TotalSetCount
  let bytesProcessed := if processedCount = config.TotalBlocks then sessionSize else processedCount*blockSize
  let bytesWritten := if writtenCount = config.TotalBlocks then sessionSize else writtenCount*blockSize
  {context with counter := {context.counter with
    bytesToRead := sessionSize,bytesRead := bytesProcessed,bytesToWrite := bytesWritten,bytesWritten := bytesWritten,
    blocksToHash := if config.hasherEnabled then processedCount else 0,
    blocksHashed := if config.hasherEnabled then processedCount else 0}}

-- A table that was read stays read where the bitmaps behind it are refused.
def RestoreSessionCheckpoint (context : VolumeTaskSharedContext) : VolumeTaskSharedContext :=
  if !IsSessionRestarted disk config || !config.checkpointEnabled then context
  else
    match if config.hasherEnabled then ReadLatestHashingTable disk config context else some context with
    | none => context
    | some loaded =>
      match RestoreSessionBitmap disk config loaded with
      | none => loaded
      | some restored => RestoreSessionCounter config restored

-- InitBackupSessionContext or InitRestoreSessionContext, and the second RestoreSessionCheckpoint that
-- ThreadFunc adds. Nobody else writes these files meanwhile.
def InitSessionContext (task : ProtectTask) : Option VolumeTaskSharedContext :=
  (InitHashingContext disk config task).map fun hashingContext =>
    let fresh : VolumeTaskSharedContext :=
      {processedBitmap := .new config.TotalBlocks,writtenBitmap := .new config.TotalBlocks,counter := {},
        hashingContext := hashingContext}
    RestoreSessionCheckpoint disk config (RestoreSessionCheckpoint disk config fresh)

end restore

end VolumeBackup
