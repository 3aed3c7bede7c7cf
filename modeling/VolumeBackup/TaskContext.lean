import VolumeBackup.Bitmap

namespace VolumeBackup
open ByteMemory

def DEFAULT_BLOCK_SIZE : UInt32 := 4194304
def DEFAULT_ALLOCATOR_BLOCK_NUM : Nat := 32
def DEFAULT_QUEUE_SIZE : Nat := 64
def SHA256_CHECKSUM_SIZE : Nat := 32
def MAX_HASHER_WORKER_NUM : UInt32 := 32

inductive TaskStatus where
  | INIT | RUNNING | SUCCEED | ABORTING | ABORTED | FAILED
  deriving DecidableEq, Repr

-- The virtual disk formats exist in Windows builds only.
inductive CopyFormat where
  | BIN | IMAGE
  deriving DecidableEq, Repr

inductive BackupType where
  | FULL | FOREVER_INC
  deriving DecidableEq, Repr

inductive HasherForwardMode where
  | DIRECT | DIFF
  deriving DecidableEq, Repr

structure StatefulTask where
  m_status : TaskStatus := .INIT
  m_abort : Bool := false
  m_failed : Bool := false
  deriving DecidableEq, Repr

def TaskStatus.IsFailed (status : TaskStatus) : Bool := status = .FAILED
def TaskStatus.IsTerminated (status : TaskStatus) : Bool := status = .SUCCEED ∨ status = .ABORTED ∨ status = .FAILED

structure VolumeTaskSharedConfig where
  sessionOffset : UInt64
  sessionSize : UInt64
  blockSize : UInt32
  hasherEnabled : Bool
  checkpointEnabled : Bool
  hasherWorkerNum : UInt32
  volumePath : String
  copyFilePath : String
  copyFormat : CopyFormat
  lastestChecksumBinPath : String
  prevChecksumBinPath : String
  checkpointFilePath : String
  skipEmptyBlock : Bool
  deriving DecidableEq, Repr

section geometry
variable (config : VolumeTaskSharedConfig)

def VolumeTaskSharedConfig.TotalBlocks : Nat :=
  let numBlocks := config.sessionSize.toNat/config.blockSize.toNat
  if config.sessionSize.toNat % config.blockSize.toNat ≠ 0 then numBlocks+1 else numBlocks

def VolumeTaskSharedConfig.m_maxIndex : Nat := config.TotalBlocks-1

-- uint64_t arithmetic: the sum may wrap.
def VolumeTaskSharedConfig.consumeBlockOffset (index : Nat) : Nat :=
  (index*config.blockSize.toNat+config.sessionOffset.toNat) % 2^64

def VolumeTaskSharedConfig.nBytesToRead (index : Nat) : Nat :=
  min config.blockSize.toNat (config.sessionSize.toNat-index*config.blockSize.toNat)

end geometry

structure VolumeConsumeBlock where
  ptr : Nat
  index : Nat
  volumeOffset : Nat
  length : Nat
  deriving DecidableEq, Repr

-- A pointer is the distance from m_pool, which `m_blockSize * i` computes in 32 bits.
structure VolumeBlockAllocator where
  m_allocTable : List Bool
  m_blockSize : UInt32
  deriving DecidableEq, Repr

def VolumeBlockAllocator.new (blockSize : UInt32) (blockNum : Nat) : VolumeBlockAllocator :=
  ⟨List.replicate blockNum false,blockSize⟩

def VolumeBlockAllocator.address (allocator : VolumeBlockAllocator) (i : Nat) : Nat :=
  allocator.m_blockSize.toNat*i % 2^32

-- The loop counts in int, up to static_cast<int>(m_blockNum).
def VolumeBlockAllocator.BlockAlloc (allocator : VolumeBlockAllocator) : Option (Nat × VolumeBlockAllocator) :=
  let i := allocator.m_allocTable.findIdx (· = false)
  if (i : Int) < (Int32.ofNat allocator.m_allocTable.length).toInt then
    some (allocator.address i,{allocator with m_allocTable := allocator.m_allocTable.set i true})
  else none

-- A misaligned pointer is a runtime_error, and no thread catches it.
def VolumeBlockAllocator.BlockFree (allocator : VolumeBlockAllocator) (ptr : Nat) : Option VolumeBlockAllocator :=
  if ptr % allocator.m_blockSize.toNat = 0 then
    some {allocator with m_allocTable := allocator.m_allocTable.set (ptr/allocator.m_blockSize.toNat) false}
  else none

-- Pushing and popping are atomic: `none` is a thread that has to wait.
structure BlockingQueue where
  m_queue : List VolumeConsumeBlock := []
  m_finished : Bool := false
  m_maxSize : Nat
  deriving DecidableEq, Repr

-- The queue is unchanged where the push is refused; no caller looks at the result.
def BlockingQueue.BlockingPush (queue : BlockingQueue) (v : VolumeConsumeBlock) : Option BlockingQueue :=
  if queue.m_finished then some queue
  else if queue.m_queue.length < queue.m_maxSize then some {queue with m_queue := queue.m_queue++[v]}
  else none

def BlockingQueue.BlockingPop (queue : BlockingQueue) : Option (Option (VolumeConsumeBlock × BlockingQueue)) :=
  match queue.m_queue with
  | [] => if queue.m_finished then some none else none
  | v::rest => some (some (v,{queue with m_queue := rest}))

def BlockingQueue.Finish (queue : BlockingQueue) : BlockingQueue := {queue with m_finished := true}

structure SessionCounter where
  bytesToRead : Nat := 0
  bytesRead : Nat := 0
  blocksToHash : Nat := 0
  blocksHashed : Nat := 0
  bytesToWrite : Nat := 0
  bytesWritten : Nat := 0
  blockesWriteFailed : Nat := 0
  deriving DecidableEq, Repr

abbrev Digest := Fin 32 → UInt8

def Digest.bytes (digest : Digest) : Memory := fun k => if inside : k < 32 then digest ⟨k,inside⟩ else 0

def entry (table : Memory) (index : Nat) : Digest := fun k => table (index*32+k)

def setEntry (table : Memory) (index : Nat) (digest : Digest) : Memory := store table (index*32) 32 digest.bytes

-- m_singleChecksumSize * static_cast<uint32_t>(index)
def diffOffset (index : Nat) : Nat := SHA256_CHECKSUM_SIZE*(index % 2^32) % 2^32

def memcmp (left : Memory) (offset : Nat) (right : Memory) (start length : Nat) : Bool :=
  read left offset length == read right start length

-- BlockHashingContext; the previous table is allocated for an incremental backup only.
structure BlockHashingContext where
  lastestSize : Nat
  previousSize : Nat
  lastestTable : Memory := zeros
  previousTable : Memory := zeros

theorem int_bound {i n : Nat} (below : (i : Int) < (Int32.ofNat n).toInt) : i < n := by
  rw [Int32.toInt_ofNat',show Int32.size = 2^32 from rfl,Int.bmod_def] at below
  split at below <;> omega

theorem entry_setEntry_self {table : Memory} {index : Nat} {digest : Digest} :
    entry (setEntry table index digest) index = digest := by
  funext k
  unfold entry setEntry
  rw [store_inside (by omega) (by omega)]
  simp [Digest.bytes]

theorem entry_setEntry_other {table : Memory} {index other : Nat} {digest : Digest} (differ : other ≠ index) :
    entry (setEntry table index digest) other = entry table other := by
  funext k
  unfold entry setEntry
  have bound := k.isLt
  rcases Nat.lt_or_gt_of_ne differ with less | greater
  · exact store_outside (by omega)
  · exact store_outside (by omega)

theorem diffOffset_exact {index : Nat} (few : index < 2^27) : diffOffset index = index*32 := by
  unfold diffOffset SHA256_CHECKSUM_SIZE
  omega

theorem memcmp_entry {left right : Memory} {index : Nat} :
    memcmp left (index*32) right (index*32) 32 = true ↔ entry left index = entry right index := by
  unfold memcmp
  rw [beq_iff_eq,read_same]
  constructor
  · intro same
    funext k
    exact same k k.isLt
  · intro equal k bound
    exact congrFun equal ⟨k,bound⟩

end VolumeBackup
