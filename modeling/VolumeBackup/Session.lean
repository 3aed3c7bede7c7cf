import VolumeBackup.TaskContext

namespace VolumeBackup
open ByteMemory

inductive Outcome where
  | ok
  | fail (torn : Tear)

def Outcome.isOk : Outcome → Bool
  | .ok => true
  | .fail _ => false

-- A reader or writer of raw data: offsets are shifted by m_shiftOffset up or down as m_flag says.
-- A device keeps its size, a file may grow; neither has bytes past a signed 64-bit position.
structure RawData where
  m_flag : Int
  m_shiftOffset : UInt64
  device : Bool
  deriving DecidableEq, Repr

def RawData.position (raw : RawData) (offset : Nat) : Nat :=
  if 0 < raw.m_flag then (offset+raw.m_shiftOffset.toNat) % 2^64
  else if raw.m_flag < 0 then (offset+2^64-raw.m_shiftOffset.toNat) % 2^64
  else offset

-- read() and write() take an int length, and moving nothing at all counts as a failure.
def lengthAccepted (length : Nat) : Bool := 0 < length ∧ length < 2^31

def RawData.Read (raw : RawData) (source : Content) (offset length : Nat) : Option Memory :=
  if lengthAccepted length ∧ raw.position offset+length < 2^63 then source.read (raw.position offset) length else none

def RawData.Write (raw : RawData) (target : Content) (offset length : Nat) (data : Memory) : Option Content :=
  if lengthAccepted length ∧ raw.position offset+length < 2^63 ∧
      (raw.device = true → raw.position offset+length ≤ target.size) then
    some (target.write (raw.position offset) length data)
  else none

-- What the threads did, newest first: reads and writes with their result, checksums computed, blocks
-- dropped as unchanged, left out as empty, or thrown away because the writer has failed.
inductive Event where
  | read (index : Nat) (ok : Bool)
  | hash (index : Nat)
  | drop (index : Nat)
  | skipEmpty (index : Nat)
  | write (index volumeOffset : Nat) (data : List UInt8) (ok : Bool)
  | discard (index : Nat)
  deriving DecidableEq, Repr

inductive ReaderPc where
  | notStarted | start | check | pause | skip | fetch
  | read (ptr : Nat)
  | push (block : VolumeConsumeBlock)
  | terminate (status : TaskStatus)
  | finish | exited
  deriving DecidableEq, Repr

inductive WorkerPc where
  | start | check | pop
  | hash (block : VolumeConsumeBlock)
  | diff (block : VolumeConsumeBlock)
  | free (block : VolumeConsumeBlock)
  | mark (block : VolumeConsumeBlock)
  | push (block : VolumeConsumeBlock)
  | terminate (status : TaskStatus)
  | leave | test | finish | exited
  deriving DecidableEq, Repr

inductive WriterPc where
  | notStarted | check | pop
  | discard (block : VolumeConsumeBlock)
  | write (block : VolumeConsumeBlock)
  | failed (block : VolumeConsumeBlock)
  | markWritten (block : VolumeConsumeBlock)
  | markProcessed (block : VolumeConsumeBlock)
  | free (block : VolumeConsumeBlock)
  | terminate (status : TaskStatus)
  | review | revise | exited
  deriving DecidableEq, Repr

structure VolumeBlockReader where
  task : StatefulTask := {}
  pc : ReaderPc := .notStarted
  m_currentIndex : Nat := 0
  m_pause : Bool := false
  deriving DecidableEq, Repr

structure VolumeBlockHasher where
  task : StatefulTask := {}
  m_workersRunning : Nat := 0
  m_workers : List WorkerPc := []
  deriving DecidableEq, Repr

structure VolumeBlockWriter where
  task : StatefulTask := {}
  pc : WriterPc := .notStarted
  deriving DecidableEq, Repr

structure SessionEnv where
  config : VolumeTaskSharedConfig
  m_forwardMode : HasherForwardMode
  dataReader : RawData
  dataWriter : RawData
  sha256 : List UInt8 → Digest

-- The shared context and the components. `target` is the file or volume behind the data writer.
structure Session where
  counter : SessionCounter
  allocator : VolumeBlockAllocator
  pool : Memory
  hashingQueue : BlockingQueue
  writeQueue : BlockingQueue
  hashingContext : BlockHashingContext
  processedBitmap : Bitmap
  writtenBitmap : Bitmap
  readerTask : VolumeBlockReader
  hasherTask : VolumeBlockHasher
  writerTask : VolumeBlockWriter
  target : Content
  history : List Event

def Session.new (config : VolumeTaskSharedConfig) (hashingContext : BlockHashingContext)
    (processed written : Bitmap) (counter : SessionCounter) (target : Content) : Session where
  counter := counter
  allocator := .new config.blockSize DEFAULT_ALLOCATOR_BLOCK_NUM
  pool := zeros
  hashingQueue := {m_maxSize := DEFAULT_QUEUE_SIZE}
  writeQueue := {m_maxSize := DEFAULT_QUEUE_SIZE}
  hashingContext := hashingContext
  processedBitmap := processed
  writtenBitmap := written
  readerTask := {}
  hasherTask := {}
  writerTask := {}
  target := target
  history := []

section machine
variable (env : SessionEnv)

def Session.reader (s : Session) (pc : ReaderPc) : Session :=
  {s with readerTask := {s.readerTask with pc := pc}}

def Session.worker (s : Session) (k : Nat) (pc : WorkerPc) : Session :=
  {s with hasherTask := {s.hasherTask with m_workers := s.hasherTask.m_workers.set k pc}}

def Session.writer (s : Session) (pc : WriterPc) : Session :=
  {s with writerTask := {s.writerTask with pc := pc}}

def Session.record (s : Session) (event : Event) : Session := {s with history := event::s.history}

def InitCurrentIndex (s : Session) : Nat :=
  if env.config.checkpointEnabled then s.processedBitmap.FirstIndexUnset else 0

def SkipReadingBlock (s : Session) : Bool :=
  env.config.checkpointEnabled && s.processedBitmap.Test s.readerTask.m_currentIndex

def consumeBlock (s : Session) (ptr : Nat) : VolumeConsumeBlock :=
  ⟨ptr,s.readerTask.m_currentIndex,env.config.consumeBlockOffset s.readerTask.m_currentIndex,
    env.config.nBytesToRead s.readerTask.m_currentIndex⟩

-- BlockingPushForward and RevertNextBlock. A counter changes with the queue operation next to it.
def BlockingPushForward (s : Session) (block : VolumeConsumeBlock) : Option Session :=
  if env.config.hasherEnabled then
    (s.hashingQueue.BlockingPush block).map fun queue =>
      {s with
        hashingQueue := queue,counter := {s.counter with blocksToHash := s.counter.blocksToHash+1},
        readerTask := {s.readerTask with m_currentIndex := s.readerTask.m_currentIndex+1,pc := .check}}
  else
    (s.writeQueue.BlockingPush block).map fun queue =>
      {s with
        writeQueue := queue,counter := {s.counter with bytesToWrite := s.counter.bytesToWrite+block.length},
        readerTask := {s.readerTask with m_currentIndex := s.readerTask.m_currentIndex+1,pc := .check}}

-- VolumeBlockReader::MainThread, one access to shared data at a time. A failed outcome of the fetch
-- is its 60 second timeout.
def readerStep (source : Content) (outcome : Outcome) (s : Session) : Option Session :=
  match s.readerTask.pc with
  | .notStarted => none
  | .start => some {s with readerTask := {s.readerTask with m_currentIndex := InitCurrentIndex env s,pc := .check}}
  | .check =>
    if env.config.m_maxIndex < s.readerTask.m_currentIndex then some (s.reader (.terminate .SUCCEED))
    else if s.readerTask.task.m_failed then some (s.reader (.terminate .FAILED))
    else if s.readerTask.task.m_abort then some (s.reader (.terminate .ABORTED))
    else some (s.reader .pause)
  | .pause => some (s.reader (if s.readerTask.m_pause then .check else .skip))
  | .skip =>
    if SkipReadingBlock env s then
      some {s with readerTask := {s.readerTask with m_currentIndex := s.readerTask.m_currentIndex+1,pc := .check}}
    else some (s.reader .fetch)
  | .fetch =>
    match s.allocator.BlockAlloc,outcome with
    | some (ptr,allocator),_ => some {s.reader (.read ptr) with allocator := allocator}
    | none,.ok => some s
    | none,.fail _ => some (s.reader (.terminate .FAILED))
  | .read ptr =>
    let block := consumeBlock env s ptr
    match outcome with
    | .ok => (env.dataReader.Read source block.volumeOffset block.length).map fun data =>
        {(s.reader (.push block)).record (.read block.index true) with
          pool := store s.pool ptr block.length data,
          counter := {s.counter with bytesRead := s.counter.bytesRead+block.length}}
    | .fail _ => some {(s.record (.read block.index false)) with
        readerTask := {s.readerTask with task := {s.readerTask.task with m_failed := true},pc := .terminate .FAILED}}
  | .push block => BlockingPushForward env s block
  | .terminate status => some {s with
      readerTask := {s.readerTask with task := {s.readerTask.task with m_status := status},pc := .finish}}
  | .finish =>
    if env.config.hasherEnabled then some {s.reader .exited with hashingQueue := s.hashingQueue.Finish}
    else some {s.reader .exited with writeQueue := s.writeQueue.Finish}
  | .exited => none

-- VolumeBlockHasher::WorkerThread and HandleWorkerTerminate. The calls of OpenSSL succeed.
def workerStep (k : Nat) (s : Session) : Option Session :=
  match s.hasherTask.m_workers[k]? with
  | none => none
  | some .start => some {s with hasherTask := {s.hasherTask with
      m_workersRunning := s.hasherTask.m_workersRunning+1,m_workers := s.hasherTask.m_workers.set k .check}}
  | some .check => some (s.worker k (if s.hasherTask.task.m_abort then .terminate .ABORTED else .pop))
  | some .pop =>
    match s.hashingQueue.BlockingPop with
    | none => none
    | some none => some (s.worker k (.terminate .SUCCEED))
    | some (some (block,queue)) => some {s.worker k (.hash block) with hashingQueue := queue}
  | some (.hash block) =>
    let digest := env.sha256 (read s.pool block.ptr block.length)
    let next := match env.m_forwardMode with
      | .DIRECT => WorkerPc.push block
      | .DIFF => WorkerPc.diff block
    some {(s.worker k next).record (.hash block.index) with
      hashingContext := {s.hashingContext with lastestTable := setEntry s.hashingContext.lastestTable block.index digest},
      counter := {s.counter with blocksHashed := s.counter.blocksHashed+1}}
  | some (.diff block) =>
    let offset := diffOffset block.index
    if memcmp s.hashingContext.previousTable offset s.hashingContext.lastestTable offset SHA256_CHECKSUM_SIZE then
      some ((s.worker k (.free block)).record (.drop block.index))
    else some (s.worker k (.push block))
  | some (.free block) => (s.allocator.BlockFree block.ptr).map fun allocator =>
      {s.worker k (.mark block) with allocator := allocator}
  | some (.mark block) => some {s.worker k .check with processedBitmap := s.processedBitmap.Set block.index}
  | some (.push block) => (s.writeQueue.BlockingPush block).map fun queue =>
      {s.worker k .check with
        writeQueue := queue,
        counter := {s.counter with bytesToWrite := s.counter.bytesToWrite+block.length}}
  | some (.terminate status) => some {s with hasherTask := {s.hasherTask with
      task := {s.hasherTask.task with m_status := status},m_workers := s.hasherTask.m_workers.set k .leave}}
  | some .leave => some {s with hasherTask := {s.hasherTask with
      m_workersRunning := s.hasherTask.m_workersRunning-1,m_workers := s.hasherTask.m_workers.set k .test}}
  | some .test => some (s.worker k (if s.hasherTask.m_workersRunning ≠ 0 then .exited else .finish))
  | some .finish => some {s.worker k .exited with writeQueue := s.writeQueue.Finish}
  | some .exited => none

-- Not needed is a block of zeros only, and only where skipEmptyBlock asks for it.
def NeedToWrite (buffer : Memory) (ptr length : Nat) : Bool :=
  if env.config.skipEmptyBlock then !(buffer ptr == 0 && memcmp buffer ptr buffer (ptr+1) (length-1)) else true

-- VolumeBlockWriter::MainThread. After a failed write the loop goes on with the lines below it.
def writerStep (outcome : Outcome) (s : Session) : Option Session :=
  match s.writerTask.pc with
  | .notStarted => none
  | .check => some (s.writer (if s.writerTask.task.m_abort then .terminate .ABORTED else .pop))
  | .pop =>
    match s.writeQueue.BlockingPop with
    | none => none
    | some none => some (s.writer (.terminate .SUCCEED))
    | some (some (block,queue)) =>
      some {s.writer (if s.writerTask.task.m_failed then .discard block else .write block) with writeQueue := queue}
  | .discard block => (s.allocator.BlockFree block.ptr).map fun allocator =>
      {(s.writer .check).record (.discard block.index) with
        allocator := allocator,counter := {s.counter with blockesWriteFailed := s.counter.blockesWriteFailed+1}}
  | .write block =>
    if NeedToWrite env s.pool block.ptr block.length then
      let data := fun k => s.pool (block.ptr+k)
      let bytes := read s.pool block.ptr block.length
      match outcome with
      | .ok => (env.dataWriter.Write s.target block.volumeOffset block.length data).map fun target =>
          {(s.writer (.markWritten block)).record (.write block.index block.volumeOffset bytes true) with target := target}
      | .fail torn => some {(s.writer (.failed block)).record (.write block.index block.volumeOffset bytes false) with
          target := s.target.tear (env.dataWriter.position block.volumeOffset) block.length data torn}
    else some ((s.writer (.markWritten block)).record (.skipEmpty block.index))
  | .failed block => (s.allocator.BlockFree block.ptr).map fun allocator =>
      {s with
        allocator := allocator,
        counter := {s.counter with blockesWriteFailed := s.counter.blockesWriteFailed+1},
        writerTask := {s.writerTask with task := {s.writerTask.task with m_failed := true},pc := .markWritten block}}
  | .markWritten block => some {s.writer (.markProcessed block) with writtenBitmap := s.writtenBitmap.Set block.index}
  | .markProcessed block => some {s.writer (.free block) with processedBitmap := s.processedBitmap.Set block.index}
  | .free block => (s.allocator.BlockFree block.ptr).map fun allocator =>
      {s.writer .check with
        allocator := allocator,
        counter := {s.counter with bytesWritten := s.counter.bytesWritten+block.length}}
  | .terminate status => some {s with
      writerTask := {s.writerTask with task := {s.writerTask.task with m_status := status},pc := .review}}
  | .review => some (s.writer
      (if s.writerTask.task.m_status = .SUCCEED ∧ s.counter.blockesWriteFailed ≠ 0 then .revise else .exited))
  | .revise => some {s with
      writerTask := {s.writerTask with task := {s.writerTask.task with m_status := .FAILED},pc := .exited}}
  | .exited => none

end machine

inductive Component where
  | readerTask | hasherTask | writerTask
  deriving DecidableEq, Repr

def Session.task (s : Session) : Component → StatefulTask
  | .readerTask => s.readerTask.task
  | .hasherTask => s.hasherTask.task
  | .writerTask => s.writerTask.task

def Session.setTask (s : Session) (component : Component) (task : StatefulTask) : Session :=
  match component with
  | .readerTask => {s with readerTask := {s.readerTask with task := task}}
  | .hasherTask => {s with hasherTask := {s.hasherTask with task := task}}
  | .writerTask => {s with writerTask := {s.writerTask with task := task}}

-- The steps of the component threads, and what the task's own thread does to them: start a
-- component, pause and resume the reader, and the assignments of StatefulTask::Abort.
inductive SessionAction where
  | reader (outcome : Outcome)
  | worker (k : Nat)
  | writer (outcome : Outcome)
  | start (component : Component)
  | pause (paused : Bool)
  | abort (component : Component)
  | aborted (component : Component)
  | aborting (component : Component)

section machine
variable (env : SessionEnv)

-- Start() of a component that was just built; AssertTaskNotStarted lets no other one pass. A hasher
-- without workers to run is done or failed.
def Session.start (s : Session) : Component → Option Session
  | .readerTask => if s.readerTask.task.m_status = .INIT ∧ s.readerTask.pc = .notStarted then
      some {s with
        counter := {s.counter with bytesToRead := env.config.sessionSize.toNat},
        readerTask := {s.readerTask with task := {s.readerTask.task with m_status := .RUNNING},pc := .start}}
    else none
  | .hasherTask => if s.hasherTask.task.m_status ≠ .INIT ∨ s.hasherTask.m_workers ≠ [] then none
    else if !env.config.hasherEnabled then
      some (s.setTask .hasherTask {s.hasherTask.task with m_status := .SUCCEED})
    else if env.config.hasherWorkerNum = 0 ∨ MAX_HASHER_WORKER_NUM < env.config.hasherWorkerNum then
      some (s.setTask .hasherTask {s.hasherTask.task with m_status := .FAILED})
    else some {s with hasherTask := {s.hasherTask with
      task := {s.hasherTask.task with m_status := .RUNNING},
      m_workers := List.replicate env.config.hasherWorkerNum.toNat .start}}
  | .writerTask => if s.writerTask.task.m_status = .INIT ∧ s.writerTask.pc = .notStarted then
      some {s with writerTask := {s.writerTask with task := {s.writerTask.task with m_status := .RUNNING},pc := .check}}
    else none

def sessionStep (source : Content) (s : Session) : SessionAction → Option Session
  | .reader outcome => readerStep env source outcome s
  | .worker k => workerStep env k s
  | .writer outcome => writerStep env outcome s
  | .start component => s.start env component
  | .pause paused => some {s with readerTask := {s.readerTask with m_pause := paused}}
  | .abort component => some (s.setTask component {s.task component with m_abort := true})
  | .aborted component => some (s.setTask component {s.task component with m_status := .ABORTED})
  | .aborting component => some (s.setTask component {s.task component with m_status := .ABORTING})

end machine

end VolumeBackup
