import VolumeBackup.CheckpointSnapshot

namespace VolumeBackup
open ByteMemory

structure TaskStatistics where
  bytesToRead : Nat := 0
  bytesRead : Nat := 0
  blocksToHash : Nat := 0
  blocksHashed : Nat := 0
  bytesToWrite : Nat := 0
  bytesWritten : Nat := 0
  deriving DecidableEq, Repr

def TaskStatistics.plus (left right : TaskStatistics) : TaskStatistics where
  bytesToRead := left.bytesToRead+right.bytesToRead
  bytesRead := left.bytesRead+right.bytesRead
  blocksToHash := left.blocksToHash+right.blocksToHash
  blocksHashed := left.blocksHashed+right.blocksHashed
  bytesToWrite := left.bytesToWrite+right.bytesToWrite
  bytesWritten := left.bytesWritten+right.bytesWritten

def SessionCounter.statistics (counter : SessionCounter) : TaskStatistics where
  bytesToRead := counter.bytesToRead
  bytesRead := counter.bytesRead
  blocksToHash := counter.blocksToHash
  blocksHashed := counter.blocksHashed
  bytesToWrite := counter.bytesToWrite
  bytesWritten := counter.bytesWritten

-- The lines of StatefulTask::Abort: m_status is read twice and assigned at most once.
inductive AbortPc where
  | flag | init | aborted | terminated | aborting | returned
  deriving DecidableEq, Repr

def AbortPc.next (status : TaskStatus) : AbortPc → AbortPc
  | .flag => .init
  | .init => if status = .INIT then .aborted else .terminated
  | .terminated => if status.IsTerminated then .returned else .aborting
  | .aborted | .aborting | .returned => .returned

def AbortPc.assign (task : StatefulTask) : AbortPc → StatefulTask
  | .flag => {task with m_abort := true}
  | .aborted => {task with m_status := .ABORTED}
  | .aborting => {task with m_status := .ABORTING}
  | .init | .terminated | .returned => task

-- Where the task's thread stands with a session, from StartBackupSession or StartRestoreSession until its
-- components are destroyed. Each read or assignment of a component's m_status, each step of
-- RefreshSessionCheckpoint and each written file is a line of its own.
inductive PollPc where
  | start (components : List Component)
  | check
  | isFailed (components : List Component)
  | isTerminated (components : List Component)
  | statistics | refresh | pause | snapshot
  | refreshTable (snapshot : CheckpointSnapshot)
  | refreshWriter (snapshot : CheckpointSnapshot)
  | refreshBitmap (snapshot : CheckpointSnapshot)
  | saveBitmap (snapshot fresh : CheckpointSnapshot)
  | saveSnapshot (snapshot : CheckpointSnapshot)
  | resume
  | flushTable | flushWriter | flushBitmap
  | saveFinal (fresh : CheckpointSnapshot)
  | completed
  | abort (line : AbortPc) (component : Component) (rest : List Component) (status : TaskStatus)
  | conclude (status : TaskStatus)
  | leave (returned : Bool)
  | left (returned : Bool)

def abortFrom (status : TaskStatus) : List Component → PollPc
  | [] => .conclude status
  | component::rest => .abort .flag component rest status

def abortNext (component : Component) (rest : List Component) (status : TaskStatus) : AbortPc → PollPc
  | .returned => abortFrom status rest
  | line => .abort line component rest status

structure TaskState where
  task : StatefulTask := {}
  m_currentSessionStatistics : TaskStatistics := {}
  m_completedSessionStatistics : TaskStatistics := {}
  disk : Disk

-- A session and where the thread is with it. What had happened when the checksum table was last written,
-- when the copy was last synced, and when it was last synced before the checkpoint file was last written,
-- is kept besides.
structure SessionRun where
  pc : PollPc
  state : Session
  tabled : List Event := []
  synced : List Event := []
  covered : List Event := []

structure Polling extends TaskState, SessionRun

-- The client's calls of Abort run line by line on threads of their own.
inductive PollAction where
  | thread (reply : Reply)
  | component (action : SessionAction)
  | client (line : AbortPc)

def SessionAction.ofComponent : SessionAction → Bool
  | .reader _ | .worker _ | .writer _ => true
  | .start _ | .pause _ | .abort _ | .aborted _ | .aborting _ => false

-- The destructors of the components join their threads.
def Session.Joined (s : Session) : Bool :=
  (s.readerTask.pc = .notStarted ∨ s.readerTask.pc = .exited) ∧ (∀ pc ∈ s.hasherTask.m_workers, pc = .exited) ∧
    (s.writerTask.pc = .notStarted ∨ s.writerTask.pc = .exited)

section machine
variable (env : TaskEnv) (config : VolumeTaskSharedConfig) (source : Content)

def Polling.drive (p : Polling) (action : SessionAction) (pc : Session → PollPc) : Option Polling :=
  (sessionStep (env.sessionEnv config) source p.state action).map fun state => {p with state := state,pc := pc state}

def Polling.saveTable (p : Polling) (reply : Reply) (pc : PollPc) : Polling :=
  let context := p.state.hashingContext
  {p with
    disk := WriteBinaryBuffer p.disk config.lastestChecksumBinPath context.lastestTable context.lastestSize reply
    tabled := if reply.isYes then p.state.history else p.tabled,pc := pc}

def Polling.saveCheckpoint (p : Polling) (snapshot : CheckpointSnapshot) (reply : Reply) (pc : PollPc) : Polling :=
  {p with
    disk := snapshot.SaveTo p.disk config.checkpointFilePath reply
    covered := if reply.opened then p.synced else p.covered,pc := pc}

def Polling.sync (p : Polling) (reply : Reply) (pc : PollPc) : Polling :=
  {p with synced := if reply.isYes then p.state.history else p.synced,pc := pc}

def pollStep (reply : Reply) (p : Polling) : Option Polling :=
  let components := env.task.components
  match p.pc with
  | .start [] => some {p with pc := .check}
  | .start (component::rest) => p.drive env config source (.start component) fun state =>
      if (state.task component).m_status.IsFailed then abortFrom .FAILED components else .start rest
  | .check => some {p with pc := if p.task.m_abort then abortFrom .ABORTED components else .isFailed components}
  | .isFailed [] => some {p with pc := .isTerminated components}
  | .isFailed (component::rest) => some {p with
      pc := if (p.state.task component).m_status.IsFailed then .conclude .FAILED else .isFailed rest}
  | .isTerminated [] => some {p with pc := if env.task.isBackup then .flushTable else .flushWriter}
  | .isTerminated (component::rest) => some {p with
      pc := if (p.state.task component).m_status.IsTerminated then .isTerminated rest else .statistics}
  | .statistics => some {p with m_currentSessionStatistics := p.state.counter.statistics,pc := .refresh}
  -- the answer is that of CheckLastUpdateTimer
  | .refresh => some {p with pc := if config.checkpointEnabled ∧ reply.isYes then .pause else .check}
  | .pause => p.drive env config source (.pause true) fun _ => .snapshot
  | .snapshot =>
    let snapshot := TakeSessionCheckpointSnapshot p.state
    some {p with pc := if config.hasherEnabled then .refreshTable snapshot else .refreshWriter snapshot}
  | .refreshTable snapshot => some (p.saveTable config reply (if reply.isYes then .refreshWriter snapshot else .resume))
  | .refreshWriter snapshot => some (p.sync reply (if reply.isYes then .refreshBitmap snapshot else .resume))
  | .refreshBitmap snapshot => some {p with pc := .saveBitmap snapshot (TakeSessionCheckpointSnapshot p.state)}
  | .saveBitmap snapshot fresh =>
    some (p.saveCheckpoint config fresh reply (if reply.isYes then .saveSnapshot snapshot else .resume))
  | .saveSnapshot snapshot => some (p.saveCheckpoint config snapshot reply .resume)
  | .resume => p.drive env config source (.pause false) fun _ => .check
  | .flushTable => if config.hasherEnabled then some (p.saveTable config reply .flushWriter) else some {p with pc := .flushWriter}
  | .flushWriter => some (p.sync reply .flushBitmap)
  | .flushBitmap => some {p with
      pc := if config.checkpointEnabled then .saveFinal (TakeSessionCheckpointSnapshot p.state) else .completed}
  | .saveFinal fresh => some (p.saveCheckpoint config fresh reply .completed)
  | .completed => some {p with
      m_completedSessionStatistics := p.m_completedSessionStatistics.plus p.state.counter.statistics
      m_currentSessionStatistics := {},pc := .leave true}
  | .abort line component rest status =>
    let next := abortNext component rest status (line.next (p.state.task component).m_status)
    match line with
    | .flag => p.drive env config source (.abort component) fun _ => next
    | .aborted => p.drive env config source (.aborted component) fun _ => next
    | .aborting => p.drive env config source (.aborting component) fun _ => next
    | .init | .terminated | .returned => some {p with pc := next}
  | .conclude status => some {p with task := {p.task with m_status := status},pc := .leave false}
  | .leave returned => if p.state.Joined then some {p with pc := .left returned} else none
  | .left _ => none

-- The writer's file is the one on the disk; a task's target is none of the files that the task itself saves.
def pollNext (p : Polling) : PollAction → Option Polling
  | .thread reply => pollStep env config source reply p
  | .component action =>
    if action.ofComponent then
      (sessionStep (env.sessionEnv config) source p.state action).map fun state =>
        {p with state := state,disk := p.disk.put (env.targetPath config) state.target}
    else none
  | .client line => some {p with task := line.assign p.task}

end machine

end VolumeBackup
