import VolumeBackup.SessionPolling

namespace VolumeBackup
open ByteMemory

inductive TaskPc where
  | notStarted | resource
  | create (fragments : List (String × UInt64))
  | truncate (path : String) (size : UInt64) (rest : List (String × UInt64))
  | validate | split | unprepared | prepared | loop
  | init (config : VolumeTaskSharedConfig)
  | session
  | conclude (status : TaskStatus)
  | clear (files : List String)
  | succeed | exited
  deriving DecidableEq, Repr

structure Running where
  config : VolumeTaskSharedConfig
  source : Content
  run : SessionRun

-- A task with its thread and the calls of Abort that clients have begun. The sessions that were completed
-- are kept as they ended, newest first.
structure Process extends TaskState where
  pc : TaskPc := .notStarted
  m_sessionQueue : List VolumeTaskSharedConfig := []
  m_checkpointFiles : List String := []
  running : Option Running := none
  clients : List AbortPc := []
  completed : List Running := []

def Process.polling (p : Process) (running : Running) : Polling :=
  {toTaskState := p.toTaskState,toSessionRun := running.run}

def Process.polled (p : Process) (running : Running) (polling : Polling) : Process :=
  {p with toTaskState := polling.toTaskState,running := some {running with run := polling.toSessionRun}}

def Process.new (disk : Disk) : Process := {disk := disk}

inductive TaskAction where
  | thread (reply : Reply)
  | component (action : SessionAction)
  | request
  | client (k : Nat)

section machine
variable (env : TaskEnv)

-- The answer is about the two directories.
def ValidateIncrementBackup (disk : Disk) (config : VolumeBackupConfig) (reply : Reply) : Bool :=
  reply.isYes && match CopyMetaFile.ReadVolumeCopyMeta env.json disk config.prevCopyMetaDirPath config.copyName .initial with
    | some volumeCopyMeta => config.blockSize = volumeCopyMeta.blockSize
    | none => false

def TaskEnv.newSession (config : VolumeTaskSharedConfig) (context : VolumeTaskSharedContext) (source target : Content) : Running where
  config := config
  source := source
  run := {
    pc := .start env.task.components
    state := .new config context.hashingContext context.processedBitmap context.writtenBitmap context.counter target}

def TaskEnv.openSession (disk : Disk) (config : VolumeTaskSharedConfig) (reply : Reply) : Option Running :=
  match InitSessionContext disk config env.task,disk (env.sourcePath config),disk (env.targetPath config) with
  | some context,some source,some target => if reply.isYes then some (env.newSession config context source target) else none
  | _,_,_ => none

def prepareStep (reply : Reply) (p : Process) : Option Process :=
  match p.pc,env.task with
  | .resource,.backup config volumeSize => (config.copyResource volumeSize).map fun files =>
      {p with pc := if config.backupType = .FULL ∧ !(files.all fun file => IsFileExists p.disk file.1) then .create files else .validate}
  | .resource,.restore config volumeCopyMeta => some {p with
      pc := if volumeCopyMeta.segments.all fun segment => IsFileExists p.disk (config.copyDataDirPath++"/"++segment.copyDataFile) then
        .split else .unprepared}
  | .create [],_ => some {p with pc := .validate}
  | .create ((path,size)::rest),_ =>
    if reply.isYes ∧ !IsFileExists p.disk path then some {p with disk := p.disk.put path .empty,pc := .truncate path size rest}
    else some {p with pc := .unprepared}
  | .truncate path size rest,_ =>
    match p.disk path with
    | some content =>
      if reply.isYes then some {p with disk := p.disk.put path (content.resize size.toNat),pc := .create rest}
      else some {p with pc := .unprepared}
    | none => some {p with pc := .unprepared}
  | .validate,.backup config _ => some {p with
      pc := if config.IsIncrementBackup ∧ !ValidateIncrementBackup env p.disk config reply then .unprepared else .split}
  -- a file that could be opened but not written counts as saved
  | .split,.backup config volumeSize =>
    env.task.sessions.bind fun sessions => (config.volumeCopyMeta volumeSize).map fun volumeCopyMeta =>
      {p with
        disk := p.disk.save (GetVolumeCopyMetaPath config.outputCopyMetaDirPath config.copyName) (env.Serialize volumeCopyMeta) reply
        m_sessionQueue := sessions,m_checkpointFiles := sessions.map VolumeTaskSharedConfig.checkpointFilePath
        pc := if reply.opened then .prepared else .unprepared}
  | .split,.restore _ _ => env.task.sessions.map fun sessions =>
      {p with
        m_sessionQueue := sessions,m_checkpointFiles := sessions.map VolumeTaskSharedConfig.checkpointFilePath,pc := .prepared}
  | _,_ => none

def Process.assign (p : Process) (status : TaskStatus) (pc : TaskPc) : Process :=
  {p with task := {p.task with m_status := status},pc := pc}

-- One line of Start, Prepare or ThreadFunc, or of what they run. A block size of 0 is a division by zero.
def taskStep (reply : Reply) (p : Process) : Option Process :=
  match p.pc with
  | .notStarted => if p.task.m_status = .INIT then some {p with pc := .resource} else none
  | .unprepared => some (p.assign .FAILED .exited)
  | .prepared => some (p.assign .RUNNING .loop)
  | .loop =>
    match p.m_sessionQueue with
    | [] => some {p with pc := .clear (if env.task.clearsCheckpoints then p.m_checkpointFiles else [])}
    | config::rest =>
      if p.task.m_abort then some {p with pc := .conclude .ABORTED} else some {p with m_sessionQueue := rest,pc := .init config}
  | .init config =>
    if config.blockSize = 0 then none
    else match env.openSession p.disk config reply with
      | some running => some {p with running := some running,pc := .session}
      | none => some {p with pc := .conclude .FAILED}
  | .session =>
    match p.running with
    | none => none
    | some running =>
      match running.run.pc with
      | .left true => some {p with running := none,completed := running::p.completed,pc := .loop}
      | .left false => some {p with running := none,pc := .exited}
      | _ => (pollStep env running.config running.source reply (p.polling running)).map (p.polled running)
  | .conclude status => some (p.assign status .exited)
  | .clear [] => some {p with pc := .succeed}
  | .clear (file::rest) => some {p with disk := if reply.isYes then RemoveFile p.disk file else p.disk,pc := .clear rest}
  | .succeed => some (p.assign .SUCCEED .exited)
  | .exited => none
  | .resource | .create _ | .truncate _ _ _ | .validate | .split => prepareStep env reply p

def taskNext (p : Process) : TaskAction → Option Process
  | .thread reply => taskStep env reply p
  | .component action =>
    match p.running with
    | some running =>
      (pollNext env running.config running.source (p.polling running) (.component action)).map (p.polled running)
    | none => none
  | .request => some {p with clients := p.clients++[.flag]}
  | .client k =>
    match p.clients[k]? with
    | some line => some {p with task := line.assign p.task,clients := p.clients.set k (line.next p.task.m_status)}
    | none => none

end machine

end VolumeBackup
