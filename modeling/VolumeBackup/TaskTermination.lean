import VolumeBackup.PollingTermination
import VolumeBackup.NoFalseSuccess
import VolumeBackup.SessionSplit

namespace VolumeBackup
open ByteMemory LabelledRuns

def VolumeTaskSharedConfig.taskSteps (config : VolumeTaskSharedConfig) : Nat := config.sessionSteps+25

-- The lines that the loop of ThreadFunc has left, with the checkpoint files that are removed behind it.
def queueSteps (queue : List VolumeTaskSharedConfig) (files : Nat) : Nat :=
  3+files+(queue.map VolumeTaskSharedConfig.taskSteps).sum

def TaskEnv.queueSteps (env : TaskEnv) : Nat :=
  let queue := env.task.sessions.getD []
  VolumeBackup.queueSteps queue queue.length

def ProtectTask.resources : ProtectTask → List (String × UInt64)
  | .backup config volumeSize => (config.copyResource volumeSize).getD []
  | .restore _ _ => []

def Process.lines (env : TaskEnv) (p : Process) : Nat :=
  let ahead := queueSteps p.m_sessionQueue p.m_checkpointFiles.length
  match p.pc with
  | .notStarted => env.queueSteps+2*env.task.resources.length+6
  | .resource => env.queueSteps+2*env.task.resources.length+5
  | .create fragments => env.queueSteps+2*fragments.length+4
  | .truncate _ _ rest => env.queueSteps+2*rest.length+5
  | .validate => env.queueSteps+3
  | .split => env.queueSteps+2
  | .prepared => ahead+1
  | .loop => ahead
  | .init config => ahead+config.taskSteps-1
  | .session => ahead+1
  | .clear files => 2+files.length
  | .unprepared | .conclude _ | .succeed => 1
  | .exited => 0

def Process.steps (env : TaskEnv) (p : Process) : Nat :=
  p.lines env+match p.running with
    | some running => (p.polling running).steps running.config
    | none => 0

def TaskAction.ofTask : TaskAction → Bool
  | .thread _ | .component _ => true
  | .request | .client _ => false

def Process.idles (p : Process) (action : TaskAction) : Bool :=
  match p.running,action with
  | some running,.thread reply => (p.polling running).idles (.thread reply)
  | some running,.component action => (p.polling running).idles (.component action)
  | _,_ => false

def Process.waits (p : Process) (action : TaskAction) : List TaskAction := if p.idles action then [action] else []

variable {env : TaskEnv} {p q : Process}

theorem Process.steps_idle (none : p.running = none) : p.steps env = p.lines env := by
  simp [Process.steps,none]

theorem polled_pays {running : Running} {inner : PollAction} (present : p.running = some running)
    (ran : pollNext env running.config running.source (p.polling running) inner = some y)
    (same : p.idles action = (p.polling running).idles inner) :
    (p.polled running y).steps env+inner.ofTask.toNat ≤ p.steps env+28*(p.idles action).toNat := by
  have paid := poll_pays ran
  have before : p.steps env = p.lines env+(p.polling running).steps running.config := by simp [Process.steps,present]
  have after : (p.polled running y).steps env = p.lines env+y.steps running.config := rfl
  rw [before,after,same]
  omega

theorem pop_steps : queueSteps (config::rest) files = queueSteps rest files+config.taskSteps := by
  simp [queueSteps]
  omega

theorem queue_least : files+3 ≤ queueSteps queue files := by
  unfold queueSteps
  omega

theorem move_pays (moves : TaskMove env p pc) (none : p.running = none) : {p with pc := pc}.steps env+1 ≤ p.steps env := by
  rw [Process.steps_idle none,Process.steps_idle (p := {p with pc := pc}) none]
  have least := @queue_least p.m_checkpointFiles.length p.m_sessionQueue
  have all := @queue_least (env.task.sessions.getD []).length (env.task.sessions.getD [])
  cases moves with
  | absent here task full files => simp [Process.lines,here,ProtectTask.resources,task,files]
  | drained here empty =>
      have few : (if env.task.clearsCheckpoints then p.m_checkpointFiles else []).length ≤ p.m_checkpointFiles.length := by
        split
        · exact Nat.le_refl _
        · exact Nat.zero_le _
      simp only [Process.lines,here]
      omega
  | aborted here abort | unopened here =>
      simp only [Process.lines,here]
      omega
  | begun here | present here | restorable here | missing here | created here | uncreated here | untruncated here
  | valid here | invalid here | cleared here =>
      simp only [Process.lines,TaskEnv.queueSteps,here]
      omega

theorem opened_steps {disk : Disk} (made : env.openSession disk config reply = some running) :
    running.config = config ∧ ∀ shared : Process, (shared.polling running).steps config ≤ config.sessionSteps+22 := by
  obtain ⟨context,source,target,_,_,_,rfl⟩ := open_parts made
  have fresh : (Session.new config context.hashingContext context.processedBitmap context.writtenBitmap context.counter target).steps config =
      config.sessionSteps := by
    change (Session.new (env.sessionEnv config).config _ _ _ _ _).steps (env.sessionEnv config).config = _
    exact new_steps
  have few := few_components env.task
  refine ⟨rfl,fun shared => ?_⟩
  simp only [Polling.steps,Process.polling,TaskEnv.newSession,PollPc.steps,fresh]
  omega

theorem thread_step_pays (layout : Layout p) (done : taskStep env reply p = some q) :
    q.steps env+1 ≤ p.steps env+28*(p.idles (.thread reply)).toNat := by
  have idle {pc : TaskPc} (here : p.pc = pc) (other : pc ≠ .session) : p.running = none := layout.idle here other
  -- A line of the task itself does not wait.
  have line {pc : TaskPc} (here : p.pc = pc) (other : pc ≠ .session) (after : q.running = none) (less : q.lines env+1 ≤ p.lines env) :
      q.steps env+1 ≤ p.steps env+28*(p.idles (.thread reply)).toNat := by
    rw [Process.steps_idle (idle here other),Process.steps_idle after]
    exact Nat.le_add_right_of_le less
  cases taskStep_sound done with
  | move moves => exact Nat.le_add_right_of_le (move_pays moves (layout.idle rfl moves.elsewhere.1))
  | assign here =>
      have none := layout.idle rfl (assigns_elsewhere here).1
      refine line rfl (assigns_elsewhere here).1 none ?_
      rcases assigns_cases here with ⟨same,_,rfl⟩ | ⟨same,_,rfl⟩ | ⟨same,rfl⟩ | ⟨same,_,rfl⟩ <;> simp [Process.lines,Process.assign,same]
  | create here fresh =>
      refine line here TaskPc.noConfusion (idle here TaskPc.noConfusion) ?_
      simp [Process.lines,here]
      omega
  | truncate here present =>
      refine line here TaskPc.noConfusion (idle here TaskPc.noConfusion) ?_
      simp [Process.lines,here]
  | splitBackup here task sessions record =>
      refine line here TaskPc.noConfusion (idle here TaskPc.noConfusion) ?_
      have all := @queue_least (env.task.sessions.getD []).length (env.task.sessions.getD [])
      simp only [sessions,Option.getD_some] at all
      cases reply.opened <;> simp [Process.lines,TaskEnv.queueSteps,here,sessions]
  | splitRestore here task sessions =>
      refine line here TaskPc.noConfusion (idle here TaskPc.noConfusion) ?_
      simp [Process.lines,TaskEnv.queueSteps,here,sessions]
  | pop here first running =>
      refine line here TaskPc.noConfusion (idle here TaskPc.noConfusion) ?_
      simp only [Process.lines,here,first,pop_steps,VolumeTaskSharedConfig.taskSteps]
      omega
  | opened here positive made =>
      obtain ⟨same,few⟩ := opened_steps made
      rename_i running
      have few := few {p with running := some running,pc := .session}
      rw [Process.steps_idle (idle here TaskPc.noConfusion)]
      simp only [Process.steps,Process.lines,here,same,VolumeTaskSharedConfig.taskSteps]
      omega
  | poll here present ran => exact polled_pays present ran (by simp [Process.idles,present])
  | completed here present left =>
      simp only [Process.steps,Process.lines,here,present]
      omega
  | failed here present left =>
      simp only [Process.steps,Process.lines,here,present]
      omega
  | clear here =>
      refine line here TaskPc.noConfusion (idle here TaskPc.noConfusion) ?_
      simp only [Process.lines,here,List.length_cons]
      omega

theorem task_pays (layout : Layout p) (ran : taskNext env p action = some q) :
    q.steps env+action.ofTask.toNat ≤ p.steps env+28*(p.idles action).toNat := by
  cases action with
  | thread reply => exact thread_step_pays layout ran
  | component action =>
      cases taskNext_sound ran with
      | component present inner => exact polled_pays present inner (by simp [Process.idles,present])
  | request =>
      cases Option.some.inj ran
      exact Nat.le_add_right_of_le (Nat.le_refl (p.steps env))
  | client k =>
      cases taskNext_sound ran with
      | client calling => exact Nat.le_add_right_of_le (Nat.le_refl (p.steps env))

def TaskPc.filing : TaskPc → Bool
  | .create _ | .truncate _ _ _ | .validate => true
  | _ => false

structure Conducted (env : TaskEnv) (p : Process) : Prop where
  queued : Queued env p
  attended : Current (fun running => Attended env running.config) p
  filing : p.pc.filing = true → env.task.isBackup = true

theorem session_step (here : p.pc = .session) (present : p.running = some running) (unleft : ∀ returned, running.run.pc ≠ .left returned) :
    taskStep env reply p = (pollStep env running.config running.source reply (p.polling running)).map (p.polled running) := by
  simp only [taskStep,here,present]
  split
  · exact absurd ‹_› (unleft _)
  · exact absurd ‹_› (unleft _)
  · rfl

section task
variable {queue : List VolumeTaskSharedConfig} (sessions : env.task.sessions = some queue) (pooled : ∀ config ∈ queue, Pooled config)
include sessions

theorem restored_plain (inside : config ∈ queue) (restore : env.task.isBackup = false) : config.hasherEnabled = false := by
  cases task : env.task with
  | backup => simp [task,ProtectTask.isBackup] at restore
  | restore restoring volumeCopyMeta =>
      rw [task] at sessions
      cases Option.some.inj sessions
      obtain ⟨segment,_,rfl⟩ := List.mem_map.mp inside
      rfl

theorem Conducted.current_member (conducted : Conducted env p) (working : p.pc.working = true) (inside : config ∈ p.current) : config ∈ queue := by
  have parts := conducted.queued.working working
  cases Option.some.inj (sessions.symm.trans parts)
  simp [inside]

include pooled

theorem Conducted.step (conducted : Conducted env p) (step : TaskStep env p action q) : Conducted env q := by
  refine ⟨conducted.queued.step step,?_,?_⟩
  · refine @Current.step _ _ _ _ (fun config _ polling => Attended env config polling) (fun _ _ _ => True) conducted.attended
      conducted.queued.layout step ?_ (fun _ _ _ => trivial) ?_ ?_
    · cases action <;> simp [OnSession]
    · intro config reply running here made
      have current : config ∈ p.current := by simp [Process.current,here]
      have inside := conducted.current_member sessions (by rw [here]; rfl) current
      obtain ⟨_,_,_,_,_,_,rfl⟩ := open_parts made
      exact .opened (pooled config inside) (restored_plain sessions inside) made
    · intro running inner polling present attended ran _
      have here := conducted.queued.layout.mp (by rw [present]; rfl)
      have current : running.config ∈ p.current := by simp [Process.current,here,present]
      have inside := conducted.current_member sessions (by rw [here]; rfl) current
      exact attended.step (pooled _ inside) (restored_plain sessions inside) (pollNext_sound ran)
  · cases step with
    | move moves =>
        cases moves with
        | absent here task | present here task => exact fun _ => by simp [task,ProtectTask.isBackup]
        | created here => exact fun _ => conducted.filing (by rw [here]; rfl)
        | _ => exact fun filing => Bool.noConfusion filing
    | assign here =>
        rcases assigns_cases here with ⟨_,_,rfl⟩ | ⟨_,_,rfl⟩ | ⟨_,rfl⟩ | ⟨_,_,rfl⟩ <;>
          exact fun filing => Bool.noConfusion filing
    | create here | truncate here => exact fun _ => conducted.filing (by rw [here]; rfl)
    | splitBackup here task => exact fun _ => by simp [task,ProtectTask.isBackup]
    | poll | component | request | client => exact conducted.filing
    | _ => exact fun filing => Bool.noConfusion filing

theorem Conducted.goesOn (conducted : Conducted env p) (live : p.pc ≠ .exited) (startable : p.pc = .notStarted → p.task.m_status = .INIT) :
    ∃ action q, action.ofTask = true ∧ taskNext env p action = some q ∧ p.waits action = [] := by
  have line (other : p.pc ≠ .session) (ran : (taskStep env .yes p).isSome = true) :
      ∃ action q, action.ofTask = true ∧ taskNext env p action = some q ∧ p.waits action = [] := by
    obtain ⟨q,ran⟩ := Option.isSome_iff_exists.mp ran
    refine ⟨.thread .yes,q,rfl,ran,?_⟩
    simp [Process.waits,Process.idles,conducted.queued.layout.idle rfl other]
  cases here : p.pc with
  | exited => exact absurd here live
  | notStarted => exact line (by simp [here]) (by simp [taskStep,here,startable here])
  | session =>
      obtain ⟨running,present⟩ := Option.isSome_iff_exists.mp (conducted.queued.layout.mpr here)
      have attended := conducted.attended running present
      by_cases left : ∃ returned, running.run.pc = .left returned
      · obtain ⟨returned,left⟩ := left
        refine ⟨.thread .yes,if returned then {p with running := none,completed := running::p.completed,pc := .loop}
          else {p with running := none,pc := .exited},rfl,?_,?_⟩
        · cases returned <;> simp [taskNext,taskStep,here,present,left]
        · simp [Process.waits,Process.idles,Polling.idles,Process.polling,present,left]
      · have moving : ∃ action polling, action.ofTask = true ∧
            pollNext env running.config running.source (p.polling running) action = some polling ∧
            (p.polling running).idles action = false := attended.goesOn fun returned same => left ⟨returned,same⟩
        obtain ⟨action,polling,own,ran,busy⟩ := moving
        cases action with
        | thread reply =>
            refine ⟨.thread reply,p.polled running polling,rfl,?_,by simp [Process.waits,Process.idles,present,busy]⟩
            have stepped : pollStep env running.config running.source reply (p.polling running) = some polling := ran
            rw [taskNext,session_step here present fun returned same => left ⟨returned,same⟩,stepped]
            rfl
        | component action =>
            refine ⟨.component action,p.polled running polling,rfl,?_,by simp [Process.waits,Process.idles,present,busy]⟩
            simp [taskNext,present,ran]
        | client line => cases own
  | resource =>
      refine line (by simp [here]) ?_
      simp only [taskStep,prepareStep,here]
      cases task : env.task with
      | backup config volumeSize =>
          have split : config.split volumeSize config.NewVolumeTaskSession = some queue := by simpa [task,ProtectTask.sessions] using sessions
          obtain ⟨files,made⟩ := resource_listed split
          simp [made]
      | restore config volumeCopyMeta => rfl
  | create fragments =>
      refine line (by simp [here]) ?_
      simp only [taskStep,prepareStep,here]
      cases fragments with
      | nil => rfl
      | cons file rest =>
          dsimp only
          split <;> rfl
  | truncate path size rest =>
      refine line (by simp [here]) ?_
      simp only [taskStep,prepareStep,here]
      cases p.disk path with
      | none => rfl
      | some content =>
          dsimp only
          split <;> rfl
  | validate =>
      refine line (by simp [here]) ?_
      simp only [taskStep,prepareStep,here]
      cases task : env.task with
      | backup config volumeSize => rfl
      | restore config volumeCopyMeta =>
          have backup := conducted.filing (by rw [here]; rfl)
          simp [task,ProtectTask.isBackup] at backup
  | split =>
      refine line (by simp [here]) ?_
      simp only [taskStep,prepareStep,here]
      rw [sessions]
      cases task : env.task with
      | backup config volumeSize =>
          have split : config.split volumeSize config.NewVolumeTaskSession = some queue := by simpa [task,ProtectTask.sessions] using sessions
          have made : ∃ segments, config.split volumeSize config.NewCopySegment = some segments := split_made split
          obtain ⟨segments,record⟩ := made
          simp [VolumeBackupConfig.volumeCopyMeta,record]
      | restore config volumeCopyMeta => rfl
  | loop =>
      refine line (by simp [here]) ?_
      simp only [taskStep,here]
      cases p.m_sessionQueue with
      | nil => rfl
      | cons config rest =>
          dsimp only
          split <;> rfl
  | init config =>
      refine line (by simp [here]) ?_
      have current : config ∈ p.current := by simp [Process.current,here]
      have inside := conducted.current_member sessions (by rw [here]; rfl) current
      have block : config.blockSize ≠ 0 := by
        rintro none
        have positive := (pooled config inside).positive
        simp [none] at positive
      simp only [taskStep,here,if_neg block]
      split <;> rfl
  | clear files =>
      refine line (by simp [here]) ?_
      cases files <;> simp [taskStep,here]
  | unprepared | prepared | conclude | succeed => exact line (by simp [here]) (by simp [taskStep,here])

end task

theorem Conducted.new {disk : Disk} : Conducted env (.new disk) :=
  ⟨.new,fun _ none => (by cases none),fun filing => Bool.noConfusion filing⟩

-- Whatever the system answers, whatever fails and whoever aborts. Only a task that was aborted before its
-- start has no first line.
theorem task_ends {queue : List VolumeTaskSharedConfig} {disk : Disk} (sessions : env.task.sessions = some queue)
    (pooled : ∀ config ∈ queue, Pooled config) (path : Runs (traced (taskNext env) Process.waits) Anything (.new disk,[]) actions (p,waited)) :
    actions.countP TaskAction.ofTask ≤ queueSteps queue queue.length+2*env.task.resources.length+6+28*waited.length ∧
      (p.pc ≠ .exited → (p.pc = .notStarted → p.task.m_status = .INIT) →
        ∃ action q, action.ofTask = true ∧ taskNext env p action = some q ∧ p.waits action = []) := by
  constructor
  · have free : Runs (traced (taskNext env) Process.waits) (fun s => Anything s.1) (.new disk,[]) actions (p,waited) :=
      path.weaken fun _ _ _ => trivial
    have paid := free.paid Layout (Process.steps env) TaskAction.ofTask 28 (show Queued env (.new disk) from .new).layout
      (fun _ _ _ layout ran _ => layout.step (taskNext_sound ran)) fun s action t layout ran _ => by
        have waits : (s.waits action).length = (s.idles action).toNat := by
          unfold Process.waits
          cases s.idles action <;> rfl
        rw [waits]
        exact task_pays layout ran
    have start : (Process.new disk).steps env = queueSteps queue queue.length+2*env.task.resources.length+6 := by
      simp [Process.steps,Process.lines,Process.new,TaskEnv.queueSteps,sessions]
    simp only [start,List.length_nil] at paid
    omega
  · have conducted : Conducted env p := path.invariant (fun s => Conducted env s.1) .new fun _ _ _ known ran _ =>
      known.step sessions pooled (taskNext_sound (traced_step ran).1)
    exact conducted.goesOn sessions pooled

-- The task prepares, starts its session and finds it running once.
theorem task_ends_plain : ∃ (p : Process) (waited : List TaskAction), (threads 21).countP TaskAction.ofTask ≤ 120+28*waited.length ∧
    waited.length = 1 ∧ ∃ action q, action.ofTask = true ∧ taskNext plainEnv p action = some q ∧ p.waits action = [] := by
  have sessions : plainEnv.task.sessions = some (plainEnv.task.sessions.getD []) := by decide +kernel
  have pooled : ∀ config ∈ plainEnv.task.sessions.getD [], Pooled config := by
    have all : ∀ config ∈ plainEnv.task.sessions.getD [],
        0 < config.blockSize.toNat ∧ DEFAULT_ALLOCATOR_BLOCK_NUM*config.blockSize.toNat < 2^32 := by decide +kernel
    exact fun config inside => ⟨(all config inside).1,(all config inside).2⟩
  have run : (execute (traced (taskNext plainEnv) Process.waits) (fun _ _ => true) (.new plainDisk,[]) (threads 21)).any
      (fun s => decide (s.2.length = 1 ∧ s.1.pc = .session)) = true := by decide +kernel
  obtain ⟨s,path,good⟩ := execute_ends (fun _ _ _ => trivial) run
  obtain ⟨waited,here⟩ := of_decide_eq_true good
  obtain ⟨few,goesOn⟩ := task_ends sessions pooled path
  have bound : queueSteps (plainEnv.task.sessions.getD []) (plainEnv.task.sessions.getD []).length+2*plainEnv.task.resources.length+6 = 120 := by
    decide +kernel
  rw [bound] at few
  exact ⟨s.1,s.2,few,waited,goesOn (by simp [here]) (by simp [here])⟩

end VolumeBackup
