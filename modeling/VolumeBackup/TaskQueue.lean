import VolumeBackup.LabelledRuns
import VolumeBackup.TaskSteps

namespace VolumeBackup
open ByteMemory LabelledRuns

def TaskPc.preparing : TaskPc → Bool
  | .notStarted | .resource | .create _ | .truncate _ _ _ | .validate | .split | .unprepared => true
  | _ => false

def TaskPc.working : TaskPc → Bool
  | .prepared | .loop | .init _ | .session => true
  | _ => false

def TaskPc.clearing : TaskPc → Bool
  | .clear _ | .succeed => true
  | _ => false

def Process.current (p : Process) : List VolumeTaskSharedConfig :=
  match p.pc with
  | .init config => [config]
  | .session => p.running.toList.map Running.config
  | _ => []

def PollPc.verdict : PollPc → Option TaskStatus
  | .abort _ _ _ status | .conclude status => some status
  | _ => none

def TaskStatus.GivesUp (status : TaskStatus) : Prop := status = .ABORTED ∨ status = .FAILED

theorem TaskStatus.GivesUp.unfinished {status : TaskStatus} (given : status.GivesUp) : status ≠ .SUCCEED := by
  rcases given with rfl | rfl <;> nofun

-- The sessions are completed in the order in which Prepare has queued them, and a task that gives one up
-- does not succeed.
structure Queued (env : TaskEnv) (p : Process) : Prop where
  layout : Layout p
  fresh : p.pc.preparing = true → p.completed = []
  working : p.pc.working = true → env.task.sessions = some (p.completed.reverse.map Running.config++p.current++p.m_sessionQueue)
  clearing : p.pc.clearing = true → env.task.sessions = some (p.completed.reverse.map Running.config)
  conclude : ∀ status, p.pc = .conclude status → status.GivesUp
  verdict : ∀ running, p.running = some running → ∀ status, running.run.pc.verdict = some status → status.GivesUp
  unfinished : p.pc ≠ .exited → p.task.m_status ≠ .SUCCEED
  finished : p.task.m_status = .SUCCEED → env.task.sessions = some (p.completed.reverse.map Running.config)

variable {env : TaskEnv} {config : VolumeTaskSharedConfig} {source : Content} {p q : Process} {x y : Polling}

theorem abortFrom_verdict (given : TaskStatus) (components : List Component) (set : (abortFrom given components).verdict = some status) :
    status = given := by
  cases components <;> exact (Option.some.inj set).symm

theorem PollStep.verdict (step : PollStep env config source x action y)
    (known : ∀ status, x.pc.verdict = some status → status.GivesUp) (set : y.pc.verdict = some status) : status.GivesUp := by
  cases step with
  | move moves =>
      cases moves with
      | aborts here =>
          cases abortFrom_verdict _ _ set
          exact .inl rfl
      | failed here =>
          cases Option.some.inj set
          exact .inr rfl
      | reads here next =>
          rcases next with ⟨later,rfl⟩ | rfl
          · exact known _ (here ▸ set)
          · cases abortFrom_verdict _ _ set
            exact known _ (here ▸ rfl)
      | allTerminated here =>
          dsimp only at set
          split at set <;> cases set
      | _ => cases set
  | drive drives ran =>
      cases drives with
      | startFailed here =>
          cases abortFrom_verdict _ _ set
          exact .inr rfl
      | assigned here assigns next =>
          rcases next with ⟨later,rfl⟩ | rfl
          · exact known _ (here ▸ set)
          · cases abortFrom_verdict _ _ set
            exact known _ (here ▸ rfl)
      | _ => cases set
  | component | client => exact known _ set
  | _ => cases set

theorem assign_succeed {line : AbortPc} (status : (line.assign task).m_status = .SUCCEED) : task.m_status = .SUCCEED := by
  cases line <;> first | exact status | cases status

theorem PollStep.unfinished (step : PollStep env config source x action y)
    (known : ∀ status, x.pc.verdict = some status → status.GivesUp) (running : x.task.m_status ≠ .SUCCEED) :
    y.task.m_status ≠ .SUCCEED := by
  cases step with
  | concluded here => exact (known _ (here ▸ rfl)).unfinished
  | client => exact fun status => running (assign_succeed status)
  | _ => exact running

theorem Queued.new {disk : Disk} : Queued env (.new disk) where
  layout := by simp [Layout,Process.new]
  fresh := fun _ => rfl
  working := fun working => Bool.noConfusion working
  clearing := fun clearing => Bool.noConfusion clearing
  conclude := fun _ here => TaskPc.noConfusion here
  verdict := fun _ none => by cases none
  unfinished := fun _ => TaskStatus.noConfusion
  finished := fun status => TaskStatus.noConfusion status

theorem Queued.polled (queued : Queued env p) (present : p.running = some running)
    (step : PollStep env running.config running.source (p.polling running) action y) : Queued env (p.polled running y) := by
  have here : p.pc = .session := queued.layout.mp (by simp [present])
  have known := queued.verdict running present
  have unfinished := step.unfinished known (queued.unfinished (by simp [here]))
  refine ⟨?_,?_,?_,?_,?_,?_,fun _ => unfinished,fun status => absurd status unfinished⟩
  · simp [Layout,Process.polled,here]
  · exact fun preparing => queued.fresh preparing
  · intro working
    have same : (p.polled running y).current = p.current := by simp [Process.current,Process.polled,here,present]
    rw [same]
    exact queued.working working
  · exact queued.clearing
  · exact queued.conclude
  · rintro other same status set
    cases Option.some.inj same
    exact step.verdict known set

-- What is to be shown of a process that has come to a line, by the kind of the line.
section line
variable (layout : Layout p)
  (verdict : ∀ running, p.running = some running → ∀ status, running.run.pc.verdict = some status → status.GivesUp)
  (unfinished : p.task.m_status ≠ .SUCCEED)
include layout verdict unfinished

theorem Queued.of_preparing (here : p.pc.preparing = true) (fresh : p.completed = []) : Queued env p := by
  refine ⟨layout,fun _ => fresh,fun working => ?_,fun clearing => ?_,fun status conclude => ?_,verdict,fun _ => unfinished,
    fun status => absurd status unfinished⟩
  · cases line : p.pc <;> simp [line,TaskPc.preparing,TaskPc.working] at here working
  · cases line : p.pc <;> simp [line,TaskPc.preparing,TaskPc.clearing] at here clearing
  · simp [conclude,TaskPc.preparing] at here

theorem Queued.of_working (here : p.pc.working = true)
    (sessions : env.task.sessions = some (p.completed.reverse.map Running.config++p.current++p.m_sessionQueue)) : Queued env p := by
  refine ⟨layout,fun preparing => ?_,fun _ => sessions,fun clearing => ?_,fun status conclude => ?_,verdict,fun _ => unfinished,
    fun status => absurd status unfinished⟩
  · cases line : p.pc <;> simp [line,TaskPc.preparing,TaskPc.working] at here preparing
  · cases line : p.pc <;> simp [line,TaskPc.working,TaskPc.clearing] at here clearing
  · simp [conclude,TaskPc.working] at here

theorem Queued.of_clearing (here : p.pc.clearing = true)
    (sessions : env.task.sessions = some (p.completed.reverse.map Running.config)) : Queued env p := by
  refine ⟨layout,fun preparing => ?_,fun working => ?_,fun _ => sessions,fun status conclude => ?_,verdict,fun _ => unfinished,
    fun status => absurd status unfinished⟩
  · cases line : p.pc <;> simp [line,TaskPc.preparing,TaskPc.clearing] at here preparing
  · cases line : p.pc <;> simp [line,TaskPc.working,TaskPc.clearing] at here working
  · simp [conclude,TaskPc.clearing] at here

theorem Queued.of_conclude (here : p.pc = .conclude status) (gives : status.GivesUp) : Queued env p := by
  refine ⟨layout,?_,?_,?_,fun other same => ?_,verdict,fun _ => unfinished,fun status => absurd status unfinished⟩
  · simp [here,TaskPc.preparing]
  · simp [here,TaskPc.working]
  · simp [here,TaskPc.clearing]
  · cases here.symm.trans same
    exact gives

end line

theorem Queued.of_exited (layout : Layout p) (here : p.pc = .exited) (none : p.running = none)
    (finished : p.task.m_status = .SUCCEED → env.task.sessions = some (p.completed.reverse.map Running.config)) : Queued env p := by
  refine ⟨layout,?_,?_,?_,?_,?_,fun other => absurd here other,finished⟩
  · simp [here,TaskPc.preparing]
  · simp [here,TaskPc.working]
  · simp [here,TaskPc.clearing]
  · simp [here]
  · simp [none]

theorem Queued.step (queued : Queued env p) (step : TaskStep env p action q) : Queued env q := by
  have layout := queued.layout.step step
  have idle {pc : TaskPc} (here : p.pc = pc) (other : pc ≠ .session) : p.running = none := queued.layout.idle here other
  have verdict (none : q.running = none) (running : Running) (present : q.running = some running) (status : TaskStatus)
      (_ : running.run.pc.verdict = some status) : status.GivesUp := by cases none.symm.trans present
  have unfinished {pc : TaskPc} (here : p.pc = pc) (other : pc ≠ .exited) : p.task.m_status ≠ .SUCCEED :=
    queued.unfinished (by rw [here]; exact other)
  cases step with
  | move moves =>
      have none := verdict (queued.layout.idle rfl moves.elsewhere.1)
      have running := unfinished rfl moves.alive
      cases moves with
      | begun here | absent here | present here | restorable here | missing here | created here | uncreated here
      | untruncated here | valid here | invalid here =>
          exact .of_preparing layout none running rfl (queued.fresh (by rw [here]; rfl))
      | drained here empty =>
          refine .of_clearing layout none running rfl ?_
          have sessions := queued.working (by rw [here]; rfl)
          simpa [empty,Process.current,here] using sessions
      | aborted here => exact .of_conclude layout none running rfl (.inl rfl)
      | unopened here => exact .of_conclude layout none running rfl (.inr rfl)
      | cleared here => exact .of_clearing layout none running rfl (queued.clearing (by rw [here]; rfl))
  | assign here =>
      have none := queued.layout.idle rfl (assigns_elsewhere here).1
      rcases assigns_cases here with ⟨same,rfl,rfl⟩ | ⟨same,rfl,rfl⟩ | ⟨same,rfl⟩ | ⟨same,rfl,rfl⟩
      · exact .of_exited layout rfl none TaskStatus.noConfusion
      · refine .of_working layout (verdict none) TaskStatus.noConfusion rfl ?_
        simpa [Process.current,Process.assign,same] using queued.working (by rw [same]; rfl)
      · exact .of_exited layout rfl none fun status => absurd status (queued.conclude _ same).unfinished
      · exact .of_exited layout rfl none fun _ => queued.clearing (by rw [same]; rfl)
  | create here fresh | truncate here present =>
      exact .of_preparing layout (verdict (idle here TaskPc.noConfusion)) (unfinished here TaskPc.noConfusion) rfl
        (queued.fresh (by rw [here]; rfl))
  | splitBackup here task sessions record =>
      rename_i reply
      have none := queued.fresh (by rw [here]; rfl)
      by_cases opened : reply.opened = true
      · refine .of_working layout (verdict (idle here TaskPc.noConfusion)) (unfinished here TaskPc.noConfusion) ?_ ?_
        · simp [opened,TaskPc.working]
        · simp [opened,sessions,none,Process.current]
      · refine .of_preparing layout (verdict (idle here TaskPc.noConfusion)) (unfinished here TaskPc.noConfusion) ?_ none
        simp [opened,TaskPc.preparing]
  | splitRestore here task sessions =>
      have none := queued.fresh (by rw [here]; rfl)
      refine .of_working layout (verdict (idle here TaskPc.noConfusion)) (unfinished here TaskPc.noConfusion) rfl ?_
      simp [sessions,none,Process.current]
  | pop here first aborted =>
      refine .of_working layout (verdict (idle here TaskPc.noConfusion)) (unfinished here TaskPc.noConfusion) rfl ?_
      simpa [Process.current,here,first] using queued.working (by rw [here]; rfl)
  | opened here positive made =>
      obtain ⟨context,source,target,_,_,_,rfl⟩ := open_parts made
      refine .of_working layout ?_ (unfinished here TaskPc.noConfusion) rfl ?_
      · rintro other same status set
        cases Option.some.inj same
        cases set
      · simpa [Process.current,here,TaskEnv.newSession] using queued.working (by rw [here]; rfl)
  | poll here present ran | component present ran => exact queued.polled present (pollNext_sound ran)
  | completed here present left =>
      refine .of_working layout (verdict rfl) (unfinished here TaskPc.noConfusion) rfl ?_
      simpa [Process.current,here,present] using queued.working (by rw [here]; rfl)
  | failed here present left =>
      exact .of_exited layout rfl rfl fun status => absurd status (unfinished here TaskPc.noConfusion)
  | clear here =>
      exact .of_clearing layout (verdict (idle here TaskPc.noConfusion)) (unfinished here TaskPc.noConfusion) rfl
        (queued.clearing (by rw [here]; rfl))
  | request =>
      exact ⟨layout,queued.fresh,queued.working,queued.clearing,queued.conclude,queued.verdict,queued.unfinished,queued.finished⟩
  | client calling =>
      exact ⟨layout,queued.fresh,queued.working,queued.clearing,queued.conclude,queued.verdict,
        fun other status => queued.unfinished other (assign_succeed status),fun status => queued.finished (assign_succeed status)⟩

theorem Queued.run {allowed : Process → TaskAction → Prop} (queued : Queued env p)
    (path : Runs (taskNext env) allowed p actions q) : Queued env q :=
  path.invariant (Queued env) queued fun _ _ _ known ran _ => known.step (taskNext_sound ran)

end VolumeBackup
