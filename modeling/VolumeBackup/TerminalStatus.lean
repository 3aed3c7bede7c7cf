import VolumeBackup.NoFalseSuccess

namespace VolumeBackup
open ByteMemory LabelledRuns

-- The components of a session with every call of Start and Abort line by line. Start is called once; it reads
-- m_status in AssertTaskNotStarted, and assigns it in its next line.
inductive StartLine where
  | uncalled | assign | returned
  deriving DecidableEq, Repr

structure ComponentCalls where
  state : Session
  starts : Component → StartLine := fun _ => .uncalled
  aborts : List (Component × AbortPc) := []

inductive ComponentAction where
  | own (action : SessionAction)
  | pause (paused : Bool)
  | start (component : Component)
  | request (component : Component)
  | client (k : Nat)

def ComponentCalls.started (c : ComponentCalls) (component : Component) (line : StartLine) : ComponentCalls :=
  {c with starts := fun other => if other = component then line else c.starts other}

section machine
variable (env : SessionEnv) (source : Content)

-- AssertTaskNotStarted throws where it finds the task started or aborted.
def componentNext (c : ComponentCalls) : ComponentAction → Option ComponentCalls
  | .own action =>
    if action.ofComponent then (sessionStep env source c.state action).map fun state => {c with state := state} else none
  | .pause paused => (sessionStep env source c.state (.pause paused)).map fun state => {c with state := state}
  | .start component =>
    match c.starts component with
    | .uncalled => some (c.started component (if (c.state.task component).m_status = .INIT then .assign else .returned))
    | .assign =>
      ((c.state.setTask component {c.state.task component with m_status := .INIT}).start env component).map fun state =>
        {c.started component .returned with state := state}
    | .returned => none
  | .request component => some {c with aborts := c.aborts++[(component,.flag)]}
  | .client k =>
    match c.aborts[k]? with
    | some (component,line) => some {c with
        state := c.state.setTask component (line.assign (c.state.task component))
        aborts := c.aborts.set k (component,line.next (c.state.task component).m_status)}
    | none => none

end machine

def AbortPc.Timely (status : TaskStatus) : AbortPc → Prop
  | .aborted => status = .INIT
  | .aborting => status.IsTerminated = false
  | _ => True

def WorkerPc.Alike (status : TaskStatus) : WorkerPc → Prop
  | .terminate result => status.IsTerminated = true → status = result
  | _ => True

-- Nobody assigns between the test and the assignment of Start or Abort, a worker ends as those before it
-- did, and the writer does not succeed with a failed block.
def TimelyComponents (c : ComponentCalls) : ComponentAction → Prop
  | .own (.worker k) => ∀ pc ∈ c.state.hasherTask.m_workers[k]?, pc.Alike c.state.hasherTask.task.m_status
  | .own (.writer _) => c.state.writerTask.pc = .terminate .SUCCEED → c.state.counter.blockesWriteFailed = 0
  | .start component => c.starts component = .assign → (c.state.task component).m_status = .INIT
  | .client k => ∀ call ∈ c.aborts[k]?, call.2.Timely (c.state.task call.1).m_status
  | _ => True

def TimelyTask (p : Process) : TaskAction → Prop
  | .thread _ => p.pc = .prepared ∨ p.pc = .unprepared → p.task.m_status = .INIT
  | .client k => ∀ line ∈ p.clients[k]?, line.Timely p.task.m_status
  | _ => True

instance AbortPc.decidableTimely (status : TaskStatus) : (line : AbortPc) → Decidable (line.Timely status)
  | .aborted => inferInstanceAs (Decidable (status = .INIT))
  | .aborting => inferInstanceAs (Decidable (status.IsTerminated = false))
  | .flag | .init | .terminated | .returned => isTrue trivial

instance (status : TaskStatus) : (pc : WorkerPc) → Decidable (pc.Alike status)
  | .terminate result => inferInstanceAs (Decidable (status.IsTerminated = true → status = result))
  | .start | .check | .pop | .hash _ | .diff _ | .free _ | .mark _ | .push _ | .leave | .test | .finish | .exited => isTrue trivial

instance (c : ComponentCalls) : (action : ComponentAction) → Decidable (TimelyComponents c action)
  | .own (.worker k) =>
      inferInstanceAs (Decidable (∀ pc ∈ c.state.hasherTask.m_workers[k]?, pc.Alike c.state.hasherTask.task.m_status))
  | .own (.writer _) =>
      inferInstanceAs (Decidable (c.state.writerTask.pc = .terminate .SUCCEED → c.state.counter.blockesWriteFailed = 0))
  | .start component => inferInstanceAs (Decidable (c.starts component = .assign → (c.state.task component).m_status = .INIT))
  | .client k => inferInstanceAs (Decidable (∀ call ∈ c.aborts[k]?, call.2.Timely (c.state.task call.1).m_status))
  | .own (.reader _) | .own (.start _) | .own (.pause _) | .own (.abort _) | .own (.aborted _) | .own (.aborting _)
  | .pause _ | .request _ => isTrue trivial

instance (p : Process) : (action : TaskAction) → Decidable (TimelyTask p action)
  | .thread _ => inferInstanceAs (Decidable (p.pc = .prepared ∨ p.pc = .unprepared → p.task.m_status = .INIT))
  | .client k => inferInstanceAs (Decidable (∀ line ∈ p.clients[k]?, line.Timely p.task.m_status))
  | .component _ | .request => isTrue trivial

def TaskStatus.Live (status : TaskStatus) : Prop := status = .RUNNING ∨ status = .ABORTING

variable {env : SessionEnv} {source : Content} {s t : Session} {c d : ComponentCalls}

theorem TaskStatus.Live.unended {status : TaskStatus} (live : status.Live) : status.IsTerminated = false := by
  rcases live with rfl | rfl <;> rfl

theorem TaskStatus.Live.begun {status : TaskStatus} (live : status.Live) : status ≠ .INIT := by
  rcases live with rfl | rfl <;> nofun

def ReaderPc.live : ReaderPc → Bool
  | .notStarted | .finish | .exited => false
  | _ => true

def WriterPc.live : WriterPc → Bool
  | .notStarted | .review | .revise | .exited => false
  | _ => true

structure Unended (s : Session) : Prop where
  reader : s.readerTask.pc.live = true → s.readerTask.task.m_status.Live
  writer : s.writerTask.pc.live = true → s.writerTask.task.m_status.Live
  verdict : s.writerTask.pc = .terminate status → status.IsTerminated = true
  reviewed : s.writerTask.pc = .review → s.writerTask.task.m_status.IsTerminated = true ∧
    (s.writerTask.task.m_status = .SUCCEED → s.counter.blockesWriteFailed = 0)
  unrevised : s.writerTask.pc ≠ .revise

def Keeps (s t : Session) : Prop :=
  ∀ component, (s.task component).m_status.IsTerminated = true → (t.task component).m_status = (s.task component).m_status

theorem Keeps.of (reader : t.readerTask.task.m_status = s.readerTask.task.m_status)
    (hasher : t.hasherTask.task.m_status = s.hasherTask.task.m_status)
    (writer : t.writerTask.task.m_status = s.writerTask.task.m_status) : Keeps s t := by
  intro component _
  cases component with
  | readerTask => exact reader
  | hasherTask => exact hasher
  | writerTask => exact writer

theorem Unended.frame (unended : Unended s) (reader : t.readerTask.pc.live = true → t.readerTask.task.m_status.Live)
    (writer : t.writerTask = s.writerTask) (count : t.counter.blockesWriteFailed = s.counter.blockesWriteFailed) : Unended t := by
  refine ⟨reader,?_,?_,?_,?_⟩
  · rw [writer]
    exact unended.writer
  · rw [writer]
    exact unended.verdict
  · rw [writer,count]
    exact unended.reviewed
  · rw [writer]
    exact unended.unrevised

theorem Unended.readerStep (unended : Unended s) (step : ReaderStep env source outcome s t) : Unended t ∧ Keeps s t := by
  have moves {pc : ReaderPc} (here : s.readerTask.pc = pc) (live : pc.live = true) : s.readerTask.task.m_status.Live :=
    unended.reader (by rw [here]; exact live)
  cases step with
  | retried here => exact ⟨unended,fun _ _ => rfl⟩
  | terminate here =>
      have live := moves here rfl
      refine ⟨unended.frame nofun rfl rfl,?_⟩
      intro component ended
      cases component with
      | readerTask => exact absurd (live.unended.symm.trans ended) nofun
      | hasherTask | writerTask => rfl
  | finishHashing here | finishWrite here => exact ⟨unended.frame nofun rfl rfl,.of rfl rfl rfl⟩
  | begin here | completed here | stopped here | aborted here | goOn here | paused here | unpaused here | skipped here | needed here
  | fetched here | timeout here | read here | unread here | pushHashing here | pushWrite here =>
      exact ⟨unended.frame (fun _ => moves here rfl) rfl rfl,.of rfl rfl rfl⟩

theorem Unended.workerStep (unended : Unended s) (step : WorkerStep env k s t)
    (alike : ∀ pc ∈ s.hasherTask.m_workers[k]?, pc.Alike s.hasherTask.task.m_status) : Unended t ∧ Keeps s t := by
  cases step with
  | terminate here =>
      refine ⟨unended.frame unended.reader rfl rfl,?_⟩
      intro component ended
      cases component with
      | hasherTask => exact (alike _ here ended).symm
      | readerTask | writerTask => rfl
  | _ => exact ⟨unended.frame unended.reader rfl rfl,.of rfl rfl rfl⟩

theorem Unended.writerStep (unended : Unended s) (ran : writerStep env outcome s = some t)
    (whole : s.writerTask.pc = .terminate .SUCCEED → s.counter.blockesWriteFailed = 0) : Unended t ∧ Keeps s t := by
  have moves {pc : WriterPc} (here : s.writerTask.pc = pc) (live : pc.live = true) : s.writerTask.task.m_status.Live :=
    unended.writer (by rw [here]; exact live)
  cases writerStep_sound ran with
  | terminate here =>
      have live := moves here rfl
      refine ⟨⟨unended.reader,nofun,nofun,fun _ => ⟨unended.verdict here,?_⟩,nofun⟩,?_⟩
      · intro succeeded
        exact whole (here.trans (congrArg WriterPc.terminate succeeded))
      · intro component ended
        cases component with
        | writerTask => exact absurd (live.unended.symm.trans ended) nofun
        | readerTask | hasherTask => rfl
  | provisional here failed =>
      -- The writer has succeeded only without a failed block.
      have final : ¬(s.writerTask.task.m_status = .SUCCEED ∧ s.counter.blockesWriteFailed ≠ 0) :=
        fun revise => revise.2 ((unended.reviewed here).2 revise.1)
      simp only [VolumeBackup.writerStep,here,if_neg final] at ran
      cases congrArg (fun s => s.writerTask.pc) (Option.some.inj ran)
  | revised here => exact absurd here unended.unrevised
  | aborted here | drained here =>
      refine ⟨⟨unended.reader,fun _ => moves here rfl,?_,nofun,nofun⟩,.of rfl rfl rfl⟩
      intro status same
      cases same
      rfl
  | reviewed here final => exact ⟨⟨unended.reader,nofun,nofun,nofun,nofun⟩,.of rfl rfl rfl⟩
  | goOn here | taken here | refused here | discarded here | written here | torn here | empty here | failed here | markWritten here
  | markProcessed here | freed here => exact ⟨⟨unended.reader,fun _ => moves here rfl,nofun,nofun,nofun⟩,.of rfl rfl rfl⟩

theorem Unended.startStep (unended : Unended s) (fresh : (s.task component).m_status = .INIT)
    (ran : s.start env component = some t) : Unended t ∧ Keeps s t := by
  have only (others : ∀ other, other ≠ component → t.task other = s.task other) : Keeps s t := by
    intro other ended
    by_cases same : other = component
    · rw [same,fresh] at ended
      cases ended
    · rw [others other same]
  cases start_sound ran with
  | startReader here =>
      refine ⟨unended.frame (fun _ => .inl rfl) rfl rfl,only ?_⟩
      intro other differ
      cases other <;> first | exact absurd rfl differ | rfl
  | hasherIdle | startHasher =>
      refine ⟨unended.frame unended.reader rfl rfl,only ?_⟩
      intro other differ
      cases other <;> first | exact absurd rfl differ | rfl
  | startWriter here =>
      refine ⟨⟨unended.reader,fun _ => .inl rfl,nofun,nofun,nofun⟩,only ?_⟩
      intro other differ
      cases other <;> first | exact absurd rfl differ | rfl

theorem Unended.assigned (unended : Unended s) (component : Component) (task : StatefulTask)
    (before : (s.task component).m_status = task.m_status ∨ (s.task component).m_status = .INIT ∨
      (s.task component).m_status.IsTerminated = false ∧ task.m_status = .ABORTING) :
    Unended (s.setTask component task) ∧ Keeps s (s.setTask component task) := by
  have keeps : Keeps s (s.setTask component task) := by
    intro other ended
    cases component <;> cases other <;> first
      | rfl
      | rcases before with same | fresh | ⟨unended,_⟩
        · exact same.symm
        · exact absurd (fresh ▸ ended) nofun
        · exact absurd (unended.symm.trans ended) nofun
  refine ⟨?_,keeps⟩
  have live {status : TaskStatus} (was : status.Live) (before : status = task.m_status ∨ status = .INIT ∨
      status.IsTerminated = false ∧ task.m_status = .ABORTING) : task.m_status.Live := by
    rcases before with same | fresh | ⟨_,aborting⟩
    · exact same ▸ was
    · exact absurd fresh was.begun
    · exact .inr aborting
  cases component with
  | readerTask => exact ⟨fun pc => live (unended.reader pc) before,unended.writer,unended.verdict,unended.reviewed,unended.unrevised⟩
  | hasherTask => exact ⟨unended.reader,unended.writer,unended.verdict,unended.reviewed,unended.unrevised⟩
  | writerTask =>
      refine ⟨unended.reader,fun pc => live (unended.writer pc) before,unended.verdict,?_,unended.unrevised⟩
      intro here
      have ended := unended.reviewed here
      rcases before with same | fresh | ⟨running,_⟩
      · exact same ▸ ended
      · exact absurd (fresh ▸ ended.1) nofun
      · exact absurd (running.symm.trans ended.1) nofun

theorem AbortPc.Timely.before (line : AbortPc) (timely : line.Timely task.m_status) :
    task.m_status = (line.assign task).m_status ∨ task.m_status = .INIT ∨
      task.m_status.IsTerminated = false ∧ (line.assign task).m_status = .ABORTING := by
  cases line with
  | flag | init | terminated | returned => exact .inl rfl
  | aborted => exact .inr (.inl timely)
  | aborting => exact .inr (.inr ⟨timely,rfl⟩)

theorem componentStep_keeps (unended : Unended c.state) (ran : componentNext env source c action = some d)
    (timely : TimelyComponents c action) : Unended d.state ∧ Keeps c.state d.state := by
  cases action with
  | own action =>
      simp only [componentNext] at ran
      split at ran
      · rename_i own
        obtain ⟨state,stepped,rfl⟩ := Option.map_eq_some_iff.mp ran
        cases action with
        | reader outcome => exact unended.readerStep (readerStep_sound stepped)
        | worker k => exact unended.workerStep (workerStep_sound stepped) timely
        | writer outcome => exact unended.writerStep stepped timely
        | start | pause | abort | aborted | aborting => cases own
      · cases ran
  | pause paused =>
      simp only [componentNext] at ran
      obtain ⟨state,stepped,rfl⟩ := Option.map_eq_some_iff.mp ran
      cases Option.some.inj stepped
      exact ⟨⟨unended.reader,unended.writer,unended.verdict,unended.reviewed,unended.unrevised⟩,.of rfl rfl rfl⟩
  | start component =>
      simp only [componentNext] at ran
      split at ran
      · cases Option.some.inj ran
        exact ⟨unended,fun _ _ => rfl⟩
      · rename_i here
        obtain ⟨state,stepped,rfl⟩ := Option.map_eq_some_iff.mp ran
        have fresh := timely here
        have same : c.state.setTask component {c.state.task component with m_status := .INIT} = c.state := by
          rw [← fresh]
          cases component <;> rfl
        rw [same] at stepped
        exact unended.startStep fresh stepped
      · cases ran
  | request component =>
      cases Option.some.inj ran
      exact ⟨unended,fun _ _ => rfl⟩
  | client k =>
      simp only [componentNext] at ran
      split at ran
      · rename_i component line calling
        cases Option.some.inj ran
        exact unended.assigned component _ (AbortPc.Timely.before line (timely _ calling))
      · cases ran

section task
variable {env : TaskEnv} {config : VolumeTaskSharedConfig} {p q : Process}

def PollPc.returning : PollPc → Bool
  | .leave false | .left false => true
  | _ => false

def Process.Working (p : Process) : Prop :=
  match p.pc with
  | .loop | .init _ | .conclude _ | .clear _ | .succeed => True
  | .session => ∀ running ∈ p.running, running.run.pc.returning = false
  | _ => False

def UnendedTask (p : Process) : Prop := p.Working → p.task.m_status.Live

theorem PollStep.status {p q : Polling} (step : PollStep env config source p action q) (own : ∀ line, action ≠ .client line) :
    (q.task = p.task ∧ (q.pc.returning = false → p.pc.returning = false)) ∨
      ((∃ status, p.pc = .conclude status) ∧ q.pc.returning = true) := by
  cases step with
  | concluded here => exact .inr ⟨⟨_,here⟩,rfl⟩
  | component => exact .inl ⟨rfl,id⟩
  | client => exact absurd rfl (own _)
  | move moves =>
      refine .inl ⟨rfl,?_⟩
      cases moves with
      | left here joined =>
          rename_i returned
          rw [here]
          cases returned <;> exact id
      | _ here => exact fun _ => by rw [here]; rfl
  | drive drives ran =>
      refine .inl ⟨rfl,fun _ => ?_⟩
      cases drives with
      | _ here => rw [here]; rfl
  | _ here => exact .inl ⟨rfl,fun _ => by rw [here]; rfl⟩

theorem TaskMove.working (moves : TaskMove env p pc) (working : ({p with pc := pc} : Process).Working) : p.Working := by
  unfold Process.Working at working ⊢
  cases moves with
  | drained here | aborted here | unopened here | cleared here =>
      rw [here]
      trivial
  | _ => exact working.elim

theorem working_session {running : Running} (here : p.pc = .session) (present : p.running = some running) :
    p.Working ↔ running.run.pc.returning = false := by
  unfold Process.Working
  rw [here,present]
  simp

theorem UnendedTask.same (unended : UnendedTask p) (task : q.task = p.task) (working : q.Working → p.Working) :
    UnendedTask q ∧ (p.task.m_status.IsTerminated = true → q.task.m_status = p.task.m_status) :=
  ⟨fun works => task ▸ unended (working works),fun _ => congrArg StatefulTask.m_status task⟩

theorem UnendedTask.step (unended : UnendedTask p) (step : TaskStep env p action q) (timely : TimelyTask p action) :
    UnendedTask q ∧ (p.task.m_status.IsTerminated = true → q.task.m_status = p.task.m_status) := by
  cases step with
  | move moves => exact unended.same rfl moves.working
  | assign here =>
      rcases assigns_cases here with ⟨same,rfl,rfl⟩ | ⟨same,rfl,rfl⟩ | ⟨same,rfl⟩ | ⟨same,rfl,rfl⟩
      · exact ⟨nofun,fun ended => absurd ((timely (.inr same)) ▸ ended) nofun⟩
      · exact ⟨fun _ => .inl rfl,fun ended => absurd ((timely (.inl same)) ▸ ended) nofun⟩
      · have live := unended (by unfold Process.Working; rw [same]; trivial)
        exact ⟨nofun,fun ended => absurd (live.unended.symm.trans ended) nofun⟩
      · have live := unended (by unfold Process.Working; rw [same]; trivial)
        exact ⟨nofun,fun ended => absurd (live.unended.symm.trans ended) nofun⟩
  | create here fresh | truncate here present | splitRestore here => exact unended.same rfl nofun
  | @splitBackup _ _ _ _ reply here =>
      refine unended.same rfl fun works => ?_
      cases opened : reply.opened <;> simp [Process.Working,opened] at works
  | pop here | clear here | opened here =>
      refine unended.same rfl fun _ => ?_
      unfold Process.Working
      rw [here]
      trivial
  | completed here present left =>
      refine unended.same rfl fun _ => (working_session here present).mpr ?_
      rw [left]
      rfl
  | failed here => exact unended.same rfl nofun
  | @poll running reply polling here present ran =>
      have before := working_session here present
      have still : (p.polled running polling).pc = .session := here
      have after : (p.polled running polling).Working ↔ polling.pc.returning = false := working_session still rfl
      rcases (pollNext_sound ran).status nofun with ⟨task,earlier⟩ | ⟨⟨status,concludes⟩,returning⟩
      · exact unended.same task fun works => before.mpr (earlier (after.mp works))
      · have concluding : running.run.pc = .conclude status := concludes
        have live := unended (before.mpr (by rw [concluding]; rfl))
        exact ⟨fun works => absurd (returning.symm.trans (after.mp works)) nofun,
          fun ended => absurd (live.unended.symm.trans ended) nofun⟩
  | @component running action polling present ran =>
      cases pollNext_sound ran with
      | component own stepped =>
          refine unended.same rfl ?_
          unfold Process.Working
          simp only [Process.polled,present]
          cases p.pc with
          | session => exact fun works => by simpa [Process.polling] using works
          | _ => exact id
  | request => exact unended.same rfl id
  | @client k line calling =>
      rcases AbortPc.Timely.before line (timely line calling) with same | fresh | ⟨running,aborting⟩
      · exact ⟨fun works => same ▸ unended works,fun _ => same.symm⟩
      · exact ⟨fun works => absurd fresh (unended works).begun,fun ended => absurd (fresh ▸ ended) nofun⟩
      · exact ⟨fun _ => .inr aborting,fun ended => absurd (running.symm.trans ended) nofun⟩

theorem UnendedTask.new (disk : Disk) : UnendedTask (.new disk) := nofun

end task

theorem Unended.new : Unended (.new config context processed written counter target) := ⟨nofun,nofun,nofun,nofun,nofun⟩

-- A terminal status is final, of every component of a session and of the task itself, along every run whose
-- assignments are timely.
theorem terminal_final (env : SessionEnv) (source target : Content) (task : TaskEnv) (disk : Disk) :
    (∀ context processed written counter c,
      Reached (componentNext env source) TimelyComponents {state := .new env.config context processed written counter target} c →
      ∀ d, Reached (componentNext env source) TimelyComponents c d →
      ∀ component, (c.state.task component).m_status.IsTerminated = true →
        (d.state.task component).m_status = (c.state.task component).m_status) ∧
    ∀ p, Reached (taskNext task) TimelyTask (.new disk) p →
      ∀ q, Reached (taskNext task) TimelyTask p q → p.task.m_status.IsTerminated = true → q.task.m_status = p.task.m_status := by
  constructor
  · rintro context processed written counter c ⟨calls,path⟩ d ⟨later,rest⟩ component ended
    have unended : Unended c.state := path.invariant (fun c => Unended c.state) .new
      fun _ _ _ known ran timely => (componentStep_keeps known ran timely).1
    exact rest.final (fun c => (c.state.task component).m_status) (fun status => status.IsTerminated = true) unended
      (fun _ _ _ known ran timely => (componentStep_keeps known ran timely).1)
      (fun _ _ _ known ran timely => (componentStep_keeps known ran timely).2 component) ended
  · rintro p ⟨actions,path⟩ q ⟨later,rest⟩ ended
    have unended : UnendedTask p := path.invariant UnendedTask (.new disk)
      fun _ _ _ known ran timely => (known.step (taskNext_sound ran) timely).1
    exact rest.final (fun p => p.task.m_status) (fun status => status.IsTerminated = true) unended
      (fun _ _ _ known ran timely => (known.step (taskNext_sound ran) timely).1)
      (fun _ _ _ known ran timely => (known.step (taskNext_sound ran) timely).2) ended

-- Abort is called on a reader that has succeeded, and on a task that has.
def readerEnds : List ComponentAction :=
  [.start .readerTask,.start .readerTask]++.replicate 10 (.own (.reader .ok))

def lateAbort : List ComponentAction := [.request .readerTask]++.replicate 4 (.client 0)

def endedReader : Option ComponentCalls :=
  execute (componentNext letterEnv letter) (fun c action => decide (TimelyComponents c action)) {state := letterStart} readerEnds

def endedTask : Option Process :=
  execute (taskNext plainEnv) (fun p action => decide (TimelyTask p action)) (.new plainDisk) plainActions

theorem terminal_final_late :
    (∃ c : ComponentCalls, c.state.readerTask.task.m_abort = true ∧ c.state.readerTask.task.m_status = .SUCCEED) ∧
      ∃ p : Process, p.task.m_abort = true ∧ p.task.m_status = .SUCCEED := by
  have component : endedReader.any (fun c => decide (c.state.readerTask.task.m_status = .SUCCEED) &&
      (execute (componentNext letterEnv letter) (fun c action => decide (TimelyComponents c action)) c lateAbort).any fun d =>
        d.state.readerTask.task.m_abort) = true := by decide +kernel
  have whole : endedTask.any (fun p => decide (p.task.m_status = .SUCCEED) &&
      (execute (taskNext plainEnv) (fun p action => decide (TimelyTask p action)) p ([.request]++.replicate 4 (.client 0))).any fun q =>
        q.task.m_abort) = true := by decide +kernel
  have final := terminal_final letterEnv letter (.of 1 zeros) plainEnv plainDisk
  constructor
  · obtain ⟨c,reader,good⟩ := execute_ends (fun _ _ => of_decide_eq_true) component
    obtain ⟨ended,late⟩ := Bool.and_eq_true_iff.mp good
    have succeeded := of_decide_eq_true ended
    obtain ⟨d,called,abort⟩ := execute_ends (fun _ _ => of_decide_eq_true) late
    have terminated : (c.state.task .readerTask).m_status.IsTerminated = true := congrArg TaskStatus.IsTerminated succeeded
    exact ⟨d,abort,(final.1 _ _ _ _ c ⟨_,reader⟩ d ⟨_,called⟩ .readerTask terminated).trans succeeded⟩
  · obtain ⟨p,task,good⟩ := execute_ends (fun _ _ => of_decide_eq_true) whole
    obtain ⟨ended,late⟩ := Bool.and_eq_true_iff.mp good
    have succeeded := of_decide_eq_true ended
    obtain ⟨q,client,abort⟩ := execute_ends (fun _ _ => of_decide_eq_true) late
    have terminated : p.task.m_status.IsTerminated = true := congrArg TaskStatus.IsTerminated succeeded
    exact ⟨q,abort,(final.2 p ⟨_,task⟩ q ⟨_,client⟩ terminated).trans succeeded⟩

-- A client calls Abort on a task that is still preparing, and Start goes on to run it.
def preparing : List TaskAction := threads 2++[.request]++.replicate 3 (.client 0)

theorem aborted_task_runs : ¬∀ p, Reached (taskNext plainEnv) Anything (.new plainDisk) p → ∀ q, Reached (taskNext plainEnv) Anything p q →
    p.task.m_status.IsTerminated = true → q.task.m_status = p.task.m_status := by
  intro always
  have run : (execute (taskNext plainEnv) (fun _ _ => true) (.new plainDisk) preparing).any (fun p =>
      p.task.m_status.IsTerminated && (execute (taskNext plainEnv) (fun _ _ => true) p (threads 6)).any fun q =>
        decide (q.task.m_status ≠ p.task.m_status)) = true := by decide +kernel
  obtain ⟨p,first,good⟩ := execute_ends (fun _ _ _ => trivial) run
  obtain ⟨terminated,goes⟩ := Bool.and_eq_true_iff.mp good
  obtain ⟨q,second,changed⟩ := execute_ends (fun _ _ _ => trivial) goes
  exact of_decide_eq_true changed (always p ⟨_,first⟩ q ⟨_,second⟩ terminated)

end VolumeBackup
