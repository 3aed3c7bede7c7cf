import VolumeBackup.ChecksumTable

namespace VolumeBackup
open ByteMemory LabelledRuns

def SessionAction.granted : SessionAction → Bool
  | .reader outcome | .writer outcome => outcome.isOk
  | _ => true

def WriterPc.failing : WriterPc → Bool
  | .discard _ | .failed _ | .revise | .terminate .FAILED => true
  | _ => false

structure Unharmed (s : Session) : Prop where
  reader : s.readerTask.task.m_failed = false ∧ s.readerTask.pc ≠ .terminate .FAILED ∧ s.readerTask.task.m_status ≠ .FAILED
  hasher : s.hasherTask.task.m_status ≠ .FAILED ∧ ∀ pc ∈ s.hasherTask.m_workers, pc ≠ .terminate .FAILED
  writer : s.writerTask.task.m_failed = false ∧ s.writerTask.pc.failing = false ∧ s.writerTask.task.m_status ≠ .FAILED ∧
    s.counter.blockesWriteFailed = 0

section session
variable {env : SessionEnv} {source : Content} {s t : Session} {action : SessionAction}

theorem unharmed_new {config : VolumeTaskSharedConfig} {context : BlockHashingContext} {processed written : Bitmap}
    {counter : SessionCounter} {target : Content} (none : counter.blockesWriteFailed = 0) :
    Unharmed (.new config context processed written counter target) :=
  ⟨⟨rfl,nofun,nofun⟩,⟨nofun,nofun⟩,⟨rfl,rfl,nofun,none⟩⟩

theorem Unharmed.workerStep (unharmed : Unharmed s) (step : WorkerStep env k s t) : Unharmed t := by
  obtain ⟨reader,⟨status,workers⟩,writer⟩ := unharmed
  have set {pc : WorkerPc} (next : pc ≠ .terminate .FAILED) : ∀ other ∈ s.hasherTask.m_workers.set k pc, other ≠ .terminate .FAILED :=
    Slots.all_set workers next
  cases step with
  | hashed here =>
      refine ⟨reader,⟨status,set ?_⟩,writer⟩
      unfold hashedPc
      split <;> nofun
  | terminate here =>
      refine ⟨reader,⟨?_,set nofun⟩,writer⟩
      intro failed
      exact workers _ (List.mem_of_getElem? here) (congrArg WorkerPc.terminate failed)
  | _ => exact ⟨reader,⟨status,set nofun⟩,writer⟩

theorem Unharmed.readerStep {outcome : Outcome} (unharmed : Unharmed s) (step : ReaderStep env source outcome s t)
    (granted : outcome.isOk = true) : Unharmed t := by
  obtain ⟨⟨flag,leaving,status⟩,hasher,writer⟩ := unharmed
  cases step with
  | stopped here failed => cases flag.symm.trans failed
  | timeout here none failed | unread here same failed => cases granted.symm.trans failed
  | terminate here => exact ⟨⟨flag,nofun,fun same => leaving (same ▸ here)⟩,hasher,writer⟩
  | retried here => exact ⟨⟨flag,leaving,status⟩,hasher,writer⟩
  | _ => exact ⟨⟨flag,nofun,status⟩,hasher,writer⟩

theorem Unharmed.writerStep {outcome : Outcome} (unharmed : Unharmed s) (step : WriterStep env outcome s t)
    (granted : outcome.isOk = true) : Unharmed t := by
  obtain ⟨reader,hasher,⟨flag,sound,status,count⟩⟩ := unharmed
  have healthy {pc : WriterPc} (here : s.writerTask.pc = pc) (failing : pc.failing = true) : False := by
    rw [here] at sound
    cases failing.symm.trans sound
  cases step with
  | refused here first failed => cases flag.symm.trans failed
  | discarded here | failed here | revised here => exact (healthy here rfl).elim
  | torn here needed failed =>
      rw [failed] at granted
      cases granted
  | terminate here =>
      refine ⟨reader,hasher,⟨flag,rfl,?_,count⟩⟩
      intro failed
      exact healthy here (congrArg WriterPc.failing (congrArg WriterPc.terminate failed))
  | provisional here failed => exact absurd count failed
  | _ => exact ⟨reader,hasher,⟨flag,rfl,status,count⟩⟩

theorem Unharmed.step (unharmed : Unharmed s) (step : Step env source s action t) (granted : action.granted = true)
    (started : t.hasherTask.task.m_status ≠ .FAILED ∨ action ≠ .start .hasherTask) (calm : action.aborts = false) : Unharmed t := by
  cases action with
  | reader outcome => exact unharmed.readerStep step granted
  | worker k => exact unharmed.workerStep step
  | writer outcome => exact unharmed.writerStep step granted
  | start component =>
      obtain ⟨⟨flag,leaving,status⟩,hasher,writer⟩ := unharmed
      cases (step : ControlStep env _ s t) with
      | startReader here => exact ⟨⟨flag,nofun,nofun⟩,hasher,writer⟩
      | hasherIdle next here idle => exact ⟨⟨flag,leaving,status⟩,⟨started.resolve_right fun other => other rfl,hasher.2⟩,writer⟩
      | startHasher here =>
          refine ⟨⟨flag,leaving,status⟩,⟨nofun,?_⟩,writer⟩
          intro pc inside
          rw [List.eq_of_mem_replicate inside]
          nofun
      | startWriter here => exact ⟨⟨flag,leaving,status⟩,hasher,⟨writer.1,rfl,nofun,writer.2.2.2⟩⟩
  | pause paused =>
      cases (step : ControlStep env _ s t)
      exact ⟨unharmed.reader,unharmed.hasher,unharmed.writer⟩
  | abort | aborted | aborting => cases calm

theorem Unharmed.working (unharmed : Unharmed s) (component : Component) : (s.task component).m_status ≠ .FAILED := by
  cases component with
  | readerTask => exact unharmed.reader.2.2
  | hasherTask => exact unharmed.hasher.1
  | writerTask => exact unharmed.writer.2.2.1

end session

def PollGranted : PollAction → Prop
  | .component action => action.granted = true
  | .thread _ | .client _ => True

def Going (p : Polling) : Prop := p.pc.doomed = false → Unharmed p.state

section polling
variable {env : TaskEnv} {config : VolumeTaskSharedConfig} {source : Content} {p q : Polling}

theorem Going.step (going : Going p) (step : PollStep env config source p action q) (granted : PollGranted action) : Going q := by
  intro live
  have unharmed := going (step.live live)
  have thread {inner : SessionAction} {state : Session} (ran : sessionStep (env.sessionEnv config) source p.state inner = some state)
      (own : inner.granted = true) (calm : inner.aborts = false)
      (started : state.hasherTask.task.m_status ≠ .FAILED ∨ inner ≠ .start .hasherTask) : Unharmed state :=
    unharmed.step (sessionStep_sound ran) own started calm
  cases step with
  | drive drives ran =>
      cases drives with
      | started here running =>
          rename_i component rest
          cases component with
          | hasherTask => exact thread ran rfl rfl (.inl running)
          | readerTask | writerTask => exact thread ran rfl rfl (.inr nofun)
      | startFailed here => cases (abortFrom_doomed _ _).symm.trans live
      | paused here | resumed here => exact thread ran rfl rfl (.inr nofun)
      | assigned here assigns next => cases (aborts_doomed next).symm.trans live
  | component own ran => exact thread ran granted (own_calm own) (.inr fun same => by rw [same] at own; cases own)
  | _ => exact unharmed

theorem Going.clean (going : Going p) : CleanPoll p action := by
  cases action with
  | component | client => trivial
  | thread reply =>
      intro component sampled
      have unharmed : Unharmed p.state := by
        apply going
        cases here : p.pc with
        | isTerminated => rfl
        | _ =>
            rw [here] at sampled
            cases sampled
      exact ⟨unharmed.working component,fun _ _ => unharmed.writer.2.2.2⟩

theorem going_opened {shared : TaskState} {disk : Disk} (made : env.openSession disk config reply = some running) :
    Going {toTaskState := shared,toSessionRun := running.run} := by
  intro _
  obtain ⟨context,source,target,found,_,_,rfl⟩ := open_parts made
  obtain ⟨hashing,_,opened⟩ := init_opened found
  have fresh : Unharmed (env.newSession config context source target).run.state :=
    unharmed_new opened.failed
  exact fresh

theorem granted_returns {action : SessionAction} (granted : action.granted = true) {s : Session} : WriteReturns s action := by
  cases action with
  | writer outcome => exact fun _ _ => granted
  | _ => trivial

end polling

def PollPc.timer : PollPc → Bool
  | .refresh => true
  | _ => false

-- Whatever the thread asks of the system is granted, but for what its timer answers, no component's call fails, and
-- nobody calls Abort.
def Grants (p : Process) : TaskAction → Prop
  | .thread reply => reply.isYes = true ∨ ∃ running ∈ p.running, running.run.pc.timer = true
  | .component action => action.granted = true
  | .request => False
  | .client _ => True

-- A run that nothing disturbs, in which each session finds its source as it is expected.
def Smooth (env : TaskEnv) (source : VolumeTaskSharedConfig → Content) (p : Process) (action : TaskAction) : Prop :=
  Grants p action ∧ ∀ config ∈ p.pc.opening, p.disk (env.sourcePath config) = some (source config)

instance : Decidable (Grants p action) :=
  match action with
  | .thread reply => inferInstanceAs (Decidable (reply.isYes = true ∨ ∃ running ∈ p.running, running.run.pc.timer = true))
  | .component action => inferInstanceAs (Decidable (action.granted = true))
  | .request => isFalse id
  | .client _ => isTrue trivial

instance : Decidable (Smooth env source p action) := inferInstanceAs (Decidable (_ ∧ ∀ config ∈ p.pc.opening, _))

section task
variable {env : TaskEnv} {source : VolumeTaskSharedConfig → Content} {disk : Disk} {p q : Process} {action : TaskAction}

theorem Smooth.answer (smooth : Smooth env source p (.thread reply)) (other : ∀ running ∈ p.running, running.run.pc.timer = false) :
    reply = .yes := by
  apply reply_yes
  have granted : Grants p (.thread reply) := smooth.1
  apply granted.resolve_right
  rintro ⟨running,present,timer⟩
  cases (other running present).symm.trans timer

theorem Smooth.granted (smooth : Smooth env source p action) : OnSession (fun _ _ => PollGranted) p action := by
  cases action with
  | component action => exact fun _ _ => smooth.1
  | thread => exact fun _ _ => trivial
  | request | client => trivial

theorem Smooth.flushed (smooth : Smooth env source p action) : OnSession (fun _ => Flushed) p action := by
  cases action with
  | thread reply =>
      intro running present flushes
      have granted : Grants p (.thread reply) := smooth.1
      apply granted.resolve_right
      rintro ⟨other,there,timer⟩
      cases Option.some.inj (present.symm.trans there)
      have here : (p.polling running).pc = running.run.pc := rfl
      rw [here] at flushes
      cases pc : running.run.pc with
      | flushTable =>
          rw [pc] at timer
          cases timer
      | _ =>
          rw [pc] at flushes
          cases flushes
  | component => exact fun _ _ => trivial
  | request | client => trivial

structure Proceeding (p : Process) : Prop where
  layout : Layout p
  going : Current (fun _ => Going) p

theorem Proceeding.step (proceeding : Proceeding p) (step : TaskStep env p action q) (smooth : Smooth env source p action) : Proceeding q where
  layout := proceeding.layout.step step
  going := by
    refine @Current.step _ _ _ _ (fun _ _ => Going) (fun _ _ => PollGranted) proceeding.going proceeding.layout step smooth.granted
      (fun _ _ _ => trivial) ?_ ?_
    · exact fun _ _ _ _ made => going_opened made
    · intro running inner polling _ going ran granted
      exact going.step (pollNext_sound ran) granted

theorem Proceeding.new : Proceeding (.new disk) := ⟨by simp [Layout,Process.new],fun _ none => by cases none⟩

theorem Proceeding.observed (proceeding : Proceeding p) (smooth : Smooth env source p action) : Observed env source p action := by
  refine ⟨?_,smooth.2⟩
  have granted := smooth.granted
  cases action with
  | thread reply => exact fun running present => ⟨(proceeding.going running present).clean,trivial⟩
  | component action => exact fun running present => ⟨trivial,granted_returns (granted running present)⟩
  | request | client => trivial

theorem smooth_observed (path : Runs (taskNext env) (Smooth env source) (.new disk) actions p) :
    Runs (taskNext env) (fun p action => Smooth env source p action ∧ Observed env source p action ∧ OnSession (fun _ => Flushed) p action)
      (.new disk) actions p := by
  refine path.strengthen Proceeding .new ?_ ?_
  · exact fun _ _ _ known ran smooth => known.step (taskNext_sound ran) smooth
  · exact fun _ _ _ known _ smooth => ⟨smooth,known.observed smooth,smooth.flushed⟩

end task

end VolumeBackup
