import VolumeBackup.LeftBehind

namespace VolumeBackup
open ByteMemory LabelledRuns

section session
variable {env : TaskEnv} {config : VolumeTaskSharedConfig} {source : Content} {s t : Session} {p q : Polling}

theorem start_working {env : SessionEnv} (crew : env.config.hasherEnabled = true → Crew env.config)
    (ran : s.start env .hasherTask = some t) : t.hasherTask.task.m_status ≠ .FAILED := by
  cases hasher : env.config.hasherEnabled with
  | true => exact (start_crew hasher ran).mpr (crew hasher)
  | false =>
      dsimp only [Session.start] at ran
      split at ran
      · cases ran
      · rw [hasher] at ran
        cases Option.some.inj ran
        nofun

theorem Unharmed.started (unharmed : Unharmed s) (crew : config.hasherEnabled = true → Crew config)
    (ran : sessionStep (env.sessionEnv config) source s (.start component) = some t) : (t.task component).m_status ≠ .FAILED := by
  have next : Unharmed t := by
    apply unharmed.step (sessionStep_sound ran) rfl _ rfl
    cases component with
    | hasherTask =>
        have working : t.hasherTask.task.m_status ≠ .FAILED := @start_working _ _ (env.sessionEnv config) crew ran
        exact .inl working
    | readerTask | writerTask => exact .inr nofun
  exact next.working component

theorem PollStep.undoomed (step : PollStep env config source p action q) (unharmed : Unharmed p.state) (calm : p.task.m_abort = false)
    (crew : config.hasherEnabled = true → Crew config) (alone : ∀ line, action ≠ .client line) (live : p.pc.doomed = false) :
    q.pc.doomed = false ∧ q.task = p.task := by
  have doomed {pc : PollPc} (here : p.pc = pc) (lost : pc.doomed = true) : False := by
    rw [here] at live
    cases live.symm.trans lost
  cases step with
  | move moves =>
      refine ⟨?_,rfl⟩
      cases moves with
      | aborts here abort => cases calm.symm.trans abort
      | failed here failed => exact absurd failed (unharmed.working _)
      | reads here => exact (doomed here rfl).elim
      | allTerminated here =>
          dsimp only
          split <;> rfl
      | left here joined =>
          rename_i returned
          rw [here] at live
          cases returned <;> exact live
      | _ => rfl
  | drive drives ran =>
      refine ⟨?_,rfl⟩
      cases drives with
      | startFailed here failed => exact absurd failed (unharmed.started crew ran)
      | assigned here => exact (doomed here rfl).elim
      | _ => rfl
  | concluded here => exact (doomed here rfl).elim
  | component => exact ⟨live,rfl⟩
  | client => exact absurd rfl (alone _)
  | _ => exact ⟨rfl,rfl⟩

end session

structure Flawless (p : Process) : Prop extends Proceeding p where
  alone : p.clients = []
  calm : p.task.m_abort = false
  live : Current (fun _ polling => polling.pc.doomed = false) p
  course : p.pc ≠ .unprepared ∧ ∀ status, p.pc ≠ .conclude status
  ends : p.pc = .exited → p.task.m_status = .SUCCEED

section task
variable {env : TaskEnv} {source : VolumeTaskSharedConfig → Content} {queue : List VolumeTaskSharedConfig} {disk : Disk} {p q : Process}

theorem Flawless.new : Flawless (.new disk) := ⟨.new,rfl,rfl,(fun _ none => by cases none),⟨nofun,nofun⟩,nofun⟩

theorem Flawless.polled (flawless : Flawless p) (present : p.running = some running)
    (step : PollStep env running.config running.source (p.polling running) action y) (next : Proceeding (p.polled running y))
    (crew : running.config.hasherEnabled = true → Crew running.config) (alone : ∀ line, action ≠ .client line) :
    Flawless (p.polled running y) := by
  have live : running.run.pc.doomed = false := flawless.live running present
  have unharmed : Unharmed running.run.state := flawless.going running present live
  obtain ⟨undoomed,same⟩ := step.undoomed unharmed flawless.calm crew alone live
  have here : p.pc = .session := flawless.layout.mp (by rw [present]; rfl)
  have calm : y.task.m_abort = false := by
    rw [same]
    exact flawless.calm
  refine ⟨next,flawless.alone,calm,?_,?_,?_⟩
  · intro other there
    cases Option.some.inj there
    exact undoomed
  · show p.pc ≠ _ ∧ _
    rw [here]
    exact ⟨nofun,fun _ => flawless.course.2 _⟩
  · intro gone
    cases here.symm.trans gone

theorem Flawless.step (flawless : Flawless p) (step : TaskStep env p action q) (smooth : Smooth env source p action)
    (crew : ∀ running ∈ p.running, running.config.hasherEnabled = true → Crew running.config)
    (unhindered : q.pc ≠ .unprepared ∧ q.pc ≠ .conclude .FAILED) : Flawless q := by
  have next := flawless.toProceeding.step step smooth
  have unsettled {pc : TaskPc} (here : p.pc = pc) (other : pc ≠ .session) (elsewhere : q.running = p.running) :
      Current (fun _ polling => polling.pc.doomed = false) q := by
    intro running present
    cases (flawless.layout.idle here other).symm.trans (elsewhere.symm.trans present)
  cases step with
  | move moves =>
      have idle := unsettled rfl moves.elsewhere.1 rfl
      cases moves with
      | aborted here abort => cases flawless.calm.symm.trans abort
      | unopened => exact absurd rfl unhindered.2
      | missing | uncreated | untruncated | invalid => exact absurd rfl unhindered.1
      | _ => exact ⟨next,flawless.alone,flawless.calm,idle,⟨nofun,nofun⟩,nofun⟩
  | assign here =>
      have idle := unsettled rfl (assigns_elsewhere here).1 rfl
      rcases assigns_cases here with ⟨same,_⟩ | ⟨same,rfl,rfl⟩ | ⟨same,_⟩ | ⟨same,rfl,rfl⟩
      · exact absurd same flawless.course.1
      · exact ⟨next,flawless.alone,flawless.calm,idle,⟨nofun,nofun⟩,nofun⟩
      · exact absurd same (flawless.course.2 _)
      · exact ⟨next,flawless.alone,flawless.calm,idle,⟨nofun,nofun⟩,fun _ => rfl⟩
  | create here | truncate here | splitRestore here | pop here | clear here =>
      exact ⟨next,flawless.alone,flawless.calm,unsettled here nofun rfl,⟨nofun,nofun⟩,nofun⟩
  | @splitBackup _ _ _ _ reply here =>
      have opened : reply.opened = true := by
        apply Decidable.byContradiction
        exact fun lost => unhindered.1 (if_neg lost)
      refine ⟨next,flawless.alone,flawless.calm,unsettled here nofun rfl,?_,?_⟩ <;> simp [opened]
  | opened here positive made =>
      refine ⟨next,flawless.alone,flawless.calm,?_,⟨nofun,nofun⟩,nofun⟩
      intro running present
      cases Option.some.inj present
      obtain ⟨context,content,target,_,_,_,rfl⟩ := open_parts made
      rfl
  | poll here present ran | component present ran =>
      exact flawless.polled present (pollNext_sound ran) next (crew _ present) nofun
  | completed => exact ⟨next,flawless.alone,flawless.calm,(fun _ none => by cases none),⟨nofun,nofun⟩,nofun⟩
  | failed here present left =>
      have live : _ = false := flawless.live _ present
      rw [show (p.polling _).pc = _ from left] at live
      cases live
  | request => exact smooth.1.elim
  | client calling =>
      rw [flawless.alone] at calling
      cases calling

end task

end VolumeBackup
