import VolumeBackup.NoFalseSuccess

namespace VolumeBackup
open ByteMemory LabelledRuns

def Left (s : Session) : Component → Prop
  | .readerTask => s.readerTask.pc = .finish ∨ s.readerTask.pc = .exited
  | .hasherTask => True
  | .writerTask => (s.writerTask.pc = .review ∨ s.writerTask.pc = .revise ∨ s.writerTask.pc = .exited) ∧ s.writeQueue.Drained

def WriterPc.gone : WriterPc → Bool
  | .terminate _ | .review | .revise | .exited => true
  | _ => false

structure Closing (s : Session) : Prop where
  reader : s.readerTask.task.m_status.IsTerminated = true → s.readerTask.pc = .finish ∨ s.readerTask.pc = .exited
  writer : s.writerTask.task.m_status.IsTerminated = true →
    s.writerTask.pc = .review ∨ s.writerTask.pc = .revise ∨ s.writerTask.pc = .exited
  drained : s.writerTask.pc.gone = true → s.writeQueue.Drained

structure Standstill (s : Session) : Prop where
  reader : s.readerTask.pc = .finish ∨ s.readerTask.pc = .exited
  writer : s.writerTask.pc = .review ∨ s.writerTask.pc = .revise ∨ s.writerTask.pc = .exited
  workers : ∀ pc ∈ s.hasherTask.m_workers, pc.busy = false
  drained : s.hashingQueue.m_queue = []

section session
variable {env : SessionEnv} {source : Content} {o : Flow} {s t : Session} {component : Component}

theorem Step.drained (step : Step env source s action t) (drained : s.writeQueue.Drained) : t.writeQueue.Drained := by
  cases action with
  | reader outcome =>
      cases (step : ReaderStep env source outcome s t) with
      | pushWrite here plain pushed => exact drained_push pushed drained
      | finishWrite here => exact ⟨drained.1,rfl⟩
      | _ => exact drained
  | worker k =>
      cases (step : WorkerStep env k s t) with
      | pushed here push => exact drained_push push drained
      | finish here => exact ⟨drained.1,rfl⟩
      | _ => exact drained
  | writer outcome =>
      cases (step : WriterStep env outcome s t) with
      | taken here first | refused here first => cases drained.1.symm.trans first
      | _ => exact drained
  | start component => cases (step : ControlStep env _ s t) <;> exact drained
  | pause paused =>
      cases (step : ControlStep env _ s t)
      exact drained
  | abort component | aborted component | aborting component =>
      cases (step : ControlStep env _ s t)
      cases component <;> exact drained

theorem Left.reader (left : Left s .readerTask) (step : Step env source s action t) : Left t .readerTask := by
  cases action with
  | reader outcome =>
      cases (step : ReaderStep env source outcome s t) with
      | finishHashing | finishWrite => exact .inr rfl
      | retried => exact left
      | _ here => rcases left with same | same <;> cases here.symm.trans same
  | worker k => cases (step : WorkerStep env k s t) <;> exact left
  | writer outcome => cases (step : WriterStep env outcome s t) <;> exact left
  | start component =>
      cases (step : ControlStep env _ s t) with
      | startReader here => rcases left with same | same <;> cases here.symm.trans same
      | _ => exact left
  | pause paused =>
      cases (step : ControlStep env _ s t)
      exact left
  | abort component | aborted component | aborting component =>
      cases (step : ControlStep env _ s t)
      cases component <;> exact left

theorem Left.writer (left : Left s .writerTask) (step : Step env source s action t) : Left t .writerTask := by
  refine ⟨?_,step.drained left.2⟩
  have gone := left.1
  cases action with
  | reader outcome => cases (step : ReaderStep env source outcome s t) <;> exact gone
  | worker k => cases (step : WorkerStep env k s t) <;> exact gone
  | writer outcome =>
      cases (step : WriterStep env outcome s t) with
      | provisional => exact .inr (.inl rfl)
      | reviewed | revised => exact .inr (.inr rfl)
      | _ here => rcases gone with same | same | same <;> cases here.symm.trans same
  | start component =>
      cases (step : ControlStep env _ s t) with
      | startWriter here => rcases gone with same | same | same <;> cases here.symm.trans same
      | _ => exact gone
  | pause paused =>
      cases (step : ControlStep env _ s t)
      exact gone
  | abort component | aborted component | aborting component =>
      cases (step : ControlStep env _ s t)
      cases component <;> exact gone

theorem Left.step (left : Left s component) (step : Step env source s action t) : Left t component := by
  cases component with
  | readerTask => exact Left.reader left step
  | hasherTask => trivial
  | writerTask => exact Left.writer left step

theorem Closing.step (closing : Closing s) (steady : Steady s) (step : Step env source s action t) (calm : action.aborts = false) :
    Closing t := by
  obtain ⟨reader,writer,drained⟩ := closing
  have kept : s.writerTask.pc.gone = true → t.writeQueue.Drained := fun gone => step.drained (drained gone)
  cases action with
  | reader outcome =>
      cases (step : ReaderStep env source outcome s t) with
      | terminate => exact ⟨fun _ => .inl rfl,writer,kept⟩
      | retried => exact ⟨reader,writer,kept⟩
      | finishHashing | finishWrite => exact ⟨fun _ => .inr rfl,writer,kept⟩
      | _ here =>
          refine ⟨fun ended => ?_,writer,kept⟩
          rcases reader ended with same | same <;> cases here.symm.trans same
  | worker k => cases (step : WorkerStep env k s t) <;> exact ⟨reader,writer,kept⟩
  | writer outcome =>
      cases (step : WriterStep env outcome s t) with
      | aborted here abort => cases steady.writer.1.symm.trans abort
      | drained here empty finished => exact ⟨reader,fun ended => absurd (writer ended) (by rw [here]; nofun),fun _ => ⟨empty,finished⟩⟩
      | terminate here => exact ⟨reader,fun _ => .inl rfl,fun _ => kept (by rw [here]; rfl)⟩
      | provisional here => exact ⟨reader,fun _ => .inr (.inl rfl),fun _ => kept (by rw [here]; rfl)⟩
      | reviewed here | revised here => exact ⟨reader,fun _ => .inr (.inr rfl),fun _ => kept (by rw [here]; rfl)⟩
      | _ here => exact ⟨reader,fun ended => absurd (writer ended) (by rw [here]; nofun),nofun⟩
  | start component =>
      cases (step : ControlStep env _ s t) with
      | startReader => exact ⟨nofun,writer,kept⟩
      | hasherIdle | startHasher => exact ⟨reader,writer,kept⟩
      | startWriter => exact ⟨reader,nofun,nofun⟩
  | pause paused =>
      cases (step : ControlStep env _ s t)
      exact ⟨reader,writer,kept⟩
  | abort | aborted | aborting => cases calm

theorem closing_new {context : BlockHashingContext} {processed written : Bitmap} {counter : SessionCounter} {target : Content} :
    Closing (.new config context processed written counter target) := ⟨nofun,nofun,nofun⟩

theorem Closing.left (closing : Closing s) (ended : (s.task component).m_status.IsTerminated = true) : Left s component := by
  cases component with
  | readerTask => exact closing.reader ended
  | hasherTask => trivial
  | writerTask =>
      have gone := closing.writer ended
      refine ⟨gone,closing.drained ?_⟩
      rcases gone with here | here | here <;> rw [here] <;> rfl

theorem Standstill.of_left (valid : Valid env source o s) (steady : Steady s) (reader : Left s .readerTask) (writer : Left s .writerTask) :
    Standstill s := by
  obtain ⟨workers,drained⟩ := valid.idle writer.2 steady.hasher
  exact ⟨reader,writer.1,workers,drained⟩

theorem Standstill.counter (standing : Standstill s) (step : Step env source s action t) (own : action.ofComponent = true) :
    t.counter = s.counter := by
  cases action with
  | reader outcome =>
      cases (step : ReaderStep env source outcome s t) with
      | read here | pushHashing here | pushWrite here => rcases standing.reader with same | same <;> cases here.symm.trans same
      | _ => rfl
  | worker k =>
      have idle (pc : WorkerPc) (here : s.hasherTask.m_workers[k]? = some pc) := standing.workers pc (List.mem_of_getElem? here)
      cases (step : WorkerStep env k s t) with
      | hashed here | pushed here => cases idle _ here
      | _ => rfl
  | writer outcome =>
      cases (step : WriterStep env outcome s t) with
      | discarded here | failed here | freed here => rcases standing.writer with same | same | same <;> cases here.symm.trans same
      | _ => rfl
  | start | pause | abort | aborted | aborting => cases own

end session

section polling
variable {env : TaskEnv} {config : VolumeTaskSharedConfig} {source : Content} {o : Flow} {p q : Polling}

theorem setTask_counter {s : Session} : (s.setTask component task).counter = s.counter := by cases component <;> rfl

theorem PollDrive.counter {state : Session} (drives : PollDrive env p state action pc)
    (ran : sessionStep (env.sessionEnv config) source p.state action = some state) (begun : ∀ components, p.pc ≠ .start components) :
    state.counter = p.state.counter := by
  cases drives with
  | started here | startFailed here => exact absurd here (begun _)
  | paused | resumed =>
      cases Option.some.inj ran
      rfl
  | assigned here assigns =>
      rcases assigns with rfl | rfl | rfl <;> cases Option.some.inj ran <;> exact setTask_counter

structure Timed (env : TaskEnv) (config : VolumeTaskSharedConfig) (source : Content) (o : Flow) (p : Polling) : Prop where
  valid : Valid (env.sessionEnv config) source o p.state
  steady : p.pc.doomed = false → Steady p.state
  closing : p.pc.doomed = false → Closing p.state
  sampled : ∀ rest, p.pc.unsampled = some rest → ∀ component ∈ env.task.components, component ∉ rest → Left p.state component

theorem Timed.step (timed : Timed env config source o p) (roomy : Roomy (env.sessionEnv config) o)
    (step : PollStep env config source p action q) : Timed env config source o q := by
  have sampled (rest : List Component) (set : q.pc.unsampled = some rest) :
      ∀ component ∈ env.task.components, component ∉ rest → Left p.state component := by
    have closing := timed.closing (step.live (unsampled_live set))
    exact step.sampled (fun _ _ _ _ gone => closing.left gone) timed.sampled set
  rcases step.session with same | ⟨inner,ran,calm,_⟩
  · refine ⟨?_,?_,?_,?_⟩
    · rw [same]; exact timed.valid
    · rw [same]; exact fun live => timed.steady (step.live live)
    · rw [same]; exact fun live => timed.closing (step.live live)
    · rw [same]; exact sampled
  · have inside := sessionStep_sound ran
    refine ⟨timed.valid.step roomy inside,fun live => ?_,fun live => ?_,fun rest set component member absent => ?_⟩
    · exact (timed.steady (step.live live)).step inside (calm live)
    · exact (timed.closing (step.live live)).step (timed.steady (step.live live)) inside (calm live)
    · exact (sampled rest set component member absent).step inside

theorem Timed.standing (timed : Timed env config source o p) (ended : p.pc.unsampled = some []) : Standstill p.state := by
  have reader : Left p.state .readerTask := timed.sampled _ ended _ (reader_asked _) nofun
  have writer : Left p.state .writerTask := timed.sampled _ ended _ (writer_asked _) nofun
  exact .of_left timed.valid (timed.steady (unsampled_live ended)) reader writer

theorem Timed.counter (timed : Timed env config source o p) (ended : p.pc.unsampled = some [])
    (step : PollStep env config source p action q) : q.state.counter = p.state.counter := by
  cases step with
  | drive drives ran => exact drives.counter ran fun components here => by cases (congrArg PollPc.unsampled here).symm.trans ended
  | component own ran => exact (timed.standing ended).counter (sessionStep_sound ran) own
  | _ => rfl

def Clocked (env : TaskEnv) (config : VolumeTaskSharedConfig) (source : Content) (p : Polling) : Prop :=
  ∃ o, Roomy (env.sessionEnv config) o ∧ Timed env config source o p

theorem clocked_opened {shared : TaskState} (made : env.openSession disk config reply = some running) :
    Clocked env running.config running.source {toTaskState := shared,toSessionRun := running.run} := by
  obtain ⟨context,source,target,found,_,_,rfl⟩ := open_parts made
  exact ⟨_,opened_roomy found,opened_valid found,fun _ => steady_new,fun _ => closing_new,nofun⟩

theorem Clocked.counter (clocked : Clocked env config source p) (ended : p.pc.unsampled = some [])
    (step : PollStep env config source p action q) : q.state.counter = p.state.counter := by
  obtain ⟨o,_,timed⟩ := clocked
  exact timed.counter ended step

theorem TaskStep.clocked {p q : Process} (layout : Layout p) (step : TaskStep env p action q)
    (current : Current (fun running => Clocked env running.config running.source) p) :
    Current (fun running => Clocked env running.config running.source) q := by
  have free : OnSession (fun _ _ _ => True) p action := by cases action <;> first | trivial | exact fun _ _ => trivial
  refine current.step layout step free (fun _ _ _ => trivial) (fun _ _ _ _ made => clocked_opened made) ?_
  rintro running inner polling _ ⟨o,roomy,timed⟩ ran _
  exact ⟨o,roomy,timed.step roomy (pollNext_sound ran)⟩

end polling

end VolumeBackup
