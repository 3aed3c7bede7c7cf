import VolumeBackup.SessionEnd
import VolumeBackup.PollingSteps

namespace VolumeBackup
open ByteMemory LabelledRuns

def PollPc.doomed : PollPc → Bool
  | .abort _ _ _ _ | .conclude _ | .leave false | .left false => true
  | _ => false

def PollPc.unsampled : PollPc → Option (List Component)
  | .isTerminated rest => some rest
  | .flushTable | .flushWriter | .flushBitmap | .saveFinal _ | .completed | .leave true | .left true => some []
  | _ => none

def PollPc.sampling : PollPc → Option Component
  | .isTerminated (component::_) => some component
  | _ => none

-- IsTerminated reads no component's status as FAILED after IsFailed has found none, and the writer's
-- SUCCEED only where no write has failed: otherwise the writer is about to take it back.
def CleanPoll (p : Polling) : PollAction → Prop
  | .thread _ => ∀ component ∈ p.pc.sampling, (p.state.task component).m_status ≠ .FAILED ∧
      (component = .writerTask → p.state.writerTask.task.m_status = .SUCCEED → p.state.counter.blockesWriteFailed = 0)
  | .component _ | .client _ => True

instance : Decidable (CleanPoll p action) :=
  match action with
  | .thread _ => inferInstanceAs (Decidable (∀ component ∈ p.pc.sampling, _))
  | .component _ | .client _ => inferInstanceAs (Decidable True)

def SessionAction.aborts : SessionAction → Bool
  | .abort _ | .aborted _ | .aborting _ => true
  | _ => false

structure Steady (s : Session) : Prop where
  reader : s.readerTask.task.m_abort = false ∧ s.readerTask.pc ≠ .terminate .ABORTED ∧ s.readerTask.task.m_status ≠ .ABORTED
  hasher : s.hasherTask.task.m_abort = false
  writer : s.writerTask.task.m_abort = false ∧ s.writerTask.pc ≠ .terminate .ABORTED ∧ s.writerTask.task.m_status ≠ .ABORTED
  revise : s.writerTask.pc = .revise → s.counter.blockesWriteFailed ≠ 0

def Passed (s : Session) : Component → Prop
  | .readerTask => s.readerTask.task.m_status = .SUCCEED
  | .hasherTask => True
  | .writerTask => s.writerTask.task.m_status = .SUCCEED ∧ s.counter.blockesWriteFailed = 0

variable {env : SessionEnv} {source : Content} {o : Flow} {s t : Session}

theorem Steady.step (steady : Steady s) (step : Step env source s action t) (calm : action.aborts = false) : Steady t := by
  obtain ⟨⟨flag,leaving,status⟩,hasher,⟨abort,ending,result⟩,revise⟩ := steady
  cases action with
  | reader outcome =>
      cases (step : ReaderStep env source outcome s t) with
      | aborted here aborted => cases flag.symm.trans aborted
      | retried here => exact ⟨⟨flag,leaving,status⟩,hasher,⟨abort,ending,result⟩,revise⟩
      | terminate here =>
          exact ⟨⟨flag,nofun,fun same => leaving (same ▸ here)⟩,hasher,⟨abort,ending,result⟩,revise⟩
      | _ => exact ⟨⟨flag,nofun,status⟩,hasher,⟨abort,ending,result⟩,revise⟩
  | worker k =>
      cases (step : WorkerStep env k s t) <;> exact ⟨⟨flag,leaving,status⟩,hasher,⟨abort,ending,result⟩,revise⟩
  | writer outcome =>
      cases (step : WriterStep env outcome s t) with
      | aborted here aborted => cases abort.symm.trans aborted
      | terminate here => exact ⟨⟨flag,leaving,status⟩,hasher,⟨abort,nofun,fun same => ending (same ▸ here)⟩,nofun⟩
      | provisional here failed => exact ⟨⟨flag,leaving,status⟩,hasher,⟨abort,nofun,result⟩,fun _ => failed⟩
      | revised here => exact ⟨⟨flag,leaving,status⟩,hasher,⟨abort,nofun,nofun⟩,nofun⟩
      | _ => exact ⟨⟨flag,leaving,status⟩,hasher,⟨abort,nofun,result⟩,nofun⟩
  | start component =>
      cases (step : ControlStep env _ s t) with
      | startReader here => exact ⟨⟨flag,nofun,nofun⟩,hasher,⟨abort,ending,result⟩,revise⟩
      | hasherIdle | startHasher => exact ⟨⟨flag,leaving,status⟩,hasher,⟨abort,ending,result⟩,revise⟩
      | startWriter here => exact ⟨⟨flag,leaving,status⟩,hasher,⟨abort,nofun,nofun⟩,nofun⟩
  | pause paused =>
      cases (step : ControlStep env _ s t)
      exact ⟨⟨flag,leaving,status⟩,hasher,⟨abort,ending,result⟩,revise⟩
  | abort | aborted | aborting => cases calm

theorem steady_new {context : BlockHashingContext} {processed written : Bitmap} {counter : SessionCounter} {target : Content} :
    Steady (.new config context processed written counter target) := ⟨⟨rfl,nofun,nofun⟩,rfl,⟨rfl,nofun,nofun⟩,nofun⟩

theorem Passed.reader (outcome : ReaderOutcome env s) (step : ReaderStep env source result s t)
    (passed : Passed s .readerTask) : Passed t .readerTask := by
  have gone := (outcome.succeeded passed).1
  cases step with
  | terminate here => rcases gone with same | same <;> cases here.symm.trans same
  | _ => exact passed

theorem Passed.writer (outcome : WriterOutcome s) (steady : Steady s) (step : WriterStep env result s t)
    (passed : Passed s .writerTask) : Passed t .writerTask := by
  have gone := (outcome.succeeded passed.1).1
  cases step with
  | discarded here | failed here | terminate here => rcases gone with same | same | same <;> cases here.symm.trans same
  | revised here => exact absurd passed.2 (steady.revise here)
  | _ => exact passed

theorem Passed.step (valid : Valid env source o s) (steady : Steady s) (step : Step env source s action t)
    (calm : action.aborts = false) (passed : Passed s component) : Passed t component := by
  cases component with
  | hasherTask => trivial
  | readerTask =>
      cases action with
      | reader outcome => exact Passed.reader valid.reader step passed
      | worker k => cases (step : WorkerStep env k s t) <;> exact passed
      | writer outcome => cases (step : WriterStep env outcome s t) <;> exact passed
      | start component =>
          cases (step : ControlStep env _ s t) with
          | startReader here => rcases (valid.reader.succeeded passed).1 with same | same <;> cases here.symm.trans same
          | _ => exact passed
      | pause paused =>
          cases (step : ControlStep env _ s t)
          exact passed
      | abort | aborted | aborting => cases calm
  | writerTask =>
      cases action with
      | reader outcome => cases (step : ReaderStep env source outcome s t) <;> exact passed
      | worker k => cases (step : WorkerStep env k s t) <;> exact passed
      | writer outcome => exact Passed.writer valid.writer steady step passed
      | start component =>
          cases (step : ControlStep env _ s t) with
          | startWriter here => rcases (valid.writer.succeeded passed.1).1 with same | same | same <;> cases here.symm.trans same
          | _ => exact passed
      | pause paused =>
          cases (step : ControlStep env _ s t)
          exact passed
      | abort | aborted | aborting => cases calm

theorem Steady.passed (steady : Steady s) (gone : (s.task component).m_status.IsTerminated = true)
    (working : (s.task component).m_status ≠ .FAILED)
    (final : component = .writerTask → s.writerTask.task.m_status = .SUCCEED → s.counter.blockesWriteFailed = 0) :
    Passed s component := by
  have ended := of_decide_eq_true gone
  cases component with
  | hasherTask => trivial
  | readerTask => exact ended.resolve_right fun other => other.elim steady.reader.2.2 working
  | writerTask =>
      have success : s.writerTask.task.m_status = .SUCCEED :=
        ended.resolve_right fun other => other.elim steady.writer.2.2 working
      exact ⟨success,final rfl success⟩

section polling
variable {env : TaskEnv} {config : VolumeTaskSharedConfig} {p q : Polling}

theorem abortFrom_doomed (status : TaskStatus) (components : List Component) : (abortFrom status components).doomed = true := by
  cases components <;> rfl

theorem aborts_doomed {pc : PollPc} {component : Component} {rest : List Component}
    (next : (∃ later, pc = .abort later component rest status) ∨ pc = abortFrom status rest) : pc.doomed = true := by
  rcases next with ⟨later,rfl⟩ | rfl
  · rfl
  · exact abortFrom_doomed _ _

theorem abortFrom_unsampled (status : TaskStatus) (components : List Component) :
    (abortFrom status components).unsampled = none := by
  cases components <;> rfl

theorem left_unsampled (returned : Bool) : (PollPc.left returned).unsampled = (PollPc.leave returned).unsampled := by
  cases returned <;> rfl

theorem unsampled_live {pc : PollPc} (set : pc.unsampled = some rest) : pc.doomed = false := by
  cases pc with
  | leave returned | left returned => cases returned <;> first | rfl | cases set
  | _ => first | rfl | cases set

theorem own_calm {action : SessionAction} (own : action.ofComponent = true) : action.aborts = false := by
  cases action <;> first | rfl | cases own

theorem PollStep.session (step : PollStep env config source p action q) :
    q.state = p.state ∨ ∃ inner, sessionStep (env.sessionEnv config) source p.state inner = some q.state ∧
      (q.pc.doomed = false → inner.aborts = false) ∧ (action = .component inner ∨ inner.ofComponent = false) := by
  cases step with
  | drive drives ran =>
      refine .inr ⟨_,ran,?_⟩
      cases drives with
      | started here | startFailed here | paused here | resumed here => exact ⟨fun _ => rfl,.inr rfl⟩
      | assigned here assigns next =>
          refine ⟨fun live => ?_,.inr (by rcases assigns with rfl | rfl | rfl <;> rfl)⟩
          cases (aborts_doomed next).symm.trans live
  | component own ran => exact .inr ⟨_,ran,fun _ => own_calm own,.inl rfl⟩
  | _ => exact .inl rfl

theorem PollStep.live (step : PollStep env config source p action q) (live : q.pc.doomed = false) : p.pc.doomed = false := by
  cases step with
  | move moves =>
      cases moves with
      | reads here next => cases (aborts_doomed next).symm.trans live
      | left here joined =>
          rename_i returned
          rw [here]
          cases returned <;> exact live
      | _ here => rw [here]; rfl
  | drive drives ran =>
      cases drives with
      | assigned here assigns next => cases (aborts_doomed next).symm.trans live
      | _ here => rw [here]; rfl
  | concluded here => cases live
  | component | client => exact live
  | _ here => rw [here]; rfl

structure Polled (env : TaskEnv) (config : VolumeTaskSharedConfig) (source : Content) (o : Flow) (p : Polling) : Prop where
  valid : Valid (env.sessionEnv config) source o p.state
  steady : p.pc.doomed = false → Steady p.state
  sampled : ∀ rest, p.pc.unsampled = some rest → ∀ component ∈ env.task.components, component ∉ rest → Passed p.state component

theorem PollStep.sampled {told : Component → Prop} (step : PollStep env config source p action q)
    (tells : ∀ component reply, action = .thread reply → p.pc.sampling = some component →
      (p.state.task component).m_status.IsTerminated = true → told component)
    (sampled : ∀ rest, p.pc.unsampled = some rest → ∀ component ∈ env.task.components, component ∉ rest → told component)
    (set : q.pc.unsampled = some rest) : ∀ component ∈ env.task.components, component ∉ rest → told component := by
  cases step with
  | move moves =>
      cases moves with
      | noneFailed here =>
          cases Option.some.inj set
          exact fun component inside absent => absurd inside absent
      | terminated here gone =>
          rename_i first rest
          cases Option.some.inj set
          intro component inside absent
          by_cases same : component = first
          · subst same
            exact tells component _ rfl (by rw [here]; rfl) gone
          · refine sampled _ (by rw [here]; rfl) component inside fun present => ?_
            exact (List.mem_cons.mp present).elim same absent
      | allTerminated here =>
          refine sampled rest ?_
          rw [here]
          revert set
          dsimp only
          split <;> exact id
      | noTable here | final here | noBitmap here => exact sampled rest (by rw [here]; exact set)
      | left here joined => exact sampled rest (by rw [here]; exact (left_unsampled _).symm.trans set)
      | aborts here => cases (abortFrom_unsampled _ _).symm.trans set
      | reads here next =>
          rcases next with ⟨later,rfl⟩ | rfl
          · cases set
          · cases (abortFrom_unsampled _ _).symm.trans set
      | _ => cases set
  | drive drives ran =>
      cases drives with
      | startFailed here => cases (abortFrom_unsampled _ _).symm.trans set
      | assigned here assigns next =>
          rcases next with ⟨later,rfl⟩ | rfl
          · cases set
          · cases (abortFrom_unsampled _ _).symm.trans set
      | _ => cases set
  | finalTable here | finalSync here | finalBitmap here | completed here => exact sampled rest (by rw [here]; exact set)
  | component | client => exact sampled rest set
  | _ => cases set

theorem Polled.step (polled : Polled env config source o p) (roomy : Roomy (env.sessionEnv config) o)
    (step : PollStep env config source p action q) (clean : CleanPoll p action) : Polled env config source o q := by
  have sampled (rest : List Component) (set : q.pc.unsampled = some rest) := by
    have steady := polled.steady (step.live (unsampled_live set))
    have tells (component : Component) (reply : Reply) (thread : action = .thread reply) (here : p.pc.sampling = some component)
        (gone : (p.state.task component).m_status.IsTerminated = true) : Passed p.state component := by
      subst thread
      have final := clean component here
      exact steady.passed gone final.1 final.2
    exact step.sampled tells polled.sampled set
  rcases step.session with same | ⟨inner,ran,calm,_⟩
  · refine ⟨?_,?_,?_⟩
    · rw [same]; exact polled.valid
    · rw [same]; exact fun live => polled.steady (step.live live)
    · rw [same]; exact sampled
  · have inside := sessionStep_sound ran
    refine ⟨polled.valid.step roomy inside,fun live => (polled.steady (step.live live)).step inside (calm live),
      fun rest set component member absent => ?_⟩
    have live := unsampled_live set
    exact Passed.step polled.valid (polled.steady (step.live live)) inside (calm live) (sampled rest set component member absent)

theorem Polled.run (polled : Polled env config source o p) (roomy : Roomy (env.sessionEnv config) o)
    (path : Runs (pollNext env config source) CleanPoll p actions q) : Polled env config source o q :=
  path.invariant (Polled env config source o) polled fun _ _ _ known ran clean => known.step roomy (pollNext_sound ran) clean

theorem reader_asked (task : ProtectTask) : .readerTask ∈ task.components := by
  cases task <;> simp [ProtectTask.components]

theorem writer_asked (task : ProtectTask) : .writerTask ∈ task.components := by
  cases task <;> simp [ProtectTask.components]

theorem Polled.finished (polled : Polled env config source o p) (ended : p.pc.unsampled = some []) :
    Finished (env.sessionEnv config) p.state ∧ ¬Unread p.state.history ∧ ¬Torn p.state.history := by
  have reader : Passed p.state .readerTask := polled.sampled _ ended _ (reader_asked _) nofun
  have writer : Passed p.state .writerTask := polled.sampled _ ended _ (writer_asked _) nofun
  have steady := polled.steady (unsampled_live ended)
  refine ⟨Finished.of_status polled.valid reader writer.1 steady.hasher,fun unread => ?_,fun torn => ?_⟩
  · rcases polled.valid.reader.unread unread with leaving | ⟨_,status⟩
    · rcases (polled.valid.reader.succeeded reader).1 with same | same <;> cases leaving.symm.trans same
    · exact status reader
  · rcases polled.valid.writer.torn torn with ⟨block,failed⟩ | ⟨_,count⟩
    · rcases (polled.valid.writer.succeeded writer.1).1 with same | same | same <;> cases failed.symm.trans same
    · exact count writer.2

end polling

end VolumeBackup
