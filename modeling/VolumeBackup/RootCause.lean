import VolumeBackup.ErrorCodes
import VolumeBackup.RestoreContent

namespace VolumeBackup
open ByteMemory LabelledRuns

def Fallen (s : Session) : Component → Prop
  | .readerTask => s.readerTask.pc = .finish ∨ s.readerTask.pc = .exited
  | .hasherTask => False
  | .writerTask => s.writerTask.pc = .exited ∧ s.readerTask.pc = .exited ∧ Torn s.history

def PollPc.given : PollPc → Bool
  | .conclude .FAILED | .leave false | .left false => true
  | _ => false

structure Coursed (env : TaskEnv) (config : VolumeTaskSharedConfig) (source : Content) (found : Option Component)
    (codes : SessionCodes) (run : SessionRun) : Prop where
  valid : ∃ o, Roomy (env.sessionEnv config) o ∧ Valid (env.sessionEnv config) source o run.state
  coding : Coding env.task run.state codes
  calm : run.pc.doomed = false → Steady run.state ∧ Judging run.state
  found : ∀ component, found = some component → Fallen run.state component ∧ run.pc.given = true

section session
variable {env : TaskEnv} {config : VolumeTaskSharedConfig} {source : Content} {found : Option Component} {codes : SessionCodes}
  {p q : Polling} {s t : Session} {component : Component}

theorem Fallen.step (ended : Fallen s component) {sessionEnv : SessionEnv} (step : Step sessionEnv source s action t)
    (own : action.ofComponent = true) : Fallen t component := by
  have reader (gone : s.readerTask.pc = .finish ∨ s.readerTask.pc = .exited) :
      t.readerTask.pc = .finish ∨ t.readerTask.pc = .exited := by
    cases action with
    | reader outcome =>
        cases (step : ReaderStep sessionEnv source outcome s t) with
        | finishHashing | finishWrite => exact .inr rfl
        | retried => exact gone
        | terminate => exact .inl rfl
        | _ here => rcases gone with same | same <;> cases here.symm.trans same
    | worker k => cases (step : WorkerStep sessionEnv k s t) <;> exact gone
    | writer outcome => cases (step : WriterStep sessionEnv outcome s t) <;> exact gone
    | start | pause | abort | aborted | aborting => cases own
  cases component with
  | readerTask => exact reader ended
  | hasherTask => exact ended.elim
  | writerTask =>
      obtain ⟨writer,gone,torn⟩ := ended
      cases action with
      | reader outcome =>
          cases (step : ReaderStep sessionEnv source outcome s t) with
          | retried => exact ⟨writer,gone,torn⟩
          | _ here => cases here.symm.trans gone
      | worker k =>
          cases (step : WorkerStep sessionEnv k s t) with
          | hashed | unchanged => exact ⟨writer,gone,torn.cons⟩
          | _ => exact ⟨writer,gone,torn⟩
      | writer outcome =>
          cases (step : WriterStep sessionEnv outcome s t) with
          | _ here => cases here.symm.trans writer
      | start | pause | abort | aborted | aborting => cases own

theorem PollStep.judged (step : PollStep env config source p action q) (valid : Valid (env.sessionEnv config) source o p.state)
    (steady : Steady p.state) (judging : Judging p.state) (live : q.pc.doomed = false) : Judging q.state := by
  cases step with
  | drive drives ran =>
      have inside := sessionStep_sound ran
      cases drives with
      | started here running =>
          refine judging.step valid steady rfl inside fun same => ?_
          cases same
          exact running
      | startFailed here => cases (abortFrom_doomed _ _).symm.trans live
      | paused here | resumed here => exact judging.step valid steady rfl inside nofun
      | assigned here assigns next => cases (aborts_doomed next).symm.trans live
  | component own ran =>
      refine judging.step valid steady (own_calm own) (sessionStep_sound ran) fun same => ?_
      cases same
      cases own
  | _ => exact judging

theorem given_doomed {pc : PollPc} (given : pc.given = true) : pc.doomed = true := by
  unfold PollPc.given at given
  split at given <;> first | rfl | cases given

theorem Coursed.thread (coursed : Coursed env config source none codes p.toSessionRun)
    (step : PollStep env config source p (.thread reply) q) : Coursed env config source none codes q.toSessionRun := by
  obtain ⟨o,roomy,valid⟩ := coursed.valid
  rcases step.session with same | ⟨inner,ran,calm,own | control⟩
  · refine ⟨⟨o,roomy,same ▸ valid⟩,same ▸ coursed.coding,fun live => ?_,nofun⟩
    exact same ▸ coursed.calm (step.live live)
  · cases own
  · have inside := sessionStep_sound ran
    have noted : codes.note (env.sessionEnv config) p.state 0 inner = codes := by
      cases inner <;> first | rfl | cases control
    have free : codes.held inner = false := by
      cases inner <;> first | rfl | cases control
    refine ⟨⟨o,roomy,valid.step roomy inside⟩,noted ▸ coursed.coding.step valid free ran,fun live => ?_,nofun⟩
    obtain ⟨steady,judging⟩ := coursed.calm (step.live live)
    exact ⟨steady.step inside (calm live),step.judged valid steady judging live⟩

theorem Coursed.finds {run : SessionRun} (coursed : Coursed env config source none codes run)
    (here : run.pc = .isFailed (component::rest)) (failed : (run.state.task component).m_status = .FAILED) :
    Coursed env config source (some component) codes {run with pc := .conclude .FAILED} := by
  refine ⟨coursed.valid,coursed.coding,nofun,fun other same => ?_⟩
  cases Option.some.inj same
  obtain ⟨steady,judging⟩ := coursed.calm (by rw [here]; rfl)
  refine ⟨?_,rfl⟩
  cases component with
  | readerTask => exact coursed.coding.readerFailed failed
  | hasherTask => exact judging.hasher failed
  | writerTask => exact judging.failed failed

theorem Coursed.leaves (coursed : Coursed env config source (some component) codes p.toSessionRun)
    (step : PollStep env config source p (.thread reply) q) : Coursed env config source (some component) codes q.toSessionRun ∧
      (p.pc = .conclude .FAILED ∧ q.pc = .leave false ∨ p.pc = .leave false ∧ q.pc = .left false) := by
  obtain ⟨ended,given⟩ := coursed.found component rfl
  have elsewhere {pc : PollPc} {goal : Prop} (here : p.pc = pc) (other : pc.given = false) : goal := by
    rw [here,other] at given
    cases given
  have kept {pc : PollPc} (next : pc.given = true) :
      Coursed env config source (some component) codes {p.toSessionRun with pc := pc} := by
    refine ⟨coursed.valid,coursed.coding,fun live => (by cases (given_doomed next).symm.trans live),fun other same => ?_⟩
    cases Option.some.inj same
    exact ⟨ended,next⟩
  cases step with
  | move moves =>
      cases moves with
      | left here joined =>
          rename_i returned
          cases returned with
          | false => exact ⟨kept rfl,.inr ⟨here,rfl⟩⟩
          | true => exact elsewhere here rfl
      | _ here => exact elsewhere here rfl
  | drive drives ran =>
      cases drives with
      | _ here => exact elsewhere here rfl
  | concluded here =>
      rename_i status
      cases status with
      | FAILED => exact ⟨kept rfl,.inl ⟨here,rfl⟩⟩
      | _ => exact elsewhere here rfl
  | statistics here | table here | tableLost here | sync here | bitmap here | bitmapLost here | snapshot here | finalTable here
  | finalSync here | finalBitmap here | completed here => exact elsewhere here rfl

theorem Coursed.works {run : SessionRun} (coursed : Coursed env config source found codes run) (own : action.ofComponent = true)
    (free : codes.held action = false) (ran : sessionStep (env.sessionEnv config) source run.state action = some state) :
    Coursed env config source found (codes.note (env.sessionEnv config) run.state errorCode action) {run with state := state} := by
  obtain ⟨o,roomy,valid⟩ := coursed.valid
  have inside := sessionStep_sound ran
  refine ⟨⟨o,roomy,valid.step roomy inside⟩,coursed.coding.step valid free ran,fun live => ?_,fun other same => ?_⟩
  · obtain ⟨steady,judging⟩ := coursed.calm live
    refine ⟨steady.step inside (own_calm own),judging.step valid steady (own_calm own) inside fun same => ?_⟩
    cases same
    cases own
  · obtain ⟨ended,given⟩ := coursed.found other same
    exact ⟨ended.step inside own,given⟩

theorem Coursed.opened {disk : Disk} {running : Running} (made : env.openSession disk config reply = some running) :
    Coursed env running.config running.source none {} running.run := by
  obtain ⟨context,source,target,found,_,_,rfl⟩ := open_parts made
  exact ⟨⟨_,opened_roomy found,opened_valid found⟩,.new,fun _ => ⟨steady_new,.new⟩,nofun⟩

theorem Fallen.reader_gone (fallen : Fallen s component) : s.readerTask.pc = .finish ∨ s.readerTask.pc = .exited := by
  cases component with
  | readerTask => exact fallen
  | hasherTask => exact fallen.elim
  | writerTask => exact .inr fallen.2.1

structure Sealed (component : Component) (codes : SessionCodes) : Prop where
  reader : codes.reader.line = .idle
  found : component ≠ .hasherTask
  writer : component = .writerTask → codes.writer.line = .idle ∧ codes.writer.errors ≠ []

theorem Coursed.sealed {run : SessionRun} (coursed : Coursed env config source (some component) codes run) : Sealed component codes := by
  obtain ⟨fallen,_⟩ := coursed.found component rfl
  refine ⟨coursed.coding.reading.resolve_right fun busy => ?_,fun same => ?_,fun same => ?_⟩
  · rcases fallen.reader_gone with gone | gone <;> cases busy.2.symm.trans gone
  · subst same
    exact fallen
  · subst same
    obtain ⟨here,_,torn⟩ := fallen
    refine ⟨?_,coursed.coding.torn.mpr torn⟩
    rcases coursed.coding.writing with idle | ⟨_,_,busy⟩ | ⟨_,_,busy⟩
    · exact idle
    · cases here.symm.trans busy
    · cases here.symm.trans busy

structure Kept (component : Component) (codes later : SessionCodes) : Prop where
  reader : later.reader = codes.reader
  writer : component = .writerTask → later.writer = codes.writer
  errors : ∀ errorCode, codes.writer.errors = [errorCode] → later.writer.errors = [errorCode]

theorem Kept.refl : Kept component codes codes := ⟨rfl,fun _ => rfl,fun _ same => same⟩

theorem Fallen.note (fallen : Fallen s component) {sessionEnv : SessionEnv}
    (few : (codes.note sessionEnv s errorCode action).writer.errors.length ≤ 1) :
    Kept component codes (codes.note sessionEnv s errorCode action) := by
  cases action with
  | reader outcome =>
      cases outcome with
      | ok => exact .refl
      | fail part =>
          simp only [SessionCodes.note]
          split
          · rename_i here
            rcases fallen.reader_gone with gone | gone <;> cases here.symm.trans gone
          · exact .refl
  | writer outcome =>
      have other {pc : WriterPc} {goal : Prop} (here : s.writerTask.pc = pc) (present : pc ≠ .exited)
          (same : component = .writerTask) : goal := by
        subst same
        exact absurd (here.symm.trans fallen.1) present
      simp only [SessionCodes.note] at few ⊢
      split
      · rename_i here
        split
        · rename_i needed
          refine ⟨rfl,other here (by simp),fun errorCode met => ?_⟩
          simp only [here,if_pos needed,BlockCode.raise,met] at few
          cases Nat.le_of_succ_le_succ few
        · exact .refl
      · rename_i here
        exact ⟨rfl,other here (by simp),fun _ same => same⟩
      · exact .refl
  | worker | start | pause | abort | aborted | aborting => exact .refl

end session

def LoadLine.Learnt (codes : SessionCodes) : LoadLine → Prop
  | .reader => True
  | .readerAgain => codes.reader.m_errorCode ≠ VOLUMEPROTECT_ERR_SUCCESS
  | .writer | .writerAgain => codes.reader.m_errorCode = VOLUMEPROTECT_ERR_SUCCESS

structure Loaded (task : ProtectTask) (component : Component) (codes : SessionCodes) (code : ErrCodeType) : Prop where
  reader : codes.reader.m_errorCode ≠ VOLUMEPROTECT_ERR_SUCCESS → code = codes.reader.m_errorCode
  writer : codes.reader.m_errorCode = VOLUMEPROTECT_ERR_SUCCESS → component = .writerTask → code = codes.writer.m_errorCode
  readable : codes.reader.m_errorCode = VOLUMEPROTECT_ERR_SUCCESS → code = VOLUMEPROTECT_ERR_SUCCESS ∨
    ∃ errorCode, codes.writer.errors = [errorCode] ∧ (code = errorCode ∨ code = HandleWriteError task.m_targetType errorCode)

-- Where a task stands with its error code: it keeps that of success until IsFailed has found a component, then loads one while its
-- thread waits, and opens no session any more.
structure Blamed (env : TaskEnv) (r : CodedTask) : Prop where
  layout : Layout r.process
  reader : Coded (HandleReadError env.task.m_sourceType) r.codes.reader
  writer : Coded (HandleWriteError env.task.m_targetType) r.codes.writer
  current : ∀ running, r.process.running = some running →
    Coursed env running.config running.source r.found r.codes running.run
  stopped : ∀ component, r.found = some component → r.process.running = none → r.process.pc = .exited
  clean : r.found = none → r.line = none ∧ r.m_errorCode = VOLUMEPROTECT_ERR_SUCCESS
  kept : ∀ component, r.found = some component → Sealed component r.codes
  loading : ∀ line, r.line = some line → line.Learnt r.codes ∧ ∃ running, r.process.running = some running ∧
    (running.run.pc = .conclude .FAILED ∨ env.task.isBackup = false ∧ running.run.pc = .leave false)
  loaded : r.line = none → ∀ component, r.found = some component → Loaded env.task component r.codes r.m_errorCode
  failed : r.process.task.m_status = .FAILED → r.process.pc = .exited ∨ ∃ running, r.process.running = some running ∧
    (running.run.pc = .leave false ∨ running.run.pc = .left false)

section task
variable {env : TaskEnv} {r t : CodedTask} {q : Process} {component : Component} {codes later : SessionCodes} {next : BlockCode}

theorem Blamed.new {disk : Disk} : Blamed env (.new disk) where
  layout := (Queued.new : Queued env (.new disk)).layout
  reader := .clear
  writer := .clear
  current := fun _ none => by cases none
  stopped := fun _ none => by cases none
  clean := fun _ => ⟨rfl,rfl⟩
  kept := fun _ none => by cases none
  loading := fun _ none => by cases none
  loaded := fun _ _ none => by cases none
  failed := fun failed => TaskStatus.noConfusion failed

theorem Kept.learnt (kept : Kept component codes later) {line : LoadLine} (learnt : line.Learnt codes) : line.Learnt later := by
  have same := congrArg BlockCode.m_errorCode kept.reader
  cases line with
  | reader => trivial
  | readerAgain => exact fun zero => learnt (same.symm.trans zero)
  | writer | writerAgain => exact same.trans learnt

theorem Kept.loaded (kept : Kept component codes later) (loaded : Loaded task component codes code) : Loaded task component later code := by
  have same := congrArg BlockCode.m_errorCode kept.reader
  refine ⟨fun some => ?_,fun zero writer => ?_,fun zero => ?_⟩
  · exact (loaded.reader (same ▸ some)).trans same.symm
  · exact (loaded.writer (same ▸ zero) writer).trans (congrArg BlockCode.m_errorCode (kept.writer writer)).symm
  · rcases loaded.readable (same ▸ zero) with none | ⟨errorCode,met,read⟩
    · exact .inl none
    · exact .inr ⟨errorCode,kept.errors _ met,read⟩

theorem Blamed.found (blamed : Blamed env r) (here : r.line = some line) : ∃ component, r.found = some component := by
  refine Option.isSome_iff_exists.mp (Decidable.byContradiction fun none => ?_)
  cases here.symm.trans (blamed.clean (by simpa using none)).1

theorem Blamed.goesOn (blamed : Blamed env r) (here : r.line = some line) (learnt : LoadLine.Learnt r.codes following) :
    Blamed env {r with line := some following} where
  layout := blamed.layout
  reader := blamed.reader
  writer := blamed.writer
  current := blamed.current
  stopped := blamed.stopped
  clean := fun none => by
    obtain ⟨component,found⟩ := blamed.found here
    cases found.symm.trans none
  kept := blamed.kept
  loading := fun other same => by
    cases Option.some.inj same
    exact ⟨learnt,(blamed.loading line here).2⟩
  loaded := fun none => by cases none
  failed := blamed.failed

theorem Blamed.loads (blamed : Blamed env r) (here : r.line = some line)
    (loaded : ∀ component, Loaded env.task component r.codes code) : Blamed env {r with m_errorCode := code,line := none} where
  layout := blamed.layout
  reader := blamed.reader
  writer := blamed.writer
  current := blamed.current
  stopped := blamed.stopped
  clean := fun none => by
    obtain ⟨component,found⟩ := blamed.found here
    cases found.symm.trans none
  kept := blamed.kept
  loading := fun _ none => by cases none
  loaded := fun _ component _ => loaded component
  failed := blamed.failed

theorem Blamed.load (blamed : Blamed env r) (here : r.line = some line) : Blamed env (r.load line) := by
  have learnt := (blamed.loading line here).1
  cases line with
  | reader =>
      refine blamed.goesOn here ?_
      split
      · assumption
      · exact of_not_not ‹_›
  | readerAgain =>
      exact blamed.loads here fun _ => ⟨fun _ => rfl,fun zero => absurd zero learnt,fun zero => absurd zero learnt⟩
  | writer =>
      simp only [CodedTask.load]
      split
      · exact blamed.goesOn here learnt
      · rename_i none
        have zero := of_not_not none
        exact blamed.loads here fun _ => ⟨fun some => absurd learnt some,fun _ _ => zero.symm,fun _ => .inl rfl⟩
  | writerAgain =>
      exact blamed.loads here fun _ => ⟨fun some => absurd learnt some,fun _ _ => rfl,fun _ => blamed.writer.readable⟩

theorem Blamed.recode (blamed : Blamed env r) (reader : Coded (HandleReadError env.task.m_sourceType) codes.reader)
    (writer : Coded (HandleWriteError env.task.m_targetType) codes.writer)
    (coding : ∀ s : Session, Coding env.task s r.codes → Coding env.task s codes)
    (kept : ∀ component, r.found = some component → Kept component r.codes codes ∧ Sealed component codes) :
    Blamed env {r with codes := codes} where
  layout := blamed.layout
  reader := reader
  writer := writer
  current := fun running present => {blamed.current running present with coding := coding _ (blamed.current running present).coding}
  stopped := blamed.stopped
  clean := blamed.clean
  kept := fun component found => (kept component found).2
  loading := fun line here => by
    obtain ⟨component,found⟩ := blamed.found here
    exact (blamed.loading line here).imp_left (kept component found).1.learnt
  loaded := fun none component found => (kept component found).1.loaded (blamed.loaded none component found)
  failed := blamed.failed

theorem Blamed.handleRead (blamed : Blamed env r)
    (made : r.codes.reader.handle (HandleReadError env.task.m_sourceType) = some next) :
    Blamed env {r with codes := {r.codes with reader := next}} := by
  obtain ⟨coded,_,_,busy⟩ := blamed.reader.handle made
  refine blamed.recode coded blamed.writer (fun s coding => coding.handleRead made) fun component found => ?_
  simp [BlockCode.handling,(blamed.kept component found).reader] at busy

theorem Blamed.handleWrite (blamed : Blamed env r)
    (made : r.codes.writer.handle (HandleWriteError env.task.m_targetType) = some next) :
    Blamed env {r with codes := {r.codes with writer := next}} := by
  obtain ⟨coded,errors,_,busy⟩ := blamed.writer.handle made
  refine blamed.recode blamed.reader coded (fun s coding => coding.handleWrite made) fun component found => ?_
  obtain ⟨idle,possible,settled⟩ := blamed.kept component found
  have elsewhere {goal : Prop} (same : component = .writerTask) : goal := by
    simp [BlockCode.handling,(settled same).1] at busy
  exact ⟨⟨rfl,elsewhere,fun _ met => errors.trans met⟩,⟨idle,possible,elsewhere⟩⟩

theorem assign_failed {line : AbortPc} (status : (line.assign task).m_status = .FAILED) : task.m_status = .FAILED := by
  cases line <;> first | exact status | cases status

theorem PollStep.published {x y : Polling} (step : PollStep env config source x action y)
    (known : x.task.m_status = .FAILED → x.pc = .leave false ∨ x.pc = .left false) (failed : y.task.m_status = .FAILED) :
    y.pc = .leave false ∨ y.pc = .left false := by
  have elsewhere {pc : PollPc} {goal : Prop} (here : x.pc = pc) (leave : pc ≠ .leave false) (left : pc ≠ .left false)
      (status : x.task.m_status = .FAILED) : goal := by
    rcases known status with same | same
    · exact absurd (here.symm.trans same) leave
    · exact absurd (here.symm.trans same) left
  cases step with
  | move moves =>
      cases moves with
      | left here joined =>
          rename_i returned
          cases returned with
          | false => exact .inr rfl
          | true => exact elsewhere here nofun nofun failed
      | _ here => exact elsewhere here nofun nofun failed
  | drive drives ran =>
      cases drives with
      | _ here => exact elsewhere here nofun nofun failed
  | concluded here => exact .inl rfl
  | component => exact known failed
  | client => exact known (assign_failed failed)
  | statistics here | table here | tableLost here | sync here | bitmap here | bitmapLost here | snapshot here | finalTable here
  | finalSync here | finalBitmap here | completed here => exact elsewhere here nofun nofun failed

theorem failing_here {running : Running} (failing : running.failing = some component) :
    ∃ rest, running.run.pc = .isFailed (component::rest) ∧ (running.run.state.task component).m_status = .FAILED := by
  unfold Running.failing at failing
  split at failing
  · split at failing
    · cases Option.some.inj failing
      exact ⟨_,‹_›,of_decide_eq_true ‹_›⟩
    · cases failing
  · cases failing

theorem Blamed.idle (blamed : Blamed env r) (unfound : r.found = none) (layout : Layout q) (running : q.running = none)
    (failed : q.task.m_status = .FAILED → q.pc = .exited) : Blamed env {r with process := q} where
  layout := layout
  reader := blamed.reader
  writer := blamed.writer
  current := fun _ present => by cases running.symm.trans present
  stopped := fun _ found => by cases unfound.symm.trans found
  clean := blamed.clean
  kept := fun _ found => by cases unfound.symm.trans found
  loading := fun _ here => by cases here.symm.trans (blamed.clean unfound).1
  loaded := fun _ _ found => by cases unfound.symm.trans found
  failed := fun status => .inl (failed status)

theorem Blamed.busy (blamed : Blamed env r) (layout : Layout q) (present : q.running = some running)
    (coursed : Coursed env running.config running.source r.found r.codes running.run)
    (loading : ∀ line, r.line = some line → running.run.pc = .conclude .FAILED ∨
      env.task.isBackup = false ∧ running.run.pc = .leave false)
    (failed : q.task.m_status = .FAILED → running.run.pc = .leave false ∨ running.run.pc = .left false) :
    Blamed env {r with process := q} where
  layout := layout
  reader := blamed.reader
  writer := blamed.writer
  current := fun _ same => by
    cases Option.some.inj (present.symm.trans same)
    exact coursed
  stopped := fun _ _ none => by cases present.symm.trans none
  clean := blamed.clean
  kept := blamed.kept
  loading := fun line here => ⟨(blamed.loading line here).1,running,present,loading line here⟩
  loaded := blamed.loaded
  failed := fun status => .inr ⟨running,present,failed status⟩

theorem Blamed.session (blamed : Blamed env r) (present : r.process.running = some running) :
    r.process.pc = .session := blamed.layout.mp (by rw [present]; rfl)

theorem Blamed.published (blamed : Blamed env r) (present : r.process.running = some running)
    (failed : r.process.task.m_status = .FAILED) : running.run.pc = .leave false ∨ running.run.pc = .left false := by
  rcases blamed.failed failed with gone | ⟨other,same,there⟩
  · cases (blamed.session present).symm.trans gone
  · cases Option.some.inj (present.symm.trans same)
    exact there

theorem Blamed.finds (blamed : Blamed env r) (present : r.process.running = some running)
    (there : running.run.pc = .isFailed (component::rest)) (status : (running.run.state.task component).m_status = .FAILED)
    (ran : pollStep env running.config running.source reply (r.process.polling running) = some y) :
    Blamed env {r with process := r.process.polled running y,line := some .reader,found := some component} := by
  have coursed := blamed.current running present
  have unfound : r.found = none := Option.eq_none_iff_forall_ne_some.mpr fun other found => by
    have given := (coursed.found other found).2
    rw [there] at given
    cases given
  rw [unfound] at coursed
  have next := coursed.finds there status
  have moved : y = {r.process.polling running with pc := .conclude .FAILED} := by
    simp only [pollStep,Process.polling,there,status,TaskStatus.IsFailed] at ran
    exact (Option.some.inj ran).symm
  subst moved
  have kept := next.sealed
  exact {
    layout := by simp [Layout,Process.polled,blamed.session present]
    reader := blamed.reader
    writer := blamed.writer
    current := fun other same => by
      cases Option.some.inj same
      exact next
    stopped := fun _ _ none => by cases none
    clean := fun none => by cases none
    kept := fun other same => by
      cases Option.some.inj same
      exact kept
    loading := fun line here => by
      cases Option.some.inj here
      exact ⟨trivial,_,rfl,.inl rfl⟩
    loaded := fun none => by cases none
    failed := fun failed => by
      rcases blamed.published present failed with same | same <;> cases there.symm.trans same}

theorem Blamed.poll (blamed : Blamed env r) (present : r.process.running = some running) (free : r.loads env = none)
    (ran : pollStep env running.config running.source reply (r.process.polling running) = some y) :
    Blamed env (r.follow env (r.process.polled running y) errorCode (.thread reply)) := by
  have step := pollStep_sound ran
  have coursed := blamed.current running present
  have layout : Layout (r.process.polled running y) := by simp [Layout,Process.polled,blamed.session present]
  have failed := step.published (blamed.published present)
  simp only [CodedTask.follow,present]
  cases failing : running.failing with
  | some component =>
      obtain ⟨rest,there,status⟩ := failing_here failing
      exact blamed.finds present there status ran
  | none =>
      change Blamed env {r with process := r.process.polled running y}
      rcases Option.eq_none_or_eq_some r.found with found | ⟨component,found⟩
      · rw [found] at coursed
        refine blamed.busy layout rfl (found ▸ coursed.thread step) (fun line here => ?_) failed
        cases here.symm.trans (blamed.clean found).1
      · rw [found] at coursed
        obtain ⟨next,moved⟩ := coursed.leaves step
        refine blamed.busy layout rfl (found ▸ next) (fun line here => ?_) failed
        -- only the thread of a restore goes on with the code still to be loaded
        obtain ⟨_,other,same,there⟩ := blamed.loading line here
        cases Option.some.inj (present.symm.trans same)
        unfold CodedTask.loads at free
        split at free
        · cases here.symm.trans free
        · rename_i waiting
          obtain ⟨restore,concluding⟩ := not_or.mp waiting
          rcases moved with ⟨_,leave⟩ | ⟨leave,_⟩
          · exact .inr ⟨Bool.eq_false_iff.mpr restore,leave⟩
          · have there : running.run.pc = .leave false := leave
            simp [Process.concluding,present,there,PollPc.concluding] at concluding

theorem Blamed.works (blamed : Blamed env r) (present : r.process.running = some running) (free : r.codes.held action = false)
    (ran : pollNext env running.config running.source (r.process.polling running) (.component action) = some y) :
    Blamed env (r.follow env (r.process.polled running y) errorCode (.component action)) := by
  simp only [pollNext] at ran
  split at ran
  · rename_i own
    obtain ⟨state,stepped,rfl⟩ := Option.map_eq_some_iff.mp ran
    have coursed := blamed.current running present
    have next : Coursed env running.config running.source r.found
        (r.codes.note (env.sessionEnv running.config) running.run.state errorCode action) {running.run with state := state} :=
      coursed.works own free stepped
    have kept (component : Component) (found : r.found = some component) :
        Kept component r.codes (r.codes.note (env.sessionEnv running.config) running.run.state errorCode action) ∧
          Sealed component (r.codes.note (env.sessionEnv running.config) running.run.state errorCode action) := by
      rw [found] at coursed next
      exact ⟨(coursed.found component rfl).1.note next.coding.writer.few,next.sealed⟩
    simp only [CodedTask.follow,present]
    exact {
      layout := by simp [Layout,Process.polled,blamed.session present]
      reader := next.coding.reader
      writer := next.coding.writer
      current := fun other same => by
        cases Option.some.inj same
        exact next
      stopped := fun _ _ none => by cases none
      clean := blamed.clean
      kept := fun component found => (kept component found).2
      loading := fun line here => by
        obtain ⟨component,found⟩ := blamed.found here
        obtain ⟨learnt,other,same,there⟩ := blamed.loading line here
        cases Option.some.inj (present.symm.trans same)
        exact ⟨(kept component found).1.learnt learnt,_,rfl,there⟩
      loaded := fun none component found => (kept component found).1.loaded (blamed.loaded none component found)
      failed := fun failed => by
        have known := blamed.published present failed
        exact .inr ⟨_,rfl,known⟩}
  · cases ran

theorem follow_idle (idle : r.process.running = none) (running : q.running = none) :
    r.follow env q errorCode (.thread reply) = {r with process := q} := by
  simp [CodedTask.follow,idle,running]

theorem follow_unfailing (present : r.process.running = some running) (unfailing : running.failing = none) :
    r.follow env q errorCode (.thread reply) = {r with process := q} := by
  simp [CodedTask.follow,present,unfailing]

theorem Blamed.unfound (blamed : Blamed env r) (idle : r.process.running = none) (live : r.process.pc ≠ .exited) : r.found = none :=
  Option.eq_none_iff_forall_ne_some.mpr fun component found => live (blamed.stopped component found idle)

theorem Blamed.unfailed (blamed : Blamed env r) (idle : r.process.running = none) (live : r.process.pc ≠ .exited) :
    r.process.task.m_status ≠ .FAILED := fun failed => by
  rcases blamed.failed failed with gone | ⟨running,present,_⟩
  · exact live gone
  · cases idle.symm.trans present

theorem Blamed.task (blamed : Blamed env r) (free : r.held env action = false) (step : TaskStep env r.process action q) :
    Blamed env (r.follow env q errorCode action) := by
  have layout := blamed.layout.step step
  -- a line between the sessions that goes on without one
  have idle {pc : TaskPc} {q : Process} (here : r.process.pc = pc) (other : pc ≠ .session) (live : pc ≠ .exited) (layout : Layout q)
      (running : q.running = r.process.running) (task : q.task = r.process.task) (reply : Reply) :
      Blamed env (r.follow env q errorCode (.thread reply)) := by
    subst here
    have absent := blamed.layout.idle rfl other
    rw [follow_idle absent (running.trans absent)]
    exact blamed.idle (blamed.unfound absent live) layout (running.trans absent) fun failed =>
      absurd (task ▸ failed) (blamed.unfailed absent live)
  cases step with
  | move moves => exact idle rfl moves.elsewhere.1 moves.alive layout rfl rfl _
  | create here | truncate here | splitRestore here | pop here | clear here => exact idle here nofun nofun layout rfl rfl _
  | splitBackup here => exact idle here nofun nofun layout rfl rfl _
  | assign here =>
      have absent := blamed.layout.idle rfl (assigns_elsewhere here).1
      have live : r.process.pc ≠ .exited := fun gone => by
        rw [gone] at here
        cases here
      rename_i status pc reply
      have after : (r.process.assign status pc).running = none := absent
      rw [follow_idle absent after]
      refine blamed.idle (blamed.unfound absent live) layout absent fun failed => ?_
      rcases assigns_cases here with ⟨_,_,gone⟩ | ⟨_,same,_⟩ | ⟨_,gone⟩ | ⟨_,same,_⟩
      · exact gone
      · cases same.symm.trans failed
      · exact gone
      · cases same.symm.trans failed
  | opened here positive made =>
      have absent := blamed.layout.idle here nofun
      have live : r.process.pc ≠ .exited := by rw [here]; nofun
      have unfound := blamed.unfound absent live
      simp only [CodedTask.follow,absent,Option.isSome_some,if_true]
      exact {
        layout := layout
        reader := .clear
        writer := .clear
        current := fun other same => by
          cases Option.some.inj same
          rw [unfound]
          exact .opened made
        stopped := fun _ _ none => by cases none
        clean := blamed.clean
        kept := fun _ found => by cases unfound.symm.trans found
        loading := fun _ here => by cases here.symm.trans (blamed.clean unfound).1
        loaded := fun _ _ found => by cases unfound.symm.trans found
        failed := fun failed => absurd failed (blamed.unfailed absent live)}
  | poll here present ran =>
      have held : r.loads env = none := by simpa [CodedTask.held] using free
      exact blamed.poll present held ran
  | completed here present left =>
      have coursed := blamed.current _ present
      have unfound : r.found = none := Option.eq_none_iff_forall_ne_some.mpr fun component found => by
        have given := (coursed.found component found).2
        rw [left] at given
        cases given
      rw [follow_unfailing present (by simp [Running.failing,left])]
      refine blamed.idle unfound layout rfl fun failed => ?_
      rcases blamed.published present failed with same | same <;> cases left.symm.trans same
  | failed here present left =>
      rw [follow_unfailing present (by simp [Running.failing,left])]
      have loaded : r.line = none := Option.eq_none_iff_forall_ne_some.mpr fun line here => by
        obtain ⟨_,other,same,there⟩ := blamed.loading line here
        cases Option.some.inj (present.symm.trans same)
        rcases there with there | ⟨_,there⟩ <;> cases left.symm.trans there
      exact {
        layout := layout
        reader := blamed.reader
        writer := blamed.writer
        current := fun _ none => by cases none
        stopped := fun _ _ _ => rfl
        clean := blamed.clean
        kept := blamed.kept
        loading := fun _ here => by cases loaded.symm.trans here
        loaded := blamed.loaded
        failed := fun _ => .inl rfl}
  | component present ran => exact blamed.works present free ran
  | request => exact {blamed with layout := layout}
  | client calling => exact {blamed with layout := layout,failed := fun failed => blamed.failed (assign_failed failed)}

theorem Blamed.step (blamed : Blamed env r) (ran : codedNext env r action = some t) : Blamed env t := by
  cases action with
  | task action errorCode =>
      simp only [codedNext] at ran
      split at ran
      · cases ran
      · obtain ⟨q,stepped,rfl⟩ := Option.map_eq_some_iff.mp ran
        exact blamed.task (Bool.eq_false_iff.mpr ‹_›) (taskNext_sound stepped)
  | handleRead =>
      obtain ⟨reader,made,rfl⟩ := Option.map_eq_some_iff.mp ran
      exact blamed.handleRead made
  | handleWrite =>
      obtain ⟨writer,made,rfl⟩ := Option.map_eq_some_iff.mp ran
      exact blamed.handleWrite made
  | load =>
      obtain ⟨line,ready,rfl⟩ := Option.map_eq_some_iff.mp ran
      unfold CodedTask.loads at ready
      split at ready
      · exact blamed.load ready
      · cases ready

-- The error code of a task, once no line of GetErrorCode is left: that of success unless IsFailed has found a component; otherwise
-- what the only failed read of the session was translated to, and where no read has failed, or none with an error, what its only
-- failed write was.
structure RootCause (env : TaskEnv) (r : CodedTask) : Prop where
  success : r.found = none → r.m_errorCode = VOLUMEPROTECT_ERR_SUCCESS
  found : r.found ≠ some .hasherTask
  few : r.codes.reader.errors.length ≤ 1 ∧ r.codes.writer.errors.length ≤ 1
  reader : r.found.isSome = true → ∀ errorCode, r.codes.reader.errors = [errorCode] → errorCode ≠ 0 →
    r.m_errorCode = HandleReadError env.task.m_sourceType errorCode
  writer : r.found = some .writerTask → ∃ errorCode, r.codes.writer.errors = [errorCode] ∧
    ((∀ other ∈ r.codes.reader.errors, other = 0) → r.m_errorCode = HandleWriteError env.task.m_targetType errorCode)
  -- a reader that has given up without an error leaves what the writer has assigned at that moment
  silent : r.found = some .readerTask → (∀ other ∈ r.codes.reader.errors, other = 0) → r.m_errorCode = VOLUMEPROTECT_ERR_SUCCESS ∨
    ∃ errorCode, r.codes.writer.errors = [errorCode] ∧
      (r.m_errorCode = errorCode ∨ r.m_errorCode = HandleWriteError env.task.m_targetType errorCode)

end task

section cause
variable {env : TaskEnv} {r t : CodedTask} {component : Component}

theorem read_error_zero : HandleReadError m_sourceType errorCode = VOLUMEPROTECT_ERR_SUCCESS ↔ errorCode = 0 := by
  unfold HandleReadError
  split
  · rename_i denied
    have other : errorCode ≠ 0 := by rcases denied with rfl | rfl <;> decide
    cases m_sourceType <;> simp [other,VOLUMEPROTECT_ERR_SUCCESS,VOLUMEPROTECT_ERR_COPY_ACCESS_DENIED,
      VOLUMEPROTECT_ERR_VOLUME_ACCESS_DENIED]
  · exact .rfl

theorem Blamed.cause (blamed : Blamed env r) (loaded : r.line = none) : RootCause env r := by
  have translated (component : Component) (found : r.found = some component) (errorCode : ErrCodeType)
      (met : r.codes.reader.errors = [errorCode]) : r.codes.reader.m_errorCode = HandleReadError env.task.m_sourceType errorCode :=
    blamed.reader.settled (blamed.kept component found).reader met
  have silent (component : Component) (found : r.found = some component) (none : ∀ other ∈ r.codes.reader.errors, other = 0) :
      r.codes.reader.m_errorCode = VOLUMEPROTECT_ERR_SUCCESS := by
    rcases blamed.reader.readable with zero | ⟨errorCode,met,_⟩
    · exact zero
    · rw [translated component found errorCode met]
      exact read_error_zero.mpr (none errorCode (by simp [met]))
  refine ⟨fun none => (blamed.clean none).2,fun found => (blamed.kept _ found).found rfl,
    ⟨blamed.reader.few,blamed.writer.few⟩,?_,?_,?_⟩
  · intro some errorCode met error
    obtain ⟨component,found⟩ := Option.isSome_iff_exists.mp some
    have code := translated component found errorCode met
    refine ((blamed.loaded loaded component found).reader fun zero => error ?_).trans code
    exact read_error_zero.mp (code.symm.trans zero)
  · intro found
    obtain ⟨idle,met⟩ := (blamed.kept _ found).writer rfl
    obtain ⟨errorCode,only⟩ := List.length_eq_one_iff.mp (Nat.le_antisymm blamed.writer.few (List.length_pos_iff.mpr met))
    refine ⟨errorCode,only,fun none => ?_⟩
    exact ((blamed.loaded loaded _ found).writer (silent _ found none) rfl).trans (blamed.writer.settled idle only)
  · exact fun found none => (blamed.loaded loaded _ found).readable (silent _ found none)

theorem Blamed.exited (blamed : Blamed env r) (gone : r.process.pc = .exited) : r.line = none :=
  Option.eq_none_iff_forall_ne_some.mpr fun line here => by
    obtain ⟨_,running,present,_⟩ := blamed.loading line here
    cases (blamed.session present).symm.trans gone

theorem Blamed.backup (blamed : Blamed env r) (backup : env.task.isBackup = true) (failed : r.process.task.m_status = .FAILED) :
    r.line = none :=
  Option.eq_none_iff_forall_ne_some.mpr fun line here => by
    obtain ⟨_,running,present,there⟩ := blamed.loading line here
    rcases there with there | ⟨restore,_⟩
    · rcases blamed.published present failed with same | same <;> cases there.symm.trans same
    · cases backup.symm.trans restore

theorem Blamed.final (blamed : Blamed env r) (found : r.found = some component) (loaded : r.line = none)
    (ran : codedNext env r action = some t) : t.found = some component ∧ t.line = none ∧ t.m_errorCode = r.m_errorCode := by
  have kept : r.found = some component ∧ r.line = none ∧ r.m_errorCode = r.m_errorCode := ⟨found,loaded,rfl⟩
  cases action with
  | handleRead | handleWrite =>
      obtain ⟨_,_,rfl⟩ := Option.map_eq_some_iff.mp ran
      exact kept
  | load =>
      simp [codedNext,CodedTask.loads,loaded] at ran
  | task action errorCode =>
      simp only [codedNext] at ran
      split at ran
      · cases ran
      · obtain ⟨q,_,rfl⟩ := Option.map_eq_some_iff.mp ran
        cases action with
        | thread reply =>
            simp only [CodedTask.follow]
            split
            · rename_i running present
              cases failing : running.failing with
              | some other =>
                  obtain ⟨rest,there,_⟩ := failing_here failing
                  have given := ((blamed.current running present).found component found).2
                  rw [there] at given
                  cases given
              | none => exact kept
            · exact kept
        | component action =>
            simp only [CodedTask.follow]
            split <;> exact kept
        | request | client => exact kept

-- However the threads take turns, and whatever reads and writes fail: the code that a task reports for a failed session is that of
-- the root cause. A client that finds a backup FAILED finds the code loaded; for a restore it may have to wait until the task's
-- thread has left.
theorem root_cause {disk : Disk} (path : Runs (codedNext env) Anything (.new disk) actions r) :
    (r.line = none → RootCause env r) ∧ (r.process.pc = .exited → r.line = none) ∧
    (env.task.isBackup = true → r.process.task.m_status = .FAILED → r.line = none) ∧
    ∀ more later, Runs (codedNext env) Anything r more later → r.found.isSome = true → r.line = none →
      later.m_errorCode = r.m_errorCode := by
  have blamed : Blamed env r := path.invariant (Blamed env) .new fun _ _ _ known ran _ => known.step ran
  refine ⟨blamed.cause,blamed.exited,blamed.backup,fun more later path some loaded => ?_⟩
  obtain ⟨component,found⟩ := Option.isSome_iff_exists.mp some
  have final : Blamed env later ∧ later.found = .some component ∧ later.line = none ∧ later.m_errorCode = r.m_errorCode := by
    refine path.invariant (fun s => Blamed env s ∧ s.found = .some component ∧ s.line = none ∧ s.m_errorCode = r.m_errorCode)
      ⟨blamed,found,loaded,rfl⟩ fun s action t known ran _ => ?_
    obtain ⟨blamed,found,loaded,same⟩ := known
    obtain ⟨still,none,code⟩ := blamed.final found loaded ran
    exact ⟨blamed.step ran,still,none,code.trans same⟩
  exact final.2.2.2

end cause

def uncoded (actions : List TaskAction) : List CodedAction := actions.map fun action => .task action 0

def deniedActions (preparing : Nat) : List CodedAction :=
  uncoded (threads preparing++readers 5)++[.task (.component (.reader (.fail ⟨fun _ => false,0⟩))) EACCES,.handleRead,.handleRead]++
    uncoded (readers 2++threads 2)

theorem root_cause_denied : ∃ r : CodedTask, r.process.pc = .exited ∧ r.codes.reader.errors = [EACCES] ∧
    r.m_errorCode = VOLUMEPROTECT_ERR_VOLUME_ACCESS_DENIED := by
  have run : (execute (codedNext plainEnv) (fun _ _ => true) (.new plainDisk)
      (deniedActions 14++[.load,.load]++uncoded (threads 1++writers 4++threads 2))).any (fun r =>
        decide (r.process.pc = .exited ∧ r.codes.reader.errors = [EACCES] ∧ r.found.isSome = true)) = true := by decide +kernel
  obtain ⟨r,(path : Runs _ Anything _ _ r),good⟩ := execute_ends (fun _ _ _ => trivial) run
  obtain ⟨gone,met,found⟩ := of_decide_eq_true good
  obtain ⟨cause,exited,_⟩ := root_cause path
  exact ⟨r,gone,met,(cause (exited gone)).reader found _ met (by decide)⟩

end VolumeBackup
