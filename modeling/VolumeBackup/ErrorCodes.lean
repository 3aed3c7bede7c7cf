import VolumeBackup.PollingVerdict
import VolumeBackup.TaskQueue

namespace VolumeBackup
open ByteMemory LabelledRuns

abbrev ErrCodeType := Int

def VOLUMEPROTECT_ERR_SUCCESS : ErrCodeType := 0x00000000
def VOLUMEPROTECT_ERR_VOLUME_ACCESS_DENIED : ErrCodeType := 0x00114514
def VOLUMEPROTECT_ERR_COPY_ACCESS_DENIED : ErrCodeType := 0x00114515
def VOLUMEPROTECT_ERR_NO_SPACE : ErrCodeType := 0x00114516

def EPERM : ErrCodeType := 1
def EACCES : ErrCodeType := 13
def ENOSPC : ErrCodeType := 28

inductive SourceType where
  | VOLUME | COPYFILE
  deriving DecidableEq, Repr

inductive TargetType where
  | VOLUME | COPYFILE
  deriving DecidableEq, Repr

def HandleReadError (m_sourceType : SourceType) (errorCode : ErrCodeType) : ErrCodeType :=
  if errorCode = EACCES ∨ errorCode = EPERM then
    if m_sourceType = .COPYFILE then VOLUMEPROTECT_ERR_COPY_ACCESS_DENIED else VOLUMEPROTECT_ERR_VOLUME_ACCESS_DENIED
  else errorCode

def HandleWriteError (m_targetType : TargetType) (errorCode : ErrCodeType) : ErrCodeType :=
  if errorCode = EACCES ∨ errorCode = EPERM then
    if m_targetType = .COPYFILE then VOLUMEPROTECT_ERR_COPY_ACCESS_DENIED else VOLUMEPROTECT_ERR_VOLUME_ACCESS_DENIED
  else if m_targetType = .COPYFILE ∧ errorCode = ENOSPC then VOLUMEPROTECT_ERR_NO_SPACE
  else errorCode

def ProtectTask.m_sourceType : ProtectTask → SourceType
  | .backup _ _ => .VOLUME
  | .restore _ _ => .COPYFILE

def ProtectTask.m_targetType : ProtectTask → TargetType
  | .backup _ _ => .COPYFILE
  | .restore _ _ => .VOLUME

-- Where a component stands with an error: its Write has failed, HandleReadError or HandleWriteError is about to assign
-- m_errorCode what the failed call has given, or to assign it once more what that is translated to.
inductive HandleLine where
  | idle | raised | assign | translate
  deriving DecidableEq, Repr

-- m_errorCode of a component and its variable errorCode. The errors that its calls have given are kept besides, newest first.
structure BlockCode where
  m_errorCode : ErrCodeType := VOLUMEPROTECT_ERR_SUCCESS
  errorCode : ErrCodeType := 0
  line : HandleLine := .idle
  errors : List ErrCodeType := []
  deriving DecidableEq, Repr

def BlockCode.raise (code : BlockCode) (errorCode : ErrCodeType) (line : HandleLine) : BlockCode :=
  {code with errorCode := errorCode,line := line,errors := errorCode::code.errors}

def BlockCode.handle (code : BlockCode) (translate : ErrCodeType → ErrCodeType) : Option BlockCode :=
  match code.line with
  | .assign => some {code with m_errorCode := code.errorCode,line := .translate}
  | .translate => some {code with m_errorCode := translate code.errorCode,line := .idle}
  | .idle | .raised => none

def BlockCode.handling (code : BlockCode) : Bool := code.line = .assign ∨ code.line = .translate

structure SessionCodes where
  reader : BlockCode := {}
  writer : BlockCode := {}
  deriving DecidableEq, Repr

def SessionCodes.held (codes : SessionCodes) : SessionAction → Bool
  | .reader _ => codes.reader.handling
  | .writer _ => codes.writer.handling
  | _ => false

def SessionCodes.note (env : SessionEnv) (codes : SessionCodes) (s : Session) (errorCode : ErrCodeType) : SessionAction → SessionCodes
  | .reader (.fail _) =>
    match s.readerTask.pc with
    | .read _ => {codes with reader := codes.reader.raise errorCode .assign}
    | _ => codes
  | .writer outcome =>
    match s.writerTask.pc,outcome with
    | .write block,.fail _ =>
      if NeedToWrite env s.pool block.ptr block.length then {codes with writer := codes.writer.raise errorCode .raised} else codes
    | .failed _,_ => {codes with writer := {codes.writer with line := .assign}}
    | _,_ => codes
  | _ => codes

-- The lines of GetErrorCode: a component's m_errorCode is read once to be compared and once to be returned.
inductive LoadLine where
  | reader | readerAgain | writer | writerAgain
  deriving DecidableEq, Repr

-- A task with the error codes of its components and its own. The component that IsFailed has found is kept besides.
structure CodedTask where
  process : Process
  m_errorCode : ErrCodeType := VOLUMEPROTECT_ERR_SUCCESS
  codes : SessionCodes := {}
  line : Option LoadLine := none
  found : Option Component := none

def CodedTask.new (disk : Disk) : CodedTask := {process := .new disk}

def CodedTask.load (r : CodedTask) : LoadLine → CodedTask
  | .reader => {r with line := some (if r.codes.reader.m_errorCode ≠ VOLUMEPROTECT_ERR_SUCCESS then .readerAgain else .writer)}
  | .readerAgain => {r with m_errorCode := r.codes.reader.m_errorCode,line := none}
  | .writer =>
    if r.codes.writer.m_errorCode ≠ VOLUMEPROTECT_ERR_SUCCESS then {r with line := some .writerAgain}
    else {r with m_errorCode := VOLUMEPROTECT_ERR_SUCCESS,line := none}
  | .writerAgain => {r with m_errorCode := r.codes.writer.m_errorCode,line := none}

def PollPc.concluding : PollPc → Bool
  | .conclude _ => true
  | _ => false

def Process.concluding (p : Process) : Bool := p.running.any fun running => running.run.pc.concluding

def Running.failing (running : Running) : Option Component :=
  match running.run.pc with
  | .isFailed (component::_) => if (running.run.state.task component).m_status.IsFailed then some component else none
  | _ => none

inductive CodedAction where
  | task (action : TaskAction) (errorCode : ErrCodeType)
  | handleRead | handleWrite | load

section machine
variable (env : TaskEnv)

-- The thread of a backup loads the error code before it assigns m_status, that of a restore behind it.
def CodedTask.loads (r : CodedTask) : Option LoadLine := if env.task.isBackup ∨ !r.process.concluding then r.line else none

def CodedTask.held (r : CodedTask) : TaskAction → Bool
  | .component action => r.codes.held action
  | .thread _ => (r.loads env).isSome
  | .request | .client _ => false

def CodedTask.follow (r : CodedTask) (q : Process) (errorCode : ErrCodeType) : TaskAction → CodedTask
  | .component action =>
    match r.process.running with
    | some running =>
      {r with process := q,codes := r.codes.note (env.sessionEnv running.config) running.run.state errorCode action}
    | none => {r with process := q}
  | .thread _ =>
    match r.process.running with
    | some running =>
      match running.failing with
      | some component => {r with process := q,line := some .reader,found := some component}
      | none => {r with process := q}
    | none => {r with process := q,codes := if q.running.isSome then {} else r.codes}
  | .request | .client _ => {r with process := q}

def codedNext (r : CodedTask) : CodedAction → Option CodedTask
  | .task action errorCode =>
    if r.held env action then none else (taskNext env r.process action).map fun q => r.follow env q errorCode action
  | .handleRead => (r.codes.reader.handle (HandleReadError env.task.m_sourceType)).map fun reader =>
      {r with codes := {r.codes with reader := reader}}
  | .handleWrite => (r.codes.writer.handle (HandleWriteError env.task.m_targetType)).map fun writer =>
      {r with codes := {r.codes with writer := writer}}
  | .load => (r.loads env).map r.load

end machine

inductive Coded (translate : ErrCodeType → ErrCodeType) : BlockCode → Prop where
  | clear : Coded translate {}
  | raised : Coded translate ⟨VOLUMEPROTECT_ERR_SUCCESS,errorCode,.raised,[errorCode]⟩
  | assign : Coded translate ⟨VOLUMEPROTECT_ERR_SUCCESS,errorCode,.assign,[errorCode]⟩
  | translate : Coded translate ⟨errorCode,errorCode,.translate,[errorCode]⟩
  | handled : Coded translate ⟨translate errorCode,errorCode,.idle,[errorCode]⟩

variable {translate : ErrCodeType → ErrCodeType} {code next : BlockCode}

theorem Coded.handle (coded : Coded translate code) (made : code.handle translate = some next) :
    Coded translate next ∧ next.errors = code.errors ∧ (next.line = .translate ∨ next.line = .idle) ∧ code.handling = true := by
  cases coded with
  | clear | raised | handled => cases made
  | assign =>
      cases Option.some.inj made
      exact ⟨.translate,rfl,.inl rfl,rfl⟩
  | translate =>
      cases Option.some.inj made
      exact ⟨.handled,rfl,.inr rfl,rfl⟩

theorem Coded.unmet (coded : Coded translate code) (none : code.errors = []) : code = {} := by
  cases coded with
  | clear => rfl
  | raised | assign | translate | handled => cases none

theorem Coded.settled (coded : Coded translate code) (idle : code.line = .idle) (met : code.errors = [errorCode]) :
    code.m_errorCode = translate errorCode := by
  cases coded with
  | clear => cases met
  | raised | assign | translate => cases idle
  | handled =>
      cases met
      rfl

theorem Coded.readable (coded : Coded translate code) : code.m_errorCode = VOLUMEPROTECT_ERR_SUCCESS ∨
    ∃ errorCode, code.errors = [errorCode] ∧ (code.m_errorCode = errorCode ∨ code.m_errorCode = translate errorCode) := by
  cases coded with
  | clear | raised | assign => exact .inl rfl
  | translate => exact .inr ⟨_,rfl,.inl rfl⟩
  | handled => exact .inr ⟨_,rfl,.inr rfl⟩

theorem Coded.few (coded : Coded translate code) : code.errors.length ≤ 1 := by
  cases coded with
  | clear => exact Nat.zero_le _
  | raised | assign | translate | handled => exact Nat.le_refl _

-- The codes of the components of a session: an error belongs to the one read or write that has failed, and it is dealt with
-- before the component's thread goes on. A component that has published FAILED has left its loop.
structure Coding (task : ProtectTask) (s : Session) (codes : SessionCodes) : Prop where
  reader : Coded (HandleReadError task.m_sourceType) codes.reader
  writer : Coded (HandleWriteError task.m_targetType) codes.writer
  unread : codes.reader.errors ≠ [] → Unread s.history
  torn : codes.writer.errors ≠ [] ↔ Torn s.history
  reading : codes.reader.line = .idle ∨ codes.reader.handling = true ∧ s.readerTask.pc = .terminate .FAILED
  writing : codes.writer.line = .idle ∨ (codes.writer.line = .raised ∧ ∃ block, s.writerTask.pc = .failed block) ∨
    codes.writer.handling = true ∧ ∃ block, s.writerTask.pc = .markWritten block
  raising : ∀ block, s.writerTask.pc = .failed block → codes.writer.line = .raised
  whole : ∀ block, s.writerTask.pc = .write block → s.writerTask.task.m_failed = false
  readerFailed : s.readerTask.task.m_status = .FAILED → s.readerTask.pc = .finish ∨ s.readerTask.pc = .exited

section session
variable {task : ProtectTask} {env : SessionEnv} {source : Content} {o : Flow} {s t : Session} {codes : SessionCodes}

theorem Coding.new {context : BlockHashingContext} {processed written : Bitmap} {counter : SessionCounter} {target : Content} :
    Coding task (.new config context processed written counter target) {} where
  reader := .clear
  writer := .clear
  unread := fun met => absurd rfl met
  torn := ⟨fun met => absurd rfl met,fun ⟨_,_,_,inside⟩ => by cases inside⟩
  reading := .inl rfl
  writing := .inl rfl
  raising := fun _ here => WriterPc.noConfusion here
  whole := fun _ here => WriterPc.noConfusion here
  readerFailed := fun failed => TaskStatus.noConfusion failed

theorem Coding.readerQuiet (coding : Coding task s codes) (idle : codes.reader.line = .idle)
    (quiet : ∀ ptr, s.readerTask.pc = .read ptr → outcome.isOk = true) (step : ReaderStep env source outcome s t) :
    Coding task t codes := by
  have running {pc : ReaderPc} {goal : Prop} (here : s.readerTask.pc = pc) (live : pc ≠ .finish) (present : pc ≠ .exited)
      (failed : s.readerTask.task.m_status = .FAILED) : goal := by
    rcases coding.readerFailed failed with same | same
    · exact absurd (here.symm.trans same) live
    · exact absurd (here.symm.trans same) present
  cases step with
  | begin here | completed here | stopped here | aborted here | goOn here | paused here | unpaused here | skipped here | needed here
  | fetched here | timeout here | pushHashing here | pushWrite here =>
      exact {coding with reading := .inl idle,readerFailed := running here nofun nofun}
  | retried here => exact coding
  | read here same done =>
      exact {coding with
        reading := .inl idle
        readerFailed := running here nofun nofun
        unread := fun met => (coding.unread met).cons
        torn := coding.torn.trans (torn_cons (by simp)).symm}
  | unread here same failed => cases failed.symm.trans (quiet _ here)
  | terminate here => exact {coding with reading := .inl idle,readerFailed := fun _ => .inl rfl}
  | finishHashing here hasher | finishWrite here plain =>
      exact {coding with reading := .inl idle,readerFailed := fun _ => .inr rfl}

theorem reader_failing (here : s.readerTask.pc = .read ptr) (ran : readerStep env source (.fail part) s = some t) :
    t = {(s.record (.read (consumeBlock env s ptr).index false)) with
      readerTask := {s.readerTask with task := {s.readerTask.task with m_failed := true},pc := .terminate .FAILED}} := by
  simp only [readerStep,here] at ran
  exact (Option.some.inj ran).symm

theorem Coding.readerMet (coding : Coding task s codes) (outcome : ReaderOutcome env s) (here : s.readerTask.pc = .read ptr)
    (ran : readerStep env source (.fail part) s = some t) :
    Coding task t {codes with reader := codes.reader.raise errorCode .assign} := by
  have unmet : codes.reader = {} := by
    refine coding.reader.unmet (Decidable.byContradiction fun met => ?_)
    rcases outcome.unread (coding.unread met) with same | ⟨same | same,_⟩ <;> cases here.symm.trans same
  cases reader_failing here ran
  rw [unmet]
  exact {coding with
    reader := .assign
    unread := fun _ => ⟨_,List.mem_cons_self⟩
    torn := coding.torn.trans (torn_cons (by simp)).symm
    reading := .inr ⟨rfl,rfl⟩
    readerFailed := fun failed => by rcases coding.readerFailed failed with same | same <;> cases here.symm.trans same}

theorem Coding.readerStep (coding : Coding task s codes) (outcome : ReaderOutcome env s) (free : codes.reader.handling = false)
    (ran : readerStep env source result s = some t) : Coding task t (codes.note env s errorCode (.reader result)) := by
  have idle : codes.reader.line = .idle := coding.reading.resolve_right fun busy => by cases free.symm.trans busy.1
  cases result with
  | ok => exact coding.readerQuiet idle (fun _ _ => rfl) (readerStep_sound ran)
  | fail part =>
      simp only [SessionCodes.note]
      split
      · exact coding.readerMet outcome ‹_› ran
      · rename_i elsewhere
        exact coding.readerQuiet idle (fun ptr here => absurd here (elsewhere ptr)) (readerStep_sound ran)

theorem Coding.workerStep (coding : Coding task s codes) (step : WorkerStep env k s t) : Coding task t codes := by
  cases step with
  | hashed here same | unchanged here equal =>
      exact {coding with
        unread := fun met => (coding.unread met).cons
        torn := coding.torn.trans (torn_cons (by simp)).symm}
  | _ => exact {coding with}

theorem Coding.writerQuiet (coding : Coding task s codes) (idle : codes.writer.line = .idle)
    (quiet : ∀ block, s.writerTask.pc = .write block → NeedToWrite env s.pool block.ptr block.length = true → outcome.isOk = true)
    (step : WriterStep env outcome s t) : Coding task t codes := by
  cases step with
  | taken here first working => exact {coding with writing := .inl idle,raising := nofun,whole := fun _ _ => working}
  | aborted here abort | drained here empty finished | goOn here | refused here first failed | markWritten here
  | markProcessed here | freed here free | terminate here
  | provisional here failed | reviewed here final | revised here =>
      exact {coding with writing := .inl idle,raising := nofun,whole := nofun}
  | discarded here free =>
      exact {coding with
        writing := .inl idle,raising := nofun,whole := nofun
        unread := fun met => (coding.unread met).cons
        torn := coding.torn.trans (torn_cons (by simp)).symm}
  | written here needed done | empty here zeros =>
      exact {coding with
        writing := .inl idle,raising := nofun,whole := nofun
        unread := fun met => (coding.unread met).cons
        torn := coding.torn.trans (torn_cons (by simp)).symm}
  | torn here needed failed =>
      have ok := quiet _ here needed
      rw [failed] at ok
      cases ok
  | failed here free => cases idle.symm.trans (coding.raising _ here)

theorem Coding.writerMet (coding : Coding task s codes) (outcome : WriterOutcome s) (here : s.writerTask.pc = .write block)
    (needed : NeedToWrite env s.pool block.ptr block.length = true) (ran : writerStep env (.fail part) s = some t) :
    Coding task t {codes with writer := codes.writer.raise errorCode .raised} := by
  have unmet : codes.writer = {} := by
    refine coding.writer.unmet (Decidable.byContradiction fun met => ?_)
    have failed := (outcome.shown here nofun (coding.torn.mp met)).1
    cases (coding.whole _ here).symm.trans failed
  simp only [VolumeBackup.writerStep,here,needed,if_true] at ran
  cases Option.some.inj ran
  rw [unmet]
  exact {coding with
    writer := .raised
    unread := fun met => (coding.unread met).cons
    torn := ⟨fun _ => torn_now,fun _ => by simp [BlockCode.raise]⟩
    writing := .inr (.inl ⟨rfl,_,rfl⟩)
    raising := fun _ _ => rfl
    whole := nofun}

theorem Coding.writerFailed (coding : Coding task s codes) (here : s.writerTask.pc = .failed block)
    (step : WriterStep env outcome s t) : Coding task t {codes with writer := {codes.writer with line := .assign}} := by
  have raised := coding.raising _ here
  obtain ⟨errorCode,same⟩ : ∃ errorCode, codes.writer = ⟨VOLUMEPROTECT_ERR_SUCCESS,errorCode,.raised,[errorCode]⟩ := by
    have coded := coding.writer
    generalize codes.writer = writer at coded raised
    cases coded with
    | raised => exact ⟨_,rfl⟩
    | clear | assign | translate | handled => cases raised
  have met : codes.writer.errors ≠ [] := by simp [same]
  cases step with
  | failed _ free =>
      exact {coding with
        writer := same ▸ .assign
        torn := coding.torn
        writing := .inr (.inr ⟨rfl,_,rfl⟩)
        raising := nofun
        whole := nofun}
  | _ other => cases here.symm.trans other

theorem Coding.writerStep (coding : Coding task s codes) (outcome : WriterOutcome s) (free : codes.writer.handling = false)
    (ran : writerStep env result s = some t) : Coding task t (codes.note env s errorCode (.writer result)) := by
  have idle (elsewhere : ∀ block, s.writerTask.pc ≠ .failed block) : codes.writer.line = .idle := by
    rcases coding.writing with idle | ⟨_,block,here⟩ | busy
    · exact idle
    · exact absurd here (elsewhere block)
    · cases free.symm.trans busy.1
  simp only [SessionCodes.note]
  split
  · rename_i here
    split
    · exact coding.writerMet outcome here ‹_› ran
    · rename_i unneeded
      refine coding.writerQuiet (idle (by simp [here])) (fun block same needed => ?_) (writerStep_sound ran)
      cases here.symm.trans same
      exact absurd needed unneeded
  · exact coding.writerFailed ‹_› (writerStep_sound ran)
  · rename_i result pc other elsewhere failing
    refine coding.writerQuiet (idle elsewhere) (fun block here needed => ?_) (writerStep_sound ran)
    cases result with
    | ok => rfl
    | fail part => exact (failing _ _ here rfl).elim

theorem Coding.controlStep (coding : Coding task s codes) (step : ControlStep env action s t) : Coding task t codes := by
  cases step with
  | startReader here =>
      have idle : codes.reader.line = .idle := coding.reading.resolve_right fun busy => by cases here.symm.trans busy.2
      exact {coding with reading := .inl idle,readerFailed := nofun}
  | startWriter here =>
      have idle : codes.writer.line = .idle := by
        rcases coding.writing with idle | ⟨_,_,same⟩ | ⟨_,_,same⟩
        · exact idle
        · cases here.symm.trans same
        · cases here.symm.trans same
      exact {coding with writing := .inl idle,raising := nofun,whole := nofun}
  | hasherIdle | startHasher | pause => exact {coding with}
  | abort component => cases component <;> exact {coding with}
  | aborted component | aborting component =>
      cases component with
      | readerTask => exact {coding with readerFailed := nofun}
      | hasherTask | writerTask => exact {coding with}

theorem Coding.step (coding : Coding task s codes) (valid : Valid env source o s) (free : codes.held action = false)
    (ran : sessionStep env source s action = some t) : Coding task t (codes.note env s errorCode action) := by
  cases action with
  | reader result => exact coding.readerStep valid.reader free ran
  | worker k => exact coding.workerStep (sessionStep_sound ran)
  | writer result => exact coding.writerStep valid.writer free ran
  | start | pause | abort | aborted | aborting => exact coding.controlStep (sessionStep_sound ran)

theorem Coding.handleRead (coding : Coding task s codes) (made : codes.reader.handle (HandleReadError task.m_sourceType) = some next) :
    Coding task s {codes with reader := next} := by
  obtain ⟨coded,errors,line,busy⟩ := coding.reader.handle made
  refine {coding with reader := coded,unread := fun met => coding.unread (errors ▸ met),reading := ?_}
  rcases line with later | idle
  · refine .inr ⟨by simp [BlockCode.handling,later],?_⟩
    rcases coding.reading with idle | ⟨_,here⟩
    · simp [BlockCode.handling,idle] at busy
    · exact here
  · exact .inl idle

theorem Coding.handleWrite (coding : Coding task s codes) (made : codes.writer.handle (HandleWriteError task.m_targetType) = some next) :
    Coding task s {codes with writer := next} := by
  obtain ⟨coded,errors,line,busy⟩ := coding.writer.handle made
  have marking : ∃ block, s.writerTask.pc = .markWritten block := by
    rcases coding.writing with idle | ⟨raised,_⟩ | ⟨_,here⟩
    · simp [BlockCode.handling,idle] at busy
    · simp [BlockCode.handling,raised] at busy
    · exact here
  refine {coding with writer := coded,torn := by rw [errors]; exact coding.torn,writing := ?_,raising := fun block here => ?_}
  · rcases line with later | idle
    · exact .inr (.inr ⟨by simp [BlockCode.handling,later],marking⟩)
    · exact .inl idle
  · obtain ⟨other,same⟩ := marking
    cases here.symm.trans same

theorem Valid.reader_gone (valid : Valid env source o s) (drained : s.writeQueue.Drained) (running : s.hasherTask.task.m_abort = false) :
    s.readerTask.pc = .exited := by
  cases enabled : env.config.hasherEnabled with
  | false => exact valid.order.plain enabled drained.2
  | true =>
      obtain ⟨_,_,ended⟩ := valid.order.closed enabled (.inl drained.2)
      rcases ended with drained | ⟨abort,_⟩
      · exact valid.order.hashing enabled drained.2
      · cases running.symm.trans abort

-- What the statuses tell of a session of which nothing was aborted: a hasher does not fail once it was started, and the writer
-- publishes FAILED as its last step, when the reader is gone.
structure Judging (s : Session) : Prop where
  hasher : s.hasherTask.task.m_status ≠ .FAILED
  workers : .terminate .FAILED ∉ s.hasherTask.m_workers
  leaving : ∀ status, s.writerTask.pc = .terminate status → status = .SUCCEED
  reviewing : s.writerTask.pc = .review ∨ s.writerTask.pc = .revise → s.writerTask.task.m_status = .SUCCEED
  failed : s.writerTask.task.m_status = .FAILED → s.writerTask.pc = .exited ∧ s.readerTask.pc = .exited ∧ Torn s.history

theorem Judging.new {context : BlockHashingContext} {processed written : Bitmap} {counter : SessionCounter} {target : Content} :
    Judging (.new config context processed written counter target) where
  hasher := TaskStatus.noConfusion
  workers := List.not_mem_nil
  leaving := fun _ here => WriterPc.noConfusion here
  reviewing := fun here => by rcases here with same | same <;> cases same
  failed := fun failed => TaskStatus.noConfusion failed

theorem Judging.readerStep (judging : Judging s) (step : ReaderStep env source outcome s t) : Judging t := by
  have gone (failed : s.writerTask.task.m_status = .FAILED) := (judging.failed failed).2.1
  cases step with
  | retried here => exact judging
  | read here | unread here => exact {judging with failed := fun failed => by cases here.symm.trans (gone failed)}
  | _ here => exact {judging with failed := fun failed => by cases here.symm.trans (gone failed)}

theorem Judging.workerStep (judging : Judging s) (step : WorkerStep env k s t) : Judging t := by
  have leaves {pc : WorkerPc} (other : pc ≠ .terminate .FAILED) : .terminate .FAILED ∉ s.hasherTask.m_workers.set k pc := fun inside =>
    (List.mem_or_eq_of_mem_set inside).elim judging.workers fun same => other same.symm
  have torn {event : Event} (failed : s.writerTask.task.m_status = .FAILED) :
      s.writerTask.pc = .exited ∧ s.readerTask.pc = .exited ∧ Torn (event::s.history) := by
    obtain ⟨writer,reader,torn⟩ := judging.failed failed
    exact ⟨writer,reader,torn.cons⟩
  cases step with
  | hashed here same =>
      refine {judging with failed := torn,workers := leaves ?_}
      unfold hashedPc
      split <;> nofun
  | unchanged here equal => exact {judging with failed := torn,workers := leaves nofun}
  | terminate here =>
      refine {judging with workers := leaves nofun,hasher := fun failed => ?_}
      cases failed
      exact judging.workers (List.mem_of_getElem? here)
  | _ here => exact {judging with workers := leaves nofun}

theorem unreviewed {pc : WriterPc} {goal : Prop} (review : pc ≠ .review) (revise : pc ≠ .revise)
    (here : pc = .review ∨ pc = .revise) : goal := (here.elim review revise).elim

theorem Judging.writerStep (judging : Judging s) (valid : Valid env source o s) (steady : Steady s)
    (step : WriterStep env outcome s t) : Judging t := by
  have working {pc : WriterPc} {goal : Prop} (here : s.writerTask.pc = pc) (present : pc ≠ .exited)
      (failed : s.writerTask.task.m_status = .FAILED) : goal :=
    absurd (here.symm.trans (judging.failed failed).1) present
  cases step with
  | aborted here abort => cases steady.writer.1.symm.trans abort
  | drained here empty finished =>
      exact {judging with
        leaving := fun status same => (WriterPc.terminate.inj same).symm
        reviewing := unreviewed nofun nofun
        failed := working here nofun}
  | discarded here | written here | torn here | empty here | goOn here | taken here | refused here | failed here | markWritten here
  | markProcessed here | freed here =>
      exact {judging with leaving := nofun,reviewing := unreviewed nofun nofun,failed := working here nofun}
  | terminate here =>
      cases judging.leaving _ here
      exact {judging with leaving := nofun,reviewing := fun _ => rfl,failed := nofun}
  | provisional here failed =>
      have succeeded := judging.reviewing (.inl here)
      exact {judging with leaving := nofun,reviewing := fun _ => succeeded,failed := working here nofun}
  | reviewed here final => exact {judging with leaving := nofun,reviewing := unreviewed nofun nofun,failed := working here nofun}
  | revised here =>
      have drained := (valid.writer.succeeded (judging.reviewing (.inr here))).2
      exact {judging with
        leaving := nofun
        reviewing := unreviewed nofun nofun
        failed := fun _ => ⟨rfl,valid.reader_gone drained steady.hasher,valid.writer.counted (steady.revise here)⟩}

theorem Judging.controlStep (judging : Judging s) (calm : action.aborts = false) (step : ControlStep env action s t)
    (begun : action = .start .hasherTask → t.hasherTask.task.m_status ≠ .FAILED) : Judging t := by
  cases step with
  | startReader here => exact {judging with failed := fun failed => by cases here.symm.trans (judging.failed failed).2.1}
  | hasherIdle => exact {judging with hasher := begun rfl}
  | startHasher here hasher =>
      exact {judging with hasher := nofun,workers := fun inside => by cases (List.mem_replicate.mp inside).2}
  | startWriter here => exact {judging with leaving := nofun,reviewing := unreviewed nofun nofun,failed := nofun}
  | pause => exact {judging with}
  | abort | aborted | aborting => cases calm

theorem Judging.step (judging : Judging s) (valid : Valid env source o s) (steady : Steady s) (calm : action.aborts = false)
    (step : Step env source s action t) (begun : action = .start .hasherTask → t.hasherTask.task.m_status ≠ .FAILED) : Judging t := by
  cases action with
  | reader outcome => exact judging.readerStep step
  | worker k => exact judging.workerStep step
  | writer outcome => exact judging.writerStep valid steady step
  | start | pause | abort | aborted | aborting => exact judging.controlStep calm step begun

end session

end VolumeBackup
