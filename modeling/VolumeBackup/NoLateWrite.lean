import VolumeBackup.NoFalseSuccess

namespace VolumeBackup
open ByteMemory LabelledRuns

def WorkerPc.holding : WorkerPc → Bool
  | .hash _ | .diff _ | .push _ => true
  | _ => false

def WorkerPc.leaving : WorkerPc → Bool
  | .terminate _ | .leave | .test | .finish | .exited => true
  | _ => false

def WriterPc.writing : WriterPc → Bool
  | .write _ => true
  | _ => false

section quiet
variable (env : SessionEnv) (s : Session)

def ReaderStopped : Bool :=
  match s.readerTask.pc with
  | .notStarted | .terminate _ | .finish | .exited => true
  | .check => s.readerTask.task.m_abort || s.readerTask.task.m_failed || decide (env.config.m_maxIndex < s.readerTask.m_currentIndex)
  | .start | .pause | .skip | .fetch | .read _ | .push _ => false

def WriterStopped : Bool :=
  match s.writerTask.pc with
  | .notStarted | .failed _ | .terminate _ | .review | .revise | .exited => true
  | .pop => s.writerTask.task.m_failed
  | .check | .discard _ | .markWritten _ | .markProcessed _ | .free _ =>
    s.writerTask.task.m_failed || s.writerTask.task.m_abort
  | .write _ => false

structure Dry : Prop where
  reader : ReaderStopped env s = true
  holding : ∀ pc ∈ s.hasherTask.m_workers, pc.holding = false
  hashing : s.hashingQueue.m_queue = [] ∨
    ∀ pc ∈ s.hasherTask.m_workers, pc.leaving = true ∨ s.hasherTask.task.m_abort = true ∧ pc ≠ .pop
  writing : s.writeQueue.m_queue = []
  writer : s.writerTask.pc.writing = false

def Quiet : Prop := WriterStopped s = true ∨ Dry env s

instance : Decidable (Dry env s) := decidable_of_iff (ReaderStopped env s = true ∧
    (∀ pc ∈ s.hasherTask.m_workers, pc.holding = false) ∧ (s.hashingQueue.m_queue = [] ∨
      ∀ pc ∈ s.hasherTask.m_workers, pc.leaving = true ∨ s.hasherTask.task.m_abort = true ∧ pc ≠ .pop) ∧
    s.writeQueue.m_queue = [] ∧ s.writerTask.pc.writing = false)
  ⟨fun ⟨reader,holding,hashing,writing,writer⟩ => ⟨reader,holding,hashing,writing,writer⟩,
    fun dry => ⟨dry.reader,dry.holding,dry.hashing,dry.writing,dry.writer⟩⟩

instance : Decidable (Quiet env s) := inferInstanceAs (Decidable (_ ∨ _))

end quiet

variable {env : SessionEnv} {source : Content} {s t : Session}

theorem Dry.reads (dry : Dry env s) (step : ReaderStep env source outcome s t) : Dry env t := by
  obtain ⟨reader,holding,hashing,writing,writer⟩ := dry
  cases step with
  | completed here | stopped here | aborted here => exact ⟨rfl,holding,hashing,writing,writer⟩
  | terminate here | finishHashing here | finishWrite here => exact ⟨rfl,holding,hashing,writing,writer⟩
  | goOn here inside running working =>
      simp [ReaderStopped,here,running,working,Nat.not_lt.mpr inside] at reader
  | retried here => exact ⟨reader,holding,hashing,writing,writer⟩
  | _ here => simp [ReaderStopped,here] at reader

theorem set_workers {holds : WorkerPc → Prop} {workers : List WorkerPc} (all : ∀ pc ∈ workers, holds pc) (new : holds next) :
    ∀ pc ∈ workers.set k next, holds pc := by
  intro pc inside
  rcases List.mem_or_eq_of_mem_set inside with old | rfl
  · exact all pc old
  · exact new

theorem Dry.moves (dry : Dry env s) (here : s.hasherTask.m_workers[k]? = some old)
    (workers : t.hasherTask.m_workers = s.hasherTask.m_workers.set k new)
    (abort : t.hasherTask.task.m_abort = s.hasherTask.task.m_abort) (reader : t.readerTask = s.readerTask)
    (writer : t.writerTask = s.writerTask) (queue : t.hashingQueue = s.hashingQueue)
    (writing : t.writeQueue.m_queue = s.writeQueue.m_queue) (free : new.holding = false)
    (next : old.leaving = true ∨ s.hasherTask.task.m_abort = true ∧ old ≠ .pop →
      new.leaving = true ∨ s.hasherTask.task.m_abort = true ∧ new ≠ .pop) : Dry env t := by
  refine ⟨?_,?_,?_,writing.trans dry.writing,?_⟩
  · unfold ReaderStopped
    rw [reader]
    exact dry.reader
  · rw [workers]
    exact set_workers dry.holding free
  · rw [workers,queue,abort]
    exact dry.hashing.imp_right fun all => set_workers all (next (all old (List.mem_of_getElem? here)))
  · rw [writer]
    exact dry.writer

theorem Dry.works (dry : Dry env s) (step : WorkerStep env k s t) : Dry env t := by
  have free {pc : WorkerPc} (here : s.hasherTask.m_workers[k]? = some pc) : pc.holding = false :=
    dry.holding pc (List.mem_of_getElem? here)
  cases step with
  | hashed here | unchanged here | changed here | pushed here => cases free here
  | popped here first =>
      rcases dry.hashing with empty | all
      · cases first.symm.trans empty
      · rcases all _ (List.mem_of_getElem? here) with leaving | ⟨_,other⟩
        · cases leaving
        · exact absurd rfl other
  | start here | freed here | marked here =>
      exact dry.moves here rfl rfl rfl rfl rfl rfl rfl fun before => .inr ⟨(before.resolve_left nofun).1,nofun⟩
  | goOn here running =>
      refine dry.moves here rfl rfl rfl rfl rfl rfl rfl fun before => ?_
      cases running.symm.trans (before.resolve_left nofun).1
  | aborted here | drained here | terminate here | leave here | others here | last here | finish here =>
      exact dry.moves here rfl rfl rfl rfl rfl rfl rfl fun _ => .inl rfl

theorem Dry.writes (dry : Dry env s) (step : WriterStep env outcome s t) : Dry env t := by
  obtain ⟨reader,holding,hashing,writing,writer⟩ := dry
  cases step with
  | taken here first | refused here first => cases first.symm.trans writing
  | written here | torn here | empty here => cases (congrArg WriterPc.writing here).symm.trans writer
  | _ => exact ⟨reader,holding,hashing,writing,rfl⟩

theorem writerStopped_step (stopped : WriterStopped s = true) (step : Step env source s action t)
    (own : action.ofComponent = true) : WriterStopped t = true := by
  cases action with
  | reader outcome => cases (step : ReaderStep env source outcome s t) <;> exact stopped
  | worker k => cases (step : WorkerStep env k s t) <;> exact stopped
  | writer outcome =>
      unfold WriterStopped at stopped
      cases (step : WriterStep env outcome s t) with
      | goOn here running => simpa [here,running,WriterStopped,Session.writer] using stopped
      | taken here first working => simp [here,working] at stopped
      | refused here first failed => simp [WriterStopped,Session.writer,failed]
      | written here | torn here | empty here => simp [here] at stopped
      | failed here => simp [WriterStopped]
      | discarded here | markWritten here | markProcessed here | freed here =>
          simpa [here,WriterStopped,Session.writer,Session.record] using stopped
      | aborted | drained | terminate | provisional | reviewed | revised => rfl
  | start | pause | abort | aborted | aborting => cases own

theorem Quiet.step (quiet : Quiet env s) (ran : sessionStep env source s action = some t) (own : action.ofComponent = true) :
    Quiet env t := by
  have step := sessionStep_sound ran
  rcases quiet with stopped | dry
  · exact .inl (writerStopped_step stopped step own)
  · refine .inr ?_
    cases action with
    | reader outcome => exact dry.reads step
    | worker k => exact dry.works step
    | writer outcome => exact dry.writes step
    | start | pause | abort | aborted | aborting => cases own

theorem Quiet.silent (quiet : Quiet env s) : s.writerTask.pc.writing = false := by
  rcases quiet with stopped | dry
  · unfold WriterStopped at stopped
    cases here : s.writerTask.pc <;> first | rfl | (rw [here] at stopped; cases stopped)
  · exact dry.writer

section task
variable {env : TaskEnv} {p q : Process}

def PollPc.concludes : PollPc → Bool
  | .conclude _ => true
  | _ => false

-- A thread that gives its session up assigns the status of the task only once no block is written any more.
def EndsQuiet (env : TaskEnv) (running : Running) (polling : Polling) : PollAction → Prop
  | .thread _ => polling.pc.concludes = true → Quiet (env.sessionEnv running.config) polling.state
  | .component _ | .client _ => True

instance : Decidable (EndsQuiet env running polling action) :=
  match action with
  | .thread _ => inferInstanceAs (Decidable (_ → _))
  | .component _ | .client _ => inferInstanceAs (Decidable True)

def Writing (p : Process) : Prop := ∃ running, p.running = some running ∧ running.run.state.writerTask.pc.writing = true

def Idle (p : Process) : Prop := p.running = none ∧ (p.pc = .exited ∨ p.task.m_abort = true ∧ ∀ config, p.pc ≠ .init config)

def GivenUp (env : TaskEnv) (p : Process) : Prop := ∃ running, p.running = some running ∧
  (running.run.pc = .leave false ∨ running.run.pc = .left false) ∧ Quiet (env.sessionEnv running.config) running.run.state

theorem assign_abort {line : AbortPc} (abort : task.m_abort = true) : (line.assign task).m_abort = true := by
  cases line <;> first | rfl | exact abort

theorem Idle.step (idle : Idle p) (step : TaskStep env p action q) : Idle q := by
  obtain ⟨none,line⟩ := idle
  cases step with
  | move moves =>
      obtain ⟨abort,outside⟩ := line.resolve_left moves.alive
      refine ⟨none,.inr ⟨abort,fun config same => ?_⟩⟩
      subst same
      cases moves
  | assign here =>
      refine ⟨none,?_⟩
      rcases assigns_cases here with ⟨same,rfl,rfl⟩ | ⟨same,rfl,rfl⟩ | ⟨same,rfl⟩ | ⟨same,rfl,rfl⟩
      · exact .inl rfl
      · exact .inr ⟨(line.resolve_left (by rw [same]; nofun)).1,nofun⟩
      · exact .inl rfl
      · exact .inl rfl
  | create here | truncate here | splitRestore here | clear here =>
      exact ⟨none,.inr ⟨(line.resolve_left (by rw [here]; nofun)).1,nofun⟩⟩
  | splitBackup here =>
      refine ⟨none,.inr ⟨(line.resolve_left (by rw [here]; nofun)).1,fun config => ?_⟩⟩
      dsimp only
      split <;> nofun
  | pop here first running => cases running.symm.trans (line.resolve_left (by rw [here]; nofun)).1
  | opened here => exact absurd here ((line.resolve_left (by rw [here]; nofun)).2 _)
  | poll here present | component present | completed here present | failed here present => cases none.symm.trans present
  | request => exact ⟨none,line⟩
  | client => exact ⟨none,line.imp_right fun known => ⟨assign_abort known.1,known.2⟩⟩

theorem GivenUp.step (given : GivenUp env p) (layout : Layout p) (step : TaskStep env p action q) : Idle q ∨ GivenUp env q := by
  obtain ⟨running,present,line,quiet⟩ := given
  have here : p.pc = .session := layout.mp (by simp [present])
  cases step with
  | move moves => exact absurd here moves.elsewhere.1
  | assign other => exact absurd here (assigns_elsewhere other).1
  | create other | truncate other | splitBackup other | splitRestore other | pop other | opened other | clear other =>
      cases here.symm.trans other
  | poll other found ran =>
      cases Option.some.inj (present.symm.trans found)
      refine .inr ⟨_,rfl,?_⟩
      cases pollNext_sound ran with
      | move moves =>
          cases moves with
          | left leaving joined =>
              rcases line with same | same
              · cases leaving.symm.trans same
                exact ⟨.inr rfl,quiet⟩
              · cases leaving.symm.trans same
          | _ wrong => rcases line with same | same <;> cases same.symm.trans wrong
      | drive drives => cases drives with | _ wrong => rcases line with same | same <;> cases same.symm.trans wrong
      | statistics wrong | table wrong | tableLost wrong | sync wrong | bitmap wrong | bitmapLost wrong | snapshot wrong
      | finalTable wrong | finalSync wrong | finalBitmap wrong | completed wrong | concluded wrong =>
          rcases line with same | same <;> cases same.symm.trans wrong
  | component found ran =>
      cases Option.some.inj (present.symm.trans found)
      cases pollNext_sound ran with
      | component own moved => exact .inr ⟨_,rfl,line,quiet.step moved own⟩
  | completed other found left =>
      cases Option.some.inj (present.symm.trans found)
      rcases line with same | same <;> cases same.symm.trans left
  | failed => exact .inl ⟨rfl,.inl rfl⟩
  | request | client => exact .inr ⟨running,present,line,quiet⟩

-- The status has become a final one only where nothing is written any more. A client that has read INIT may
-- assign ABORTED as late as it likes, but no session is started then.
structure Watched (env : TaskEnv) (p : Process) : Prop where
  queued : Queued env p
  early : p.task.m_status = .INIT → p.pc.preparing = true ∨ p.pc = .prepared
  flagged : ∀ line ∈ p.clients, line ≠ .flag → p.task.m_abort = true
  stale : .aborted ∈ p.clients → Idle p
  ended : p.task.m_status.IsTerminated = true → Idle p ∨ GivenUp env p

theorem Watched.same (watched : Watched env p) (step : TaskStep env p action q) (task : q.task = p.task)
    (clients : q.clients = p.clients) (early : p.pc.preparing = true ∨ p.pc = .prepared → q.pc.preparing = true ∨ q.pc = .prepared) :
    Watched env q := by
  refine ⟨watched.queued.step step,?_,?_,?_,?_⟩
  · rw [task]
    exact fun initial => early (watched.early initial)
  · rw [task,clients]
    exact watched.flagged
  · rw [clients]
    exact fun stale => (watched.stale stale).step step
  · rw [task]
    exact fun ended => (watched.ended ended).elim (fun idle => .inl (idle.step step)) fun given => given.step watched.queued.layout step

theorem not_early {pc : TaskPc} (here : p.pc = pc) (working : pc.preparing = false) (other : pc ≠ .prepared) :
    ¬(p.pc.preparing = true ∨ p.pc = .prepared) := by
  rw [here]
  rintro (early | same)
  · cases working.symm.trans early
  · exact other same

theorem Watched.idle (watched : Watched env p) (abort : p.task.m_abort = true) (early : p.pc.preparing = true ∨ p.pc = .prepared) :
    Idle p := by
  refine ⟨Option.not_isSome_iff_eq_none.mp fun present => ?_,.inr ⟨abort,fun config here => ?_⟩⟩
  · exact not_early (watched.queued.layout.mp present) rfl nofun early
  · exact not_early here rfl nofun early

theorem Watched.client (watched : Watched env p) (calling : p.clients[k]? = some line) (step : TaskStep env p (.client k)
      {p with task := line.assign p.task,clients := p.clients.set k (line.next p.task.m_status)}) :
    Watched env {p with task := line.assign p.task,clients := p.clients.set k (line.next p.task.m_status)} := by
  have present := List.mem_of_getElem? calling
  have later : Idle p ∨ GivenUp env p → _ := fun ended =>
    ended.elim (fun idle => .inl (idle.step step)) fun given => given.step watched.queued.layout step
  refine ⟨watched.queued.step step,?_,?_,?_,?_⟩
  · intro initial
    refine watched.early ?_
    cases line <;> first | exact initial | cases initial
  · intro other inside outside
    by_cases first : line = .flag
    · rw [first]
      rfl
    · exact assign_abort (watched.flagged line present first)
  · intro stale
    rcases List.mem_or_eq_of_mem_set stale with old | new
    · exact (watched.stale old).step step
    · cases line with
      | init =>
          have initial : p.task.m_status = .INIT := by
            by_contra other
            rw [AbortPc.next,if_neg other] at new
            cases new
          exact (watched.idle (watched.flagged _ present nofun) (watched.early initial)).step step
      | terminated =>
          simp only [AbortPc.next] at new
          split at new <;> cases new
      | flag | aborted | aborting | returned => cases new
  · intro ended
    cases line with
    | aborted => exact later (.inl (watched.stale present))
    | aborting => cases ended
    | flag | init | terminated | returned => exact later (watched.ended ended)

theorem Watched.step (watched : Watched env p) (step : TaskStep env p action q) (ends : OnSession (EndsQuiet env) p action) :
    Watched env q := by
  have whole := step
  cases step with
  | move moves =>
      refine watched.same whole rfl rfl fun early => ?_
      cases moves with
      | drained here | aborted here | unopened here | cleared here => exact absurd early (not_early here rfl nofun)
      | _ => exact .inl rfl
  | assign here =>
      have gone : p.running = none := watched.queued.layout.idle rfl (assigns_elsewhere here).1
      refine ⟨watched.queued.step whole,?_,watched.flagged,fun stale => (watched.stale stale).step whole,?_⟩
      · rcases assigns_cases here with ⟨_,rfl,_⟩ | ⟨_,rfl,_⟩ | ⟨same,_⟩ | ⟨_,rfl,_⟩
        · nofun
        · nofun
        · rcases watched.queued.conclude _ same with rfl | rfl <;> nofun
        · nofun
      · intro ended
        rcases assigns_cases here with ⟨_,_,rfl⟩ | ⟨_,rfl,_⟩ | ⟨_,rfl⟩ | ⟨_,_,rfl⟩
        · exact .inl ⟨gone,.inl rfl⟩
        · cases ended
        · exact .inl ⟨gone,.inl rfl⟩
        · exact .inl ⟨gone,.inl rfl⟩
  | create here | truncate here => exact watched.same whole rfl rfl fun _ => .inl rfl
  | splitBackup here =>
      refine watched.same whole rfl rfl fun _ => ?_
      dsimp only
      split
      · exact .inr rfl
      · exact .inl rfl
  | splitRestore here => exact watched.same whole rfl rfl fun _ => .inr rfl
  | pop here | opened here | completed here | failed here | clear here =>
      exact watched.same whole rfl rfl fun early => absurd early (not_early here rfl nofun)
  | poll here present ran =>
      have early : ¬(p.pc.preparing = true ∨ p.pc = .prepared) := not_early here rfl nofun
      have polled := pollNext_sound ran
      cases polled with
      | concluded concluding =>
          rename_i running reply status
          have quiet := ends running present (congrArg PollPc.concludes concluding)
          have given := watched.queued.verdict running present status (congrArg PollPc.verdict concluding)
          refine ⟨watched.queued.step whole,?_,watched.flagged,fun stale => (watched.stale stale).step whole,
            fun _ => .inr ⟨_,rfl,.inl rfl,quiet⟩⟩
          rcases given with rfl | rfl <;> nofun
      | _ => exact watched.same whole rfl rfl fun before => absurd before early
  | component present ran =>
      cases pollNext_sound ran with
      | component own moved => exact watched.same whole rfl rfl id
  | request =>
      refine ⟨watched.queued.step whole,watched.early,fun line inside other => ?_,fun stale => ?_,fun ended => ?_⟩
      · rcases List.mem_append.mp inside with old | new
        · exact watched.flagged line old other
        · exact absurd (List.mem_singleton.mp new) other
      · rcases List.mem_append.mp stale with old | new
        · exact (watched.stale old).step whole
        · cases List.mem_singleton.mp new
      · exact (watched.ended ended).elim (fun idle => .inl (idle.step whole)) fun given => given.step watched.queued.layout whole
  | client calling => exact watched.client calling whole

theorem Watched.new {disk : Disk} : Watched env (.new disk) where
  queued := .new
  early := fun _ => .inl rfl
  flagged := fun _ inside => by cases inside
  stale := fun inside => by cases inside
  ended := fun ended => by cases ended

-- Where the status is assigned only once no block is written any more, no component writes after the status
-- has become final, whatever steps follow.
theorem no_late_write (past : Runs (taskNext env) (OnSession (EndsQuiet env)) (.new disk) actions p)
    (ended : p.task.m_status.IsTerminated = true) (rest : Runs (taskNext env) Anything p later q) : ¬Writing q := by
  have watched : Watched env p := past.invariant (Watched env) .new fun _ _ _ known ran ends => known.step (taskNext_sound ran) ends
  have after := rest.invariant (fun x => Layout x ∧ (Idle x ∨ GivenUp env x)) ⟨watched.queued.layout,watched.ended ended⟩
    fun _ _ _ known ran _ => by
      have step := taskNext_sound ran
      exact ⟨known.1.step step,known.2.elim (fun idle => .inl (idle.step step)) fun given => given.step known.1 step⟩
  rintro ⟨running,present,writing⟩
  rcases after.2 with idle | ⟨other,found,_,quiet⟩
  · cases idle.1.symm.trans present
  · cases Option.some.inj (found.symm.trans present)
    cases quiet.silent.symm.trans writing

instance : Decidable (Writing p) := decidable_of_iff (∃ running ∈ p.running, running.run.state.writerTask.pc.writing = true) .rfl

def abortCall : List TaskAction := .request::.replicate 4 (.client 0)

def abortedActions : List TaskAction := threads 14++readers 10++writers 10++abortCall++threads 11

theorem no_late_write_plain : ∃ p : Process, p.task.m_status = .ABORTED ∧ ¬Writing p := by
  have run : (execute (taskNext plainEnv) (fun p action => decide (OnSession (EndsQuiet plainEnv) p action)) (.new plainDisk)
      abortedActions).any (fun p => decide (p.task.m_status = .ABORTED)) = true := by decide +kernel
  obtain ⟨p,path,good⟩ := execute_ends (fun _ _ => of_decide_eq_true) run
  have aborted := of_decide_eq_true good
  exact ⟨p,aborted,no_late_write path (congrArg TaskStatus.IsTerminated aborted) .nil⟩

-- A client aborts while a block waits in the queue: the writer is past its look at the flag.
def lateActions : List TaskAction := threads 14++readers 7++writers 1++abortCall++threads 13

theorem write_after_abort : ¬∀ p q, Reached (taskNext plainEnv) Anything (.new plainDisk) p →
    p.task.m_status.IsTerminated = true → Reached (taskNext plainEnv) Anything p q → ¬Writing q := by
  intro never
  have run : (execute (taskNext plainEnv) (fun _ _ => true) (.new plainDisk) lateActions).any (fun p => p.task.m_status.IsTerminated &&
      (execute (taskNext plainEnv) (fun _ _ => true) p (writers 1)).any fun q => decide (Writing q)) = true := by decide +kernel
  obtain ⟨p,before,good⟩ := execute_ends (fun _ _ _ => trivial) run
  obtain ⟨terminated,late⟩ := Bool.and_eq_true_iff.mp good
  obtain ⟨q,after,writing⟩ := execute_ends (fun _ _ _ => trivial) late
  exact never p q ⟨_,before⟩ terminated ⟨_,after⟩ (of_decide_eq_true writing)

end task

end VolumeBackup
