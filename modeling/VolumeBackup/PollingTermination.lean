import VolumeBackup.SessionTermination
import VolumeBackup.TerminalStatus

namespace VolumeBackup
open ByteMemory LabelledRuns

def AbortPc.steps : AbortPc → Nat
  | .flag => 4
  | .init => 3
  | .terminated => 2
  | .aborted | .aborting | .returned => 1

def PollPc.steps : PollPc → Nat
  | .start components => 19+components.length
  | .check => 18
  | .isFailed components => 11+components.length
  | .isTerminated components => 7+components.length
  | .statistics => 28
  | .refresh => 27
  | .pause => 26
  | .snapshot => 25
  | .refreshTable _ => 24
  | .refreshWriter _ => 23
  | .refreshBitmap _ => 22
  | .saveBitmap _ _ => 21
  | .saveSnapshot _ => 20
  | .resume => 19
  | .flushTable => 6
  | .flushWriter => 5
  | .flushBitmap => 4
  | .saveFinal _ => 3
  | .completed => 2
  | .abort line _ rest _ => line.steps+5*rest.length+2
  | .conclude _ => 2
  | .leave _ => 1
  | .left _ => 0

def Polling.steps (config : VolumeTaskSharedConfig) (p : Polling) : Nat := p.state.steps config+p.pc.steps

def PollAction.ofTask : PollAction → Bool
  | .thread _ | .component _ => true
  | .client _ => false

def Polling.idles (p : Polling) : PollAction → Bool
  | .thread _ => match p.pc with
    | .isTerminated (component::_) => !(p.state.task component).m_status.IsTerminated
    | _ => false
  | .component action => p.state.idles action
  | .client _ => false

variable {env : TaskEnv} {config : VolumeTaskSharedConfig} {source : Content} {p q : Polling}

theorem abortFrom_steps : (abortFrom status components).steps ≤ 5*components.length+2 := by
  cases components with
  | nil => exact Nat.le_refl _
  | cons component rest =>
      simp only [abortFrom,PollPc.steps,AbortPc.steps,List.length_cons]
      omega

theorem few_components (task : ProtectTask) : task.components.length ≤ 3 := by
  cases task <;> simp [ProtectTask.components]

theorem abort_steps (line : AbortPc) (status : TaskStatus) :
    (abortNext component rest result (line.next status)).steps < line.steps+5*rest.length+2 := by
  have few := @abortFrom_steps result rest
  have later (line : AbortPc) : (abortNext component rest result line).steps ≤ line.steps+5*rest.length+2 ∧
      (line = .returned → (abortNext component rest result line).steps ≤ 5*rest.length+2) := by
    cases line with
    | returned => exact ⟨by simp only [abortNext,AbortPc.steps]; omega,fun _ => few⟩
    | flag | init | aborted | terminated | aborting => exact ⟨Nat.le_refl _,nofun⟩
  cases line with
  | flag => exact Nat.lt_of_le_of_lt (later .init).1 (by simp only [AbortPc.steps]; omega)
  | init =>
      simp only [AbortPc.next]
      split
      · exact Nat.lt_of_le_of_lt (later .aborted).1 (by simp only [AbortPc.steps]; omega)
      · exact Nat.lt_of_le_of_lt (later .terminated).1 (by simp only [AbortPc.steps]; omega)
  | terminated =>
      simp only [AbortPc.next]
      split
      · exact Nat.lt_of_le_of_lt ((later .returned).2 rfl) (by simp only [AbortPc.steps]; omega)
      · exact Nat.lt_of_le_of_lt (later .aborting).1 (by simp only [AbortPc.steps]; omega)
  | aborted | aborting | returned => exact Nat.lt_of_le_of_lt ((later .returned).2 rfl) (by simp only [AbortPc.steps]; omega)

theorem drive_pays {pc : Session → PollPc} (ran : p.drive env config source action pc = some q) (control : action.ofComponent = false) :
    q.state.steps config ≤ p.state.steps config ∧ q.pc = pc q.state := by
  obtain ⟨state,stepped,rfl⟩ := drive_parts ran
  have paid := session_pays stepped
  have none : (p.state.waits action).length = 0 := by
    unfold Session.waits
    cases action with
    | reader | worker | writer => cases control
    | start | pause | abort | aborted | aborting => rfl
  rw [none,control] at paid
  exact ⟨paid,rfl⟩

theorem aborting_pays (here : p.pc = .abort line component rest status) (ran : pollStep env config source reply p = some q) :
    q.steps config+1 ≤ p.steps config := by
  have less := @abort_steps component rest status line (p.state.task component).m_status
  unfold pollStep at ran
  rw [here] at ran
  unfold Polling.steps
  rw [here]
  cases line with
  | flag | aborted | aborting =>
      obtain ⟨fewer,next⟩ := drive_pays ran rfl
      rw [next]
      simp only [PollPc.steps] at less ⊢
      omega
  | init | terminated | returned =>
      cases Option.some.inj ran
      simp only [PollPc.steps] at less ⊢
      omega

theorem thread_pays (ran : pollStep env config source reply p = some q) :
    q.steps config+1 ≤ p.steps config+28*(p.idles (.thread reply)).toNat := by
  have few := few_components env.task
  cases pollStep_sound ran with
  | move moves =>
      cases moves with
      | aborts here =>
          have short := @abortFrom_steps .ABORTED env.task.components
          have now : PollPc.check.steps = 18 := rfl
          simp only [Polling.steps,here]
          omega
      | allTerminated here =>
          simp only [Polling.steps,here]
          split <;> simp only [PollPc.steps] <;> omega
      | running here =>
          rename_i component rest
          have waiting : p.idles (.thread reply) = true := by
            cases gone : (p.state.task component).m_status.IsTerminated with
            | true => simp [pollStep,here,gone] at ran
            | false => simp [Polling.idles,here,gone]
          simp [Polling.steps,here,PollPc.steps,waiting]
          omega
      | reads here => exact Nat.le_add_right_of_le (aborting_pays here ran)
      | goOn here | noneFailed here | notFailed here | terminated here | failed here | notDue here | takenPlain here | unsynced here
      | noBitmap here =>
          simp [Polling.steps,here,PollPc.steps]
          omega
      | started here | due here | taken here | fresh here | noTable here | final here | left here =>
          simp [Polling.steps,here,PollPc.steps]
  | drive drives stepped =>
      cases drives with
      | assigned here => exact Nat.le_add_right_of_le (aborting_pays here ran)
      | startFailed here =>
          have short := @abortFrom_steps .FAILED env.task.components
          have paid := ControlStep.pays (sessionStep_sound stepped)
          have now (components : List Component) : (PollPc.start components).steps = 19+components.length := rfl
          simp only [Polling.steps,here,now]
          exact Nat.le_add_right_of_le (by simp only [TaskEnv.sessionEnv] at paid; omega)
      | started here | paused here | resumed here =>
          have paid := ControlStep.pays (sessionStep_sound stepped)
          simp [Polling.steps,here,PollPc.steps,TaskEnv.sessionEnv] at paid ⊢
          omega
  | tableLost here | bitmapLost here =>
      simp [Polling.steps,Polling.saveTable,Polling.saveCheckpoint,here,PollPc.steps]
      omega
  | statistics here | table here | sync here | bitmap here | snapshot here | finalTable here | finalSync here | finalBitmap here
  | completed here | concluded here =>
      simp [Polling.steps,Polling.saveTable,Polling.saveCheckpoint,Polling.sync,here,PollPc.steps]

theorem poll_pays (ran : pollNext env config source p action = some q) :
    q.steps config+action.ofTask.toNat ≤ p.steps config+28*(p.idles action).toNat := by
  cases action with
  | thread reply => exact thread_pays ran
  | component action =>
      unfold pollNext at ran
      dsimp only at ran
      split at ran
      · rename_i own
        obtain ⟨state,stepped,rfl⟩ := Option.map_eq_some_iff.mp ran
        have paid := session_pays stepped
        rw [own] at paid
        have waited : (p.state.waits action).length = (p.idles (.component action)).toNat := by
          unfold Session.waits Polling.idles
          dsimp only
          cases p.state.idles action <;> rfl
        simp only [TaskEnv.sessionEnv,waited] at paid
        simp only [Polling.steps,PollAction.ofTask]
        omega
      · cases ran
  | client line =>
      cases Option.some.inj ran
      exact Nat.le_refl _

def WorkerPc.ended : WorkerPc → Bool
  | .leave | .test | .finish | .exited => true
  | _ => false

def Fresh (s : Session) : Component → Prop
  | .readerTask => s.readerTask.task.m_status = .INIT ∧ s.readerTask.pc = .notStarted
  | .hasherTask => s.hasherTask.task.m_status = .INIT ∧ s.hasherTask.m_workers = []
  | .writerTask => s.writerTask.task.m_status = .INIT ∧ s.writerTask.pc = .notStarted

def Alive (s : Session) : Component → Prop
  | .readerTask => s.readerTask.pc.live = true
  | .hasherTask => s.hasherTask.m_workers ≠ [] ∧ ∀ pc ∈ s.hasherTask.m_workers, pc.ended = false
  | .writerTask => s.writerTask.pc.live = true

def Launched (s : Session) (component : Component) : Prop := (s.task component).m_status.IsTerminated = true ∨ Alive s component

structure Deciding (s : Session) : Prop where
  reader : ∀ status, s.readerTask.pc = .terminate status → status.IsTerminated = true
  workers : ∀ status, .terminate status ∈ s.hasherTask.m_workers → status.IsTerminated = true
  writer : ∀ status, s.writerTask.pc = .terminate status → status.IsTerminated = true

section session
variable {env : SessionEnv} {s t : Session} {component : Component}

theorem Deciding.step (deciding : Deciding s) (step : Step env source s action t) : Deciding t := by
  obtain ⟨reader,workers,writer⟩ := deciding
  have moved {k : Nat} {pc : WorkerPc} (assigns : ∀ status, pc = .terminate status → status.IsTerminated = true) (status : TaskStatus)
      (found : .terminate status ∈ s.hasherTask.m_workers.set k pc) : status.IsTerminated = true := by
    rcases Slots.of_set found with same | earlier
    · exact assigns status same.symm
    · exact workers status earlier
  cases action with
  | reader outcome =>
      cases (step : ReaderStep env source outcome s t) with
      | completed | stopped | aborted | timeout | unread => exact ⟨by rintro status ⟨⟩; rfl,workers,writer⟩
      | retried => exact ⟨reader,workers,writer⟩
      | _ => exact ⟨by rintro status ⟨⟩,workers,writer⟩
  | worker k =>
      cases (step : WorkerStep env k s t) with
      | aborted | drained => exact ⟨reader,moved (by rintro status ⟨⟩; rfl),writer⟩
      | hashed =>
          refine ⟨reader,moved ?_,writer⟩
          unfold hashedPc
          split <;> rintro status ⟨⟩
      | _ => exact ⟨reader,moved (by rintro status ⟨⟩),writer⟩
  | writer outcome =>
      cases (step : WriterStep env outcome s t) with
      | aborted | drained => exact ⟨reader,workers,by rintro status ⟨⟩; rfl⟩
      | _ => exact ⟨reader,workers,by rintro status ⟨⟩⟩
  | start component =>
      cases (step : ControlStep env _ s t) with
      | startReader => exact ⟨by rintro status ⟨⟩,workers,writer⟩
      | hasherIdle => exact ⟨reader,workers,writer⟩
      | startHasher => exact ⟨reader,fun status found => (by cases List.eq_of_mem_replicate found),writer⟩
      | startWriter => exact ⟨reader,workers,by rintro status ⟨⟩⟩
  | pause paused =>
      cases (step : ControlStep env _ s t)
      exact ⟨reader,workers,writer⟩
  | abort component | aborted component | aborting component =>
      cases (step : ControlStep env _ s t)
      cases component <;> exact ⟨reader,workers,writer⟩

theorem Fresh.own (fresh : Fresh s component) (step : Step env source s action t) (own : action.ofComponent = true) : Fresh t component := by
  cases action with
  | reader outcome =>
      cases component with
      | readerTask =>
          have idle := fresh.2
          cases (step : ReaderStep env source outcome s t) with
          | retried => exact fresh
          | _ here => cases here.symm.trans idle
      | hasherTask | writerTask => cases (step : ReaderStep env source outcome s t) <;> exact fresh
  | worker k =>
      cases component with
      | hasherTask =>
          have idle := fresh.2
          cases (step : WorkerStep env k s t) with
          | _ here =>
              rw [idle] at here
              cases here
      | readerTask | writerTask => cases (step : WorkerStep env k s t) <;> exact fresh
  | writer outcome =>
      cases component with
      | writerTask =>
          have idle := fresh.2
          cases (step : WriterStep env outcome s t) with
          | _ here => cases here.symm.trans idle
      | readerTask | hasherTask => cases (step : WriterStep env outcome s t) <;> exact fresh
  | start | pause | abort | aborted | aborting => cases own

theorem Launched.own (begun : Launched s component) (deciding : Deciding s) (step : Step env source s action t)
    (own : action.ofComponent = true) : Launched t component := by
  cases action with
  | reader outcome =>
      cases component with
      | readerTask =>
          cases (step : ReaderStep env source outcome s t) with
          | retried => exact begun
          | terminate here => exact .inl (deciding.reader _ here)
          | finishHashing here | finishWrite here =>
              refine .inl (begun.resolve_right fun alive => ?_)
              simp [Alive,ReaderPc.live,here] at alive
          | _ => exact .inr rfl
      | hasherTask | writerTask => cases (step : ReaderStep env source outcome s t) <;> exact begun
  | worker k =>
      cases component with
      | hasherTask => 
          have stays {u : Session} {old pc : WorkerPc} (here : s.hasherTask.m_workers[k]? = some old) (goes : old.ended = true ∨ pc.ended = false)
              (status : u.hasherTask.task = s.hasherTask.task) (workers : u.hasherTask.m_workers = s.hasherTask.m_workers.set k pc) : Launched u .hasherTask := by
            rcases begun with ended | ⟨some,alive⟩
            · left
              simpa only [Session.task,status] using ended
            · right
              have live := alive _ (Slots.present here)
              refine ⟨by rw [workers]; simpa using some,?_⟩
              rw [workers]
              exact Slots.all_set alive (goes.resolve_left (by simp [live]))
          cases (step : WorkerStep env k s t) with
          | terminate here => exact .inl (deciding.workers _ (Slots.present here))
          | start here | aborted here | goOn here | drained here | popped here | unchanged here | changed here | freed here | marked here
          | pushed here => exact stays here (.inr rfl) rfl rfl
          | hashed here same =>
              refine stays here (.inr ?_) rfl rfl
              unfold hashedPc
              split <;> rfl
          | leave here | others here | last here | finish here => exact stays here (.inl rfl) rfl rfl
      | readerTask | writerTask => cases (step : WorkerStep env k s t) <;> exact begun
  | writer outcome =>
      cases component with
      | writerTask =>
          cases (step : WriterStep env outcome s t) with
          | terminate here => exact .inl (deciding.writer _ here)
          | provisional here | reviewed here =>
              refine .inl (begun.resolve_right fun alive => ?_)
              simp [Alive,WriterPc.live,here] at alive
          | revised here => exact .inl rfl
          | _ => exact .inr rfl
      | readerTask | hasherTask => cases (step : WriterStep env outcome s t) <;> exact begun
  | start | pause | abort | aborted | aborting => cases own

theorem start_begun (ran : s.start env component = some t) : Launched t component ∧
    ∀ other ≠ component, (Fresh s other → Fresh t other) ∧ (Launched s other → Launched t other) := by
  cases component with
  | readerTask =>
      dsimp only [Session.start] at ran
      split at ran
      · cases Option.some.inj ran
        refine ⟨.inr rfl,fun other apart => ?_⟩
        cases other with
        | readerTask => exact absurd rfl apart
        | hasherTask | writerTask => exact ⟨id,id⟩
      · cases ran
  | hasherTask =>
      dsimp only [Session.start] at ran
      have kept {u : Session} (reader : u.readerTask = s.readerTask) (writer : u.writerTask = s.writerTask) (other : Component)
          (apart : other ≠ .hasherTask) : (Fresh s other → Fresh u other) ∧ (Launched s other → Launched u other) := by
        cases other with
        | hasherTask => exact absurd rfl apart
        | readerTask | writerTask => simp only [Fresh,Launched,Alive,Session.task,reader,writer]; exact ⟨id,id⟩
      split at ran
      · cases ran
      · split at ran
        · cases Option.some.inj ran
          exact ⟨.inl rfl,kept rfl rfl⟩
        · split at ran
          · cases Option.some.inj ran
            exact ⟨.inl rfl,kept rfl rfl⟩
          · rename_i number
            cases Option.some.inj ran
            refine ⟨.inr ⟨?_,fun pc inside => by rw [List.eq_of_mem_replicate inside]; rfl⟩,kept rfl rfl⟩
            intro none
            exact number (.inl (UInt32.toNat_inj.mp (by simpa using none)))
  | writerTask =>
      dsimp only [Session.start] at ran
      split at ran
      · cases Option.some.inj ran
        refine ⟨.inr rfl,fun other apart => ?_⟩
        cases other with
        | writerTask => exact absurd rfl apart
        | readerTask | hasherTask => exact ⟨id,id⟩
      · cases ran

theorem Fresh.starts (fresh : Fresh s component) : (s.start env component).isSome = true := by
  cases component with
  | readerTask | writerTask => simp [Session.start,fresh.1,fresh.2]
  | hasherTask =>
      dsimp only [Session.start]
      rw [if_neg (by simp [fresh.1,fresh.2])]
      split
      · rfl
      · split <;> rfl

theorem Launched.unjoined (begun : Launched s component) (running : (s.task component).m_status.IsTerminated = false) : s.Joined = false := by
  have alive := begun.resolve_left (by simp [running])
  apply Bool.eq_false_iff.mpr
  intro joined
  have gone := joined_all.mp joined
  cases component with
  | readerTask =>
      refine gone .reader ⟨?_,?_⟩ <;> intro here <;> simp [Alive,ReaderPc.live,here] at alive
  | hasherTask =>
      obtain ⟨pc,inside⟩ := List.exists_mem_of_ne_nil _ alive.1
      obtain ⟨k,here⟩ := List.mem_iff_getElem?.mp inside
      refine gone (.worker k) ⟨pc,here,?_⟩
      rintro rfl
      cases alive.2 _ inside
  | writerTask =>
      refine gone .writer ⟨?_,?_⟩ <;> intro here <;> simp [Alive,WriterPc.live,here] at alive

end session

def PollPc.unstarted : PollPc → List Component
  | .start components => components
  | _ => []

def PollPc.pausing : PollPc → Bool
  | .snapshot | .refreshTable _ | .refreshWriter _ | .refreshBitmap _ | .saveBitmap _ _ | .saveSnapshot _ | .resume => true
  | _ => false

structure Attended (env : TaskEnv) (config : VolumeTaskSharedConfig) (p : Polling) : Prop where
  starting : Starting env config p
  advancing : Advancing (env.sessionEnv config) p.state
  deciding : Deciding p.state
  fresh : ∀ component ∈ p.pc.unstarted, Fresh p.state component
  begun : p.pc.doomed = false → ∀ component ∈ env.task.components, component ∉ p.pc.unstarted → Launched p.state component
  sampled : ∀ rest, p.pc = .isTerminated rest → ∀ component ∈ rest, component ∈ env.task.components
  resumed : p.state.readerTask.m_pause = true → p.pc.pausing = true

theorem components_apart (task : ProtectTask) : task.components.Nodup := by
  cases task <;> simp [ProtectTask.components]

theorem abortFrom_unstarted (status : TaskStatus) (components : List Component) :
    (abortFrom status components).unstarted = [] ∧ (abortFrom status components).pausing = false := by
  cases components <;> exact ⟨rfl,rfl⟩

theorem aborts_unstarted {pc : PollPc} {component : Component} {rest : List Component}
    (next : (∃ later, pc = .abort later component rest status) ∨ pc = abortFrom status rest) :
    pc.unstarted = [] ∧ pc.pausing = false ∧ pc.doomed = true := by
  rcases next with ⟨later,rfl⟩ | rfl
  · exact ⟨rfl,rfl,rfl⟩
  · exact ⟨(abortFrom_unstarted _ _).1,(abortFrom_unstarted _ _).2,abortFrom_doomed _ _⟩

theorem Step.pauses {env : SessionEnv} {s t : Session} (step : Step env source s action t) (other : ∀ paused, action ≠ .pause paused) :
    t.readerTask.m_pause = s.readerTask.m_pause := by
  cases action with
  | reader outcome => cases (step : ReaderStep env source outcome s t) <;> rfl
  | worker k => cases (step : WorkerStep env k s t) <;> rfl
  | writer outcome => cases (step : WriterStep env outcome s t) <;> rfl
  | start component => cases (step : ControlStep env _ s t) <;> rfl
  | pause paused => exact absurd rfl (other paused)
  | abort component | aborted component | aborting component =>
      cases (step : ControlStep env _ s t)
      cases component <;> rfl

theorem Attended.moves (attended : Attended env config p) (state : q.state = p.state) (starting : Starting env config q)
    (none : q.pc.unstarted = []) (before : q.pc.doomed = false → p.pc.doomed = false ∧ p.pc.unstarted = [])
    (sampled : ∀ rest, q.pc = .isTerminated rest → ∀ component ∈ rest, component ∈ env.task.components)
    (pausing : p.pc.pausing = true → q.pc.pausing = true) : Attended env config q := by
  refine ⟨starting,?_,?_,?_,?_,sampled,?_⟩
  · rw [state]; exact attended.advancing
  · rw [state]; exact attended.deciding
  · rw [none]; exact fun component inside => by cases inside
  · rw [state]
    intro live component asked _
    obtain ⟨undoomed,started⟩ := before live
    exact attended.begun undoomed component asked (by simp [started])
  · rw [state]
    exact fun paused => pausing (attended.resumed paused)

theorem Attended.started (attended : Attended env config p) (pooled : Pooled config) (here : p.pc = .start (component::rest))
    (running : (state.task component).m_status ≠ .FAILED) (ran : sessionStep (env.sessionEnv config) source p.state (.start component) = some state)
    (starting : Starting env config {p with state := state,pc := .start rest}) : Attended env config {p with state := state,pc := .start rest} := by
  have left := attended.starting.next here
  have apart : component ∉ rest := (List.nodup_cons.mp ((components_apart env.task).sublist left.sublist)).1
  obtain ⟨begun,others⟩ := start_begun ran
  have step := sessionStep_sound ran
  have unstarted : p.pc.unstarted = component::rest := by rw [here]; rfl
  refine ⟨starting,?_,attended.deciding.step step,?_,?_,nofun,?_⟩
  · exact attended.advancing.step pooled step (attended.starting.inOrder (.started here running))
  · intro other inside
    exact (others other fun same => apart (same ▸ inside)).1 (attended.fresh other (unstarted ▸ List.mem_cons_of_mem _ inside))
  · intro _ other asked later
    by_cases same : other = component
    · exact same ▸ begun
    · refine (others other same).2 (attended.begun (by rw [here]; rfl) other asked ?_)
      rw [unstarted]
      exact List.not_mem_cons_of_ne_of_not_mem same later
  · intro paused
    have before := attended.resumed ((step.pauses nofun).symm.trans paused)
    rw [here] at before
    cases before

theorem Attended.drives (attended : Attended env config p) (pooled : Pooled config) (drives : PollDrive env p state action pc)
    (ran : sessionStep (env.sessionEnv config) source p.state action = some state)
    (starting : Starting env config {p with state := state,pc := pc}) : Attended env config {p with state := state,pc := pc} := by
  have step := sessionStep_sound ran
  have advancing := attended.advancing.step pooled step (attended.starting.inOrder drives)
  have deciding := attended.deciding.step step
  -- The session is given up: nothing is asked of its components any more.
  have givenUp (none : pc.unstarted = []) (doomed : pc.doomed = true) (resumed : p.pc.pausing = false)
      (other : ∀ paused, action ≠ .pause paused) : Attended env config {p with state := state,pc := pc} := by
    refine ⟨starting,advancing,deciding,?_,fun live => ?_,?_,fun paused => ?_⟩
    · exact fun component inside => by rw [none] at inside; cases inside
    · cases doomed.symm.trans live
    · rintro rest rfl
      cases doomed
    · cases resumed.symm.trans (attended.resumed ((step.pauses other).symm.trans paused))
  have kept {paused : Bool} (same : action = .pause paused) (component : Component) (begun : Launched p.state component) : Launched state component := by
    subst same
    cases Option.some.inj ran
    cases component <;> exact begun
  cases drives with
  | started here running => exact attended.started pooled here running ran starting
  | startFailed here failed =>
      exact givenUp (abortFrom_unstarted _ _).1 (abortFrom_doomed _ _) (by rw [here]; rfl) nofun
  | paused here =>
      refine ⟨starting,advancing,deciding,fun component inside => (by cases inside),?_,nofun,fun _ => rfl⟩
      exact fun _ component asked _ => kept rfl component (attended.begun (by rw [here]; rfl) component asked (by rw [here]; nofun))
  | resumed here =>
      refine ⟨starting,advancing,deciding,fun component inside => (by cases inside),?_,nofun,?_⟩
      · exact fun _ component asked _ => kept rfl component (attended.begun (by rw [here]; rfl) component asked (by rw [here]; nofun))
      · cases Option.some.inj ran
        nofun
  | assigned here assigns next =>
      obtain ⟨none,_,doomed⟩ := aborts_unstarted next
      refine givenUp none doomed (by rw [here]; rfl) ?_
      rcases assigns with rfl | rfl | rfl <;> nofun

theorem Attended.step (attended : Attended env config p) (pooled : Pooled config)
    (plain : env.task.isBackup = false → config.hasherEnabled = false) (step : PollStep env config source p action q) :
    Attended env config q := by
  have starting := attended.starting.step plain step
  -- From a line at which the components have been started, and the reader goes on.
  have goes {pc : PollPc} (here : p.pc = pc) (resumed : pc.pausing = false) (none : q.pc.unstarted = []) (state : q.state = p.state)
      (before : q.pc.doomed = false → pc.doomed = false ∧ pc.unstarted = [])
      (sampled : ∀ rest, q.pc = .isTerminated rest → ∀ component ∈ rest, component ∈ env.task.components) : Attended env config q := by
    subst here
    exact attended.moves state starting none before sampled fun paused => by cases resumed.symm.trans paused
  have gives {pc : PollPc} (here : p.pc = pc) (resumed : pc.pausing = false) (state : q.state = p.state) (none : q.pc.unstarted = [])
      (doomed : q.pc.doomed = true) : Attended env config q := by
    refine goes here resumed none state (fun live => by cases doomed.symm.trans live) fun rest same => ?_
    rw [same] at doomed
    cases doomed
  have paused {pc : PollPc} (here : p.pc = pc) (before : pc.doomed = false ∧ pc.unstarted = []) (none : q.pc.unstarted = [])
      (state : q.state = p.state) (still : q.pc.pausing = true) : Attended env config q := by
    subst here
    refine attended.moves state starting none (fun _ => before) ?_ fun _ => still
    intro rest same
    rw [same] at still
    cases still
  cases step with
  | move moves =>
      cases moves with
      | started here => exact goes here rfl rfl rfl (fun _ => ⟨rfl,rfl⟩) nofun
      | aborts here => exact gives here rfl rfl (abortFrom_unstarted _ _).1 (abortFrom_doomed _ _)
      | noneFailed here =>
          refine goes here rfl rfl rfl (fun _ => ⟨rfl,rfl⟩) ?_
          rintro rest ⟨⟩ component inside
          exact inside
      | terminated here =>
          refine goes here rfl rfl rfl (fun _ => ⟨rfl,rfl⟩) ?_
          rintro rest ⟨⟩ component inside
          exact attended.sampled _ here component (List.mem_cons_of_mem _ inside)
      | allTerminated here =>
          refine goes here rfl ?_ rfl (fun _ => ⟨rfl,rfl⟩) ?_
          · dsimp only
            split <;> rfl
          · dsimp only
            split <;> nofun
      | reads here next =>
          obtain ⟨none,_,doomed⟩ := aborts_unstarted next
          exact gives here rfl rfl none doomed
      | left here =>
          rename_i returned joined
          refine goes here rfl rfl rfl (fun live => ⟨?_,rfl⟩) nofun
          cases returned
          · cases live
          · rfl
      | goOn here | failed here | notFailed here | running here | due here | notDue here | noTable here | final here | noBitmap here =>
          exact goes here rfl rfl rfl (fun _ => ⟨rfl,rfl⟩) nofun
      | taken here | takenPlain here | unsynced here | fresh here => exact paused here ⟨rfl,rfl⟩ rfl rfl rfl
  | drive drives ran => exact attended.drives pooled drives ran starting
  | component own ran =>
      have step := sessionStep_sound ran
      refine ⟨starting,?_,attended.deciding.step step,?_,?_,attended.sampled,fun paused => ?_⟩
      · refine attended.advancing.step pooled step ?_
        rename_i inner state
        cases inner with
        | reader | worker | writer => trivial
        | start | pause | abort | aborted | aborting => cases own
      · exact fun component inside => (attended.fresh component inside).own step own
      · exact fun live component asked later => (attended.begun live component asked later).own attended.deciding step own
      · refine attended.resumed ((step.pauses ?_).symm.trans paused)
        rintro other rfl
        cases own
  | client =>
      exact ⟨starting,attended.advancing,attended.deciding,attended.fresh,attended.begun,attended.sampled,attended.resumed⟩
  | table here | tableLost here | sync here | bitmap here | bitmapLost here | snapshot here => exact paused here ⟨rfl,rfl⟩ rfl rfl rfl
  | statistics here | finalTable here | finalSync here | finalBitmap here | completed here | concluded here =>
      exact goes here rfl rfl rfl (by first | exact fun _ => ⟨rfl,rfl⟩ | nofun) nofun

theorem Attended.opened {disk : Disk} {shared : TaskState} {running : Running} (pooled : Pooled config)
    (plain : env.task.isBackup = false → config.hasherEnabled = false) (made : env.openSession disk config reply = some running) :
    Attended env config {toTaskState := shared,toSessionRun := running.run} := by
  obtain ⟨context,source,target,_,_,_,rfl⟩ := open_parts made
  have advancing : Advancing (env.sessionEnv config) (.new config context.hashingContext context.processedBitmap context.writtenBitmap
    context.counter target) := .new pooled
  refine ⟨⟨?_,?_,?_⟩,advancing,⟨nofun,nofun,nofun⟩,?_,?_,nofun,nofun⟩
  · rintro rest ⟨⟩
    exact List.suffix_refl _
  · rintro rest ⟨⟩ absent
    exact absurd (reader_asked _) absent
  · rintro rest ⟨⟩ absent hasher
    cases task : env.task with
    | backup => simp [task,ProtectTask.components] at absent
    | restore =>
        rw [plain (by simp [task,ProtectTask.isBackup])] at hasher
        cases hasher
  · intro component _
    cases component <;> exact ⟨rfl,rfl⟩
  · exact fun _ component asked later => absurd asked later

theorem drive_some {pc : Session → PollPc} (ran : (sessionStep (env.sessionEnv config) source p.state action).isSome = true) :
    (p.drive env config source action pc).isSome = true := by
  unfold Polling.drive
  rw [Option.isSome_map]
  exact ran

theorem Attended.goesOn (attended : Attended env config p) (live : ∀ returned, p.pc ≠ .left returned) :
    ∃ action q, action.ofTask = true ∧ pollNext env config source p action = some q ∧ p.idles action = false := by
  have own (resumed : p.pc.pausing = false) (running : p.state.Joined = false) :
      ∃ action q, action.ofTask = true ∧ pollNext env config source p action = some q ∧ p.idles action = false := by
    have unpaused : p.state.readerTask.m_pause = false := by
      cases paused : p.state.readerTask.m_pause with
      | false => rfl
      | true => cases resumed.symm.trans (attended.resumed paused)
    have moving : ∃ action t, action.ofComponent = true ∧ sessionStep (env.sessionEnv config) source p.state action = some t ∧
        p.state.waits action = [] := attended.advancing.goesOn unpaused running
    obtain ⟨action,state,own,ran,busy⟩ := moving
    refine ⟨.component action,_,rfl,by simp [pollNext,own,ran]; rfl,?_⟩
    cases idles : p.state.idles action with
    | false => exact idles
    | true => simp [Session.waits,idles] at busy
  have thread (ran : (pollStep env config source .yes p).isSome = true) (busy : p.idles (.thread .yes) = false) :
      ∃ action q, action.ofTask = true ∧ pollNext env config source p action = some q ∧ p.idles action = false := by
    obtain ⟨q,ran⟩ := Option.isSome_iff_exists.mp ran
    exact ⟨.thread .yes,q,rfl,ran,busy⟩
  cases here : p.pc with
  | left returned => exact absurd here (live returned)
  | leave returned =>
      cases joined : p.state.Joined with
      | false => exact own (by rw [here]; rfl) joined
      | true => exact thread (by simp [pollStep,here,joined]) (by simp [Polling.idles,here])
  | isTerminated components =>
      cases components with
      | nil => exact thread (by simp [pollStep,here]) (by simp [Polling.idles,here])
      | cons component rest =>
          cases gone : (p.state.task component).m_status.IsTerminated with
          | true => exact thread (by simp [pollStep,here]) (by simp [Polling.idles,here,gone])
          | false =>
              have begun := attended.begun (by rw [here]; rfl) component (attended.sampled _ here component List.mem_cons_self) (by simp [here,PollPc.unstarted])
              exact own (by rw [here]; rfl) (begun.unjoined gone)
  | start components =>
      cases components with
      | nil => exact thread (by simp [pollStep,here]) (by simp [Polling.idles,here])
      | cons component rest =>
          have fresh := attended.fresh component (by simp [here,PollPc.unstarted])
          refine thread ?_ (by simp [Polling.idles,here])
          simp only [pollStep,here]
          exact drive_some fresh.starts
  | isFailed components =>
      cases components <;> exact thread (by simp [pollStep,here]) (by simp [Polling.idles,here])
  | abort line component rest status =>
      refine thread ?_ (by simp [Polling.idles,here])
      simp only [pollStep,here]
      cases line <;> first | exact drive_some rfl | rfl
  | pause | resume =>
      refine thread ?_ (by simp [Polling.idles,here])
      simp only [pollStep,here]
      exact drive_some rfl
  | flushTable =>
      refine thread ?_ (by simp [Polling.idles,here])
      simp only [pollStep,here]
      split <;> rfl
  | _ => exact thread (by simp [pollStep,here]) (by simp [Polling.idles,here])

end VolumeBackup
