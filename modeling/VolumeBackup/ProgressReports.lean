import VolumeBackup.SessionStandstill

namespace VolumeBackup
open ByteMemory LabelledRuns

inductive StatisticsField where
  | bytesToRead | bytesRead | blocksToHash | blocksHashed | bytesToWrite | bytesWritten
  deriving DecidableEq, Repr

def StatisticsField.all : List StatisticsField := [.bytesToRead,.bytesRead,.blocksToHash,.blocksHashed,.bytesToWrite,.bytesWritten]

def TaskStatistics.get (statistics : TaskStatistics) : StatisticsField → Nat
  | .bytesToRead => statistics.bytesToRead
  | .bytesRead => statistics.bytesRead
  | .blocksToHash => statistics.blocksToHash
  | .blocksHashed => statistics.blocksHashed
  | .bytesToWrite => statistics.bytesToWrite
  | .bytesWritten => statistics.bytesWritten

def TaskStatistics.set (statistics : TaskStatistics) (value : Nat) : StatisticsField → TaskStatistics
  | .bytesToRead => {statistics with bytesToRead := value}
  | .bytesRead => {statistics with bytesRead := value}
  | .blocksToHash => {statistics with blocksToHash := value}
  | .blocksHashed => {statistics with blocksHashed := value}
  | .bytesToWrite => {statistics with bytesToWrite := value}
  | .bytesWritten => {statistics with bytesWritten := value}

inductive StatisticsUpdate where
  | running | completed
  deriving DecidableEq, Repr

-- A process whose updates of the statistics take one counter at a time: its own copy of them, which changes at one stroke,
-- is not looked at. While m_statisticMutex is held, the update that holds it still has some counters to load.
structure Reporting where
  process : Process
  m_currentSessionStatistics : TaskStatistics := {}
  m_completedSessionStatistics : TaskStatistics := {}
  m_statisticMutex : Option (StatisticsUpdate × List StatisticsField) := none

def Reporting.new (disk : Disk) : Reporting := {process := .new disk}

def Reporting.GetStatistics (r : Reporting) : TaskStatistics := r.m_completedSessionStatistics.plus r.m_currentSessionStatistics

inductive ReportAction where
  | poll
  | task (action : TaskAction)

def PollPc.update : PollPc → Option StatisticsUpdate
  | .statistics => some .running
  | .completed => some .completed
  | _ => none

def Process.update (p : Process) : Option StatisticsUpdate :=
  if p.pc = .session then p.running.bind fun running => running.run.pc.update else none

def Reporting.load (r : Reporting) (update : StatisticsUpdate) (counter : SessionCounter) (field : StatisticsField) : Reporting :=
  let value := counter.statistics.get field
  match update with
  | .running => {r with m_currentSessionStatistics := r.m_currentSessionStatistics.set value field}
  | .completed => {r with
      m_completedSessionStatistics := r.m_completedSessionStatistics.set (r.m_completedSessionStatistics.get field+value) field}

-- Behind its loads the second update clears the statistics of the running session.
def Reporting.unlock (r : Reporting) (update : StatisticsUpdate) (q : Process) : Reporting :=
  let current := match update with
    | .running => r.m_currentSessionStatistics
    | .completed => {}
  {r with process := q,m_currentSessionStatistics := current,m_statisticMutex := none}

section machine
variable (env : TaskEnv)

def reportStep (reply : Reply) (r : Reporting) : Option Reporting :=
  match r.m_statisticMutex with
  | some (update,field::rest) => r.process.running.map fun running =>
      {r.load update running.run.state.counter field with m_statisticMutex := some (update,rest)}
  | some (update,[]) => (taskStep env reply r.process).map (r.unlock update)
  | none =>
    match r.process.update with
    | some update => some {r with m_statisticMutex := some (update,StatisticsField.all)}
    | none => (taskStep env reply r.process).map fun q => {r with process := q}

def reportNext (r : Reporting) : ReportAction → Option Reporting
  | .poll => if r.m_statisticMutex.isNone then some r else none
  | .task (.thread reply) => reportStep env reply r
  | .task action => (taskNext env r.process action).map fun q => {r with process := q}

def reports (r : Reporting) : ReportAction → List TaskStatistics
  | .poll => [r.GetStatistics]
  | .task _ => []

inductive ReportStep (r : Reporting) : ReportAction → Reporting → Prop where
  | poll (free : r.m_statisticMutex = none) : ReportStep r .poll r
  | lock (free : r.m_statisticMutex = none) (reached : r.process.update = some update) :
      ReportStep r (.task (.thread reply)) {r with m_statisticMutex := some (update,StatisticsField.all)}
  | load (held : r.m_statisticMutex = some (update,field::rest)) (present : r.process.running = some running) :
      ReportStep r (.task (.thread reply)) {r.load update running.run.state.counter field with m_statisticMutex := some (update,rest)}
  | unlock (held : r.m_statisticMutex = some (update,[])) (step : TaskStep env r.process (.thread reply) q) :
      ReportStep r (.task (.thread reply)) (r.unlock update q)
  | task (step : TaskStep env r.process action q)
      (free : ∀ reply, action = .thread reply → r.m_statisticMutex = none ∧ r.process.update = none) :
      ReportStep r (.task action) {r with process := q}

end machine

variable {env : TaskEnv} {r t : Reporting}

theorem reportNext_sound (ran : reportNext env r action = some t) : ReportStep env r action t := by
  cases action with
  | poll =>
      simp only [reportNext] at ran
      split at ran
      · cases Option.some.inj ran
        exact .poll (Option.isNone_iff_eq_none.mp ‹_›)
      · cases ran
  | task action =>
      cases action with
      | thread reply =>
          simp only [reportNext,reportStep] at ran
          split at ran
          · obtain ⟨running,present,rfl⟩ := Option.map_eq_some_iff.mp ran
            exact .load ‹_› present
          · obtain ⟨q,stepped,rfl⟩ := Option.map_eq_some_iff.mp ran
            exact .unlock ‹_› (taskStep_sound stepped)
          · rename_i free
            split at ran
            · cases Option.some.inj ran
              exact .lock free ‹_›
            · obtain ⟨q,stepped,rfl⟩ := Option.map_eq_some_iff.mp ran
              exact .task (taskStep_sound stepped) fun _ _ => ⟨free,‹_›⟩
      | component | request | client =>
          simp only [reportNext,Option.map_eq_some_iff] at ran
          obtain ⟨q,stepped,rfl⟩ := ran
          exact .task (taskNext_sound stepped) nofun

@[simp] theorem get_plus {left right : TaskStatistics} (field : StatisticsField) :
    (left.plus right).get field = left.get field+right.get field := by cases field <;> rfl

@[simp] theorem statistics_empty : SessionCounter.statistics {} = {} := rfl

@[simp] theorem get_empty (field : StatisticsField) : TaskStatistics.get {} field = 0 := by cases field <;> rfl

@[simp] theorem get_set_same {statistics : TaskStatistics} (field : StatisticsField) : (statistics.set value field).get field = value := by
  cases field <;> rfl

theorem get_set_other {statistics : TaskStatistics} {field other : StatisticsField} (differ : other ≠ field) :
    (statistics.set value field).get other = statistics.get other := by
  cases field <;> cases other <;> first | rfl | exact absurd rfl differ

section counters
variable {env : TaskEnv} {config : VolumeTaskSharedConfig} {source : Content} {o : Flow} {s t : Session} {p q : Polling}

theorem component_counts {env : SessionEnv} (step : Step env source s action t) (own : action.ofComponent = true) (field : StatisticsField) :
    s.counter.statistics.get field ≤ t.counter.statistics.get field := by
  cases action with
  | reader outcome =>
      cases (step : ReaderStep env source outcome s t) with
      | read | pushHashing | pushWrite => cases field <;> simp [SessionCounter.statistics,TaskStatistics.get]
      | _ => exact Nat.le_refl _
  | worker k =>
      cases (step : WorkerStep env k s t) with
      | hashed | pushed => cases field <;> simp [SessionCounter.statistics,TaskStatistics.get]
      | _ => exact Nat.le_refl _
  | writer outcome =>
      cases (step : WriterStep env outcome s t) with
      | freed => cases field <;> simp [SessionCounter.statistics,TaskStatistics.get]
      | _ => exact Nat.le_refl _
  | start | pause | abort | aborted | aborting => cases own

theorem PollStep.counts (step : PollStep env config source p action q) (begun : ∀ components, p.pc ≠ .start components)
    (field : StatisticsField) : p.state.counter.statistics.get field ≤ q.state.counter.statistics.get field := by
  cases step with
  | drive drives ran => exact Nat.le_of_eq (by rw [show ({p with state := _,pc := _} : Polling).state.counter = _ from drives.counter ran begun])
  | component own ran => exact component_counts (sessionStep_sound ran) own field
  | _ => exact Nat.le_refl _

def PollPc.folded : PollPc → Bool
  | .leave true | .left true => true
  | _ => false

def PollPc.launching : PollPc → Bool
  | .start _ => true
  | _ => false

def PollPc.meter (pc : PollPc) (counter : SessionCounter) : SessionCounter := if pc.launching || pc.folded then {} else counter

theorem folded_ended {pc : PollPc} (folded : pc.folded = true) : pc.unsampled = some [] := by
  cases pc with
  | leave returned | left returned => cases returned <;> first | rfl | cases folded
  | _ => cases folded

theorem abortFrom_folded (status : TaskStatus) (components : List Component) :
    (abortFrom status components).folded = false ∧ (abortFrom status components).launching = false := by
  cases components <;> exact ⟨rfl,rfl⟩

theorem PollStep.folded (step : PollStep env config source p action q) (unfolded : p.pc ≠ .completed) : q.pc.folded = p.pc.folded := by
  cases step with
  | move moves =>
      cases moves with
      | aborts here => rw [here]; exact (abortFrom_folded _ _).1
      | allTerminated here => rw [here]; dsimp only; split <;> rfl
      | reads here next =>
          rw [here]
          rcases next with ⟨later,rfl⟩ | rfl
          · rfl
          · exact (abortFrom_folded _ _).1
      | left here joined => rename_i returned; rw [here]; cases returned <;> rfl
      | _ here => rw [here]; rfl
  | drive drives ran =>
      cases drives with
      | startFailed here => rw [here]; exact (abortFrom_folded _ _).1
      | assigned here assigns next =>
          rw [here]
          rcases next with ⟨later,rfl⟩ | rfl
          · rfl
          · exact (abortFrom_folded _ _).1
      | _ here => rw [here]; rfl
  | completed here => exact absurd here unfolded
  | component | client => rfl
  | _ here => rw [here]; rfl

theorem PollStep.stays {moved : SessionAction} (step : PollStep env config source p (.component moved) q) : q.pc = p.pc := by
  cases step
  rfl

theorem PollStep.launching (step : PollStep env config source p action q) (set : q.pc.launching = true) : p.pc.launching = true := by
  cases step with
  | move moves =>
      cases moves with
      | aborts here => cases (abortFrom_folded _ _).2.symm.trans set
      | allTerminated here => revert set; dsimp only; split <;> nofun
      | reads here next =>
          rcases next with ⟨later,rfl⟩ | rfl
          · cases set
          · cases (abortFrom_folded _ _).2.symm.trans set
      | _ => cases set
  | drive drives ran =>
      cases drives with
      | started here => rw [here]; rfl
      | startFailed here => cases (abortFrom_folded _ _).2.symm.trans set
      | assigned here assigns next =>
          rcases next with ⟨later,rfl⟩ | rfl
          · cases set
          · cases (abortFrom_folded _ _).2.symm.trans set
      | _ => cases set
  | component | client => exact set
  | _ => cases set

theorem PollStep.meter (step : PollStep env config source p action q) (kept : q.pc.folded = p.pc.folded) (field : StatisticsField) :
    (p.pc.meter p.state.counter).statistics.get field ≤ (q.pc.meter q.state.counter).statistics.get field := by
  unfold PollPc.meter
  cases idle : p.pc.launching || p.pc.folded with
  | true =>
      rw [if_pos rfl,statistics_empty,get_empty]
      exact Nat.zero_le _
  | false =>
      obtain ⟨begun,pending⟩ := Bool.or_eq_false_iff.mp idle
      have launching : q.pc.launching = false := Bool.eq_false_iff.mpr fun set => by cases begun.symm.trans (step.launching set)
      rw [launching,kept,pending]
      exact step.counts (fun components here => by rw [here] at begun; cases begun) field

def StatisticsUpdate.next : StatisticsUpdate → PollPc
  | .running => .refresh
  | .completed => .leave true

theorem PollStep.updates (step : PollStep env config source p (.thread reply) q) (reached : p.pc.update = some kind) :
    q.state = p.state ∧ q.pc = kind.next := by
  have elsewhere {pc : PollPc} (here : p.pc = pc) (other : pc.update = none) {goal : Prop} : goal := by
    rw [here,other] at reached
    cases reached
  cases step with
  | statistics here | completed here =>
      rw [here] at reached
      cases Option.some.inj reached
      exact ⟨rfl,rfl⟩
  | move moves =>
      cases moves with
      | _ here => exact elsewhere here rfl
  | drive drives ran =>
      cases drives with
      | _ here => exact elsewhere here rfl
  | table here | tableLost here | sync here | bitmap here | bitmapLost here | snapshot here | finalTable here | finalSync here
  | finalBitmap here | concluded here => exact elsewhere here rfl

end counters

end VolumeBackup
