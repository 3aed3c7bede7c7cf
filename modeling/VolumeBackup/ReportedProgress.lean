import Mathlib.Algebra.GroupWithZero.Nat
import VolumeBackup.ProgressReports

namespace VolumeBackup
open ByteMemory LabelledRuns

variable {env : TaskEnv} {r t : Reporting} {field : StatisticsField}

def Process.finals (p : Process) (field : StatisticsField) : Nat :=
  (p.completed.map fun running => running.run.state.counter.statistics.get field).sum

def Process.meter (p : Process) : SessionCounter :=
  match p.running with
  | none => {}
  | some running => running.run.pc.meter running.run.state.counter

-- A counter of the running session that is in the completed sum: m_statisticMutex may be held with some already added.
def PollPc.counted (pc : PollPc) (m_statisticMutex : Option (StatisticsUpdate × List StatisticsField)) (field : StatisticsField) : Bool :=
  pc.folded || match m_statisticMutex with
    | some (.completed,rest) => !rest.contains field
    | _ => false

def SessionRun.owed (run : SessionRun) (m_statisticMutex : Option (StatisticsUpdate × List StatisticsField)) (field : StatisticsField) : Nat :=
  if run.pc.counted m_statisticMutex field then run.state.counter.statistics.get field else 0

def Reporting.owed (r : Reporting) (field : StatisticsField) : Nat :=
  match r.process.running with
  | none => 0
  | some running => running.run.owed r.m_statisticMutex field

theorem mem_all (field : StatisticsField) : field ∈ StatisticsField.all := by cases field <;> simp [StatisticsField.all]

def Process.Kept (p : Process) : Prop := p.pc = .exited → p.task.m_status = .SUCCEED

-- The completed sum holds each completed session's counters once, and of the running one those that it has been given; what was
-- last reported of the running session is behind its counters.
structure Tallied (env : TaskEnv) (r : Reporting) : Prop where
  queued : Queued env r.process
  clocked : Current (fun running => Clocked env running.config running.source) r.process
  held : ∀ update rest, r.m_statisticMutex = some (update,rest) → r.process.update = some update ∧ rest.Nodup
  completed : ∀ field, r.m_completedSessionStatistics.get field = r.process.finals field+r.owed field
  current : r.process.Kept → ∀ field, r.m_currentSessionStatistics.get field ≤ r.process.meter.statistics.get field

section task
variable {p q : Process} {kind : StatisticsUpdate}

theorem update_parts (reached : p.update = some kind) :
    p.pc = .session ∧ ∃ running, p.running = some running ∧ running.run.pc.update = some kind := by
  unfold Process.update at reached
  split at reached
  · exact ⟨‹_›,Option.bind_eq_some_iff.mp reached⟩
  · cases reached

theorem update_at {running : Running} (here : p.pc = .session) (present : p.running = some running) :
    p.update = running.run.pc.update := by
  simp [Process.update,here,present]

theorem update_completed {pc : PollPc} (reached : pc.update = some .completed) : pc = .completed := by
  cases pc <;> first | rfl | cases reached

theorem update_uncompleted {pc : PollPc} (idle : pc.update = none) : pc ≠ .completed := by
  rintro rfl
  cases idle

theorem TaskStep.update (layout : Layout p) (step : TaskStep env p action q) (other : ∀ reply, action ≠ .thread reply) :
    q.update = p.update := by
  cases step with
  | component present ran =>
      have here := layout.mp (by rw [present]; rfl)
      rw [update_at (p := p) here present,update_at (p := p.polled _ _) here rfl]
      cases pollNext_sound ran with
      | component => rfl
  | request | client => rfl
  | _ => exact absurd rfl (other _)

theorem Tallied.ended (tallied : Tallied env r) (present : r.process.running = some running)
    (counted : running.run.pc.counted r.m_statisticMutex field = true) : running.run.pc.unsampled = some [] := by
  rcases Bool.or_eq_true_iff.mp counted with folded | loaded
  · exact folded_ended folded
  · split at loaded
    · obtain ⟨_,other,same,reached⟩ := update_parts (tallied.held _ _ ‹_›).1
      cases Option.some.inj (present.symm.trans same)
      rw [update_completed reached]
      rfl
    · cases loaded

theorem Tallied.owed (tallied : Tallied env r) (present : r.process.running = some running)
    (step : PollStep env running.config running.source (r.process.polling running) action polling)
    (counted : polling.pc.counted r.m_statisticMutex field = running.run.pc.counted r.m_statisticMutex field) :
    polling.toSessionRun.owed r.m_statisticMutex field = running.run.owed r.m_statisticMutex field := by
  unfold SessionRun.owed
  rw [counted]
  split
  · rw [show polling.state.counter = running.run.state.counter from
      (tallied.clocked running present).counter (tallied.ended present ‹_›) step]
  · rfl

theorem Tallied.sums (tallied : Tallied env r) (step : TaskStep env r.process action q)
    (free : ∀ reply, action = .thread reply → r.m_statisticMutex = none ∧ r.process.update = none) (field : StatisticsField) :
    q.finals field+({r with process := q} : Reporting).owed field = r.process.finals field+r.owed field := by
  have layout := tallied.queued.layout
  cases step with
  | opened here positive made =>
      obtain ⟨context,source,target,_,_,_,rfl⟩ := open_parts made
      simp [Reporting.owed,layout.idle here nofun,SessionRun.owed,PollPc.counted,(free _ rfl).1,TaskEnv.newSession,PollPc.folded,
        Process.finals]
  | poll here present ran =>
      rename_i running polling reply
      obtain ⟨unlocked,idle⟩ := free _ rfl
      rw [update_at here present] at idle
      have unfolded := update_uncompleted idle
      have step := pollNext_sound ran
      have owed : _ = running.run.owed r.m_statisticMutex field := tallied.owed present step (by unfold PollPc.counted; rw [step.folded unfolded]; rfl)
      simp only [Reporting.owed,present,Process.polled]
      exact congrArg (r.process.finals field+·) owed
  | completed here present left =>
      rename_i running reply
      have owed : running.run.owed r.m_statisticMutex field = running.run.state.counter.statistics.get field := by
        simp [SessionRun.owed,PollPc.counted,PollPc.folded,left]
      simp only [Reporting.owed,present,owed]
      simp [Process.finals,Nat.add_comm]
  | failed here present left =>
      obtain ⟨unlocked,_⟩ := free _ rfl
      simp [Reporting.owed,present,SessionRun.owed,PollPc.counted,left,PollPc.folded,unlocked,Process.finals]
  | component present ran =>
      rename_i running action polling
      have step := pollNext_sound ran
      have owed : _ = running.run.owed r.m_statisticMutex field := tallied.owed present step (by rw [step.stays]; rfl)
      simp only [Reporting.owed,present,Process.polled]
      exact congrArg (r.process.finals field+·) owed
  | _ => rfl

theorem meter_idle (none : p.running = none) (field : StatisticsField) : p.meter.statistics.get field = 0 := by
  simp [Process.meter,none]

theorem kept_alive (here : p.pc = pc) (live : pc ≠ .exited) : p.Kept := fun exited => absurd (here.symm.trans exited) live

theorem TaskStep.meter (queued : Queued env p) (step : TaskStep env p action q)
    (free : ∀ reply, action = .thread reply → p.update = none) (kept : q.Kept) (field : StatisticsField) :
    p.Kept ∧ p.meter.statistics.get field ≤ q.meter.statistics.get field := by
  have layout := queued.layout
  have idle {pc : TaskPc} (here : p.pc = pc) (other : pc ≠ .session) (live : pc ≠ .exited) :
      p.Kept ∧ p.meter.statistics.get field ≤ q.meter.statistics.get field := by
    rw [meter_idle (layout.idle here other) field]
    exact ⟨kept_alive here live,Nat.zero_le _⟩
  cases step with
  | move moves => exact idle rfl moves.elsewhere.1 moves.alive
  | assign here =>
      refine idle rfl (assigns_elsewhere here).1 fun same => ?_
      rw [same] at here
      cases here
  | create here | truncate here | splitBackup here | splitRestore here | pop here | opened here | clear here =>
      exact idle here nofun nofun
  | poll here present ran =>
      rename_i running polling reply
      have unlocked := free _ rfl
      rw [update_at here present] at unlocked
      have unfolded := update_uncompleted unlocked
      have step := pollNext_sound ran
      refine ⟨kept_alive here nofun,?_⟩
      simp only [Process.meter,present,Process.polled]
      exact step.meter (step.folded unfolded) field
  | completed here present left =>
      refine ⟨kept_alive here nofun,?_⟩
      simp [Process.meter,present,left,PollPc.meter,PollPc.folded]
  | failed here => exact absurd (kept rfl) (queued.unfinished (by rw [here]; nofun))
  | component present ran =>
      rename_i running action polling
      have step := pollNext_sound ran
      refine ⟨kept_alive (layout.mp (by rw [present]; rfl)) nofun,?_⟩
      simp only [Process.meter,present,Process.polled]
      exact step.meter (by rw [step.stays]) field
  | request => exact ⟨kept,Nat.le_refl _⟩
  | client => exact ⟨fun exited => assign_succeed (kept exited),Nat.le_refl _⟩

theorem Tallied.task (tallied : Tallied env r) (step : TaskStep env r.process action q)
    (free : ∀ reply, action = .thread reply → r.m_statisticMutex = none ∧ r.process.update = none) :
    Tallied env {r with process := q} where
  queued := tallied.queued.step step
  clocked := step.clocked tallied.queued.layout tallied.clocked
  held := by
    intro kind rest held
    have known := tallied.held kind rest held
    refine ⟨?_,known.2⟩
    rw [← known.1]
    refine step.update tallied.queued.layout fun reply same => ?_
    cases held.symm.trans (free reply same).1
  completed := fun field => (tallied.completed field).trans (tallied.sums step free field).symm
  current := fun kept field => by
    have moved := step.meter tallied.queued (fun reply same => (free reply same).2) kept field
    exact Nat.le_trans (tallied.current moved.1 field) moved.2

theorem TaskStep.updates (step : TaskStep env p (.thread reply) q) (reached : p.update = some kind) :
    ∃ running polling, p.running = some running ∧ running.run.pc.update = some kind ∧ q = p.polled running polling ∧
      PollStep env running.config running.source (p.polling running) (.thread reply) polling := by
  obtain ⟨here,running,present,line⟩ := update_parts reached
  have elsewhere {pc : TaskPc} (other : p.pc = pc) (differ : pc ≠ .session) {goal : Prop} : goal := (differ (other.symm.trans here)).elim
  cases step with
  | poll _ same ran =>
      cases Option.some.inj (present.symm.trans same)
      exact ⟨running,_,present,line,rfl,pollNext_sound ran⟩
  | completed _ same left | failed _ same left =>
      cases Option.some.inj (present.symm.trans same)
      rw [left] at line
      cases line
  | move moves => exact absurd here moves.elsewhere.1
  | assign other => exact absurd here (assigns_elsewhere other).1
  | create other | truncate other | splitBackup other | splitRestore other | pop other | opened other | clear other =>
      exact elsewhere other nofun

theorem counted_all {pc : PollPc} : pc.counted (some (kind,StatisticsField.all)) field = pc.counted none field := by
  cases kind with
  | running => rfl
  | completed => simp [PollPc.counted,mem_all]

theorem owed_all {run : SessionRun} : run.owed (some (kind,StatisticsField.all)) field = run.owed none field := by
  unfold SessionRun.owed
  rw [counted_all]

theorem Tallied.lock (tallied : Tallied env r) (free : r.m_statisticMutex = none) (reached : r.process.update = some kind) :
    Tallied env {r with m_statisticMutex := some (kind,StatisticsField.all)} where
  queued := tallied.queued
  clocked := tallied.clocked
  held := by
    rintro _ _ ⟨⟩
    exact ⟨reached,by decide⟩
  completed := fun field => by
    have known := tallied.completed field
    unfold Reporting.owed at known ⊢
    rw [free] at known
    simp only [owed_all]
    exact known
  current := tallied.current

theorem update_unfolded {pc : PollPc} (reached : pc.update = some kind) : pc.launching = false ∧ pc.folded = false := by
  cases pc <;> first | exact ⟨rfl,rfl⟩ | cases reached

theorem meter_update {running : Running} (present : p.running = some running) (reached : running.run.pc.update = some kind) :
    p.meter = running.run.state.counter := by
  obtain ⟨begun,pending⟩ := update_unfolded reached
  simp [Process.meter,present,PollPc.meter,begun,pending]

theorem owed_load {run : SessionRun} (unfolded : run.pc.folded = false) (distinct : (loaded::rest).Nodup) (field : StatisticsField) :
    run.owed (some (.completed,rest)) field =
      run.owed (some (.completed,loaded::rest)) field+if field = loaded then run.state.counter.statistics.get field else 0 := by
  unfold SessionRun.owed PollPc.counted
  by_cases same : field = loaded
  · subst same
    simp [unfolded,(List.nodup_cons.mp distinct).1]
  · simp [unfolded,same]

theorem Tallied.updating {fields : List StatisticsField} (tallied : Tallied env r) (held : r.m_statisticMutex = some (kind,fields))
    (present : r.process.running = some running) :
    r.process.update = some kind ∧ fields.Nodup ∧ r.process.pc = .session ∧ running.run.pc.update = some kind := by
  obtain ⟨update,distinct⟩ := tallied.held _ _ held
  obtain ⟨here,other,same,reached⟩ := update_parts update
  cases Option.some.inj (present.symm.trans same)
  exact ⟨update,distinct,here,reached⟩

theorem Tallied.loadRunning (tallied : Tallied env r) (held : r.m_statisticMutex = some (.running,loaded::rest))
    (present : r.process.running = some running) :
    Tallied env {r.load .running running.run.state.counter loaded with m_statisticMutex := some (.running,rest)} := by
  obtain ⟨update,distinct,here,reached⟩ := tallied.updating held present
  refine ⟨tallied.queued,tallied.clocked,?_,fun field => ?_,fun kept field => ?_⟩
  · rintro _ _ ⟨⟩
    exact ⟨update,distinct.of_cons⟩
  · have known := tallied.completed field
    simp only [Reporting.owed,present,held] at known
    simp only [Reporting.owed,Reporting.load,present]
    exact known
  · by_cases same : field = loaded
    · subst same
      simp only [Reporting.load,get_set_same,meter_update present reached]
      exact Nat.le_refl _
    · simp only [Reporting.load,get_set_other same]
      exact tallied.current kept field

theorem Tallied.loadCompleted (tallied : Tallied env r) (held : r.m_statisticMutex = some (.completed,loaded::rest))
    (present : r.process.running = some running) :
    Tallied env {r.load .completed running.run.state.counter loaded with m_statisticMutex := some (.completed,rest)} := by
  obtain ⟨update,distinct,here,reached⟩ := tallied.updating held present
  refine ⟨tallied.queued,tallied.clocked,?_,fun field => ?_,tallied.current⟩
  · rintro _ _ ⟨⟩
    exact ⟨update,distinct.of_cons⟩
  · have known := tallied.completed field
    simp only [Reporting.owed,present,held] at known
    simp only [Reporting.owed,Reporting.load,present,owed_load (update_unfolded reached).2 distinct]
    by_cases same : field = loaded
    · subst same
      rw [get_set_same,if_pos rfl,known]
      exact Nat.add_assoc _ _ _
    · rw [get_set_other same,if_neg same,known]
      rfl

theorem Tallied.unlock (tallied : Tallied env r) (held : r.m_statisticMutex = some (kind,[]))
    (step : TaskStep env r.process (.thread reply) q) : Tallied env (r.unlock kind q) := by
  obtain ⟨update,_⟩ := tallied.held _ _ held
  obtain ⟨running,polling,present,reached,rfl,moved⟩ := step.updates update
  obtain ⟨state,line⟩ := moved.updates (show (r.process.polling running).pc.update = some kind from reached)
  have known (field : StatisticsField) := tallied.completed field
  simp only [Reporting.owed,present,held] at known
  refine ⟨tallied.queued.step step,step.clocked tallied.queued.layout tallied.clocked,nofun,fun field => ?_,fun kept field => ?_⟩
  · refine (known field).trans (congrArg (r.process.finals field+·) ?_)
    show running.run.owed _ field = polling.toSessionRun.owed none field
    unfold SessionRun.owed PollPc.counted
    rw [line,show polling.state = running.run.state from state,(update_unfolded reached).2]
    cases kind <;> simp [StatisticsUpdate.next,PollPc.folded]
  · cases kind with
    | running =>
        have before := tallied.current (kept_alive (update_parts update).1 nofun) field
        rw [meter_update present reached] at before
        have after : (r.process.polled running polling).meter = running.run.state.counter := by
          show polling.pc.meter polling.state.counter = _
          rw [line,show polling.state = running.run.state from state]
          rfl
        exact after ▸ before
    | completed => exact (get_empty field).le.trans (Nat.zero_le _)

theorem Tallied.step (tallied : Tallied env r) (step : ReportStep env r action t) : Tallied env t := by
  cases step with
  | poll => exact tallied
  | lock free reached => exact tallied.lock free reached
  | load held present =>
      rename_i kind _ _ _ _
      cases kind with
      | running => exact tallied.loadRunning held present
      | completed => exact tallied.loadCompleted held present
  | unlock held step => exact tallied.unlock held step
  | task step free => exact tallied.task step free

theorem Tallied.new {disk : Disk} : Tallied env (.new disk) where
  queued := .new
  clocked := fun _ none => by cases none
  held := nofun
  completed := fun field => by cases field <;> rfl
  current := fun _ field => Nat.le_of_eq (by cases field <;> rfl)

end task

-- What GetStatistics would return if the update that holds the mutex were over: a counter that has been added to the completed sum
-- counts no more as one of the running session.
def Reporting.progress (r : Reporting) (field : StatisticsField) : Nat :=
  r.m_completedSessionStatistics.get field+match r.m_statisticMutex with
    | some (.completed,rest) => if rest.contains field then r.m_currentSessionStatistics.get field else 0
    | _ => r.m_currentSessionStatistics.get field

theorem progress_free (free : r.m_statisticMutex = none) : r.progress field = r.GetStatistics.get field := by
  simp [Reporting.progress,Reporting.GetStatistics,free]

theorem Tallied.progress (tallied : Tallied env r) (step : ReportStep env r action t) (field : StatisticsField) :
    r.progress field ≤ t.progress field := by
  cases step with
  | poll | task => exact Nat.le_refl _
  | lock free reached =>
      rename_i kind _
      unfold Reporting.progress
      rw [free]
      cases kind <;> simp [mem_all]
  | load held present =>
      rename_i kind loaded rest running reply
      obtain ⟨update,distinct,here,reached⟩ := tallied.updating held present
      have behind := tallied.current (kept_alive here nofun) field
      rw [meter_update present reached] at behind
      unfold Reporting.progress
      rw [held]
      cases kind with
      | running =>
          by_cases same : field = loaded
          · subst same
            simpa [Reporting.load] using behind
          · simp [Reporting.load,get_set_other same]
      | completed =>
          by_cases same : field = loaded
          · subst same
            simpa [Reporting.load,(List.nodup_cons.mp distinct).1] using behind
          · simp [Reporting.load,get_set_other same,same]
  | unlock held =>
      rename_i kind _ _ _
      unfold Reporting.progress
      rw [held]
      cases kind <;> simp [Reporting.unlock]

theorem ReportStep.polled (step : ReportStep env r .poll t) : r.m_statisticMutex = none := by
  cases step with
  | poll free => exact free

structure Reported (env : TaskEnv) (s : Reporting × List TaskStatistics) : Prop where
  tallied : Tallied env s.1
  behind : ∀ report ∈ s.2, ∀ field, report.get field ≤ s.1.progress field
  sorted : s.2.Pairwise fun earlier later => ∀ field, earlier.get field ≤ later.get field

theorem Reported.step {s t : Reporting × List TaskStatistics} (reported : Reported env s)
    (ran : traced (reportNext env) reports s action = some t) : Reported env t := by
  obtain ⟨inner,listed⟩ := traced_step ran
  have step := reportNext_sound inner
  have ahead := reported.tallied.progress step
  cases action with
  | poll =>
      have same (field : StatisticsField) : s.1.progress field = s.1.GetStatistics.get field := progress_free step.polled
      refine ⟨reported.tallied.step step,?_,?_⟩
      · rw [listed]
        intro report inside field
        rcases List.mem_append.mp inside with earlier | now
        · exact (reported.behind report earlier field).trans (ahead field)
        · cases List.mem_singleton.mp now
          exact (same field).ge.trans (ahead field)
      · rw [listed]
        refine List.pairwise_append.mpr ⟨reported.sorted,List.pairwise_singleton _ _,fun report earlier last now field => ?_⟩
        cases List.mem_singleton.mp now
        exact (reported.behind report earlier field).trans (same field).le
  | task action =>
      rw [show reports s.1 (.task action) = [] from rfl,List.append_nil] at listed
      refine ⟨reported.tallied.step step,?_,?_⟩
      · rw [listed]
        exact fun report earlier field => (reported.behind report earlier field).trans (ahead field)
      · rw [listed]
        exact reported.sorted

theorem Reported.run {disk : Disk} (path : Runs (traced (reportNext env) reports) allowed (.new disk,[]) actions s) : Reported env s :=
  path.invariant (Reported env) ⟨.new,nofun,.nil⟩ fun _ _ _ known ran _ => known.step ran

-- The difference of two polls as the command line takes it, in 64 bits.
def TaskStatistics.since (later earlier : TaskStatistics) (field : StatisticsField) : UInt64 :=
  UInt64.ofNat (later.get field)-UInt64.ofNat (earlier.get field)

theorem since_exact {earlier later : TaskStatistics} (ordered : earlier.get field ≤ later.get field) :
    later.since earlier field = UInt64.ofNat (later.get field-earlier.get field) := by
  unfold TaskStatistics.since
  rw [UInt64.ofNat_sub ordered]

theorem Tallied.settled (tallied : Tallied env r) (none : r.process.running = none) (kept : r.process.Kept) (field : StatisticsField) :
    r.GetStatistics.get field = r.process.finals field := by
  have sum := tallied.completed field
  have rest := tallied.current kept field
  rw [meter_idle none] at rest
  simp only [Reporting.owed,none] at sum
  rw [Reporting.GetStatistics,get_plus,sum]
  omega

-- However the polls fall between the loads of an update, the steps of the threads and the sessions: no field ever goes back, the
-- difference of two polls is their distance, and where no session runs or was given up, as behind the last one, each completed session
-- counts once.
theorem reported_progress {disk : Disk} {returned : List TaskStatistics}
    (path : Runs (traced (reportNext env) reports) Anything (.new disk,[]) actions (r,returned)) :
    (returned.Pairwise fun earlier later => ∀ field, earlier.get field ≤ later.get field ∧
      later.since earlier field = UInt64.ofNat (later.get field-earlier.get field)) ∧
    (r.process.running = none → r.process.Kept → ∀ field, r.GetStatistics.get field = r.process.finals field) ∧
    (r.process.pc.clearing = true ∨ r.process.task.m_status = .SUCCEED →
      env.task.sessions = some (r.process.completed.reverse.map Running.config) ∧
        ∀ field, r.GetStatistics.get field = r.process.finals field) := by
  have reported := Reported.run path
  have queued := reported.tallied.queued
  refine ⟨reported.sorted.imp fun ordered field => ⟨ordered field,since_exact (ordered field)⟩,reported.tallied.settled,?_⟩
  rintro (clearing | succeeded)
  · have elsewhere : r.process.pc ≠ .session := fun here => by rw [here] at clearing; cases clearing
    have alive : r.process.Kept := fun here => by rw [here] at clearing; cases clearing
    exact ⟨queued.clearing clearing,reported.tallied.settled (queued.layout.idle rfl elsewhere) alive⟩
  · have ended : r.process.pc = .exited := Decidable.byContradiction fun live => queued.unfinished live succeeded
    exact ⟨queued.finished succeeded,reported.tallied.settled (queued.layout.idle ended nofun) fun _ => succeeded⟩

def hashedBackup : VolumeBackupConfig := {plainBackup with sessionSize := 2,hasherNum := 1,hasherEnabled := true}

def hashedEnv : TaskEnv := {plainEnv with task := .backup hashedBackup 3}

def hashedDisk : Disk := fun path => if path = "/dev/sda1" then some (.of 3 fun address => 97+address.toUInt8) else none

-- The first writer ends while the update of its session has loaded three of the counters; one poll each before, behind and at the end.
def hashedPolls : List ReportAction :=
  (threads 14).map .task++[.poll]++(readers 16++hashers 15++threads 11++writers 16++threads 5).map .task++[.poll]++
    (threads 35++readers 10++hashers 11++writers 10++threads 34).map .task++[.poll]

theorem reported_progress_sessions : ∃ returned : List TaskStatistics, (returned.map TaskStatistics.bytesWritten) = [0,2,3] ∧
    (returned.Pairwise fun earlier later => ∀ field, earlier.get field ≤ later.get field) ∧
    ∃ r : Reporting, r.process.completed.length = 2 ∧ ∀ field, r.GetStatistics.get field = r.process.finals field := by
  have run : (execute (traced (reportNext hashedEnv) reports) (fun _ _ => true) (.new hashedDisk,[]) hashedPolls).any
      (fun s => s.2.map TaskStatistics.bytesWritten = [0,2,3] ∧ s.1.process.completed.length = 2 ∧ s.1.process.task.m_status = .SUCCEED) =
        true := by decide +kernel
  obtain ⟨⟨r,returned⟩,path,ended⟩ := execute_ends (fun _ _ _ => trivial) run
  obtain ⟨written,both,succeeded⟩ := of_decide_eq_true ended
  have shown := reported_progress path
  exact ⟨returned,written,shown.1.imp fun ordered field => (ordered field).1,r,both,(shown.2.2 (.inr succeeded)).2⟩

end VolumeBackup
