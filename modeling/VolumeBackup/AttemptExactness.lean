import VolumeBackup.TargetFile
import VolumeBackup.TaskQueue

namespace VolumeBackup
open ByteMemory LabelledRuns

-- The blocks that a session with this context does not write: those that a checkpoint has marked, and
-- those whose checksum is the one in the previous table.
def Skipped (env : SessionEnv) (source : Content) (context : VolumeTaskSharedContext) (index : Nat) : Prop :=
  env.config.checkpointEnabled = true ∧ context.processedBitmap.Test index = true ∨
    Unchanged env source context.hashingContext.previousTable index = true

-- The sessions of a task can be copied at all: the pool has addresses for its buffers, no block is left out
-- as empty, and comparing looks at the block's own entry.
structure Copyable (env : TaskEnv) (config : VolumeTaskSharedConfig) : Prop where
  pooled : Pooled config
  plain : config.skipEmptyBlock = false
  comparable : Comparable (env.sessionEnv config)

def TaskPc.opening : TaskPc → Option VolumeTaskSharedConfig
  | .init config => some config
  | _ => none

section attempt
variable (env : TaskEnv) (source : VolumeTaskSharedConfig → Content)

def Opens (disk : Disk) (config : VolumeTaskSharedConfig) : Prop := disk (env.sourcePath config) = some (source config) ∧
  ∀ context ∈ InitSessionContext disk config env.task, ∀ index ≤ config.m_maxIndex,
    Skipped (env.sessionEnv config) (source config) context index → Held env disk config (source config) index

end attempt

instance : Decidable (HoldsBlock env source target index) := inferInstanceAs (Decidable (Content.Holds _ _ _ _ _))

instance : Decidable (Held env disk config source index) :=
  decidable_of_iff (∃ content ∈ disk (env.targetPath config), HoldsBlock (env.sessionEnv config) source content index) Iff.rfl

instance : Decidable (Skipped env source context index) := inferInstanceAs (Decidable (_ ∨ _))

instance {source : VolumeTaskSharedConfig → Content} : Decidable (Opens env source disk config) :=
  inferInstanceAs (Decidable (_ ∧ ∀ context ∈ InitSessionContext disk config env.task, ∀ index ≤ config.m_maxIndex, _))

def PollReturns (p : Polling) : PollAction → Prop
  | .component action => WriteReturns p.state action
  | .thread _ | .client _ => True

-- An attempt whose Writes return true and whose thread samples no status at the wrong moment.
def Careful (p : Process) (action : TaskAction) : Prop :=
  OnSession (fun _ polling inner => CleanPoll polling inner ∧ PollReturns polling inner) p action

def Attempt (env : TaskEnv) (source : VolumeTaskSharedConfig → Content) (p : Process) (action : TaskAction) : Prop :=
  Careful p action ∧ ∀ config ∈ p.pc.opening, Opens env source p.disk config

instance : Decidable (PollReturns p action) :=
  match action with
  | .component _ => inferInstanceAs (Decidable (WriteReturns _ _))
  | .thread _ | .client _ => isTrue trivial

instance : Decidable (Careful p action) := inferInstanceAs (Decidable (OnSession _ _ _))

instance : Decidable (Attempt env source p action) := inferInstanceAs (Decidable (_ ∧ ∀ config ∈ p.pc.opening, _))

structure Ongoing (env : TaskEnv) (config : VolumeTaskSharedConfig) (source : Content) (o : Flow) (p : Polling) : Prop where
  polled : Polled env config source o p
  whole : ¬Torn p.state.history
  mounted : Mounted env config p
  skipped : ∀ index ≤ config.m_maxIndex, (config.checkpointEnabled = true ∧ o.processed.Test index = true ∨
    Unchanged (env.sessionEnv config) source o.previous index = true) → Held env p.disk config source index

section polling
variable {env : TaskEnv} {config : VolumeTaskSharedConfig} {source : VolumeTaskSharedConfig → Content} {o : Flow} {p q : Polling}

theorem PollStep.whole (step : PollStep env config content p action q) (returns : PollReturns p action)
    (whole : ¬Torn p.state.history) : ¬Torn q.state.history := by
  cases step with
  | drive drives ran =>
      refine whole_step (sessionStep_sound ran) ?_ whole
      cases drives with
      | assigned here assigns next => rcases assigns with rfl | rfl | rfl <;> trivial
      | _ => trivial
  | component own ran => exact whole_step (sessionStep_sound ran) returns whole
  | _ => exact whole

theorem Ongoing.step (ongoing : Ongoing env config (source config) o p) (roomy : Roomy (env.sessionEnv config) o)
    (copyable : Copyable env config) (separate : Separate env config config) (step : PollStep env config (source config) p action q)
    (clean : CleanPoll p action) (returns : PollReturns p action) : Ongoing env config (source config) o q where
  polled := ongoing.polled.step roomy step clean
  whole := step.whole returns ongoing.whole
  mounted := step.mounted separate ongoing.mounted
  skipped := fun index inside skip => step.held separate .self ongoing.polled.valid.toSound copyable.pooled ongoing.whole
    ongoing.mounted inside (ongoing.skipped index inside skip)

theorem Ongoing.complete (ongoing : Ongoing env config (source config) o p) (copyable : Copyable env config)
    (ended : p.pc.unsampled = some []) (inside : index ≤ config.m_maxIndex) : Held env p.disk config (source config) index := by
  obtain ⟨finished,_,whole⟩ := ongoing.polled.finished ended
  have valid := ongoing.polled.valid
  have intact := valid.intact copyable.pooled whole
  rcases valid.all_done finished inside with left | marked
  · rcases valid.all_settled whole left with drop | empty | ⟨offset,data,wrote⟩
    · obtain ⟨enabled,diff,equal⟩ := intact.checksums.dropped copyable.comparable index drop
      have same : entry o.previous index = blockDigest (env.sessionEnv config) (source config) index := valid.previous ▸ equal
      exact ongoing.skipped index inside (.inr (by simp [Unchanged,enabled,diff,same]))
    · cases copyable.plain.symm.trans (intact.stored.empty index empty).1
    · exact ⟨_,ongoing.mounted,(intact.stored.written index offset data wrote).2.2.2⟩
  · exact ongoing.skipped index inside (.inl marked)

end polling

structure Filed (env : TaskEnv) (p : Process) : Prop where
  listed : ∀ file ∈ p.m_checkpointFiles, ∃ queue, env.task.sessions = some queue ∧ ∃ config ∈ queue, file = config.checkpointFilePath
  clearing : ∀ files, p.pc = .clear files →
    ∀ file ∈ files, ∃ queue, env.task.sessions = some queue ∧ ∃ config ∈ queue, file = config.checkpointFilePath

section task
variable {env : TaskEnv} {p q : Process}

theorem Filed.new {disk : Disk} : Filed env (.new disk) where
  listed := fun _ inside => by cases inside
  clearing := fun _ here => TaskPc.noConfusion here

theorem Filed.step (filed : Filed env p) (step : TaskStep env p action q) : Filed env q := by
  cases step with
  | move moves =>
      refine ⟨filed.listed,fun files here => ?_⟩
      cases moves with
      | drained =>
          cases here
          split
          · exact filed.listed
          · nofun
      | _ => cases here
  | assign here =>
      refine ⟨filed.listed,fun files other => ?_⟩
      rcases assigns_cases here with ⟨_,_,rfl⟩ | ⟨_,_,rfl⟩ | ⟨_,rfl⟩ | ⟨_,_,rfl⟩ <;> cases other
  | splitBackup here task sessions record =>
      rename_i reply
      refine ⟨fun file inside => ?_,fun files other => ?_⟩
      · obtain ⟨config,member,rfl⟩ := List.mem_map.mp inside
        exact ⟨_,sessions,config,member,rfl⟩
      · dsimp only at other
        split at other <;> cases other
  | splitRestore here task sessions =>
      refine ⟨fun file inside => ?_,nofun⟩
      obtain ⟨config,member,rfl⟩ := List.mem_map.mp inside
      exact ⟨_,sessions,config,member,rfl⟩
  | clear here =>
      refine ⟨filed.listed,fun files other file inside => ?_⟩
      cases other
      exact filed.clearing _ here file (List.mem_cons_of_mem _ inside)
  | create | truncate | pop | opened | completed | failed => exact ⟨filed.listed,nofun⟩
  | poll here present ran | component present ran => exact ⟨filed.listed,filed.clearing⟩
  | request | client => exact ⟨filed.listed,filed.clearing⟩

theorem Filed.cleared {queue : List VolumeTaskSharedConfig} {file path : String} {rest : List String} (filed : Filed env p)
    (sessions : env.task.sessions = some queue) (here : p.pc = .clear (file::rest))
    (apart : ∀ config ∈ queue, path ≠ config.checkpointFilePath) (reply : Reply) :
    (if reply.isYes then RemoveFile p.disk file else p.disk) path = p.disk path := by
  obtain ⟨all,found,config,member,rfl⟩ := filed.clearing _ here _ List.mem_cons_self
  cases sessions.symm.trans found
  split
  · exact remove_other (apart config member)
  · rfl

end task

structure Copying (env : TaskEnv) (source : VolumeTaskSharedConfig → Content) (p : Process) : Prop where
  queued : Queued env p
  filed : Filed env p
  ongoing : Current (fun running polling => running.source = source running.config ∧
    ∃ o, Roomy (env.sessionEnv running.config) o ∧ Ongoing env running.config running.source o polling) p
  completed : ∀ running ∈ p.completed, ∀ index ≤ running.config.m_maxIndex, Held env p.disk running.config (source running.config) index

section attempt
variable {env : TaskEnv} {source : VolumeTaskSharedConfig → Content} {queue : List VolumeTaskSharedConfig} {p q : Process}

theorem Copying.new {disk : Disk} : Copying env source (.new disk) where
  queued := .new
  filed := .new
  ongoing := fun _ none => by cases none
  completed := fun _ inside => by cases inside

theorem ongoing_opened {shared : TaskState} (made : env.openSession shared.disk config reply = some running)
    (opens : Opens env source shared.disk config) :
    running.config = config ∧ running.source = source running.config ∧ ∃ o, Roomy (env.sessionEnv running.config) o ∧
      Ongoing env running.config running.source o {toTaskState := shared,toSessionRun := running.run} := by
  obtain ⟨context,content,target,found,here,there,rfl⟩ := open_parts made
  cases here.symm.trans opens.1
  refine ⟨rfl,rfl,_,opened_roomy found,⟨opened_valid found,fun _ => steady_new,nofun⟩,nofun,there,fun index inside skip => ?_⟩
  exact opens.2 context found index inside skip

theorem Queued.member (queued : Queued env p) (sessions : env.task.sessions = some queue) (present : p.running = some running) :
    running.config ∈ queue := by
  have here : p.pc = .session := queued.layout.mp (by rw [present]; rfl)
  have order := queued.working (by rw [here]; rfl)
  rw [sessions] at order
  rw [Option.some.inj order]
  simp [Process.current,here,present]

theorem Queued.completed_member (queued : Queued env p) (sessions : env.task.sessions = some queue)
    (here : p.pc.working = true ∨ p.pc.clearing = true) (inside : running ∈ p.completed) : running.config ∈ queue := by
  rcases here with working | clearing
  · have order := queued.working working
    rw [sessions] at order
    rw [Option.some.inj order]
    simp only [List.mem_append,List.mem_map,List.mem_reverse]
    exact .inl (.inl ⟨running,inside,rfl⟩)
  · have order := queued.clearing clearing
    rw [sessions] at order
    rw [Option.some.inj order]
    exact List.mem_map.mpr ⟨running,List.mem_reverse.mpr inside,rfl⟩

structure Plan (env : TaskEnv) (source : VolumeTaskSharedConfig → Content) (queue : List VolumeTaskSharedConfig) : Prop where
  sessions : env.task.sessions = some queue
  copyable : ∀ config ∈ queue, Copyable env config
  separate : ∀ config ∈ queue, ∀ other ∈ queue, Separate env config other
  coherent : ∀ config ∈ queue, ∀ other ∈ queue, Coherent env source config other

section step
variable (copying : Copying env source p) (plan : Plan env source queue)
include copying plan

theorem Copying.polled (present : p.running = some running)
    (step : PollStep env running.config running.source (p.polling running) action y) :
    ∀ earlier ∈ p.completed, ∀ index ≤ earlier.config.m_maxIndex, Held env y.disk earlier.config (source earlier.config) index := by
  intro earlier inside index below
  have here : p.pc = .session := copying.queued.layout.mp (by rw [present]; rfl)
  have mine := copying.queued.member plan.sessions present
  have other := copying.queued.completed_member plan.sessions (.inl (by rw [here]; rfl)) inside
  obtain ⟨own,o,_,ongoing⟩ := copying.ongoing running present
  rw [own] at step ongoing
  exact step.held (plan.separate _ mine _ other) (plan.coherent _ mine _ other) ongoing.polled.valid.toSound
    (plan.copyable _ mine).pooled ongoing.whole ongoing.mounted below (copying.completed earlier inside index below)

theorem Copying.step (step : TaskStep env p action q) (careful : Careful p action)
    (opens : ∀ config ∈ p.pc.opening, Opens env source p.disk config) :
    Copying env source q := by
  have queued := copying.queued.step step
  refine ⟨queued,copying.filed.step step,?_,?_⟩
  · refine @Current.step _ _ _ _ (fun config content polling => content = source config ∧ ∃ o, Roomy (env.sessionEnv config) o ∧
      Ongoing env config content o polling) _ copying.ongoing copying.queued.layout step careful (fun _ _ _ => ⟨trivial,trivial⟩) ?_ ?_
    · intro config reply running here made
      exact (ongoing_opened made (opens config (by rw [here]; rfl))).2
    · rintro running inner polling present ⟨own,o,roomy,ongoing⟩ ran ⟨clean,returns⟩
      have mine := copying.queued.member plan.sessions present
      refine ⟨own,o,roomy,?_⟩
      rw [own] at ran ongoing ⊢
      exact ongoing.step roomy (plan.copyable _ mine) (plan.separate _ mine _ mine) (pollNext_sound ran) clean returns
  · cases step with
    | create here | truncate here | splitBackup here =>
        intro running inside
        have none := copying.queued.fresh (by rw [here]; rfl)
        rw [show p.completed = [] from none] at inside
        cases inside
    | poll here present ran | component present ran => exact copying.polled plan present (pollNext_sound ran)
    | completed here present left =>
        intro running inside index below
        rcases List.mem_cons.mp inside with rfl | earlier
        · obtain ⟨own,o,_,ongoing⟩ := copying.ongoing running present
          rw [own] at ongoing
          refine ongoing.complete (plan.copyable _ (copying.queued.member plan.sessions present)) ?_ below
          rw [show (p.polling running).pc = _ from left]
          rfl
        · exact copying.completed running earlier index below
    | clear here =>
        rename_i reply
        intro running inside index below
        have other := copying.queued.completed_member plan.sessions (.inr (by rw [here]; rfl)) inside
        obtain ⟨content,present,holds⟩ := copying.completed running inside index below
        have kept := copying.filed.cleared plan.sessions here (fun config member => (plan.separate config member _ other).checkpoint) reply
        exact ⟨content,kept.trans present,holds⟩
    | _ => exact copying.completed

end step

theorem Copying.exact (plan : Plan env source queue) (path : Runs (taskNext env) (Attempt env source) (.new disk) actions p)
    (status : p.task.m_status = .SUCCEED) (member : config ∈ queue) (inside : index ≤ config.m_maxIndex) :
    Held env p.disk config (source config) index := by
  have copying : Copying env source p := path.invariant (Copying env source) .new fun _ _ _ known ran attempt =>
    known.step plan (taskNext_sound ran) attempt.1 attempt.2
  have order := copying.queued.finished status
  rw [plan.sessions] at order
  rw [Option.some.inj order] at member
  obtain ⟨running,completed,rfl⟩ := List.mem_map.mp member
  exact copying.completed running (List.mem_reverse.mp completed) index inside

end attempt

end VolumeBackup
