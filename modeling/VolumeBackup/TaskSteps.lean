import VolumeBackup.PollingSteps
import VolumeBackup.ProtectTask

namespace VolumeBackup
open ByteMemory

def TaskPc.assigns : TaskPc → Option (TaskStatus × TaskPc)
  | .unprepared => some (.FAILED,.exited)
  | .prepared => some (.RUNNING,.loop)
  | .conclude status => some (status,.exited)
  | .succeed => some (.SUCCEED,.exited)
  | _ => none

section steps
variable (env : TaskEnv)

inductive TaskMove (p : Process) : TaskPc → Prop where
  | begun (here : p.pc = .notStarted) (fresh : p.task.m_status = .INIT) : TaskMove p .resource
  | absent (here : p.pc = .resource) (task : env.task = .backup config volumeSize) (full : config.backupType = .FULL)
      (files : config.copyResource volumeSize = some fragments) : TaskMove p (.create fragments)
  | present (here : p.pc = .resource) (task : env.task = .backup config volumeSize) : TaskMove p .validate
  | restorable (here : p.pc = .resource) (task : env.task = .restore config volumeCopyMeta) : TaskMove p .split
  | missing (here : p.pc = .resource) : TaskMove p .unprepared
  | created (here : p.pc = .create []) : TaskMove p .validate
  | uncreated (here : p.pc = .create fragments) : TaskMove p .unprepared
  | untruncated (here : p.pc = .truncate path size rest) : TaskMove p .unprepared
  | valid (here : p.pc = .validate) (task : env.task = .backup config volumeSize)
      (accepted : config.IsIncrementBackup = true → ∃ reply, ValidateIncrementBackup env p.disk config reply = true) :
      TaskMove p .split
  | invalid (here : p.pc = .validate) : TaskMove p .unprepared
  | drained (here : p.pc = .loop) (empty : p.m_sessionQueue = []) :
      TaskMove p (.clear (if env.task.clearsCheckpoints then p.m_checkpointFiles else []))
  | aborted (here : p.pc = .loop) (abort : p.task.m_abort = true) : TaskMove p (.conclude .ABORTED)
  | unopened (here : p.pc = .init config) : TaskMove p (.conclude .FAILED)
  | cleared (here : p.pc = .clear []) : TaskMove p .succeed

inductive TaskStep (p : Process) : TaskAction → Process → Prop where
  | move (moves : TaskMove env p pc) : TaskStep p (.thread reply) {p with pc := pc}
  | assign (here : p.pc.assigns = some (status,pc)) : TaskStep p (.thread reply) (p.assign status pc)
  | create (here : p.pc = .create ((path,size)::rest)) (fresh : p.disk path = none) :
      TaskStep p (.thread reply) {p with disk := p.disk.put path .empty,pc := .truncate path size rest}
  | truncate (here : p.pc = .truncate path size rest) (present : p.disk path = some content) :
      TaskStep p (.thread reply) {p with disk := p.disk.put path (content.resize size.toNat),pc := .create rest}
  | splitBackup (here : p.pc = .split) (task : env.task = .backup config volumeSize) (sessions : env.task.sessions = some queue)
      (record : config.volumeCopyMeta volumeSize = some volumeCopyMeta) : TaskStep p (.thread reply)
      {p with
        disk := p.disk.save (GetVolumeCopyMetaPath config.outputCopyMetaDirPath config.copyName) (env.Serialize volumeCopyMeta) reply
        m_sessionQueue := queue,m_checkpointFiles := queue.map VolumeTaskSharedConfig.checkpointFilePath
        pc := if reply.opened then .prepared else .unprepared}
  | splitRestore (here : p.pc = .split) (task : env.task = .restore config volumeCopyMeta)
      (sessions : env.task.sessions = some queue) : TaskStep p (.thread reply)
      {p with m_sessionQueue := queue,m_checkpointFiles := queue.map VolumeTaskSharedConfig.checkpointFilePath,pc := .prepared}
  | pop (here : p.pc = .loop) (first : p.m_sessionQueue = config::rest) (running : p.task.m_abort = false) :
      TaskStep p (.thread reply) {p with m_sessionQueue := rest,pc := .init config}
  | opened (here : p.pc = .init config) (positive : config.blockSize ≠ 0)
      (made : env.openSession p.disk config reply = some running) :
      TaskStep p (.thread reply) {p with running := some running,pc := .session}
  | poll (here : p.pc = .session) (present : p.running = some running)
      (ran : pollNext env running.config running.source (p.polling running) (.thread reply) = some q) :
      TaskStep p (.thread reply) (p.polled running q)
  | completed (here : p.pc = .session) (present : p.running = some running) (left : running.run.pc = .left true) :
      TaskStep p (.thread reply) {p with running := none,completed := running::p.completed,pc := .loop}
  | failed (here : p.pc = .session) (present : p.running = some running) (left : running.run.pc = .left false) :
      TaskStep p (.thread reply) {p with running := none,pc := .exited}
  | clear (here : p.pc = .clear (file::rest)) : TaskStep p (.thread reply)
      {p with disk := if reply.isYes then RemoveFile p.disk file else p.disk,pc := .clear rest}
  | component (present : p.running = some running)
      (ran : pollNext env running.config running.source (p.polling running) (.component action) = some q) :
      TaskStep p (.component action) (p.polled running q)
  | request : TaskStep p .request {p with clients := p.clients++[.flag]}
  | client (calling : p.clients[k]? = some line) : TaskStep p (.client k)
      {p with task := line.assign p.task,clients := p.clients.set k (line.next p.task.m_status)}

end steps

variable {env : TaskEnv} {p q : Process}

theorem open_parts {disk : Disk} (made : env.openSession disk config reply = some running) :
    ∃ context source target, InitSessionContext disk config env.task = some context ∧ disk (env.sourcePath config) = some source ∧
      disk (env.targetPath config) = some target ∧ running = env.newSession config context source target := by
  unfold TaskEnv.openSession at made
  split at made
  · split at made
    · exact ⟨_,_,_,‹_›,‹_›,‹_›,(Option.some.inj made).symm⟩
    · cases made
  · cases made

theorem absent_none {disk : Disk} (absent : IsFileExists disk path = false) : disk path = none :=
  Option.not_isSome_iff_eq_none.mp (Bool.eq_false_iff.mp absent)

theorem prepareStep_sound (ran : prepareStep env reply p = some q) : TaskStep env p (.thread reply) q := by
  unfold prepareStep at ran
  split at ran
  · obtain ⟨files,made,rfl⟩ := Option.map_eq_some_iff.mp ran
    split
    · rename_i full
      exact .move (.absent ‹_› ‹_› full.1 made)
    · exact .move (.present ‹_› ‹_›)
  · cases Option.some.inj ran
    split
    · exact .move (.restorable ‹_› ‹_›)
    · exact .move (.missing ‹_›)
  · cases Option.some.inj ran
    exact .move (.created ‹_›)
  · split at ran
    · rename_i fresh
      cases Option.some.inj ran
      exact .create ‹_› (absent_none (by simpa using fresh.2))
    · cases Option.some.inj ran
      exact .move (.uncreated ‹_›)
  · split at ran
    · split at ran
      · cases Option.some.inj ran
        exact .truncate ‹_› ‹_›
      · cases Option.some.inj ran
        exact .move (.untruncated ‹_›)
    · cases Option.some.inj ran
      exact .move (.untruncated ‹_›)
  · cases Option.some.inj ran
    split
    · exact .move (.invalid ‹_›)
    · rename_i accepted
      refine .move (.valid ‹_› ‹_› fun increment => ⟨reply,?_⟩)
      simpa [increment] using accepted
  · obtain ⟨sessions,split,rest⟩ := Option.bind_eq_some_iff.mp ran
    obtain ⟨volumeCopyMeta,record,rfl⟩ := Option.map_eq_some_iff.mp rest
    exact .splitBackup ‹_› ‹_› split record
  · obtain ⟨sessions,split,rfl⟩ := Option.map_eq_some_iff.mp ran
    exact .splitRestore ‹_› ‹_› split
  · cases ran

theorem taskStep_sound (ran : taskStep env reply p = some q) : TaskStep env p (.thread reply) q := by
  unfold taskStep at ran
  split at ran
  · split at ran
    · cases Option.some.inj ran
      exact .move (.begun ‹_› ‹_›)
    · cases ran
  · cases Option.some.inj ran
    exact .assign (congrArg TaskPc.assigns ‹_›)
  · cases Option.some.inj ran
    exact .assign (congrArg TaskPc.assigns ‹_›)
  · split at ran
    · cases Option.some.inj ran
      exact .move (.drained ‹_› ‹_›)
    · split at ran
      · cases Option.some.inj ran
        exact .move (.aborted ‹_› ‹_›)
      · cases Option.some.inj ran
        exact .pop ‹_› ‹_› (Bool.eq_false_iff.mpr ‹_›)
  · split at ran
    · cases ran
    · split at ran
      · cases Option.some.inj ran
        exact .opened ‹_› ‹_› ‹_›
      · cases Option.some.inj ran
        exact .move (.unopened ‹_›)
  · split at ran
    · cases ran
    · split at ran
      · cases Option.some.inj ran
        exact .completed ‹_› ‹_› ‹_›
      · cases Option.some.inj ran
        exact .failed ‹_› ‹_› ‹_›
      · obtain ⟨polling,stepped,rfl⟩ := Option.map_eq_some_iff.mp ran
        exact .poll ‹_› ‹_› stepped
  · cases Option.some.inj ran
    exact .assign (congrArg TaskPc.assigns ‹_›)
  · cases Option.some.inj ran
    exact .move (.cleared ‹_›)
  · cases Option.some.inj ran
    exact .clear ‹_›
  · cases Option.some.inj ran
    exact .assign (congrArg TaskPc.assigns ‹_›)
  · cases ran
  all_goals exact prepareStep_sound ran

theorem taskNext_sound (ran : taskNext env p action = some q) : TaskStep env p action q := by
  cases action with
  | thread reply => exact taskStep_sound ran
  | component action =>
      simp only [taskNext] at ran
      split at ran
      · obtain ⟨polling,stepped,rfl⟩ := Option.map_eq_some_iff.mp ran
        exact .component ‹_› stepped
      · cases ran
  | request =>
      cases Option.some.inj ran
      exact .request
  | client k =>
      simp only [taskNext] at ran
      split at ran
      · cases Option.some.inj ran
        exact .client ‹_›
      · cases ran

def Layout (p : Process) : Prop := p.running.isSome = true ↔ p.pc = .session

theorem Layout.idle (layout : Layout p) (here : p.pc = pc) (other : pc ≠ .session) : p.running = none := by
  refine Option.not_isSome_iff_eq_none.mp fun present => other ?_
  exact here.symm.trans (layout.mp present)

theorem TaskMove.elsewhere (moves : TaskMove env p pc) : p.pc ≠ .session ∧ pc ≠ .session := by
  cases moves with
  | _ here => exact ⟨by rw [here]; nofun,nofun⟩

theorem TaskMove.alive (moves : TaskMove env p pc) : p.pc ≠ .exited := by
  cases moves with
  | _ here => rw [here]; nofun

theorem assigns_cases {old pc : TaskPc} (here : old.assigns = some (status,pc)) :
    (old = .unprepared ∧ status = .FAILED ∧ pc = .exited) ∨ (old = .prepared ∧ status = .RUNNING ∧ pc = .loop) ∨
    (old = .conclude status ∧ pc = .exited) ∨ old = .succeed ∧ status = .SUCCEED ∧ pc = .exited := by
  cases old with
  | unprepared =>
      cases Option.some.inj here
      exact .inl ⟨rfl,rfl,rfl⟩
  | prepared =>
      cases Option.some.inj here
      exact .inr (.inl ⟨rfl,rfl,rfl⟩)
  | conclude status =>
      cases Option.some.inj here
      exact .inr (.inr (.inl ⟨rfl,rfl⟩))
  | succeed =>
      cases Option.some.inj here
      exact .inr (.inr (.inr ⟨rfl,rfl,rfl⟩))
  | _ => cases here

theorem assigns_elsewhere (here : p.pc.assigns = some (status,pc)) : p.pc ≠ .session ∧ pc ≠ .session := by
  rcases assigns_cases here with ⟨same,_,rfl⟩ | ⟨same,_,rfl⟩ | ⟨same,rfl⟩ | ⟨same,_,rfl⟩ <;> exact ⟨by rw [same]; nofun,nofun⟩

theorem Layout.step (layout : Layout p) (step : TaskStep env p action q) : Layout q := by
  have idle {pc : TaskPc} (here : p.pc = pc) (other : pc ≠ .session) : p.running = none := layout.idle here other
  cases step with
  | move moves => simp [Layout,layout.idle rfl moves.elsewhere.1,moves.elsewhere.2]
  | assign here => simp [Layout,Process.assign,layout.idle rfl (assigns_elsewhere here).1,(assigns_elsewhere here).2]
  | create here | truncate here | splitRestore here | pop here | clear here => simp [Layout,idle here nofun]
  | splitBackup here => simp only [Layout,idle here nofun]; split <;> simp
  | opened | completed | failed => simp [Layout]
  | poll here present | component present => simpa [Layout,Process.polled,present] using layout
  | request | client => exact layout

inductive Polls : TaskAction → PollAction → Prop where
  | thread : Polls (.thread reply) (.thread reply)
  | component : Polls (.component action) (.component action)
  | client : Polls (.client k) (.client line)

inductive Carry (env : TaskEnv) (p : Process) (action : TaskAction) (q : Process) : Prop where
  | idle (none : q.running = none)
  | opened (here : p.pc = .init config) (positive : config.blockSize ≠ 0) (made : env.openSession p.disk config reply = some running)
      (same : q = {p with running := some running,pc := .session})
  | moved (before : p.running = some running) (inner : PollAction) (polls : Polls action inner)
      (ran : pollNext env running.config running.source (p.polling running) inner = some polling)
      (state : q.toTaskState = polling.toTaskState) (after : q.running = some {running with run := polling.toSessionRun})
  | kept (state : q.toTaskState = p.toTaskState) (after : q.running = p.running)

theorem TaskStep.carry (layout : Layout p) (step : TaskStep env p action q) : Carry env p action q := by
  cases step with
  | move moves => exact .idle (layout.idle rfl moves.elsewhere.1)
  | assign here => exact .idle (layout.idle rfl (assigns_elsewhere here).1)
  | create here | truncate here | splitBackup here | splitRestore here | pop here | clear here =>
      exact .idle (layout.idle here nofun)
  | opened here positive made => exact .opened here positive made rfl
  | poll here present ran => exact .moved present _ .thread ran rfl rfl
  | completed | failed => exact .idle rfl
  | component present ran => exact .moved present _ .component ran rfl rfl
  | request => exact .kept rfl rfl
  | client calling =>
      rcases Option.eq_none_or_eq_some p.running with none | ⟨running,present⟩
      · exact .idle none
      · exact .moved present _ .client rfl rfl present

def Current (holds : Running → Polling → Prop) (p : Process) : Prop := ∀ running, p.running = some running → holds running (p.polling running)

def OnSession (condition : Running → Polling → PollAction → Prop) (p : Process) : TaskAction → Prop
  | .thread reply => ∀ running ∈ p.running, condition running (p.polling running) (.thread reply)
  | .component action => ∀ running ∈ p.running, condition running (p.polling running) (.component action)
  | .request | .client _ => True

instance {condition : Running → Polling → PollAction → Prop} [∀ running polling action, Decidable (condition running polling action)] :
    Decidable (OnSession condition p action) :=
  match action with
  | .thread reply => inferInstanceAs (Decidable (∀ running ∈ p.running, condition running (p.polling running) (.thread reply)))
  | .component action =>
      inferInstanceAs (Decidable (∀ running ∈ p.running, condition running (p.polling running) (.component action)))
  | .request | .client _ => inferInstanceAs (Decidable True)

theorem Current.step {holds : VolumeTaskSharedConfig → Content → Polling → Prop} {condition : Running → Polling → PollAction → Prop}
    (current : Current (fun running => holds running.config running.source) p) (layout : Layout p)
    (step : TaskStep env p action q) (allowed : OnSession condition p action)
    (free : ∀ running polling line, condition running polling (.client line))
    (opened : ∀ config reply running, p.pc = .init config → env.openSession p.disk config reply = some running →
      holds running.config running.source (p.polling running))
    (preserved : ∀ running inner polling, p.running = some running → holds running.config running.source (p.polling running) →
      pollNext env running.config running.source (p.polling running) inner = some polling → condition running (p.polling running) inner →
      holds running.config running.source polling) :
    Current (fun running => holds running.config running.source) q := by
  intro running present
  cases step.carry layout with
  | idle none => cases none.symm.trans present
  | opened here positive made same =>
      subst same
      cases Option.some.inj present
      exact opened _ _ _ here made
  | moved before inner polls ran state after =>
      rename_i old polling
      cases Option.some.inj (after.symm.trans present)
      have condition : condition old (p.polling old) inner := by
        cases polls with
        | thread | component => exact allowed _ before
        | client => exact free _ _ _
      have next := preserved _ _ _ before (current _ before) ran condition
      simpa only [Process.polling,state] using next
  | kept state after =>
      have known := current running (after.symm.trans present)
      simpa only [Process.polling,state] using known

end VolumeBackup
