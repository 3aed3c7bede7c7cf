import VolumeBackup.SessionPolling

namespace VolumeBackup
open ByteMemory

section steps
variable (env : TaskEnv) (config : VolumeTaskSharedConfig) (source : Content)

inductive PollMove (p : Polling) : PollPc → Prop where
  | started (here : p.pc = .start []) : PollMove p .check
  | aborts (here : p.pc = .check) (abort : p.task.m_abort = true) : PollMove p (abortFrom .ABORTED env.task.components)
  | goOn (here : p.pc = .check) (running : p.task.m_abort = false) : PollMove p (.isFailed env.task.components)
  | noneFailed (here : p.pc = .isFailed []) : PollMove p (.isTerminated env.task.components)
  | failed (here : p.pc = .isFailed (component::rest)) (failed : (p.state.task component).m_status = .FAILED) :
      PollMove p (.conclude .FAILED)
  | notFailed (here : p.pc = .isFailed (component::rest)) (working : (p.state.task component).m_status ≠ .FAILED) :
      PollMove p (.isFailed rest)
  | allTerminated (here : p.pc = .isTerminated []) : PollMove p (if env.task.isBackup then .flushTable else .flushWriter)
  | terminated (here : p.pc = .isTerminated (component::rest)) (gone : (p.state.task component).m_status.IsTerminated = true) :
      PollMove p (.isTerminated rest)
  | running (here : p.pc = .isTerminated (component::rest)) : PollMove p .statistics
  | due (here : p.pc = .refresh) (enabled : config.checkpointEnabled = true) : PollMove p .pause
  | notDue (here : p.pc = .refresh) : PollMove p .check
  | taken (here : p.pc = .snapshot) (hasher : config.hasherEnabled = true) :
      PollMove p (.refreshTable (TakeSessionCheckpointSnapshot p.state))
  | takenPlain (here : p.pc = .snapshot) (plain : config.hasherEnabled = false) :
      PollMove p (.refreshWriter (TakeSessionCheckpointSnapshot p.state))
  | unsynced (here : p.pc = .refreshWriter snapshot) : PollMove p .resume
  | fresh (here : p.pc = .refreshBitmap snapshot) : PollMove p (.saveBitmap snapshot (TakeSessionCheckpointSnapshot p.state))
  | noTable (here : p.pc = .flushTable) (plain : config.hasherEnabled = false) : PollMove p .flushWriter
  | final (here : p.pc = .flushBitmap) (enabled : config.checkpointEnabled = true) :
      PollMove p (.saveFinal (TakeSessionCheckpointSnapshot p.state))
  | noBitmap (here : p.pc = .flushBitmap) (disabled : config.checkpointEnabled = false) : PollMove p .completed
  | reads (here : p.pc = .abort line component rest status)
      (next : (∃ later, pc = .abort later component rest status) ∨ pc = abortFrom status rest) : PollMove p pc
  | left (here : p.pc = .leave returned) (joined : p.state.Joined = true) : PollMove p (.left returned)

inductive PollDrive (p : Polling) (state : Session) : SessionAction → PollPc → Prop where
  | started (here : p.pc = .start (component::rest)) (running : (state.task component).m_status ≠ .FAILED) :
      PollDrive p state (.start component) (.start rest)
  | startFailed (here : p.pc = .start (component::rest)) (failed : (state.task component).m_status = .FAILED) :
      PollDrive p state (.start component) (abortFrom .FAILED env.task.components)
  | paused (here : p.pc = .pause) : PollDrive p state (.pause true) .snapshot
  | resumed (here : p.pc = .resume) : PollDrive p state (.pause false) .check
  | assigned (here : p.pc = .abort line component rest status)
      (assigns : action = .abort component ∨ action = .aborted component ∨ action = .aborting component)
      (next : (∃ later, pc = .abort later component rest status) ∨ pc = abortFrom status rest) : PollDrive p state action pc

inductive PollStep (p : Polling) : PollAction → Polling → Prop where
  | move (moves : PollMove env config p pc) : PollStep p (.thread reply) {p with pc := pc}
  | drive (drives : PollDrive env p state action pc)
      (ran : sessionStep (env.sessionEnv config) source p.state action = some state) :
      PollStep p (.thread reply) {p with state := state,pc := pc}
  | statistics (here : p.pc = .statistics) :
      PollStep p (.thread reply) {p with m_currentSessionStatistics := p.state.counter.statistics,pc := .refresh}
  | table (here : p.pc = .refreshTable snapshot) (yes : reply.isYes = true) :
      PollStep p (.thread reply) (p.saveTable config reply (.refreshWriter snapshot))
  | tableLost (here : p.pc = .refreshTable snapshot) (no : reply.isYes = false) :
      PollStep p (.thread reply) (p.saveTable config reply .resume)
  | sync (here : p.pc = .refreshWriter snapshot) (yes : reply.isYes = true) :
      PollStep p (.thread reply) {p with synced := p.state.history,pc := .refreshBitmap snapshot}
  | bitmap (here : p.pc = .saveBitmap snapshot fresh) (yes : reply.isYes = true) :
      PollStep p (.thread reply) (p.saveCheckpoint config fresh reply (.saveSnapshot snapshot))
  | bitmapLost (here : p.pc = .saveBitmap snapshot fresh) (no : reply.isYes = false) :
      PollStep p (.thread reply) (p.saveCheckpoint config fresh reply .resume)
  | snapshot (here : p.pc = .saveSnapshot snapshot) : PollStep p (.thread reply) (p.saveCheckpoint config snapshot reply .resume)
  | finalTable (here : p.pc = .flushTable) (hasher : config.hasherEnabled = true) :
      PollStep p (.thread reply) (p.saveTable config reply .flushWriter)
  | finalSync (here : p.pc = .flushWriter) : PollStep p (.thread reply) (p.sync reply .flushBitmap)
  | finalBitmap (here : p.pc = .saveFinal fresh) : PollStep p (.thread reply) (p.saveCheckpoint config fresh reply .completed)
  | completed (here : p.pc = .completed) : PollStep p (.thread reply) {p with
      m_completedSessionStatistics := p.m_completedSessionStatistics.plus p.state.counter.statistics
      m_currentSessionStatistics := {},pc := .leave true}
  | concluded (here : p.pc = .conclude status) :
      PollStep p (.thread reply) {p with task := {p.task with m_status := status},pc := .leave false}
  | component (own : action.ofComponent = true)
      (ran : sessionStep (env.sessionEnv config) source p.state action = some state) :
      PollStep p (.component action) {p with state := state,disk := p.disk.put (env.targetPath config) state.target}
  | client : PollStep p (.client line) {p with task := line.assign p.task}

end steps

variable {env : TaskEnv} {config : VolumeTaskSharedConfig} {source : Content} {p q : Polling}

theorem drive_parts {pc : Session → PollPc} (ran : p.drive env config source action pc = some q) :
    ∃ state, sessionStep (env.sessionEnv config) source p.state action = some state ∧
      q = {p with state := state,pc := pc state} := by
  obtain ⟨state,stepped,same⟩ := Option.map_eq_some_iff.mp ran
  exact ⟨state,stepped,same.symm⟩

theorem abort_next (line : AbortPc) : (∃ later, abortNext component rest status line = .abort later component rest status) ∨
    abortNext component rest status line = abortFrom status rest := by
  cases line with
  | returned => exact .inr rfl
  | flag | init | aborted | terminated | aborting => exact .inl ⟨_,rfl⟩

theorem pollStep_sound (ran : pollStep env config source reply p = some q) : PollStep env config source p (.thread reply) q := by
  unfold pollStep at ran
  dsimp only at ran
  split at ran
  · cases Option.some.inj ran
    exact .move (.started ‹_›)
  · obtain ⟨state,stepped,rfl⟩ := drive_parts ran
    split
    · rename_i failed
      exact .drive (.startFailed ‹_› (of_decide_eq_true failed)) stepped
    · rename_i working
      exact .drive (.started ‹_› fun same => working (decide_eq_true same)) stepped
  · cases Option.some.inj ran
    split
    · exact .move (.aborts ‹_› ‹_›)
    · exact .move (.goOn ‹_› (Bool.eq_false_iff.mpr ‹_›))
  · cases Option.some.inj ran
    exact .move (.noneFailed ‹_›)
  · cases Option.some.inj ran
    split
    · rename_i failed
      exact .move (.failed ‹_› (of_decide_eq_true failed))
    · rename_i working
      exact .move (.notFailed ‹_› fun same => working (decide_eq_true same))
  · cases Option.some.inj ran
    exact .move (.allTerminated ‹_›)
  · cases Option.some.inj ran
    split
    · exact .move (.terminated ‹_› ‹_›)
    · exact .move (.running ‹_›)
  · cases Option.some.inj ran
    exact .statistics ‹_›
  · cases Option.some.inj ran
    split
    · rename_i due
      exact .move (.due ‹_› due.1)
    · exact .move (.notDue ‹_›)
  · obtain ⟨state,stepped,rfl⟩ := drive_parts ran
    exact .drive (.paused ‹_›) stepped
  · cases Option.some.inj ran
    split
    · exact .move (.taken ‹_› ‹_›)
    · exact .move (.takenPlain ‹_› (Bool.eq_false_iff.mpr ‹_›))
  · cases Option.some.inj ran
    split
    · exact .table ‹_› ‹_›
    · exact .tableLost ‹_› (Bool.eq_false_iff.mpr ‹_›)
  · cases Option.some.inj ran
    unfold Polling.sync
    split
    · exact .sync ‹_› ‹_›
    · exact .move (.unsynced ‹_›)
  · cases Option.some.inj ran
    exact .move (.fresh ‹_›)
  · cases Option.some.inj ran
    split
    · exact .bitmap ‹_› ‹_›
    · exact .bitmapLost ‹_› (Bool.eq_false_iff.mpr ‹_›)
  · cases Option.some.inj ran
    exact .snapshot ‹_›
  · obtain ⟨state,stepped,rfl⟩ := drive_parts ran
    exact .drive (.resumed ‹_›) stepped
  · split at ran
    · cases Option.some.inj ran
      exact .finalTable ‹_› ‹_›
    · cases Option.some.inj ran
      exact .move (.noTable ‹_› (Bool.eq_false_iff.mpr ‹_›))
  · cases Option.some.inj ran
    exact .finalSync ‹_›
  · cases Option.some.inj ran
    split
    · exact .move (.final ‹_› ‹_›)
    · exact .move (.noBitmap ‹_› (Bool.eq_false_iff.mpr ‹_›))
  · cases Option.some.inj ran
    exact .finalBitmap ‹_›
  · cases Option.some.inj ran
    exact .completed ‹_›
  · rename_i line component rest status here
    cases line with
    | flag =>
        obtain ⟨state,stepped,rfl⟩ := drive_parts ran
        exact .drive (.assigned here (.inl rfl) (abort_next _)) stepped
    | aborted =>
        obtain ⟨state,stepped,rfl⟩ := drive_parts ran
        exact .drive (.assigned here (.inr (.inl rfl)) (abort_next _)) stepped
    | aborting =>
        obtain ⟨state,stepped,rfl⟩ := drive_parts ran
        exact .drive (.assigned here (.inr (.inr rfl)) (abort_next _)) stepped
    | init | terminated | returned =>
        cases Option.some.inj ran
        exact .move (.reads here (abort_next _))
  · cases Option.some.inj ran
    exact .concluded ‹_›
  · split at ran
    · cases Option.some.inj ran
      exact .move (.left ‹_› ‹_›)
    · cases ran
  · cases ran

theorem pollNext_sound (ran : pollNext env config source p action = some q) : PollStep env config source p action q := by
  cases action with
  | thread reply => exact pollStep_sound ran
  | component action =>
      simp only [pollNext] at ran
      split at ran
      · obtain ⟨state,stepped,rfl⟩ := Option.map_eq_some_iff.mp ran
        exact .component ‹_› stepped
      · cases ran
  | client line =>
      cases Option.some.inj ran
      exact .client

end VolumeBackup
