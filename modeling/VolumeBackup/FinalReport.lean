import Mathlib.Algebra.Order.BigOperators.Group.List
import Mathlib.Algebra.Order.Ring.Nat
import VolumeBackup.SequentialRefinement
import VolumeBackup.ResumedCounters
import VolumeBackup.SessionSplit
import VolumeBackup.ReportedProgress

namespace VolumeBackup
open ByteMemory LabelledRuns

section session
variable {env : SessionEnv} {source : Content} {o : Flow} {s t : Session} {first : SessionCounter} {context : BlockHashingContext}
  {processed written : Bitmap} {target : Content}

theorem unhashed_step (order : FinishOrder env s) (plain : env.config.hasherEnabled = false) (none : haveHashed s.history = 0)
    (step : Step env source s action t) : haveHashed t.history = 0 := by
  cases action with
  | worker k =>
      have absent {pc : WorkerPc} : s.hasherTask.m_workers[k]? ≠ some pc := by simp [order.unused plain]
      cases (step : WorkerStep env k s t) with
      | _ here => exact absurd here absent
  | reader outcome =>
      cases (step : ReaderStep env source outcome s t) with
      | read here same done | unread here same => simpa [Session.record,Session.reader] using none
      | _ => exact none
  | writer outcome =>
      cases (step : WriterStep env outcome s t) with
      | discarded here | written here | torn here | empty here => simpa [Session.record,Session.writer] using none
      | _ => exact none
  | start component | pause | abort component | aborted component | aborting component =>
      cases (step : ControlStep env _ s t)
      all_goals first | cases component | skip
      all_goals exact none

structure Accompanied (env : SessionEnv) (source : Content) (start : Session) (s : Session) : Prop
    extends Replaying env source (start.flow env) start.counter s where
  unhashed : env.config.hasherEnabled = false → haveHashed s.history = 0
  undropped : Direct env → env.config.checkpointEnabled = false → Undropped env s

theorem Accompanied.step (known : Accompanied env source start s) (roomy : Roomy env (start.flow env)) (step : Step env source s action t) :
    Accompanied env source start t where
  toReplaying := known.toReplaying.step roomy step
  unhashed := fun plain => unhashed_step known.order plain (known.unhashed plain) step
  undropped := fun direct fresh => (known.undropped direct fresh).step direct step

-- The statistics of a session that has copied all its blocks: what was to be read has been read, each block was hashed once if at
-- all, and what was to be written has been written.
structure WholeReport (env : SessionEnv) (report : TaskStatistics) : Prop where
  toRead : report.bytesToRead = env.config.sessionSize.toNat
  read : report.bytesRead = env.config.sessionSize.toNat
  toHash : report.blocksToHash = if env.config.hasherEnabled then env.config.TotalBlocks else 0
  hashed : report.blocksHashed = if env.config.hasherEnabled then env.config.TotalBlocks else 0
  written : report.bytesWritten = report.bytesToWrite
  bound : report.bytesWritten ≤ env.config.sessionSize.toNat
  direct : Direct env → report.bytesWritten = env.config.sessionSize.toNat

theorem whole_bytes {config : VolumeTaskSharedConfig} (some : ∀ index < config.TotalBlocks, 0 < config.nBytesToRead index) :
    config.bytes (Multiset.range config.TotalBlocks) = config.sessionSize.toNat := by
  rcases Nat.eq_zero_or_pos config.TotalBlocks with none | first
  · have empty : config.sessionSize.toNat = 0 := by
      have split := Nat.div_add_mod config.sessionSize.toNat config.blockSize.toNat
      unfold VolumeTaskSharedConfig.TotalBlocks at none
      dsimp only at none
      split at none
      · cases none
      · rename_i whole
        rw [none,Decidable.not_not.mp whole] at split
        exact split.symm
    rw [none,Multiset.range_zero,bytes_zero,empty]
  · exact session_bytes (Nat.lt_of_lt_of_le (some 0 first) nBytesToRead_le)

theorem Audited.read_whole (audited : Audited env source o first s) (finished : Finished env s) (fresh : env.config.checkpointEnabled = false) :
    haveRead s.history = Multiset.range env.config.TotalBlocks ∧ done s.history = haveRead s.history := by
  have left : done s.history = haveRead s.history := by
    have count := audited.tokens.count
    rwa [(audited.empty finished).inFlight,Multiset.map_zero,Multiset.zero_add] at count
  refine ⟨(audited.tokens.nodup.ext (Multiset.nodup_range _)).mpr fun index => ?_,left⟩
  rw [Multiset.mem_range]
  constructor
  · exact audited.read_counted
  · intro below
    have within : index ≤ env.config.m_maxIndex := by
      unfold VolumeTaskSharedConfig.m_maxIndex
      omega
    rcases audited.all_done finished within with some | ⟨enabled,_⟩
    · exact left ▸ some
    · cases fresh.symm.trans enabled

theorem Accompanied.report (known : Accompanied env source start s) (finished : Finished env s) (whole : ¬Torn s.history)
    (fresh : env.config.checkpointEnabled = false) (zero : start.counter = {}) :
    WholeReport env s.counter.statistics := by
  obtain ⟨read,left⟩ := known.read_whole finished fresh
  have ledger := known.ledger
  have kept : ¬Discarded s.history := fun some => whole (known.writer.discarded some)
  have started : s.readerTask.pc ≠ .notStarted := by rcases finished.reader with here | here <;> simp [here]
  have idle : s.readerTask.pc.block = 0 := by rcases finished.reader with here | here <;> simp [here]
  have paid : s.writerTask.pc.unwritten = 0 ∧ s.writerTask.pc.unpaid = 0 := by
    rcases finished.writer with here | here | here <;> simp [here]
  have all : env.config.bytes (haveRead s.history) = env.config.sessionSize.toNat := by
    rw [read]
    exact whole_bytes fun index below => known.passage.some index (read ▸ Multiset.mem_range.mpr below)
  have hashes (hasher : env.config.hasherEnabled = true) : haveHashed s.history = haveRead s.history := by
    have none : (s.flow env).unhashed = 0 := by
      have parts := (known.empty finished).inFlight
      simp only [Flow.inFlight,add_eq_zero] at parts
      exact parts.1.1
    have passed := known.passage.hashed hasher
    rwa [none,Multiset.map_zero,Multiset.zero_add] at passed
  have wrote : s.counter.bytesWritten = env.config.bytes (recorded s.history) := by
    have books := ledger.written
    rw [paid.2,zero] at books
    simpa using books
  have toWrite : s.counter.bytesToWrite = env.config.bytes (recorded s.history) := by
    have books := ledger.toWrite
    rw [finished.drained.1,paid.1,thrown_none kept,zero] at books
    simpa using books
  refine ⟨ledger.toRead.resolve_left started,?_,?_,?_,wrote.trans toWrite.symm,?_,fun direct => ?_⟩
  · change s.counter.bytesRead = _
    rw [ledger.read,all,zero]
    exact Nat.zero_add _
  · change s.counter.blocksToHash = _
    split
    · rename_i hasher
      have books := ledger.toHash hasher
      rw [idle,read,zero] at books
      simpa using books
    · rename_i plain
      rw [known.toHash (Bool.eq_false_iff.mpr plain),zero]
  · change s.counter.blocksHashed = _
    rw [ledger.hashed,zero,Nat.zero_add]
    split
    · rename_i hasher
      rw [hashes hasher,read,Multiset.card_range]
    · rename_i plain
      rw [known.unhashed (Bool.eq_false_iff.mpr plain),Multiset.card_zero]
  · change s.counter.bytesWritten ≤ _
    rw [wrote,← all,← left]
    exact bytes_le recorded_le
  · change s.counter.bytesWritten = _
    rw [wrote,recorded_all (known.undropped direct fresh).none kept,left,all]

end session

section task
variable {env : TaskEnv} {config : VolumeTaskSharedConfig} {source : Content} {polling next : Polling} {p q : Process} {r t : Reporting}
  {field : StatisticsField}

structure Followed (env : TaskEnv) (opened : Running) (polling : Polling) : Prop where
  polled : Polled env opened.config opened.source (opened.run.state.flow (env.sessionEnv opened.config)) polling
  roomy : Roomy (env.sessionEnv opened.config) (opened.run.state.flow (env.sessionEnv opened.config))
  known : Accompanied (env.sessionEnv opened.config) opened.source opened.run.state polling.state

def FollowedSince (env : TaskEnv) (config : VolumeTaskSharedConfig) (source : Content) (polling : Polling) : Prop :=
  ∃ disk reply opened, env.openSession disk config reply = some opened ∧ opened.source = source ∧ Followed env opened polling

theorem Followed.step (followed : Followed env opened polling)
    (step : PollStep env opened.config opened.source polling action next) (clean : CleanPoll polling action) : Followed env opened next where
  polled := followed.polled.step followed.roomy step clean
  roomy := followed.roomy
  known := by
    rcases step.session with same | ⟨inner,ran,_⟩
    · exact same ▸ followed.known
    · exact followed.known.step followed.roomy (sessionStep_sound ran)

theorem opened_parts {disk : Disk} {opened : Running} (made : env.openSession disk config reply = some opened) : ∃ context source target,
    InitSessionContext disk config env.task = some context ∧ opened = env.newSession config context source target := by
  obtain ⟨context,source,target,found,_,_,same⟩ := open_parts made
  exact ⟨context,source,target,found,same⟩

theorem opened_fresh {disk : Disk} {context : VolumeTaskSharedContext} (made : InitSessionContext disk config task = some context)
    (fresh : config.checkpointEnabled = false) :
    context.counter = {} ∧ context.processedBitmap = .new config.TotalBlocks ∧ context.writtenBitmap = .new config.TotalBlocks := by
  unfold InitSessionContext at made
  obtain ⟨hashing,_,rfl⟩ := Option.map_eq_some_iff.mp made
  simp [RestoreSessionCheckpoint,fresh]

theorem followed_opened {disk : Disk} {opened : Running} {shared : TaskState} (made : env.openSession disk config reply = some opened) :
    Followed env opened {toTaskState := shared,toSessionRun := opened.run} := by
  obtain ⟨context,source,target,found,rfl⟩ := opened_parts made
  obtain ⟨_,_,first⟩ := init_opened found
  refine ⟨⟨opened_valid found,fun _ => steady_new,nofun⟩,opened_roomy found,?_⟩
  have replaying : Replaying (env.sessionEnv config) source _ _ (env.newSession config context source target).run.state :=
    Replaying.new first.failed
  refine ⟨replaying,fun _ => rfl,fun _ fresh => ?_⟩
  obtain ⟨_,processed,written⟩ := opened_fresh found fresh
  have clear : Undropped (env.sessionEnv config) (.new config context.hashingContext context.processedBitmap context.writtenBitmap
      context.counter target) :=
    Undropped.new (by rw [processed,written]) fun index set => by rw [processed,test_new] at set; cases set
  exact clear

theorem followed_since {disk : Disk} {opened : Running} {shared : TaskState} (made : env.openSession disk config reply = some opened) :
    FollowedSince env opened.config opened.source {toTaskState := shared,toSessionRun := opened.run} := by
  have followed : Followed env opened {toTaskState := shared,toSessionRun := opened.run} := followed_opened made
  obtain ⟨context,source,target,_,rfl⟩ := opened_parts made
  exact ⟨disk,reply,_,made,rfl,followed⟩

structure Following (env : TaskEnv) (p : Process) : Prop where
  queued : Queued env p
  current : Current (fun running => FollowedSince env running.config running.source) p
  completed : ∀ running ∈ p.completed, ∃ polling : Polling, polling.toSessionRun = running.run ∧ polling.pc.unsampled = some [] ∧
    FollowedSince env running.config running.source polling

theorem Following.new {disk : Disk} : Following env (.new disk) where
  queued := .new
  current := fun _ none => by cases none
  completed := fun _ inside => by cases inside

theorem Following.step (following : Following env p) (step : TaskStep env p action q) (clean : OnSession (fun _ => CleanPoll) p action) :
    Following env q := by
  refine ⟨following.queued.step step,?_,?_⟩
  · refine following.current.step following.queued.layout step clean (fun _ _ _ => trivial) ?_ ?_
    · exact fun _ _ _ _ made => followed_since made
    · rintro running inner polling _ ⟨disk,reply,opened,made,same,followed⟩ ran condition
      obtain ⟨context,source,target,_,rfl⟩ := opened_parts made
      cases same
      exact ⟨disk,reply,_,made,rfl,followed.step (pollNext_sound ran) condition⟩
  · cases step with
    | completed here present left =>
        intro running inside
        rcases List.mem_cons.mp inside with rfl | earlier
        · exact ⟨p.polling running,rfl,by rw [show (p.polling running).pc = _ from left]; rfl,following.current _ present⟩
        · exact following.completed running earlier
    | _ => exact following.completed

theorem FollowedSince.report (since : FollowedSince env config source polling) (ended : polling.pc.unsampled = some [])
    (fresh : config.checkpointEnabled = false) : WholeReport (env.sessionEnv config) polling.state.counter.statistics := by
  obtain ⟨disk,reply,opened,made,_,followed⟩ := since
  obtain ⟨context,source,target,found,rfl⟩ := opened_parts made
  obtain ⟨finished,_,whole⟩ := followed.polled.finished ended
  exact followed.known.report finished whole fresh (opened_fresh found fresh).1

def ProtectTask.enableCheckpoint : ProtectTask → Bool
  | .backup config _ => config.enableCheckpoint
  | .restore config _ => config.enableCheckpoint

theorem sessions_checkpoint {task : ProtectTask} (queue : task.sessions = some sessions) (inside : config ∈ sessions) :
    config.checkpointEnabled = task.enableCheckpoint := by
  cases task with
  | backup backup volumeSize =>
      obtain ⟨_,_,_,_,rfl⟩ := split_member queue inside
      rfl
  | restore restore volumeCopyMeta =>
      cases Option.some.inj queue
      obtain ⟨segment,_,rfl⟩ := List.mem_map.mp inside
      rfl

theorem Cuts.total {backup : VolumeBackupConfig} {volumeSize maxSessionSize offset : UInt64} {pieces : List VolumeTaskSharedConfig}
    (cuts : Cuts backup.NewVolumeTaskSession volumeSize maxSessionSize offset index pieces)
    (straight : volumeSize.toNat+maxSessionSize.toNat < 2^64) (within : offset.toNat ≤ volumeSize.toNat) :
    (pieces.map fun config => config.sessionSize.toNat).sum = volumeSize.toNat-offset.toNat := by
  induction cuts with
  | done past => exact (Nat.sub_eq_zero_of_le (UInt64.le_iff_toNat_le.mp past)).symm
  | @next offset size index pieces before cut rest ih =>
      have below := UInt64.lt_iff_toNat_lt.mp before
      have reach : size.toNat ≤ volumeSize.toNat-offset.toNat := by
        rcases cut with ⟨rfl,_⟩ | ⟨rfl,inside⟩
        · exact Nat.le_of_eq (UInt64.toNat_sub_of_le _ _ (UInt64.le_of_lt before))
        · have short := UInt64.lt_iff_toNat_lt.mp inside
          rw [UInt64.toNat_add] at short
          omega
      have moved : (offset+size).toNat = offset.toNat+size.toNat := by
        have bound := volumeSize.toNat_lt
        rw [UInt64.toNat_add]
        omega
      rw [List.map_cons,List.sum_cons,ih (by omega),moved]
      change size.toNat+_ = _
      omega

-- What a task without checkpoints reports at its end: all is read, all of it is hashed where that is asked for, and what was to be
-- written is written.
structure TotalReport (env : TaskEnv) (sessions : List VolumeTaskSharedConfig) (report : TaskStatistics) : Prop where
  toRead : report.bytesToRead = (sessions.map fun config => config.sessionSize.toNat).sum
  read : report.bytesRead = report.bytesToRead
  toHash : report.blocksToHash = (sessions.map fun config => if config.hasherEnabled then config.TotalBlocks else 0).sum
  hashed : report.blocksHashed = report.blocksToHash
  written : report.bytesWritten = report.bytesToWrite
  bound : report.bytesWritten ≤ report.bytesRead
  direct : (∀ config ∈ sessions, Direct (env.sessionEnv config)) → report.bytesWritten = report.bytesRead
  volume : ∀ config volumeSize, env.task = .backup config volumeSize → volumeSize.toNat+config.sessionSize.toNat < 2^64 →
    report.bytesRead = volumeSize.toNat

theorem finals_total {measure : VolumeTaskSharedConfig → Nat}
    (each : ∀ running ∈ p.completed, running.run.state.counter.statistics.get field = measure running.config) :
    p.finals field = ((p.completed.reverse.map Running.config).map measure).sum := by
  unfold Process.finals
  rw [List.map_congr_left each,List.map_map,List.map_reverse,List.sum_reverse]
  rfl

theorem Following.total (following : Following env p) (queue : env.task.sessions = some (p.completed.reverse.map Running.config))
    (disabled : env.task.enableCheckpoint = false) {report : TaskStatistics} (settled : ∀ field, report.get field = p.finals field) :
    TotalReport env (p.completed.reverse.map Running.config) report := by
  have whole (running : Running) (inside : running ∈ p.completed) :
      WholeReport (env.sessionEnv running.config) running.run.state.counter.statistics := by
    obtain ⟨polling,same,ended,since⟩ := following.completed running inside
    have member : running.config ∈ p.completed.reverse.map Running.config := List.mem_map_of_mem (List.mem_reverse.mpr inside)
    have report := since.report ended ((sessions_checkpoint queue member).trans disabled)
    rwa [show polling.state = running.run.state from congrArg SessionRun.state same] at report
  have toRead : report.bytesToRead = ((p.completed.reverse.map Running.config).map fun config => config.sessionSize.toNat).sum :=
    (settled .bytesToRead).trans (finals_total fun running inside => (whole running inside).toRead)
  have read : report.bytesRead = ((p.completed.reverse.map Running.config).map fun config => config.sessionSize.toNat).sum :=
    (settled .bytesRead).trans (finals_total fun running inside => (whole running inside).read)
  have toHash : report.blocksToHash = ((p.completed.reverse.map Running.config).map
      fun config => if config.hasherEnabled then config.TotalBlocks else 0).sum :=
    (settled .blocksToHash).trans (finals_total fun running inside => (whole running inside).toHash)
  have hashed : report.blocksHashed = ((p.completed.reverse.map Running.config).map
      fun config => if config.hasherEnabled then config.TotalBlocks else 0).sum :=
    (settled .blocksHashed).trans (finals_total fun running inside => (whole running inside).hashed)
  refine ⟨toRead,read.trans toRead.symm,toHash,hashed.trans toHash.symm,?_,?_,fun direct => ?_,fun config volumeSize task straight => ?_⟩
  · refine (settled .bytesWritten).trans (Eq.trans ?_ (settled .bytesToWrite).symm)
    exact congrArg List.sum (List.map_congr_left fun running inside => (whole running inside).written)
  · change report.get .bytesWritten ≤ report.get .bytesRead
    rw [settled,settled]
    refine List.sum_le_sum fun running inside => ?_
    exact (whole running inside).bound.trans (whole running inside).read.ge
  · rw [read]
    refine (settled .bytesWritten).trans (finals_total fun running inside => (whole running inside).direct (direct _ ?_))
    exact List.mem_map_of_mem (List.mem_reverse.mpr inside)
  · rw [read]
    rw [task] at queue
    exact (splitVolume_sound queue).total straight (Nat.zero_le _)

def OnTask (condition : Process → TaskAction → Prop) (r : Reporting) : ReportAction → Prop
  | .poll => True
  | .task action => condition r.process action

theorem ReportStep.process (step : ReportStep env r action t) :
    t.process = r.process ∨ ∃ inner, action = .task inner ∧ TaskStep env r.process inner t.process := by
  cases step with
  | poll | lock => exact .inl rfl
  | @load update field rest running reply => cases update <;> exact .inl rfl
  | unlock held step => exact .inr ⟨_,rfl,step⟩
  | task step => exact .inr ⟨_,rfl,step⟩

-- However the polls fall and the threads take turns, GetStatistics returns the totals of the sessions once a task without
-- checkpoints has succeeded, and for a backup the size of the volume.
theorem final_report {disk : Disk} (disabled : env.task.enableCheckpoint = false)
    (path : Runs (reportNext env) (OnTask (OnSession fun _ => CleanPoll)) (.new disk) actions r)
    (succeeded : r.process.task.m_status = .SUCCEED) :
    ∃ sessions, env.task.sessions = some sessions ∧ TotalReport env sessions r.GetStatistics := by
  have known : Tallied env r ∧ Following env r.process := by
    refine path.invariant (fun r => Tallied env r ∧ Following env r.process) ⟨.new,.new⟩ fun r action t known ran clean => ?_
    have step := reportNext_sound ran
    refine ⟨known.1.step step,?_⟩
    rcases step.process with same | ⟨inner,rfl,moved⟩
    · exact same ▸ known.2
    · exact known.2.step moved clean
  obtain ⟨tallied,following⟩ := known
  have queue := following.queued.finished succeeded
  have ended : r.process.pc = .exited := Decidable.byContradiction fun live => following.queued.unfinished live succeeded
  have idle := following.queued.layout.idle ended nofun
  exact ⟨_,queue,following.total queue disabled (tallied.settled idle fun _ => succeeded)⟩

end task

instance {condition : Process → TaskAction → Prop} [∀ p action, Decidable (condition p action)] : Decidable (OnTask condition r action) :=
  match action with
  | .poll => inferInstanceAs (Decidable True)
  | .task action => inferInstanceAs (Decidable (condition r.process action))

-- Both sessions' bytes are read, hashed and written.
theorem final_report_sessions : ∃ r : Reporting, r.GetStatistics = ⟨3,3,3,3,3,3⟩ ∧
    ∃ sessions, hashedEnv.task.sessions = some sessions ∧ TotalReport hashedEnv sessions r.GetStatistics := by
  have run : (execute (reportNext hashedEnv) (fun r action => decide (OnTask (OnSession fun _ => CleanPoll) r action)) (.new hashedDisk)
      hashedPolls).any (fun r => decide (r.process.task.m_status = .SUCCEED ∧ r.GetStatistics = ⟨3,3,3,3,3,3⟩)) = true := by decide +kernel
  obtain ⟨r,path,good⟩ := execute_ends (fun _ _ => of_decide_eq_true) run
  obtain ⟨succeeded,report⟩ := of_decide_eq_true good
  exact ⟨r,report,final_report rfl path succeeded⟩

end VolumeBackup
