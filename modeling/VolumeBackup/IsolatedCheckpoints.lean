import VolumeBackup.CheckpointFile
import VolumeBackup.CrashResume
import VolumeBackup.IncrementValidation
import VolumeBackup.SparedBlocks

namespace VolumeBackup
open ByteMemory LabelledRuns

section disk
variable (disk : Disk) (config : VolumeTaskSharedConfig)

-- A session that is opened on this disk takes the block for processed.
structure Resumes (index : Nat) : Prop where
  enabled : config.checkpointEnabled = true
  marked : Checkpointed disk config index
  table : config.hasherEnabled = true → IsFileExists disk config.lastestChecksumBinPath = true

def Blank : Prop := ∀ index, ¬Checkpointed disk config index

end disk

def PollPc.saving : PollPc → Option CheckpointSnapshot
  | .saveBitmap _ fresh => some fresh
  | .saveSnapshot taken => some taken
  | .saveFinal fresh => some fresh
  | _ => none

def TaskPc.removes : TaskPc → Bool
  | .clear (_::_) => true
  | _ => false

def PollPc.refreshing : PollPc → Bool
  | .pause | .snapshot | .refreshTable _ | .refreshWriter _ | .refreshBitmap _ | .saveBitmap _ _ | .saveSnapshot _ => true
  | _ => false

def PollPc.stored : PollPc → Bool
  | .refreshWriter _ | .refreshBitmap _ | .saveBitmap _ _ | .saveSnapshot _ => true
  | _ => false

-- Tasks whose sessions keep checkpoints in files of their own.
inductive Checkpointing (env : TaskEnv) (queue : List VolumeTaskSharedConfig) : Prop where
  | backup {full : VolumeBackupConfig} {volumeSize : UInt64} (task : env.task = .backup full volumeSize)
  | restore {config : VolumeRestoreConfig} {record : VolumeCopyMeta} {original : VolumeBackupConfig} {volumeSize : UInt64}
      (task : env.task = .restore config record) (segments : original.split volumeSize original.NewCopySegment = some record.segments)
      (apart : ∀ session ∈ queue, config.volumePath ≠ session.checkpointFilePath)

structure Isolated (env : TaskEnv) (queue : List VolumeTaskSharedConfig) : Prop where
  sessions : env.task.sessions = some queue
  distinct : queue.Nodup
  own : ∀ config ∈ queue, config.checkpointFilePath ≠ env.targetPath config ∧ config.checkpointFilePath ≠ config.lastestChecksumBinPath
  others : ∀ config ∈ queue, ∀ other ∈ queue, config ≠ other → other.checkpointFilePath ∉ env.writes config
  tables : ∀ config ∈ queue, ∀ other ∈ queue, config.lastestChecksumBinPath ≠ other.checkpointFilePath
  prepared : ∀ path, env.MakesData path ∨ env.MakesRecord path → ∀ config ∈ queue, config.checkpointFilePath ≠ path
  sized : ∀ config ∈ queue, config.hasherEnabled = true →
    ∃ backup volumeSize, env.task = .backup backup volumeSize ∧ 0 < config.TotalBlocks

variable {env : TaskEnv} {config other : VolumeTaskSharedConfig} {queue : List VolumeTaskSharedConfig} {first disk after : Disk}
  {snapshot : CheckpointSnapshot} {source : Content} {o : Flow} {p q : Process} {x y : Polling}

section files
variable (sessions : env.task.sessions = some queue)
include sessions

theorem Isolated.backup {full : VolumeBackupConfig} (task : env.task = .backup full volumeSize) : Isolated env queue where
  sessions := sessions
  distinct := by
    rw [task] at sessions
    refine split_pairwise sessions fun start size k origin length l less same => ?_
    have path : GetWriterBitmapFilePath full.checkpointDirPath full.copyName k =
        GetWriterBitmapFilePath full.checkpointDirPath full.copyName l :=
      congrArg VolumeTaskSharedConfig.checkpointFilePath same
    exact Nat.ne_of_lt less (checkpoint_inj path).2
  own := by
    intro config member
    obtain ⟨i,start,size,_,same⟩ := backup_member task sessions member
    rw [backup_target task,same]
    exact ⟨copy_checkpoint.symm,checksum_checkpoint.symm⟩
  others := by
    intro config member other second differ
    obtain ⟨start,size,i,origin,length,j,same,equal,number⟩ := backup_numbers task sessions member second differ
    rw [unwritten,backup_target task,same,equal]
    exact ⟨copy_checkpoint.symm,checksum_checkpoint.symm,fun path => number (checkpoint_inj path).2⟩
  tables := by
    intro config member other second
    obtain ⟨i,start,size,_,same⟩ := backup_member task sessions member
    obtain ⟨j,origin,length,_,equal⟩ := backup_member task sessions second
    rw [same,equal]
    exact checksum_checkpoint
  prepared := by
    intro path made config member
    obtain ⟨i,start,size,_,same⟩ := backup_member task sessions member
    rw [same]
    rcases made with ⟨known,length,_,_,format,k,rfl⟩ | ⟨known,length,_,rfl⟩
    · exact copy_checkpoint.symm
    · exact checkpoint_meta
  sized := by
    intro config member _
    refine ⟨full,volumeSize,task,?_⟩
    rw [task] at sessions
    obtain ⟨start,size,k,rfl,positive⟩ := split_some sessions member
    exact totalBlocks_positive positive

theorem Isolated.restore {restore : VolumeRestoreConfig} {record : VolumeCopyMeta} {original : VolumeBackupConfig}
    (task : env.task = .restore restore record) (segments : original.split volumeSize original.NewCopySegment = some record.segments)
    (apart : ∀ session ∈ queue, restore.volumePath ≠ session.checkpointFilePath) : Isolated env queue where
  sessions := sessions
  distinct := by
    rw [task] at sessions
    cases Option.some.inj sessions
    refine List.Pairwise.map _ (fun _ _ => id) (split_pairwise segments fun start size k origin length l less same => ?_)
    exact Nat.ne_of_lt less (checkpoint_inj (congrArg VolumeTaskSharedConfig.checkpointFilePath same)).2
  own := by
    intro config member
    refine ⟨by rw [restore_target task sessions member]; exact (apart config member).symm,?_⟩
    obtain ⟨segment,_,same⟩ := restore_member task sessions member
    rw [same]
    exact checkpoint_some
  others := by
    intro config member other second differ
    obtain ⟨segment,inside,same⟩ := restore_member task sessions member
    obtain ⟨next,within,equal⟩ := restore_member task sessions second
    obtain ⟨i,start,size,found,here⟩ := split_member segments inside
    obtain ⟨j,origin,length,present,there⟩ := split_member segments within
    have number : next.index ≠ segment.index := by
      intro index
      have left : segment.index = 0+i := by rw [here]; rfl
      have right : next.index = 0+j := by rw [there]; rfl
      have place : j = i := by omega
      subst place
      cases found.symm.trans present
      exact differ (same.trans equal.symm)
    rw [unwritten,restore_target task sessions member]
    refine ⟨(apart other second).symm,?_,?_⟩
    · rw [same,equal]
      exact checkpoint_some
    · rw [same,equal]
      exact fun path => number (checkpoint_inj path).2
  tables := by
    intro config member other second
    obtain ⟨segment,_,same⟩ := restore_member task sessions member
    obtain ⟨next,_,equal⟩ := restore_member task sessions second
    rw [same,equal]
    exact checkpoint_some.symm
  prepared := by
    rintro path (⟨known,size,equal,_⟩ | ⟨known,size,equal,_⟩) <;> cases task.symm.trans equal
  sized := by
    intro config member hasher
    obtain ⟨segment,_,same⟩ := restore_member task sessions member
    rw [same] at hasher
    cases hasher

theorem Checkpointing.isolated (checkpointing : Checkpointing env queue) : Isolated env queue := by
  cases checkpointing with
  | backup task => exact .backup sessions task
  | restore task segments apart => exact .restore sessions task segments apart

end files

theorem resumes_exact (isolated : Isolated env queue) (member : config ∈ queue)
    (found : InitSessionContext disk config env.task = some context) :
    context.processedBitmap.Test index = true ↔ Resumes disk config index := by
  constructor
  · intro set
    obtain ⟨hashing,_,opened⟩ := init_opened found
    obtain ⟨enabled,marked,table⟩ := opened.marked index set
    refine ⟨enabled,marked,fun hasher => ?_⟩
    obtain ⟨content,present,_⟩ := table hasher
    simp [IsFileExists,present]
  · rintro ⟨enabled,marked,table⟩
    unfold InitSessionContext at found
    obtain ⟨hashing,made,rfl⟩ := Option.map_eq_some_iff.mp found
    have fresh : Opened disk config hashing
        {processedBitmap := .new config.TotalBlocks,writtenBitmap := .new config.TotalBlocks,counter := {},
          hashingContext := hashing} := .fresh rfl rfl rfl rfl rfl
    refine fresh.restore.accepts enabled marked fun hasher => ?_
    obtain ⟨backup,volumeSize,task,some⟩ := isolated.sized config member hasher
    obtain ⟨content,present⟩ := Option.isSome_iff_exists.mp (table hasher)
    rw [task] at made
    exact ⟨content,present,by rw [hashing_size made]; omega⟩

theorem Resumes.frame (resumes : Resumes disk config index)
    (marks : after config.checkpointFilePath = disk config.checkpointFilePath)
    (table : IsFileExists disk config.lastestChecksumBinPath = true → IsFileExists after config.lastestChecksumBinPath = true) :
    Resumes after config index :=
  ⟨resumes.enabled,(marks_congr marks).mpr resumes.marked,fun hasher => table (resumes.table hasher)⟩

section save
variable (capacity : snapshot.bitmapBufferBytesLength = (Bitmap.new config.TotalBlocks).m_capacity)
include capacity

theorem whole_marks (saved : disk config.checkpointFilePath = some (.of (2*snapshot.bitmapBufferBytesLength) snapshot.buffer))
    (set : snapshot.processed.Test index = true) : Checkpointed disk config index := by
  have long : 0 < snapshot.bitmapBufferBytesLength := by
    rw [capacity]
    exact Nat.succ_pos _
  obtain ⟨found,loaded,length,marks,_⟩ := load_saved saved long
  refine ⟨found,loaded,length.trans capacity,?_⟩
  rw [← set]
  exact test_congr length (fun k bound => marks k (Nat.lt_of_lt_of_eq bound length)) index

theorem save_outcome (disk : Disk) (reply : Reply) :
    (snapshot.SaveTo disk config.checkpointFilePath reply) config.checkpointFilePath = disk config.checkpointFilePath ∨
    (∀ index, snapshot.processed.Test index = true → Checkpointed (snapshot.SaveTo disk config.checkpointFilePath reply) config index) ∨
    reply.opened ≠ reply.isYes ∧ ∀ index, ¬Checkpointed (snapshot.SaveTo disk config.checkpointFilePath reply) config index := by
  cases reply with
  | yes => exact .inr (.inl fun index => whole_marks capacity put_same)
  | no part =>
      cases part with
      | none => exact .inl rfl
      | some kept =>
          by_cases whole : 2*snapshot.bitmapBufferBytesLength ≤ kept
          · refine .inr (.inl fun index => whole_marks capacity ?_)
            refine put_same.trans (congrArg some ?_)
            rw [Content.of_size,Nat.min_eq_right whole]
            exact resize_whole
          · refine .inr (.inr ⟨by simp [Reply.opened,Reply.isYes],?_⟩)
            rintro index ⟨saved,loaded,exact,_⟩
            obtain ⟨content,present,size,_⟩ := load_parts loaded
            cases Option.some.inj (put_same.symm.trans present)
            rw [exact,← capacity] at size
            simp only [Content.resize,Content.of_size] at size
            omega

end save

theorem saving_taken {pc : PollPc} (saving : pc.saving = some snapshot) : snapshot ∈ pc.snapshots := by
  cases pc with
  | saveBitmap taken fresh =>
      cases saving
      exact List.mem_cons_of_mem _ List.mem_cons_self
  | saveSnapshot taken | saveFinal fresh =>
      cases saving
      exact List.mem_cons_self
  | _ => cases saving

theorem PollStep.records (step : PollStep env config source x action y)
    (own : config.checkpointFilePath ≠ env.targetPath config ∧ config.checkpointFilePath ≠ config.lastestChecksumBinPath) :
    y.disk config.checkpointFilePath = x.disk config.checkpointFilePath ∨ ∃ snapshot reply, x.pc.saving = some snapshot ∧
      action = .thread reply ∧ y.disk = snapshot.SaveTo x.disk config.checkpointFilePath reply := by
  cases step with
  | table | tableLost | finalTable => exact .inl (save_other own.2)
  | bitmap here | bitmapLost here | snapshot here | finalBitmap here => exact .inr ⟨_,_,by rw [here]; rfl,rfl,rfl⟩
  | component => exact .inl (put_other own.1)
  | _ => exact .inl rfl

theorem save_exists (present : IsFileExists disk path = true) {other : String} {content : Content} :
    IsFileExists (disk.save other content reply) path = true := by
  unfold IsFileExists at present ⊢
  by_cases same : path = other
  · subst same
    cases reply with
    | yes => simp [Disk.save]
    | no part => cases part <;> simp [Disk.save,present]
  · rw [save_other same]
    exact present

theorem put_exists (present : IsFileExists disk path = true) {other : String} {content : Content} :
    IsFileExists (disk.put other content) path = true :=
  (save_exists present : IsFileExists (disk.save other content .yes) path = true)

theorem PollStep.exists (step : PollStep env config source x action y) {path : String} (present : IsFileExists x.disk path = true) :
    IsFileExists y.disk path = true := by
  cases step with
  | table | tableLost | finalTable | bitmap | bitmapLost | snapshot | finalBitmap => exact save_exists present
  | component => exact put_exists present
  | _ => exact present

-- A session as far as its checkpoint goes: every snapshot that is on its way to the file fits it and is of blocks that the session
-- has processed, and the checksum table is there before they are saved.
structure Snapping (env : TaskEnv) (config : VolumeTaskSharedConfig) (source : Content) (o : Flow) (p : Polling) : Prop where
  valid : Valid (env.sessionEnv config) source o p.state
  roomy : Roomy (env.sessionEnv config) o
  processed : o.processed.m_capacity = (Bitmap.new config.TotalBlocks).m_capacity
  written : o.written.m_capacity = (Bitmap.new config.TotalBlocks).m_capacity
  spared : Spared (env.sessionEnv config) o p.state
  taken : ∀ snapshot ∈ p.pc.snapshots, snapshot.bitmapBufferBytesLength = (Bitmap.new config.TotalBlocks).m_capacity ∧
    ∀ index, snapshot.processed.Test index = true → p.state.processedBitmap.Test index = true
  enabled : p.pc.refreshing = true → config.checkpointEnabled = true
  stored : p.pc.stored = true → config.hasherEnabled = true → IsFileExists p.disk config.lastestChecksumBinPath = true

theorem abortFrom_stored {status : TaskStatus} {components : List Component} :
    (abortFrom status components).refreshing = false ∧ (abortFrom status components).stored = false := by
  cases components <;> exact ⟨rfl,rfl⟩

theorem aborting_stored {component : Component} {rest : List Component} {status : TaskStatus} {pc : PollPc}
    (next : (∃ later, pc = .abort later component rest status) ∨ pc = abortFrom status rest) :
    pc.refreshing = false ∧ pc.stored = false := by
  rcases next with ⟨later,rfl⟩ | rfl
  · exact ⟨rfl,rfl⟩
  · exact abortFrom_stored

section snapping
variable (snapping : Snapping env config source o x)
include snapping

theorem Snapping.takes : (TakeSessionCheckpointSnapshot x.state).bitmapBufferBytesLength = (Bitmap.new config.TotalBlocks).m_capacity ∧
    (TakeSessionCheckpointSnapshot x.state).processed = x.state.processedBitmap := by
  have processed : x.state.processedBitmap.m_capacity = _ := snapping.valid.marks.processed.capacity.trans snapping.processed
  have written : x.state.writtenBitmap.m_capacity = _ := snapping.valid.marks.written.capacity.trans snapping.written
  exact ⟨written,taken_processed (processed.trans written.symm)⟩

theorem Snapping.grows (step : PollStep env config source x action y) (set : x.state.processedBitmap.Test index = true) :
    y.state.processedBitmap.Test index = true := by
  rcases step.session with same | ⟨inner,ran,_⟩
  · rw [same]
    exact set
  · exact (snapping.valid.toSound.bits (sessionStep_sound ran)).1 index set

theorem Snapping.refreshes (step : PollStep env config source x action y) (refreshing : y.pc.refreshing = true) :
    config.checkpointEnabled = true := by
  have before {pc : PollPc} (here : x.pc = pc) (same : pc.refreshing = true) : config.checkpointEnabled = true :=
    snapping.enabled (by rw [here]; exact same)
  cases step with
  | move moves =>
      cases moves with
      | due here enabled => exact enabled
      | taken here | takenPlain here | fresh here => exact before here rfl
      | aborts => cases abortFrom_stored.1.symm.trans refreshing
      | reads here next => cases (aborting_stored next).1.symm.trans refreshing
      | allTerminated here =>
          dsimp only at refreshing
          split at refreshing <;> cases refreshing
      | _ => cases refreshing
  | drive drives ran =>
      cases drives with
      | paused here => exact before here rfl
      | startFailed => cases abortFrom_stored.1.symm.trans refreshing
      | assigned here assigns next => cases (aborting_stored next).1.symm.trans refreshing
      | _ => cases refreshing
  | table here | sync here | bitmap here => exact before here rfl
  | component | client => exact snapping.enabled refreshing
  | _ => cases refreshing

theorem Snapping.tabled (step : PollStep env config source x action y) (stored : y.pc.stored = true)
    (hasher : config.hasherEnabled = true) : IsFileExists y.disk config.lastestChecksumBinPath = true := by
  have before {pc : PollPc} (here : x.pc = pc) (same : pc.stored = true) : IsFileExists y.disk config.lastestChecksumBinPath = true :=
    step.exists (snapping.stored (by rw [here]; exact same) hasher)
  cases step with
  | move moves =>
      cases moves with
      | fresh here => exact before here rfl
      | takenPlain here plain => cases plain.symm.trans hasher
      | aborts => cases abortFrom_stored.2.symm.trans stored
      | reads here next => cases (aborting_stored next).2.symm.trans stored
      | allTerminated here =>
          dsimp only at stored
          split at stored <;> cases stored
      | _ => cases stored
  | drive drives ran =>
      cases drives with
      | startFailed => cases abortFrom_stored.2.symm.trans stored
      | assigned here assigns next => cases (aborting_stored next).2.symm.trans stored
      | _ => cases stored
  | table here yes =>
      cases reply_yes yes
      exact congrArg Option.isSome put_same
  | sync here | bitmap here => exact before here rfl
  | component | client => exact before rfl stored
  | _ => cases stored

theorem Snapping.step (step : PollStep env config source x action y) : Snapping env config source o y where
  valid := by
    rcases step.session with same | ⟨inner,ran,_⟩
    · rw [same]; exact snapping.valid
    · exact snapping.valid.step snapping.roomy (sessionStep_sound ran)
  roomy := snapping.roomy
  processed := snapping.processed
  written := snapping.written
  spared := by
    rcases step.session with same | ⟨inner,ran,_⟩
    · rw [same]; exact snapping.spared
    · exact snapping.spared.step snapping.valid.toSound snapping.roomy (sessionStep_sound ran)
  taken := by
    intro snapshot inside
    have known : snapshot.bitmapBufferBytesLength = (Bitmap.new config.TotalBlocks).m_capacity ∧
        ∀ index, snapshot.processed.Test index = true → x.state.processedBitmap.Test index = true := by
      rcases step.snapshots inside with earlier | rfl
      · exact snapping.taken snapshot earlier
      · exact ⟨snapping.takes.1,fun index set => snapping.takes.2 ▸ set⟩
    exact ⟨known.1,fun index set => snapping.grows step (known.2 index set)⟩
  enabled := snapping.refreshes step
  stored := snapping.tabled step

end snapping

structure Tracking (env : TaskEnv) (p : Process) : Prop where
  queued : Queued env p
  filed : Filed env p
  making : Making env p
  ongoing : Current (fun running polling => ∃ o, Snapping env running.config running.source o polling) p

theorem Tracking.new : Tracking env (.new disk) where
  queued := .new
  filed := .new
  making := .new
  ongoing := fun _ none => by cases none

theorem Snapping.opened (found : InitSessionContext disk config env.task = some context) {target : Content} {shared : TaskState} :
    Snapping env config source ((env.newSession config context source target).run.state.flow (env.sessionEnv config))
      {toTaskState := shared,toSessionRun := (env.newSession config context source target).run} := by
  obtain ⟨hashing,_,opened⟩ := init_opened found
  refine ⟨opened_valid found,opened_roomy found,opened.processed,opened.written,.new rfl,fun snapshot inside => ?_,?_,?_⟩
  · cases inside
  · exact fun refreshing => Bool.noConfusion refreshing
  · exact fun stored => Bool.noConfusion stored

section task
variable (tracking : Tracking env p)
include tracking

theorem Tracking.step (step : TaskStep env p action q) : Tracking env q where
  queued := tracking.queued.step step
  filed := tracking.filed.step step
  making := tracking.making.step tracking.queued.layout step
  ongoing := by
    refine @Current.step _ _ _ _ (fun config content polling => ∃ o, Snapping env config content o polling) (fun _ _ _ => True)
      tracking.ongoing tracking.queued.layout step ?_ (fun _ _ _ => trivial) ?_ ?_
    · cases action <;> simp [OnSession]
    · intro config reply running here made
      obtain ⟨context,content,target,found,_,_,rfl⟩ := open_parts made
      exact ⟨_,.opened found⟩
    · rintro running inner polling present ⟨o,snapping⟩ ran _
      exact ⟨o,snapping.step (pollNext_sound ran)⟩

theorem Tracking.run {allowed : Process → TaskAction → Prop} (path : Runs (taskNext env) allowed p actions q) : Tracking env q :=
  path.invariant (Tracking env) tracking fun _ _ _ known ran _ => known.step (taskNext_sound ran)

variable (isolated : Isolated env queue)
include isolated

theorem Tracking.opening (here : p.pc = .init config) : config ∈ queue ∧ p.expects config := by
  have waiting : config ∈ p.waiting := by simp [Process.waiting,here]
  exact ⟨tracking.queued.waiting_member isolated.sessions waiting,.inr waiting⟩

theorem Tracking.behind (present : p.running = some running) (expected : p.expects running.config) : False := by
  obtain ⟨waiting,order⟩ := tracking.queued.waiting isolated.sessions present
  have here : p.pc = .session := tracking.queued.layout.mp (by rw [present]; rfl)
  have inside : running.config ∈ p.m_sessionQueue := waiting ▸ expected.resolve_left (by rw [here]; nofun)
  have distinct := isolated.distinct
  rw [order] at distinct
  exact (List.nodup_cons.mp (List.nodup_append.mp distinct).2.1).1 inside

variable (member : config ∈ queue)
include member

theorem Tracking.polled (present : p.running = some running)
    (step : PollStep env running.config running.source (p.polling running) action y) :
    y.disk config.checkpointFilePath = p.disk config.checkpointFilePath ∨ ∃ snapshot reply, running.config = config ∧
      running.run.pc.saving = some snapshot ∧ action = .thread reply ∧
      y.disk = snapshot.SaveTo p.disk config.checkpointFilePath reply := by
  have mine := tracking.queued.member isolated.sessions present
  by_cases same : running.config = config
  · subst same
    refine (step.records (isolated.own _ mine)).imp_right ?_
    rintro ⟨snapshot,reply,saving,act,saved⟩
    exact ⟨snapshot,reply,rfl,saving,act,saved⟩
  · exact .inl (step.untouched (isolated.others _ mine config member same))

theorem Tracking.checkpoint (step : TaskStep env p action q) :
    q.disk config.checkpointFilePath = p.disk config.checkpointFilePath ∨
    (∃ running snapshot reply, p.running = some running ∧ running.config = config ∧ running.run.pc.saving = some snapshot ∧
      action = .thread reply ∧ q.disk = snapshot.SaveTo p.disk config.checkpointFilePath reply) ∨
    ∃ reply, p.pc.removes = true ∧ action = .thread reply ∧ reply.isYes = true ∧ q.disk config.checkpointFilePath = none := by
  cases step with
  | create here fresh =>
      refine .inl (put_other (isolated.prepared _ (.inl ?_) config member))
      exact tracking.making.create _ here _ List.mem_cons_self
  | truncate here present =>
      exact .inl (put_other (isolated.prepared _ (.inl (tracking.making.truncate _ _ _ here).1) config member))
  | splitBackup here task sessions recorded =>
      exact .inl (save_other (isolated.prepared _ (.inr ⟨_,_,task,rfl⟩) config member))
  | poll here present ran =>
      rcases tracking.polled isolated member present (pollNext_sound ran) with same | ⟨snapshot,reply,mine,saving,act,saved⟩
      · exact .inl same
      · cases act
        exact .inr (.inl ⟨_,snapshot,_,present,mine,saving,rfl,saved⟩)
  | component present ran =>
      rcases tracking.polled isolated member present (pollNext_sound ran) with same | ⟨snapshot,reply,mine,saving,act,saved⟩
      · exact .inl same
      · cases act
  | clear here =>
      obtain ⟨all,found,other,second,rfl⟩ := tracking.filed.clearing _ here _ List.mem_cons_self
      dsimp only
      split
      · rename_i yes
        by_cases same : config.checkpointFilePath = other.checkpointFilePath
        · refine .inr (.inr ⟨_,by rw [here]; rfl,rfl,yes,?_⟩)
          rw [same]
          exact remove_same
        · exact .inl (remove_other same)
      · exact .inl rfl
  | _ => exact .inl rfl

theorem Tracking.table (step : TaskStep env p action q) (present : IsFileExists p.disk config.lastestChecksumBinPath = true) :
    IsFileExists q.disk config.lastestChecksumBinPath = true := by
  cases step with
  | create | truncate => exact put_exists present
  | splitBackup => exact save_exists present
  | poll here running ran | component running ran => exact (pollNext_sound ran).exists present
  | clear here =>
      obtain ⟨all,found,other,second,rfl⟩ := tracking.filed.clearing _ here _ List.mem_cons_self
      cases isolated.sessions.symm.trans found
      dsimp only
      split
      · rw [IsFileExists,remove_other (isolated.tables config member other second)]
        exact present
      · exact present
  | _ => exact present

end task

end VolumeBackup
