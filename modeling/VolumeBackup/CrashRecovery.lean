import VolumeBackup.CheckpointConsistency
import VolumeBackup.CopyOutcome
import VolumeBackup.Preparation

namespace VolumeBackup
open ByteMemory LabelledRuns

def PollPc.tables : PollPc → Bool
  | .refreshTable _ | .flushTable => true
  | _ => false

def ProtectTask.overwrites : ProtectTask → Prop
  | .backup config _ => config.IsIncrementBackup = true ∧ config.prevCopyMetaDirPath = config.outputCopyMetaDirPath
  | .restore _ _ => False

theorem overwrites_compares {task : ProtectTask} (overwrites : task.overwrites) : task.compares = true := by
  cases task with
  | backup => exact overwrites.1
  | restore => cases overwrites

-- A table is saved as a whole, and when no block that it describes is still on its way to the copy.
def Orderly (config : VolumeTaskSharedConfig) (p : Polling) : PollAction → Prop
  | .thread reply => p.pc.tables = true → (∀ kept, reply ≠ .no (some kept)) ∧
      ∀ index ≤ config.m_maxIndex, .hash index ∈ p.state.history → index ∈ settled p.state.history
  | .component _ | .client _ => True

section trust
variable (env : TaskEnv) (disk : Disk) (config : VolumeTaskSharedConfig) (source : Content)

def KnownTable : Prop := env.task.compares = true → ∀ table ∈ disk config.prevChecksumBinPath, ∀ index ≤ config.m_maxIndex,
  entry table.byte index = blockDigest (env.sessionEnv config) source index → Held env disk config source index

-- What a session that is opened on this disk takes for copied, its target has.
structure Trusted : Prop where
  marked : config.checkpointEnabled = true → ∀ index ≤ config.m_maxIndex, Checkpointed disk config index →
    Held env disk config source index
  known : KnownTable env disk config source

structure Copied (snapshot : CheckpointSnapshot) : Prop where
  capacity : snapshot.bitmapBufferBytesLength = (Bitmap.new config.TotalBlocks).m_capacity
  held : ∀ index ≤ config.m_maxIndex, snapshot.processed.Test index = true → Held env disk config source index

def NonZero : Prop := env.task.compares = true → ∀ index ≤ config.m_maxIndex,
  blockDigest (env.sessionEnv config) source index ≠ fun _ => 0

end trust

-- A session as far as a crash may find it: no Write has failed, what it skips, and what its thread is about to save as
-- processed, is in the target, and a table entry that is the block's own came with the block's checksum or with the file.
structure Resuming (env : TaskEnv) (config : VolumeTaskSharedConfig) (source : Content) (o : Flow) (p : Polling) : Prop where
  valid : Valid (env.sessionEnv config) source o p.state
  whole : ¬Torn p.state.history
  mounted : Mounted env config p
  roomy : Roomy (env.sessionEnv config) o
  processed : o.processed.m_capacity = (Bitmap.new config.TotalBlocks).m_capacity
  written : o.written.m_capacity = (Bitmap.new config.TotalBlocks).m_capacity
  skipped : ∀ index ≤ config.m_maxIndex, o.processed.Test index = true ∨
    Unchanged (env.sessionEnv config) source o.previous index = true → Held env p.disk config source index
  saving : ∀ snapshot ∈ p.pc.snapshots, Copied env p.disk config source snapshot
  size : env.task.compares = true → p.state.hashingContext.lastestSize = config.TotalBlocks*32
  stored : env.task.compares = true → config.prevChecksumBinPath = config.lastestChecksumBinPath → ∀ index ≤ config.m_maxIndex,
    entry p.state.hashingContext.lastestTable index = blockDigest (env.sessionEnv config) source index →
      .hash index ∈ p.state.history ∨ Held env p.disk config source index

variable {env : TaskEnv} {config other : VolumeTaskSharedConfig} {disk after : Disk} {content : Content} {o : Flow} {p q : Polling}

theorem Trusted.frame (trusted : Trusted env disk config content)
    (checkpoint : after config.checkpointFilePath = disk config.checkpointFilePath)
    (previous : env.task.compares = true → after config.prevChecksumBinPath = disk config.prevChecksumBinPath)
    (held : ∀ index ≤ config.m_maxIndex, Held env disk config content index → Held env after config content index) :
    Trusted env after config content where
  marked := fun enabled index inside marks =>
    held index inside (trusted.marked enabled index inside ((marks_congr checkpoint).mp marks))
  known := fun compares table present index inside same =>
    held index inside (trusted.known compares table ((previous compares).symm.trans present) index inside same)

theorem diff_compares (diff : (env.sessionEnv config).m_forwardMode = .DIFF) : env.task.compares = true := by
  unfold TaskEnv.sessionEnv at diff
  cases task : env.task with
  | restore => simp [task] at diff
  | backup backup volumeSize =>
      rw [task] at diff
      dsimp only at diff
      split at diff
      · assumption
      · cases diff

theorem KnownTable.unchanged {hashing : BlockHashingContext} (known : KnownTable env disk config content)
    (nonzero : NonZero env config content) (made : InitHashingContext disk config env.task = some hashing)
    (inside : index ≤ config.m_maxIndex) (same : Unchanged (env.sessionEnv config) content hashing.previousTable index = true) :
    Held env disk config content index := by
  simp only [Unchanged,Bool.and_eq_true,decide_eq_true_eq] at same
  have compares := diff_compares same.1.2
  unfold InitHashingContext at made
  cases task : env.task with
  | restore =>
      rw [task] at compares
      cases compares
  | backup backup volumeSize =>
      rw [task] at made compares
      dsimp only at made
      rw [if_pos (show backup.IsIncrementBackup = true from compares)] at made
      obtain ⟨table,loaded,rfl⟩ := Option.map_eq_some_iff.mp made
      obtain ⟨file,present,entries⟩ := previous_entry loaded
      rw [← task] at compares
      rcases entries index with equal | zero
      · exact known compares file present index inside (equal.symm.trans same.2)
      · exact absurd (same.2.symm.trans zero) (nonzero compares index inside)

theorem Trusted.opens {source : VolumeTaskSharedConfig → Content} (trusted : Trusted env disk config (source config))
    (nonzero : NonZero env config (source config)) (present : disk (env.sourcePath config) = some (source config)) :
    Opens env source disk config := by
  refine ⟨present,fun context found index inside skip => ?_⟩
  obtain ⟨hashing,made,opened⟩ := init_opened found
  rcases skip with ⟨enabled,marked⟩ | same
  · exact trusted.marked enabled index inside (opened.marked index marked).2.1
  · rw [opened.previous] at same
    exact trusted.known.unchanged nonzero made inside same

theorem PollStep.snapshots {saved : CheckpointSnapshot} (step : PollStep env config content p action q)
    (taken : saved ∈ q.pc.snapshots) : saved ∈ p.pc.snapshots ∨ saved = TakeSessionCheckpointSnapshot p.state := by
  cases step with
  | move moves =>
      cases moves with
      | taken here | takenPlain here | final here => exact .inr (List.mem_singleton.mp taken)
      | fresh here =>
          rcases List.mem_cons.mp taken with rfl | second
          · exact .inl (by rw [here]; exact List.mem_cons_self)
          · exact .inr (List.mem_singleton.mp second)
      | allTerminated here =>
          dsimp only at taken
          split at taken <;> cases taken
      | aborts here =>
          rw [(abortFrom_idle _ _).1] at taken
          cases taken
      | reads here next =>
          rw [(aborting_idle next).1] at taken
          cases taken
      | _ => cases taken
  | drive drives ran =>
      cases drives with
      | startFailed here =>
          rw [(abortFrom_idle _ _).1] at taken
          cases taken
      | assigned here assigns next =>
          rw [(aborting_idle next).1] at taken
          cases taken
      | _ => cases taken
  | table here | sync here => exact .inl (by rw [here]; exact taken)
  | bitmap here =>
      rw [here]
      cases List.mem_singleton.mp taken
      exact .inl List.mem_cons_self
  | component | client => exact .inl taken
  | _ => cases taken

theorem PollStep.saves (step : PollStep env config content p action q) (separate : SeparateFiles env config) :
    q.disk config.checkpointFilePath = p.disk config.checkpointFilePath ∨
      ∃ snapshot ∈ p.pc.snapshots, ∃ reply, q.disk = snapshot.SaveTo p.disk config.checkpointFilePath reply := by
  cases step with
  | table | tableLost | finalTable => exact .inl (save_other separate.apart.symm)
  | bitmap here | bitmapLost here => exact .inr ⟨_,by rw [here]; exact List.mem_cons_of_mem _ List.mem_cons_self,_,rfl⟩
  | snapshot here | finalBitmap here => exact .inr ⟨_,by rw [here]; exact List.mem_cons_self,_,rfl⟩
  | component => exact .inl (put_other separate.checkpoint)
  | _ => exact .inl rfl

theorem PollStep.stores (step : PollStep env config content p action q) (separate : SeparateFiles env config) :
    q.disk config.lastestChecksumBinPath = p.disk config.lastestChecksumBinPath ∨
      p.pc.tables = true ∧ ∃ reply, action = .thread reply ∧ q.disk = WriteBinaryBuffer p.disk config.lastestChecksumBinPath
        p.state.hashingContext.lastestTable p.state.hashingContext.lastestSize reply := by
  cases step with
  | table here | tableLost here | finalTable here => exact .inr ⟨by rw [here]; rfl,_,rfl,rfl⟩
  | bitmap | bitmapLost | snapshot | finalBitmap => exact .inl (save_other separate.apart)
  | component => exact .inl (put_other separate.table)
  | _ => exact .inl rfl

section session
variable {source : VolumeTaskSharedConfig → Content} (resuming : Resuming env config (source config) o p) (copyable : Copyable env config)
include resuming copyable

theorem Resuming.left (inside : index ≤ config.m_maxIndex) (left : index ∈ settled p.state.history) :
    Held env p.disk config (source config) index := by
  have marked : Marked (env.sessionEnv config) (source config) o p.state := ⟨resuming.valid.toSound,resuming.whole⟩
  rcases marked.settled copyable.pooled copyable.plain copyable.comparable left with ⟨_,holds⟩ | ⟨_,same⟩
  · exact ⟨_,resuming.mounted,holds⟩
  · exact resuming.skipped index inside (.inr same)

theorem Resuming.marked (inside : index ≤ config.m_maxIndex) (set : p.state.processedBitmap.Test index = true) :
    Held env p.disk config (source config) index := by
  rcases resuming.valid.marks.processed.justified index set with before | left
  · exact resuming.skipped index inside (.inl before)
  · exact resuming.left copyable inside left

theorem Resuming.taken : Copied env p.disk config (source config) (TakeSessionCheckpointSnapshot p.state) := by
  have processed : p.state.processedBitmap.m_capacity = _ := resuming.valid.marks.processed.capacity.trans resuming.processed
  have written : p.state.writtenBitmap.m_capacity = _ := resuming.valid.marks.written.capacity.trans resuming.written
  refine ⟨written,fun index inside set => ?_⟩
  rw [taken_processed (processed.trans written.symm)] at set
  exact resuming.marked copyable inside set

variable (separate : Separate env config config)
include separate

theorem Resuming.held (step : PollStep env config (source config) p action q) (inside : index ≤ config.m_maxIndex)
    (held : Held env p.disk config (source config) index) : Held env q.disk config (source config) index :=
  step.held separate .self resuming.valid.toSound copyable.pooled resuming.whole resuming.mounted inside held

theorem Resuming.step (step : PollStep env config (source config) p action q) (returns : PollReturns p action) :
    Resuming env config (source config) o q where
  valid := by
    rcases step.session with same | ⟨inner,ran,_⟩
    · rw [same]; exact resuming.valid
    · exact resuming.valid.step resuming.roomy (sessionStep_sound ran)
  whole := step.whole returns resuming.whole
  mounted := step.mounted separate resuming.mounted
  roomy := resuming.roomy
  processed := resuming.processed
  written := resuming.written
  skipped := fun index inside skip => resuming.held copyable separate step inside (resuming.skipped index inside skip)
  saving := by
    intro snapshot inside
    have copied : Copied env p.disk config (source config) snapshot := by
      rcases step.snapshots inside with earlier | rfl
      · exact resuming.saving snapshot earlier
      · exact resuming.taken copyable
    exact ⟨copied.capacity,fun index below set => resuming.held copyable separate step below (copied.held index below set)⟩
  size := by
    intro compares
    rcases step.session with same | ⟨inner,ran,_⟩
    · rw [same]
      exact resuming.size compares
    · exact (step_marks (sessionStep_sound ran)).1.trans (resuming.size compares)
  stored := by
    intro compares shared index inside equal
    have kept (before : entry p.state.hashingContext.lastestTable index = blockDigest (env.sessionEnv config) (source config) index) :
        .hash index ∈ p.state.history ∨ Held env q.disk config (source config) index :=
      (resuming.stored compares shared index inside before).imp_right (resuming.held copyable separate step inside)
    rcases step.session with same | ⟨inner,ran,_⟩
    · rw [same] at equal ⊢
      exact kept equal
    · obtain ⟨more,entries⟩ := resuming.valid.toSound.events (sessionStep_sound ran)
      rcases entries index with hashed | same
      · exact .inl hashed
      · exact (kept (same.symm.trans equal)).imp_left fun hashed => more hashed

theorem Resuming.trusted (files : SeparateFiles env config) (trusted : Trusted env p.disk config (source config))
    (some : ∀ index ≤ config.m_maxIndex, index < config.TotalBlocks)
    (previous : env.task.compares = true → config.prevChecksumBinPath ≠ env.targetPath config ∧
      config.prevChecksumBinPath ≠ config.checkpointFilePath)
    (step : PollStep env config (source config) p action q)
    (orderly : env.task.compares = true → config.prevChecksumBinPath = config.lastestChecksumBinPath → Orderly config p action) :
    Trusted env q.disk config (source config) := by
  have kept (index : Nat) (inside : index ≤ config.m_maxIndex) (held : Held env p.disk config (source config) index) :=
    resuming.held copyable separate step inside held
  constructor
  · intro enabled index inside marks
    rcases step.saves files with same | ⟨snapshot,saving,reply,saved⟩
    · exact kept index inside (trusted.marked enabled index inside ((marks_congr same).mp marks))
    · have copied := resuming.saving snapshot saving
      rw [saved] at marks
      rcases save_marks copied.capacity marks with before | set
      · exact kept index inside (trusted.marked enabled index inside before)
      · exact kept index inside (copied.held index inside set)
  · intro compares table present index inside same
    have before (old : table ∈ p.disk config.prevChecksumBinPath) : Held env q.disk config (source config) index :=
      kept index inside (trusted.known compares table old index inside same)
    by_cases shared : config.prevChecksumBinPath = config.lastestChecksumBinPath
    · rcases step.stores files with equal | ⟨here,reply,rfl,saved⟩
      · rw [shared] at present before
        exact before (equal.symm.trans present)
      · obtain ⟨whole,settled⟩ := orderly compares shared here
        cases reply with
        | yes =>
            rw [saved,shared] at present
            cases Option.some.inj (put_same.symm.trans present)
            have size := resuming.size compares
            have bound := some index inside
            refine kept index inside ((resuming.stored compares shared index inside ?_).elim (fun hashed => ?_) id)
            · rw [← same]
              funext k
              exact (Content.of_byte (by have bound := k.isLt; omega)).symm
            · exact resuming.left copyable inside (settled index inside hashed)
        | no part =>
            cases part with
            | none =>
                rw [saved] at present
                exact before present
            | some length => exact absurd rfl (whole length)
    · refine before ((step.untouched ?_).symm.trans present)
      exact unwritten.mpr ⟨(previous compares).1,shared,(previous compares).2⟩

end session

-- What the recovery of a task asks of its files: no session, and nothing that Prepare makes, is written over a checkpoint
-- of another session or over a table of the previous copy, but for its own, and no block is empty.
structure Recoverable (env : TaskEnv) (source : VolumeTaskSharedConfig → Content) (queue : List VolumeTaskSharedConfig) : Prop
    extends Plan env source queue where
  files : ∀ config ∈ queue, SeparateFiles env config
  marks : ∀ config ∈ queue, ∀ other ∈ queue, config ≠ other → other.checkpointFilePath ∉ env.writes config
  previous : env.task.compares = true → ∀ config ∈ queue, ∀ other ∈ queue, config ≠ other →
    other.prevChecksumBinPath ∉ env.writes config
  own : env.task.compares = true → ∀ config ∈ queue, config.prevChecksumBinPath ≠ env.targetPath config ∧
    config.prevChecksumBinPath ≠ config.checkpointFilePath
  shared : env.task.compares = true → ∀ config ∈ queue, config.prevChecksumBinPath = config.lastestChecksumBinPath →
    env.task.overwrites
  prepared : ∀ path, env.MakesData path ∨ env.MakesRecord path → ∀ config ∈ queue,
    config.checkpointFilePath ≠ path ∧ (env.task.compares = true → config.prevChecksumBinPath ≠ path)
  record : ∀ path, env.MakesRecord path → ∀ config ∈ queue, env.targetPath config ≠ path
  some : ∀ config ∈ queue, ∀ index ≤ config.m_maxIndex, 0 < config.nBytesToRead index
  nonzero : ∀ config ∈ queue, NonZero env config (source config)
  distinct : queue.Nodup

def Process.expects (p : Process) (config : VolumeTaskSharedConfig) : Prop := p.pc.preparing = true ∨ config ∈ p.waiting

-- A task as far as a crash may find it. What the sessions to come take for copied is in the target, and, unless this is the
-- last attempt, so is what the others would when they were opened again.
structure Recovering (env : TaskEnv) (source : VolumeTaskSharedConfig → Content) (queue : List VolumeTaskSharedConfig) (last : Bool)
    (p : Process) : Prop where
  queued : Queued env p
  filed : Filed env p
  making : Making env p
  trusted : ∀ config ∈ queue, last = false ∨ p.expects config → Trusted env p.disk config (source config)
  ongoing : Current (fun running polling => running.source = source running.config ∧
    ∃ o, Resuming env running.config running.source o polling) p

def Sturdy (env : TaskEnv) (source : VolumeTaskSharedConfig → Content) (p : Process) (action : TaskAction) : Prop :=
  OnSession (fun _ => PollReturns) p action ∧ ∀ config ∈ p.pc.opening, p.disk (env.sourcePath config) = some (source config)

def Tidy (env : TaskEnv) (p : Process) (action : TaskAction) : Prop :=
  env.task.overwrites → OnSession (fun running => Orderly running.config) p action

-- A crash between two steps, or in one that it breaks off: a Write, or the save of a file, that is done in part.
def Breaks (env : TaskEnv) (allowed : Process → TaskAction → Prop) (p : Process) (disk : Disk) : Prop :=
  disk = p.disk ∨ ∃ action q, taskNext env p action = some q ∧ allowed p action ∧ disk = q.disk

section task
variable {source : VolumeTaskSharedConfig → Content} {queue : List VolumeTaskSharedConfig} {last : Bool} {p q : Process}

theorem TaskStep.expects (step : TaskStep env p action q) (later : q.expects config) : p.expects config := by
  cases step with
  | move moves =>
      cases moves with
      | drained | aborted | unopened | cleared => exact later.elim nofun nofun
      | _ here => exact .inl (by rw [here]; rfl)
  | assign here =>
      rcases assigns_cases here with ⟨same,rfl,rfl⟩ | ⟨same,rfl,rfl⟩ | ⟨same,rfl⟩ | ⟨same,rfl,rfl⟩
      · exact .inl (by rw [same]; rfl)
      · refine .inr ?_
        unfold Process.waiting
        rw [same]
        exact later.resolve_left nofun
      · exact later.elim nofun nofun
      · exact later.elim nofun nofun
  | create here | truncate here | splitBackup here | splitRestore here => exact .inl (by rw [here]; rfl)
  | pop here first =>
      refine .inr ?_
      unfold Process.waiting
      rw [here,first]
      exact later.resolve_left nofun
  | opened here =>
      refine .inr ?_
      unfold Process.waiting
      rw [here]
      exact List.mem_cons_of_mem _ (later.resolve_left nofun)
  | completed here =>
      refine .inr ?_
      unfold Process.waiting
      rw [here]
      exact later.resolve_left nofun
  | failed | clear => exact later.elim nofun nofun
  | poll | component | request | client => exact later

theorem Recovering.new (trusted : ∀ config ∈ queue, Trusted env disk config (source config)) :
    Recovering env source queue last (.new disk) where
  queued := .new
  filed := .new
  making := .new
  trusted := fun config member _ => trusted config member
  ongoing := fun _ none => by cases none

section step
variable (recovering : Recovering env source queue last p) (recoverable : Recoverable env source queue)
include recovering recoverable

theorem Recovering.opened (here : p.pc = .init config) (made : env.openSession p.disk config reply = some running)
    (present : p.disk (env.sourcePath config) = some (source config)) : running.source = source running.config ∧
      ∃ o, Resuming env running.config running.source o (p.polling running) := by
  obtain ⟨context,content,target,found,read,there,rfl⟩ := open_parts made
  cases read.symm.trans present
  have waiting : config ∈ p.waiting := by simp [Process.waiting,here]
  have member := recovering.queued.waiting_member recoverable.sessions waiting
  have trusted := recovering.trusted config member (.inr (.inr waiting))
  have nonzero := recoverable.nonzero config member
  obtain ⟨hashing,made,opened⟩ := init_opened found
  refine ⟨rfl,_,opened_valid found,?_,there,opened_roomy found,opened.processed,opened.written,fun index inside skip => ?_,?_,
    fun compares => ?_,fun compares shared index inside same => .inr ?_⟩
  · rintro ⟨index,offset,data,inside⟩
    cases inside
  · rcases skip with marked | same
    · exact trusted.marked (opened.marked index marked).1 index inside (opened.marked index marked).2.1
    · refine trusted.known.unchanged nonzero made inside ?_
      rw [← opened.previous]
      exact same
  · intro snapshot inside
    cases inside
  · cases task : env.task with
    | restore =>
        rw [task] at compares
        cases compares
    | backup backup volumeSize =>
        rw [task] at made
        exact opened.size.trans (hashing_size made)
  · cases task : env.task with
    | restore =>
        rw [task] at compares
        cases compares
    | backup backup volumeSize =>
        rw [task] at found
        rcases init_table found index (index_counted inside (recoverable.some config member index inside)) with zero | ⟨table,file,equal⟩
        · exact absurd (same.symm.trans zero) (nonzero compares index inside)
        · have path : config.prevChecksumBinPath = config.lastestChecksumBinPath := shared
          rw [← path] at file
          exact trusted.known compares table file index inside (equal.symm.trans same)

theorem Recovering.polled (present : p.running = some running)
    (step : PollStep env running.config running.source (p.polling running) action y) (member : config ∈ queue)
    (tidy : last = false → env.task.overwrites → Orderly running.config (p.polling running) action)
    (needed : last = false ∨ p.expects config) : Trusted env y.disk config (source config) := by
  have mine := recovering.queued.member recoverable.sessions present
  obtain ⟨own,o,resuming⟩ := recovering.ongoing running present
  rw [own] at resuming step
  have copyable := recoverable.copyable _ mine
  have trusted := recovering.trusted config member needed
  by_cases same : running.config = config
  · subst same
    rcases needed with again | later
    · exact resuming.trusted copyable (recoverable.separate _ mine _ mine) (recoverable.files _ mine) trusted
        (fun index inside => index_counted inside (recoverable.some _ mine index inside)) (recoverable.own · _ mine) step
        fun compares path => tidy again (recoverable.shared compares _ mine path)
    · obtain ⟨waiting,order⟩ := recovering.queued.waiting recoverable.sessions present
      have here : p.pc = .session := recovering.queued.layout.mp (by rw [present]; rfl)
      have inside : running.config ∈ p.m_sessionQueue := waiting ▸ later.resolve_left (by rw [here]; nofun)
      have distinct := recoverable.distinct
      rw [order] at distinct
      exact absurd inside (List.nodup_cons.mp (List.nodup_append.mp distinct).2.1).1
  · refine trusted.frame ?_ ?_ fun index inside held => ?_
    · exact step.untouched (recoverable.marks _ mine config member same)
    · exact fun compares => step.untouched (recoverable.previous compares _ mine config member same)
    · exact step.held (recoverable.separate _ mine config member) (recoverable.coherent _ mine config member) resuming.valid.toSound
        copyable.pooled resuming.whole resuming.mounted inside held

omit recovering in
theorem Recovering.made {made : Content} (data : env.MakesData path) (bare : ∀ content, p.disk path = some content → content.size = 0)
    (member : config ∈ queue) (trusted : Trusted env p.disk config (source config)) :
    Trusted env (p.disk.put path made) config (source config) := by
  obtain ⟨checkpoint,previous⟩ := recoverable.prepared path (.inl data) config member
  refine trusted.frame (put_other checkpoint) (fun compares => put_other (previous compares)) ?_
  rintro index inside ⟨content,present,size,bytes⟩
  have length : 0 < (env.sessionEnv config).config.nBytesToRead index := recoverable.some config member index inside
  have differ : env.targetPath config ≠ path := by
    rintro rfl
    have none := bare content present
    omega
  exact ⟨content,(put_other differ).trans present,size,bytes⟩

theorem Recovering.trusts (step : TaskStep env p action q) (tidy : last = false → Tidy env p action) (member : config ∈ queue)
    (needed : last = false ∨ q.expects config) : Trusted env q.disk config (source config) := by
  have earlier := needed.imp_right step.expects
  have trusted := recovering.trusted config member earlier
  cases step with
  | create here fresh =>
      refine Recovering.made recoverable (recovering.making.create _ here _ List.mem_cons_self) (fun content present => ?_) member trusted
      cases fresh.symm.trans present
  | truncate here present =>
      obtain ⟨data,empty,_⟩ := recovering.making.truncate _ _ _ here
      refine Recovering.made recoverable data (fun content present => ?_) member trusted
      cases empty.symm.trans present
      rfl
  | splitBackup here task sessions recorded =>
      have record : env.MakesRecord _ := ⟨_,_,task,rfl⟩
      obtain ⟨checkpoint,previous⟩ := recoverable.prepared _ (.inr record) config member
      refine trusted.frame (save_other checkpoint) (fun compares => save_other (previous compares)) ?_
      rintro index _ ⟨content,present,holds⟩
      exact ⟨content,(save_other (recoverable.record _ record config member)).trans present,holds⟩
  | poll here present ran | component present ran =>
      exact recovering.polled recoverable present (pollNext_sound ran) member (fun again overwrites => tidy again overwrites _ present) earlier
  | clear here =>
      obtain ⟨all,found,other,second,rfl⟩ := recovering.filed.clearing _ here _ List.mem_cons_self
      cases recoverable.sessions.symm.trans found
      dsimp only
      split
      · have previous (compares : env.task.compares = true) : config.prevChecksumBinPath ≠ other.checkpointFilePath := by
          rintro same
          by_cases mine : other = config
          · exact (recoverable.own compares config member).2 (mine ▸ same)
          · exact recoverable.previous compares other second config member mine (by simp [TaskEnv.writes,same])
        have held (index : Nat) (held : Held env p.disk config (source config) index) :
            Held env (RemoveFile p.disk other.checkpointFilePath) config (source config) index := by
          obtain ⟨content,present,holds⟩ := held
          exact ⟨content,(remove_other (recoverable.separate other second config member).checkpoint).trans present,holds⟩
        by_cases same : config.checkpointFilePath = other.checkpointFilePath
        · refine ⟨fun _ index _ marks => absurd marks (marks_absent ?_),fun compares table present index inside equal => ?_⟩
          · rw [same]
            exact remove_same
          · rw [remove_other (previous compares)] at present
            exact held index (trusted.known compares table present index inside equal)
        · exact trusted.frame (remove_other same) (fun compares => remove_other (previous compares)) fun index _ => held index
      · exact trusted
  | _ => exact trusted

theorem Recovering.step (step : TaskStep env p action q) (sturdy : Sturdy env source p action) (tidy : last = false → Tidy env p action) :
    Recovering env source queue last q where
  queued := recovering.queued.step step
  filed := recovering.filed.step step
  making := recovering.making.step recovering.queued.layout step
  trusted := fun _ member needed => recovering.trusts recoverable step tidy member needed
  ongoing := by
    refine @Current.step _ _ _ _ (fun config content polling => content = source config ∧ ∃ o, Resuming env config content o polling) _
      recovering.ongoing recovering.queued.layout step sturdy.1 (fun _ _ _ => trivial) ?_ ?_
    · intro config reply running here made
      exact recovering.opened recoverable here made (sturdy.2 config (by rw [here]; rfl))
    · rintro running inner polling present ⟨own,o,resuming⟩ ran returns
      have mine := recovering.queued.member recoverable.sessions present
      rw [own] at ran resuming ⊢
      exact ⟨rfl,o,resuming.step (recoverable.copyable _ mine) (recoverable.separate _ mine _ mine) (pollNext_sound ran) returns⟩

end step

-- However often a task has crashed, the next attempt may trust what it finds.
theorem crashes_trusted (recoverable : Recoverable env source queue) (trusted : ∀ config ∈ queue, Trusted env disk config (source config))
    (crashes : Attempts (taskNext env) (fun p action => Sturdy env source p action ∧ Tidy env p action) .new (Breaks env (Tidy env))
      disk after) : ∀ config ∈ queue, Trusted env after config (source config) := by
  refine crashes.invariant (fun disk => ∀ config ∈ queue, Trusted env disk config (source config)) trusted ?_
  rintro found actions p left known path broken config member
  have recovering : Recovering env source queue false p := path.invariant (Recovering env source queue false) (.new known)
    fun _ _ _ before ran allowed => before.step recoverable (taskNext_sound ran) allowed.1 fun _ => allowed.2
  rcases broken with rfl | ⟨action,q,ran,tidy,rfl⟩
  · exact recovering.trusted config member (.inl rfl)
  · exact recovering.trusts recoverable (taskNext_sound ran) (fun _ => tidy) member (.inl rfl)

theorem recovered_exact (recoverable : Recoverable env source queue) (trusted : ∀ config ∈ queue, Trusted env disk config (source config))
    (path : Runs (taskNext env) (Observed env source) (.new disk) actions p) (status : p.task.m_status = .SUCCEED)
    (member : config ∈ queue) (inside : index ≤ config.m_maxIndex) : Held env p.disk config (source config) index := by
  have sturdy (s : Process) (action : TaskAction) (observed : Observed env source s action) : Sturdy env source s action := by
    refine ⟨?_,observed.2⟩
    have careful := observed.1
    cases action with
    | thread | component => exact fun running present => (careful running present).2
    | request | client => trivial
  have attempt : Runs (taskNext env) (Attempt env source) (.new disk) actions p := by
    refine path.strengthen (Recovering env source queue true) (.new trusted) ?_ ?_
    · exact fun s action t known ran observed => known.step recoverable (taskNext_sound ran) (sturdy s action observed) nofun
    · intro s action t known ran observed
      refine ⟨observed.1,fun config opening => ?_⟩
      have waiting : config ∈ s.waiting := by
        cases here : s.pc with
        | init first =>
            rw [here] at opening
            cases Option.some.inj opening
            simp [Process.waiting,here]
        | _ =>
            rw [here] at opening
            cases opening
      have member := known.queued.waiting_member recoverable.sessions waiting
      exact (known.trusted config member (.inr (.inr waiting))).opens (recoverable.nonzero config member) (observed.2 config opening)
  exact Copying.exact recoverable.toPlan attempt status member inside

end task

end VolumeBackup
