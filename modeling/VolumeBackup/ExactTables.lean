import VolumeBackup.SmoothRun
import VolumeBackup.UsableMetadata

namespace VolumeBackup
open ByteMemory LabelledRuns

section law
variable (env : TaskEnv) (config : VolumeTaskSharedConfig) (source : Content)

def ExactTable (disk : Disk) : Prop := ∃ content, disk config.lastestChecksumBinPath = some content ∧
  content.size = config.TotalBlocks*32 ∧
  ∀ index < config.TotalBlocks, entry content.byte index = blockDigest (env.sessionEnv config) source index

def Vetted (context : VolumeTaskSharedContext) : Prop := ∀ index < config.TotalBlocks, context.processedBitmap.Test index = true →
  entry context.hashingContext.lastestTable index = blockDigest (env.sessionEnv config) source index

end law

structure Tabulating (env : TaskEnv) (config : VolumeTaskSharedConfig) (source : Content) (context : VolumeTaskSharedContext) (p : Polling) :
    Prop where
  size : p.state.hashingContext.lastestSize = config.TotalBlocks*32
  kept : ∀ index, .hash index ∈ p.state.history ∨
    entry p.state.hashingContext.lastestTable index = entry context.hashingContext.lastestTable index
  table : p.pc.tabulated = true → ExactTable env config source p.disk

structure Compared (env : TaskEnv) (context : VolumeTaskSharedContext) (running : Running) : Prop where
  previous : running.run.state.hashingContext.previousTable = context.hashingContext.previousTable
  differs : env.task.compares = true → ∀ index offset data, .write index offset data true ∈ running.run.state.history →
    index ≤ running.config.m_maxIndex ∧
      entry context.hashingContext.previousTable index ≠ blockDigest (env.sessionEnv running.config) running.source index
  whole : ¬Torn running.run.state.history

theorem compares_diff {env : TaskEnv} (compares : env.task.compares = true) : (env.sessionEnv config).m_forwardMode = .DIFF := by
  unfold TaskEnv.sessionEnv
  cases task : env.task with
  | restore =>
      rw [task] at compares
      cases compares
  | backup backup volumeSize =>
      rw [task] at compares
      exact if_pos compares

section session
variable {env : TaskEnv} {config : VolumeTaskSharedConfig} {source : Content} {context : VolumeTaskSharedContext} {o : Flow}
  {p q : Polling}

theorem exact_congr {disk other : Disk} (same : disk config.lastestChecksumBinPath = other config.lastestChecksumBinPath) :
    ExactTable env config source disk ↔ ExactTable env config source other := by
  unfold ExactTable
  rw [same]

theorem exact_put {disk : Disk} {table : Memory} (stored : ∀ index < config.TotalBlocks,
    entry table index = blockDigest (env.sessionEnv config) source index) :
    ExactTable env config source (disk.put config.lastestChecksumBinPath (.of (config.TotalBlocks*32) table)) := by
  refine ⟨_,put_same,rfl,fun index inside => ?_⟩
  rw [← stored index inside]
  funext k
  exact Content.of_byte (by have bound := k.isLt; omega)

theorem table_unique {left right : Content} (size : left.size = blocks*32) (same : right.size = blocks*32)
    (entries : ∀ index < blocks, entry left.byte index = entry right.byte index) : left = right := by
  refine Content.ext (size.trans same.symm) fun address inside => ?_
  have byte := congrFun (entries (address/32) (by omega)) ⟨address % 32,Nat.mod_lt _ (by decide)⟩
  have place : address/32*32+address % 32 = address := Nat.div_add_mod' address 32
  simpa only [entry,place] using byte

theorem Underway.compared {running : Running} {r : Process} (underway : Underway env running.config running.source context o (r.polling running))
    (pooled : Pooled running.config) (comparable : Comparable (env.sessionEnv running.config)) (hasher : running.config.hasherEnabled = true) :
    Compared env context running := by
  have checksums := (underway.polled.valid.intact pooled underway.whole).checksums
  have previous : running.run.state.hashingContext.previousTable = context.hashingContext.previousTable :=
    underway.polled.valid.previous.trans underway.previous
  refine ⟨previous,fun compares index offset data wrote => ?_,underway.whole⟩
  have tokens := underway.polled.valid.tokens
  rw [← previous]
  exact ⟨tokens.inside index (tokens.done_read (write_done wrote)),
    checksums.recorded comparable hasher (compares_diff compares) index (write_recorded wrote)⟩

section step
variable (underway : Underway env config source context o p) (pooled : Pooled config) (hasher : config.hasherEnabled = true)
include underway pooled hasher

theorem Underway.tabulated (tabulating : Tabulating env config source context p) (vetted : Vetted env config source context)
    (ended : p.pc.unsampled = some []) (inside : index < config.TotalBlocks) :
    entry p.state.hashingContext.lastestTable index = blockDigest (env.sessionEnv config) source index := by
  have checksums := (underway.polled.valid.intact pooled underway.whole).checksums
  rcases tabulating.kept index with hashed | same
  · exact checksums.stored index hashed
  · have bound : index ≤ config.m_maxIndex := Nat.le_sub_one_of_lt inside
    rcases underway.polled.valid.all_done (underway.polled.finished ended).1 bound with left | ⟨_,marked⟩
    · exact checksums.stored index (checksums.done hasher index left)
    · rw [underway.processed] at marked
      exact same.trans (vetted index inside marked)

theorem Tabulating.step (tabulating : Tabulating env config source context p) (vetted : Vetted env config source context)
    (backup : env.task.isBackup = true) (separate : SeparateFiles env config) (step : PollStep env config source p action q)
    (flushed : Flushed p action) : Tabulating env config source context q := by
  refine ⟨?_,fun index => ?_,fun later => ?_⟩
  · rcases step.session with same | ⟨inner,ran,_⟩
    · rw [same]
      exact tabulating.size
    · exact (step_marks (sessionStep_sound ran)).1.trans tabulating.size
  · rcases step.session with same | ⟨inner,ran,_⟩
    · rw [same]
      exact tabulating.kept index
    · obtain ⟨more,entries⟩ := underway.polled.valid.toSound.events (sessionStep_sound ran)
      rcases tabulating.kept index with hashed | same
      · exact .inl (more hashed)
      · exact (entries index).imp_right fun equal => equal.trans same
  · rcases step.tabulated backup hasher separate later with ⟨before,same⟩ | ⟨reply,here,rfl,rfl⟩
    · exact (exact_congr same).mpr (tabulating.table before)
    · cases reply_yes (flushed (by rw [here]; rfl))
      have stored : ExactTable env config source (p.disk.put config.lastestChecksumBinPath (.of (config.TotalBlocks*32) _)) :=
        exact_put fun index => underway.tabulated pooled hasher tabulating vetted (by rw [here]; rfl)
      rw [← tabulating.size] at stored
      exact stored

end step

end session

structure Archiving (env : TaskEnv) (source : VolumeTaskSharedConfig → Content) (disk : Disk) (queue : List VolumeTaskSharedConfig)
    (p : Process) : Prop where
  rewriting : Rewriting env source disk queue p
  ongoing : Current (fun running polling => ∀ context ∈ InitSessionContext disk running.config env.task,
    Tabulating env running.config running.source context polling) p
  completed : ∀ running ∈ p.completed, running.config ∈ queue ∧ ExactTable env running.config running.source p.disk ∧
    ∃ context, InitSessionContext disk running.config env.task = some context ∧ running.source = source running.config ∧
      Compared env context running

section task
variable {env : TaskEnv} {source : VolumeTaskSharedConfig → Content} {disk : Disk} {queue : List VolumeTaskSharedConfig}
  {config : VolumeTaskSharedConfig} {p q : Process}

section step
variable (archiving : Archiving env source disk queue p) (arrangement : Arrangement env source queue) (keeping : Keeping env disk queue)
  (vetted : ∀ config ∈ queue, ∀ context ∈ InitSessionContext disk config env.task, Vetted env config (source config) context)
include archiving arrangement keeping

theorem Archiving.opened (here : p.pc = .init config) (made : env.openSession p.disk config reply = some running) :
    ∀ context ∈ InitSessionContext disk running.config env.task,
      Tabulating env running.config running.source context (p.polling running) := by
  obtain ⟨found,content,target,present,read,there,rfl⟩ := open_parts made
  intro context opened
  have first : config ∈ p.waiting := by simp [Process.waiting,here]
  have member := archiving.rewriting.queued.waiting_member arrangement.sessions first
  rw [archiving.rewriting.contexts config first] at present
  cases present.symm.trans opened
  exact ⟨keeping.size config member found opened,fun _ => .inr rfl,Bool.noConfusion⟩

theorem Archiving.polled (present : p.running = some running)
    (step : PollStep env running.config running.source (p.polling running) action y) :
    ∀ earlier ∈ p.completed, y.disk earlier.config.lastestChecksumBinPath = p.disk earlier.config.lastestChecksumBinPath := by
  intro earlier inside
  apply step.untouched
  have apart := keeping.kept
  rw [(archiving.rewriting.queued.waiting arrangement.sessions present).2] at apart
  have before : earlier.config ∈ p.completed.reverse.map Running.config :=
    List.mem_map.mpr ⟨earlier,List.mem_reverse.mpr inside,rfl⟩
  exact (List.pairwise_append.mp apart).2.2 _ before _ List.mem_cons_self

theorem Archiving.finished (present : p.running = some running) (left : running.run.pc = .left true) :
    running.config ∈ queue ∧ ExactTable env running.config running.source p.disk ∧
    ∃ context, InitSessionContext disk running.config env.task = some context ∧ running.source = source running.config ∧
      Compared env context running := by
  have mine := archiving.rewriting.queued.member arrangement.sessions present
  obtain ⟨own,context,o,found,underway⟩ := archiving.rewriting.ongoing running present
  have tabulating := archiving.ongoing running present context found
  have here : (p.polling running).pc = .left true := left
  exact ⟨mine,tabulating.table (by rw [here]; rfl),context,found,own,
    underway.compared (arrangement.pooled _ mine) (arrangement.comparable _ mine) (keeping.hasher _ mine)⟩

include vetted

theorem Archiving.step (step : TaskStep env p action q) (observed : Observed env source p action)
    (flushed : OnSession (fun _ => Flushed) p action) : Archiving env source disk queue q := by
  have kept (after : Disk) (same : ∀ earlier ∈ p.completed,
      after earlier.config.lastestChecksumBinPath = p.disk earlier.config.lastestChecksumBinPath) : ∀ earlier ∈ p.completed,
      earlier.config ∈ queue ∧ ExactTable env earlier.config earlier.source after ∧ ∃ context,
        InitSessionContext disk earlier.config env.task = some context ∧ earlier.source = source earlier.config ∧
        Compared env context earlier := by
    intro earlier inside
    obtain ⟨member,exact,rest⟩ := archiving.completed earlier inside
    exact ⟨member,(exact_congr (same earlier inside)).mpr exact,rest⟩
  refine ⟨archiving.rewriting.step arrangement step observed,?_,?_⟩
  · refine @Current.step _ _ _ _ (fun config source polling => ∀ context ∈ InitSessionContext disk config env.task,
      Tabulating env config source context polling) (fun _ => Flushed) archiving.ongoing archiving.rewriting.queued.layout step
      flushed (fun _ _ _ => trivial) ?_ ?_
    · exact fun config reply running here made => archiving.opened arrangement keeping here made
    · intro running inner polling present tabulating ran condition context found
      have mine := archiving.rewriting.queued.member arrangement.sessions present
      obtain ⟨own,taken,o,opened,underway⟩ := archiving.rewriting.ongoing running present
      cases opened.symm.trans found
      have checked := vetted _ mine context found
      rw [← own] at checked
      exact (tabulating context found).step underway (arrangement.pooled _ mine) (keeping.hasher _ mine) checked keeping.backup
        (keeping.files _ mine) (pollNext_sound ran) condition
  · have preparing {pc : TaskPc} (here : p.pc = pc) (early : pc.preparing = true) : False := by
      have begun := archiving.rewriting.begun
      rw [here] at begun
      cases begun.symm.trans early
    cases step with
    | create here | truncate here | splitBackup here => exact (preparing here rfl).elim
    | poll here present ran | component present ran =>
        exact kept _ (archiving.polled arrangement keeping present (pollNext_sound ran))
    | completed here present left =>
        intro running inside
        rcases List.mem_cons.mp inside with rfl | earlier
        · exact archiving.finished arrangement keeping present left
        · exact archiving.completed running earlier
    | clear here =>
        apply kept
        intro earlier inside
        have other := (archiving.completed earlier inside).1
        exact archiving.rewriting.filed.cleared arrangement.sessions here (keeping.checkpoints _ other) _
    | _ => exact archiving.completed

end step

theorem Archiving.start {fresh : Disk} (reached : Reached (taskNext env) Anything (.new fresh) p) (here : p.pc = .prepared) :
    Archiving env source p.disk queue p := by
  have tables : Tables env source p.disk queue p := .start reached here
  refine ⟨tables.rewriting,fun running present => ?_,fun running inside => ?_⟩
  · cases (tables.rewriting.queued.layout.idle here nofun).symm.trans present
  · have none : p.completed = [] := by
      obtain ⟨actions,path⟩ := reached
      have untouched : Untouched p := path.invariant Untouched (fun _ => rfl) fun _ _ _ known ran _ => known.step (taskNext_sound ran)
      exact untouched (.inr here)
    rw [none] at inside
    cases inside

section left
variable (arrangement : Arrangement env source queue) (keeping : Keeping env disk queue)
  (vetted : ∀ config ∈ queue, ∀ context ∈ InitSessionContext disk config env.task, Vetted env config (source config) context)
include arrangement keeping vetted

theorem Archiving.run (archiving : Archiving env source disk queue p) (path : Runs (taskNext env)
    (fun p action => Observed env source p action ∧ OnSession (fun _ => Flushed) p action) p actions q) :
    Archiving env source disk queue q :=
  path.invariant (Archiving env source disk queue) archiving fun _ _ _ known ran allowed =>
    known.step arrangement keeping vetted (taskNext_sound ran) allowed.1 allowed.2

omit keeping vetted in
theorem Archiving.left (archiving : Archiving env source disk queue p) (status : p.task.m_status = .SUCCEED) (member : config ∈ queue) :
    ExactTable env config (source config) p.disk ∧ (p.disk (env.targetPath config)).isSome = true := by
  have order := archiving.rewriting.queued.finished status
  rw [arrangement.sessions] at order
  rw [Option.some.inj order] at member
  obtain ⟨running,done,rfl⟩ := List.mem_map.mp member
  have inside := List.mem_reverse.mp done
  obtain ⟨_,exact,context,_,own,_⟩ := archiving.completed running inside
  obtain ⟨after,there⟩ := (archiving.rewriting.completed running inside).1
  rw [← own]
  exact ⟨exact,by rw [there]; rfl⟩

end left

end task

end VolumeBackup
