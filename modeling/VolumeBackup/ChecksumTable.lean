import VolumeBackup.CheckpointConsistency
import VolumeBackup.CopyOutcome

namespace VolumeBackup
open ByteMemory LabelledRuns

def PollPc.tabulated : PollPc → Bool
  | .flushWriter | .flushBitmap | .saveFinal _ | .completed | .leave true | .left true => true
  | _ => false

def PollPc.flushes : PollPc → Bool
  | .flushTable => true
  | _ => false

def Flushed (p : Polling) : PollAction → Prop
  | .thread reply => p.pc.flushes = true → reply.isYes = true
  | .component _ | .client _ => True

instance : Decidable (Flushed p action) :=
  match action with
  | .thread reply => inferInstanceAs (Decidable (p.pc.flushes = true → reply.isYes = true))
  | .component _ | .client _ => isTrue trivial

def Positioned (env : SessionEnv) (history : List Event) : Prop :=
  ∀ index ∈ haveRead history, readPosition env index+env.config.nBytesToRead index < 2^63

structure Tabling (env : TaskEnv) (config : VolumeTaskSharedConfig) (source : Content) (p : Polling) : Prop where
  size : p.state.hashingContext.lastestSize = config.TotalBlocks*32
  positioned : Positioned (env.sessionEnv config) p.state.history
  table : p.pc.tabulated = true → ∀ index < config.TotalBlocks, HashOnDisk env config source p.disk index

section session
variable {env : SessionEnv} {source : Content} {f g : Flow} {raw : RawData}

theorem read_positioned (done : raw.Read source offset length = some data) : raw.position offset+length < 2^63 := by
  unfold RawData.Read at done
  split at done
  · rename_i accepted
    exact accepted.2
  · cases done

theorem FlowStep.positioned (step : FlowStep env source f g) (positioned : Positioned env f.history) : Positioned env g.history := by
  cases step with
  | read chosen held made done =>
      subst made
      rw [accept_history]
      intro index inside
      rw [haveRead_read] at inside
      rcases Multiset.mem_cons.mp inside with rfl | earlier
      · exact read_positioned done
      · exact positioned index earlier
  | hash held same =>
      rw [forward_history]
      exact positioned
  | _ => exact positioned

end session

section polling
variable {env : TaskEnv} {config : VolumeTaskSharedConfig} {source : Content} {context : VolumeTaskSharedContext} {o : Flow}
  {p q : Polling}

theorem PollStep.tabulated (step : PollStep env config source p action q) (backup : env.task.isBackup = true)
    (hasher : config.hasherEnabled = true) (separate : SeparateFiles env config) (later : q.pc.tabulated = true) :
    (p.pc.tabulated = true ∧ q.disk config.lastestChecksumBinPath = p.disk config.lastestChecksumBinPath) ∨
    ∃ reply, p.pc = .flushTable ∧ action = .thread reply ∧ q = p.saveTable config reply .flushWriter := by
  cases step with
  | move moves =>
      cases moves with
      | allTerminated here =>
          rw [if_pos backup] at later
          cases later
      | noTable here plain => cases hasher.symm.trans plain
      | final here | noBitmap here => exact .inl ⟨by rw [here]; rfl,rfl⟩
      | left here joined =>
          rename_i returned
          refine .inl ⟨?_,rfl⟩
          rw [here]
          cases returned <;> exact later
      | aborts here =>
          unfold abortFrom at later
          split at later <;> cases later
      | reads here next =>
          rcases next with ⟨line,rfl⟩ | rfl
          · cases later
          · unfold abortFrom at later
            split at later <;> cases later
      | _ => cases later
  | drive drives ran =>
      cases drives with
      | startFailed here =>
          unfold abortFrom at later
          split at later <;> cases later
      | assigned here assigns next =>
          rcases next with ⟨line,rfl⟩ | rfl
          · cases later
          · unfold abortFrom at later
            split at later <;> cases later
      | _ => cases later
  | finalTable here enabled => exact .inr ⟨_,here,rfl,rfl⟩
  | finalSync here => exact .inl ⟨by rw [here]; rfl,rfl⟩
  | finalBitmap here => exact .inl ⟨by rw [here]; rfl,save_other separate.apart⟩
  | completed here => exact .inl ⟨by rw [here]; rfl,rfl⟩
  | component own ran => exact .inl ⟨later,put_other separate.table⟩
  | client => exact .inl ⟨later,rfl⟩
  | _ => cases later

section session
variable (underway : Underway env config source context o p) (pooled : Pooled config) (hasher : config.hasherEnabled = true)
  (unmarked : ∀ index, context.processedBitmap.Test index = false)
include underway unmarked

theorem Underway.all_done (ended : p.pc.unsampled = some []) (inside : index ≤ config.m_maxIndex) : index ∈ done p.state.history := by
  refine (underway.polled.valid.all_done (underway.polled.finished ended).1 inside).resolve_right fun ⟨_,marked⟩ => ?_
  rw [underway.processed] at marked
  cases (unmarked index).symm.trans marked

include pooled hasher

theorem Tabling.step (tabling : Tabling env config source p) (backup : env.task.isBackup = true) (separate : SeparateFiles env config)
    (step : PollStep env config source p action q) (flushed : Flushed p action) : Tabling env config source q := by
  refine ⟨?_,?_,fun later index inside => ?_⟩
  · rcases step.session with same | ⟨inner,ran,_⟩
    · rw [same]
      exact tabling.size
    · exact (step_marks (sessionStep_sound ran)).1.trans tabling.size
  · have sound := underway.polled.valid.toSound
    rcases step.session with same | ⟨inner,ran,_⟩
    · rw [same]
      exact tabling.positioned
    · rcases p.state.flow_step sound.order sound.known (sessionStep_sound ran) with same | moved
      · have history : q.state.history = p.state.history := congrArg Flow.history same
        rw [history]
        exact tabling.positioned
      · exact moved.positioned tabling.positioned
  · rcases step.tabulated backup hasher separate later with ⟨before,same⟩ | ⟨reply,here,rfl,rfl⟩
    · exact (hash_congr same).mpr (tabling.table before index inside)
    · cases reply_yes (flushed (by rw [here]; rfl))
      have bound : index ≤ config.m_maxIndex := Nat.le_sub_one_of_lt inside
      have ended := underway.all_done unmarked (by rw [here]; rfl) bound
      have checksums := (underway.polled.valid.intact pooled underway.whole).checksums
      have size := tabling.size
      have room : index*32+32 ≤ p.state.hashingContext.lastestSize := by omega
      refine ⟨_,put_same,room,?_⟩
      rw [← checksums.stored index (checksums.done hasher index ended)]
      funext k
      exact Content.of_byte (by have bound := k.isLt; omega)

end session

end polling

-- What the checksum files of a backup without checkpoints ask: each session has its own, and no session or
-- checkpoint of the task is written over it.
structure Hashing (env : TaskEnv) (disk : Disk) (queue : List VolumeTaskSharedConfig) : Prop where
  backup : env.task.isBackup = true
  hasher : ∀ config ∈ queue, config.hasherEnabled = true
  size : ∀ config ∈ queue, ∀ context ∈ InitSessionContext disk config env.task,
    context.hashingContext.lastestSize = config.TotalBlocks*32
  unmarked : ∀ config ∈ queue, ∀ context ∈ InitSessionContext disk config env.task, ∀ index,
    context.processedBitmap.Test index = false
  files : ∀ config ∈ queue, SeparateFiles env config
  kept : queue.Pairwise fun config other => config.lastestChecksumBinPath ∉ env.writes other
  checkpoints : ∀ config ∈ queue, ∀ other ∈ queue, config.lastestChecksumBinPath ≠ other.checkpointFilePath

structure Tabled (env : TaskEnv) (source : VolumeTaskSharedConfig → Content) (disk : Disk) (p : Process) (config : VolumeTaskSharedConfig) :
    Prop where
  opened : ∃ context, InitSessionContext disk config env.task = some context
  table : ∀ index < config.TotalBlocks, HashOnDisk env config (source config) p.disk index
  positioned : ∀ index ≤ config.m_maxIndex,
    readPosition (env.sessionEnv config) index+config.nBytesToRead index < 2^63

structure Tables (env : TaskEnv) (source : VolumeTaskSharedConfig → Content) (disk : Disk) (queue : List VolumeTaskSharedConfig)
    (p : Process) : Prop where
  rewriting : Rewriting env source disk queue p
  ongoing : Current (fun running => Tabling env running.config running.source) p
  completed : ∀ running ∈ p.completed, Tabled env source disk p running.config

section task
variable {env : TaskEnv} {source : VolumeTaskSharedConfig → Content} {disk : Disk} {queue : List VolumeTaskSharedConfig}
  {config : VolumeTaskSharedConfig} {p q : Process}

theorem Tabled.kept (tabled : Tabled env source disk p config)
    (same : q.disk config.lastestChecksumBinPath = p.disk config.lastestChecksumBinPath) : Tabled env source disk q config :=
  ⟨tabled.opened,fun index inside => (hash_congr same).mpr (tabled.table index inside),tabled.positioned⟩

section step
variable (tables : Tables env source disk queue p) (arrangement : Arrangement env source queue) (hashing : Hashing env disk queue)
include tables arrangement hashing

theorem Tables.opened (here : p.pc = .init config) (made : env.openSession p.disk config reply = some running) :
    Tabling env running.config running.source (p.polling running) := by
  obtain ⟨context,content,target,found,read,there,rfl⟩ := open_parts made
  have first : config ∈ p.waiting := by simp [Process.waiting,here]
  have member := tables.rewriting.queued.waiting_member arrangement.sessions first
  rw [tables.rewriting.contexts config first] at found
  exact ⟨hashing.size config member context found,fun index inside => absurd inside (Multiset.notMem_zero index),
    Bool.noConfusion⟩

theorem Tables.polled (present : p.running = some running)
    (step : PollStep env running.config running.source (p.polling running) action y) :
    ∀ earlier ∈ p.completed, Tabled env source disk (p.polled running y) earlier.config := by
  intro earlier inside
  refine (tables.completed earlier inside).kept (step.untouched ?_)
  have apart := hashing.kept
  rw [(tables.rewriting.queued.waiting arrangement.sessions present).2] at apart
  have before : earlier.config ∈ p.completed.reverse.map Running.config :=
    List.mem_map.mpr ⟨earlier,List.mem_reverse.mpr inside,rfl⟩
  exact (List.pairwise_append.mp apart).2.2 _ before _ List.mem_cons_self

theorem Tables.finished (present : p.running = some running) (left : running.run.pc = .left true) :
    Tabled env source disk p running.config := by
  have mine := tables.rewriting.queued.member arrangement.sessions present
  obtain ⟨own,context,o,found,underway⟩ := tables.rewriting.ongoing running present
  have tabling : Tabling env running.config running.source (p.polling running) := tables.ongoing running present
  rw [own] at tabling underway
  refine ⟨⟨context,found⟩,?_,fun index inside => ?_⟩
  · refine tabling.table ?_
    rw [show (p.polling running).pc = _ from left]
    rfl
  · have ended := underway.all_done (hashing.unmarked _ mine context found)
      (show (p.polling running).pc.unsampled = some [] by rw [show (p.polling running).pc = _ from left]; rfl) inside
    exact tabling.positioned index (underway.polled.valid.tokens.done_read ended)

theorem Tables.step (step : TaskStep env p action q) (observed : Observed env source p action)
    (flushed : OnSession (fun _ => Flushed) p action) : Tables env source disk queue q := by
  refine ⟨tables.rewriting.step arrangement step observed,?_,?_⟩
  · refine tables.ongoing.step tables.rewriting.queued.layout step flushed (fun _ _ _ => trivial) ?_ ?_
    · exact fun config reply running here made => tables.opened arrangement hashing here made
    · intro running inner polling present tabling ran condition
      have mine := tables.rewriting.queued.member arrangement.sessions present
      obtain ⟨own,context,o,found,underway⟩ := tables.rewriting.ongoing running present
      exact tabling.step underway (arrangement.pooled _ mine) (hashing.hasher _ mine) (hashing.unmarked _ mine context found)
        hashing.backup (hashing.files _ mine) (pollNext_sound ran) condition
  · have preparing {pc : TaskPc} (here : p.pc = pc) (early : pc.preparing = true) : False := by
      have begun := tables.rewriting.begun
      rw [here] at begun
      cases begun.symm.trans early
    cases step with
    | create here | truncate here | splitBackup here => exact (preparing here rfl).elim
    | poll here present ran | component present ran => exact tables.polled arrangement hashing present (pollNext_sound ran)
    | completed here present left =>
        intro running inside
        rcases List.mem_cons.mp inside with rfl | earlier
        · exact (tables.finished arrangement hashing present left).kept rfl
        · exact (tables.completed running earlier).kept rfl
    | clear here =>
        intro running inside
        have other := tables.rewriting.queued.completed_member arrangement.sessions (.inr (by rw [here]; rfl)) inside
        apply (tables.completed running inside).kept
        exact tables.rewriting.filed.cleared arrangement.sessions here (hashing.checkpoints _ other) _
    | _ => exact fun running inside => (tables.completed running inside).kept rfl

end step

theorem Tables.start {fresh : Disk} (reached : Reached (taskNext env) Anything (.new fresh) p) (here : p.pc = .prepared) :
    Tables env source p.disk queue p := by
  obtain ⟨actions,path⟩ := reached
  have queued : Queued env p := Queued.new.run path
  have untouched : Untouched p := path.invariant Untouched (fun _ => rfl) fun _ _ _ known ran _ => known.step (taskNext_sound ran)
  refine ⟨.start ⟨actions,path⟩ here,fun running present => ?_,fun running inside => ?_⟩
  · cases (queued.layout.idle here nofun).symm.trans present
  · have none : p.completed = [] := untouched (.inr here)
    rw [none] at inside
    cases inside

end task

end VolumeBackup
