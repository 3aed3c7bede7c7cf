import VolumeBackup.AttemptExactness
import VolumeBackup.Patches

namespace VolumeBackup
open ByteMemory LabelledRuns

def ProtectTask.compares : ProtectTask → Bool
  | .backup config _ => config.IsIncrementBackup
  | .restore _ _ => false

section blocks
variable (env : SessionEnv) (source : Content)

def LeftOut (index : Nat) : Prop :=
  env.config.skipEmptyBlock = true ∧ ∀ k < env.config.nBytesToRead index, source.byte (readPosition env index+k) = 0

def Rewrites (context : VolumeTaskSharedContext) (index : Nat) : Prop :=
  index ≤ env.config.m_maxIndex ∧ ¬Skipped env source context index ∧ ¬LeftOut env source index

def blockPatch (index : Nat) : Patch where
  position := writePosition env index
  length := env.config.nBytesToRead index
  data := fun k => source.byte (readPosition env index+k)

end blocks

section session
variable {env : SessionEnv} {source : Content} {o f g : Flow} {s t : Session} {context : VolumeTaskSharedContext}

theorem holds_patch {target : Content} : HoldsBlock env source target index ↔
    target.Holds (blockPatch env source index).position (blockPatch env source index).length (blockPatch env source index).data 0 := by
  simp [HoldsBlock,Content.Holds,Same,blockPatch]

theorem zeros_unneeded {pool : Memory} (skip : env.config.skipEmptyBlock = true) (some : 0 < length)
    (zeros : ∀ k < length, pool (ptr+k) = 0) : NeedToWrite env pool ptr length = false := by
  have first : pool ptr = 0 := zeros 0 some
  have same : memcmp pool ptr pool (ptr+1) (length-1) = true := by
    unfold memcmp
    rw [beq_iff_eq,read_same]
    intro k bound
    rw [zeros k (by omega),Nat.add_right_comm,Nat.add_assoc,zeros (k+1) (by omega)]
  simp [NeedToWrite,skip,first,same]

theorem FlowStep.rewrites (step : FlowStep env source f g) (intact : Intact env source o f) (tokens : Tokens env f)
    (coverage : Coverage env o f) (kept : f.previous = o.previous) (comparable : Comparable env) (whole : ¬Torn g.history)
    (processed : o.processed = context.processedBitmap) (previous : o.previous = context.hashingContext.previousTable) :
    g.target = f.target ∨ ∃ index, Rewrites env source context index ∧ ∃ data, (∀ k < env.config.nBytesToRead index,
      data k = source.byte (readPosition env index+k)) ∧
      g.target = f.target.write (writePosition env index) (env.config.nBytesToRead index) data := by
  cases step with
  | read chosen held made done =>
      unfold Flow.accept
      split <;> exact .inl rfl
  | hash held same =>
      unfold Flow.forward
      split <;> exact .inl rfl
  | write held needed done =>
      rename_i block rest target
      have mine : block ∈ f.inFlight := by simp [Flow.inFlight,held]
      have known := intact.carried block mine
      obtain ⟨some,_,_,rfl⟩ := write_some done
      refine .inr ⟨block.index,⟨known.inside,?_,?_⟩,_,fun k bound => known.bytes k (known.length ▸ bound),?_⟩
      · rintro (⟨enabled,marked⟩ | unchanged)
        · have fresh := coverage.fresh block.index (tokens.flight_read mine) enabled
          rw [processed] at fresh
          cases fresh.symm.trans marked
        · simp only [Unchanged,Bool.and_eq_true,decide_eq_true_eq] at unchanged
          obtain ⟨⟨enabled,diff⟩,equal⟩ := unchanged
          refine intact.checksums.changed comparable enabled diff block (held ▸ Multiset.mem_cons_self _ _) ?_
          rw [kept,previous]
          exact equal
      · rintro ⟨skip,zeros⟩
        have unneeded := zeros_unneeded skip some fun k bound =>
          (known.bytes k (known.length ▸ bound)).trans (zeros k (known.length ▸ bound))
        cases needed.symm.trans unneeded
      · rw [known.offset,known.length]
        rfl
  | tear torn held => exact absurd ⟨_,_,_,List.mem_cons_self⟩ whole
  | _ => exact .inl rfl

theorem Sound.rewrites (sound : Sound env source o s) (pooled : Pooled env.config) (comparable : Comparable env)
    (whole : ¬Torn s.history) (still : ¬Torn t.history) (processed : o.processed = context.processedBitmap)
    (previous : o.previous = context.hashingContext.previousTable) (step : Step env source s action t) :
    t.target = s.target ∨ ∃ index, Rewrites env source context index ∧ ∃ data, (∀ k < env.config.nBytesToRead index,
      data k = source.byte (readPosition env index+k)) ∧
      t.target = s.target.write (writePosition env index) (env.config.nBytesToRead index) data := by
  rcases s.flow_step sound.order sound.known step with same | moved
  · exact .inl (congrArg Flow.target same)
  · exact moved.rewrites (sound.intact pooled whole) sound.tokens sound.coverage sound.previous comparable still processed previous

end session

section files
variable {env : TaskEnv} {disk other : Disk} {config : VolumeTaskSharedConfig} {context : VolumeTaskSharedContext}

theorem binary_congr (same : disk path = other path) : ReadBinaryBuffer disk path length = ReadBinaryBuffer other path length := by
  unfold ReadBinaryBuffer
  rw [same]

theorem restore_congr (checkpoint : disk config.checkpointFilePath = other config.checkpointFilePath)
    (table : disk config.lastestChecksumBinPath = other config.lastestChecksumBinPath) :
    RestoreSessionCheckpoint disk config context = RestoreSessionCheckpoint other config context := by
  have restarted : IsSessionRestarted disk config = IsSessionRestarted other config := by
    unfold IsSessionRestarted IsFileExists
    rw [checkpoint]
  have read : ReadLatestHashingTable disk config context = ReadLatestHashingTable other config context := by
    unfold ReadLatestHashingTable
    dsimp only
    rw [binary_congr table]
  have bitmap (loaded : VolumeTaskSharedContext) : RestoreSessionBitmap disk config loaded = RestoreSessionBitmap other config loaded := by
    unfold RestoreSessionBitmap
    rw [load_congr checkpoint]
  unfold RestoreSessionCheckpoint
  simp only [restarted,read,bitmap]

theorem hashing_congr (previous : env.task.compares = true → disk config.prevChecksumBinPath = other config.prevChecksumBinPath) :
    InitHashingContext disk config env.task = InitHashingContext other config env.task := by
  unfold InitHashingContext
  cases task : env.task with
  | restore => rfl
  | backup backup volumeSize =>
      dsimp only
      split
      · rename_i increment
        have same := previous (by rw [task]; exact increment)
        unfold LoadSessionPreviousCopyChecksum
        dsimp only
        rw [binary_congr same]
      · rfl

theorem init_congr (checkpoint : disk config.checkpointFilePath = other config.checkpointFilePath)
    (table : disk config.lastestChecksumBinPath = other config.lastestChecksumBinPath)
    (previous : env.task.compares = true → disk config.prevChecksumBinPath = other config.prevChecksumBinPath) :
    InitSessionContext disk config env.task = InitSessionContext other config env.task := by
  unfold InitSessionContext
  simp only [hashing_congr previous,restore_congr checkpoint table]

end files

def TaskEnv.writes (env : TaskEnv) (config : VolumeTaskSharedConfig) : List String :=
  [env.targetPath config,config.lastestChecksumBinPath,config.checkpointFilePath]

theorem unwritten {env : TaskEnv} {config : VolumeTaskSharedConfig} {path : String} : path ∉ env.writes config ↔
    path ≠ env.targetPath config ∧ path ≠ config.lastestChecksumBinPath ∧ path ≠ config.checkpointFilePath := by
  unfold TaskEnv.writes
  simp

structure Foreign (env : TaskEnv) (config other : VolumeTaskSharedConfig) : Prop where
  checkpoint : other.checkpointFilePath ∉ env.writes config
  table : other.lastestChecksumBinPath ∉ env.writes config
  previous : env.task.compares = true → other.prevChecksumBinPath ∉ env.writes config

-- The sessions of a task: their buffers have addresses, comparing looks at the block's own entry, and none of them gets
-- in the way of another one.
structure Arrangement (env : TaskEnv) (source : VolumeTaskSharedConfig → Content) (queue : List VolumeTaskSharedConfig) : Prop where
  sessions : env.task.sessions = some queue
  pooled : ∀ config ∈ queue, Pooled config
  comparable : ∀ config ∈ queue, Comparable (env.sessionEnv config)
  separate : ∀ config ∈ queue, ∀ other ∈ queue, Separate env config other
  coherent : ∀ config ∈ queue, ∀ other ∈ queue, Coherent env source config other
  foreign : queue.Pairwise (Foreign env)

def Patches (env : TaskEnv) (source : VolumeTaskSharedConfig → Content) (disk : Disk) (queue : List VolumeTaskSharedConfig)
    (path : String) (patch : Patch) : Prop :=
  ∃ config ∈ queue, env.targetPath config = path ∧ ∃ context ∈ InitSessionContext disk config env.task,
    ∃ index, Rewrites (env.sessionEnv config) (source config) context index ∧
      patch = blockPatch (env.sessionEnv config) (source config) index

structure Underway (env : TaskEnv) (config : VolumeTaskSharedConfig) (source : Content) (context : VolumeTaskSharedContext)
    (o : Flow) (p : Polling) : Prop where
  processed : o.processed = context.processedBitmap
  previous : o.previous = context.hashingContext.previousTable
  roomy : Roomy (env.sessionEnv config) o
  polled : Polled env config source o p
  whole : ¬Torn p.state.history
  mounted : Mounted env config p

section polling
variable {env : TaskEnv} {config : VolumeTaskSharedConfig} {source : Content} {context : VolumeTaskSharedContext} {o : Flow}
  {p q : Polling}

theorem Underway.step (underway : Underway env config source context o p) (separate : Separate env config config)
    (step : PollStep env config source p action q) (clean : CleanPoll p action) (returns : PollReturns p action) :
    Underway env config source context o q where
  processed := underway.processed
  previous := underway.previous
  roomy := underway.roomy
  polled := underway.polled.step underway.roomy step clean
  whole := step.whole returns underway.whole
  mounted := step.mounted separate underway.mounted

theorem Underway.complete (underway : Underway env config source context o p) (pooled : Pooled config)
    (comparable : Comparable (env.sessionEnv config)) (ended : p.pc.unsampled = some [])
    (rewrites : Rewrites (env.sessionEnv config) source context index) : Held env p.disk config source index := by
  obtain ⟨inside,unskipped,present⟩ := rewrites
  obtain ⟨finished,_,whole⟩ := underway.polled.finished ended
  have valid := underway.polled.valid
  have intact := valid.intact pooled whole
  rcases valid.all_done finished inside with left | ⟨enabled,marked⟩
  · rcases valid.all_settled whole left with drop | empty | ⟨offset,data,wrote⟩
    · obtain ⟨enabled,diff,equal⟩ := intact.checksums.dropped comparable index drop
      have same : entry o.previous index = blockDigest (env.sessionEnv config) source index := valid.previous ▸ equal
      rw [underway.previous] at same
      exact absurd (.inr (by simp [Unchanged,enabled,diff,same])) unskipped
    · exact absurd (intact.stored.empty index empty) present
    · exact ⟨_,underway.mounted,(intact.stored.written index offset data wrote).2.2.2⟩
  · rw [underway.processed] at marked
    exact absurd (.inl ⟨enabled,marked⟩) unskipped

theorem PollStep.untouched (step : PollStep env config source p action q) {path : String} (other : path ∉ env.writes config) :
    q.disk path = p.disk path := by
  simp only [TaskEnv.writes,List.mem_cons,List.not_mem_nil,or_false,not_or] at other
  rcases step.disk other.2.1 other.2.2 with ⟨same,_⟩ | ⟨saved,_⟩
  · exact same
  · rw [saved]
    exact put_other other.1

end polling

def Process.waiting (p : Process) : List VolumeTaskSharedConfig :=
  match p.pc with
  | .init config => config::p.m_sessionQueue
  | .prepared | .loop | .session => p.m_sessionQueue
  | _ => []

-- A task that works off its sessions on the disk that Prepare has left: what the targets have become, what
-- the sessions to come will find, and what those behind have written.
structure Rewriting (env : TaskEnv) (source : VolumeTaskSharedConfig → Content) (disk : Disk) (queue : List VolumeTaskSharedConfig)
    (p : Process) : Prop where
  queued : Queued env p
  filed : Filed env p
  begun : p.pc.preparing = false
  contexts : ∀ config ∈ p.waiting, InitSessionContext p.disk config env.task = InitSessionContext disk config env.task
  patched : ∀ config ∈ queue, ∀ after, p.disk (env.targetPath config) = some after → ∃ before,
    disk (env.targetPath config) = some before ∧ Patched (Patches env source disk queue (env.targetPath config)) before after
  ongoing : Current (fun running polling => running.source = source running.config ∧ ∃ context o,
    InitSessionContext disk running.config env.task = some context ∧
      Underway env running.config running.source context o polling) p
  completed : ∀ running ∈ p.completed, (∃ after, p.disk (env.targetPath running.config) = some after) ∧
    ∀ context ∈ InitSessionContext disk running.config env.task, ∀ index,
      Rewrites (env.sessionEnv running.config) (source running.config) context index →
      Held env p.disk running.config (source running.config) index

-- An attempt whose Writes return true, whose thread samples no status at the wrong moment, and whose sessions find
-- their source as it is expected.
def Observed (env : TaskEnv) (source : VolumeTaskSharedConfig → Content) (p : Process) (action : TaskAction) : Prop :=
  Careful p action ∧ ∀ config ∈ p.pc.opening, p.disk (env.sourcePath config) = some (source config)

instance : Decidable (Observed env source p action) := inferInstanceAs (Decidable (_ ∧ ∀ config ∈ p.pc.opening, _))

section task
variable {env : TaskEnv} {source : VolumeTaskSharedConfig → Content} {disk : Disk} {queue : List VolumeTaskSharedConfig}
  {config : VolumeTaskSharedConfig} {p q : Process}

theorem Queued.waiting (queued : Queued env p) (sessions : env.task.sessions = some queue) (present : p.running = some running) :
    p.waiting = p.m_sessionQueue ∧ queue = p.completed.reverse.map Running.config++running.config::p.m_sessionQueue := by
  have here : p.pc = .session := queued.layout.mp (by rw [present]; rfl)
  have order := queued.working (by rw [here]; rfl)
  rw [sessions] at order
  refine ⟨by simp [Process.waiting,here],?_⟩
  rw [Option.some.inj order]
  simp [Process.current,here,present]

theorem Queued.waiting_member (queued : Queued env p) (sessions : env.task.sessions = some queue) (inside : config ∈ p.waiting) :
    config ∈ queue := by
  have working : p.pc.working = true := by
    unfold Process.waiting at inside
    split at inside <;> first | (rename_i here; rw [here]; rfl) | cases inside
  have order := queued.working working
  rw [sessions] at order
  rw [Option.some.inj order]
  unfold Process.waiting at inside
  split at inside
  · rename_i here
    simp only [Process.current,here,List.mem_append,List.mem_singleton]
    rcases List.mem_cons.mp inside with rfl | later
    · exact .inl (.inr rfl)
    · exact .inr later
  · exact List.mem_append_right _ inside
  · exact List.mem_append_right _ inside
  · exact List.mem_append_right _ inside
  · cases inside

section step
variable (rewriting : Rewriting env source disk queue p) (arrangement : Arrangement env source queue)
include rewriting arrangement

theorem Rewriting.polled (present : p.running = some running)
    (step : PollStep env running.config running.source (p.polling running) action y) (clean : CleanPoll (p.polling running) action)
    (returns : PollReturns (p.polling running) action) : Rewriting env source disk queue (p.polled running y) := by
  have mine := rewriting.queued.member arrangement.sessions present
  obtain ⟨own,context,o,found,underway⟩ := rewriting.ongoing running present
  obtain ⟨waiting,order⟩ := rewriting.queued.waiting arrangement.sessions present
  have separate (other : VolumeTaskSharedConfig) (member : other ∈ queue) := arrangement.separate _ mine _ member
  have pooled := arrangement.pooled _ mine
  have next := underway.step (separate _ mine) step clean returns
  refine ⟨rewriting.queued.polled present step,⟨rewriting.filed.listed,rewriting.filed.clearing⟩,rewriting.begun,?_,?_,?_,?_⟩
  · intro config inside
    have later : config ∈ p.m_sessionQueue := waiting ▸ inside
    have apart := arrangement.foreign
    rw [order] at apart
    have foreign := (List.pairwise_cons.mp (List.pairwise_append.mp apart).2.1).1 config later
    rw [← rewriting.contexts config inside]
    exact init_congr (step.untouched foreign.checkpoint) (step.untouched foreign.table)
      fun compares => step.untouched (foreign.previous compares)
  · intro config member after there
    have apart := separate config member
    rcases step.disk apart.table apart.checkpoint with ⟨same,_⟩ | ⟨saved,inner,_,ran⟩
    · exact rewriting.patched config member after (same ▸ there)
    · by_cases shared : env.targetPath config = env.targetPath running.config
      · have mounted : p.disk (env.targetPath config) = some (p.polling running).state.target := by
          rw [shared]
          exact underway.mounted
        obtain ⟨before,origin,patched⟩ := rewriting.patched config member _ mounted
        refine ⟨before,origin,?_⟩
        have here : after = y.state.target := by
          have written : y.disk (env.targetPath config) = some y.state.target := by rw [saved,shared]; exact put_same
          exact Option.some.inj (there.symm.trans written)
        rw [here]
        rcases underway.polled.valid.toSound.rewrites pooled (arrangement.comparable _ mine) underway.whole next.whole
          underway.processed underway.previous (sessionStep_sound ran) with same | ⟨index,rewrites,data,bytes,same⟩
        · rw [same]; exact patched
        · have known : Patches env source disk queue (env.targetPath config)
              (blockPatch (env.sessionEnv running.config) running.source index) :=
            ⟨_,mine,shared.symm,context,found,index,own ▸ rewrites,by rw [own]⟩
          rw [same]
          exact patched.write known bytes
      · refine rewriting.patched config member after ?_
        have written : y.disk (env.targetPath config) = p.disk (env.targetPath config) := by rw [saved]; exact put_other shared
        exact written ▸ there
  · intro other same
    cases Option.some.inj same
    exact ⟨own,context,o,found,next⟩
  · intro earlier inside
    have here : p.pc = .session := rewriting.queued.layout.mp (by rw [present]; rfl)
    have other := rewriting.queued.completed_member arrangement.sessions (.inl (by rw [here]; rfl)) inside
    obtain ⟨⟨after,there⟩,held⟩ := rewriting.completed earlier inside
    have apart := separate _ other
    refine ⟨?_,fun taken opened index rewrites => ?_⟩
    · rcases step.disk apart.table apart.checkpoint with ⟨same,_⟩ | ⟨saved,_⟩
      · exact ⟨after,same.trans there⟩
      · show ∃ after, y.disk _ = some after
        rw [saved]
        unfold Disk.put
        split
        · exact ⟨_,rfl⟩
        · exact ⟨after,there⟩
    · rw [own] at step underway
      exact step.held apart (arrangement.coherent _ mine _ other) underway.polled.valid.toSound pooled underway.whole
        underway.mounted rewrites.1 (held taken opened index rewrites)

omit arrangement in
theorem Rewriting.opened (here : p.pc = .init config) (made : env.openSession p.disk config reply = some running)
    (known : p.disk (env.sourcePath config) = some (source config)) : running.source = source running.config ∧ ∃ context o,
      InitSessionContext disk running.config env.task = some context ∧
        Underway env running.config running.source context o (p.polling running) := by
  obtain ⟨context,content,target,found,read,there,rfl⟩ := open_parts made
  have same : content = source config := Option.some.inj (read.symm.trans known)
  subst same
  have first : config ∈ p.waiting := by simp [Process.waiting,here]
  exact ⟨rfl,context,_,(rewriting.contexts config first).symm.trans found,rfl,rfl,opened_roomy found,
    ⟨opened_valid found,fun _ => steady_new,nofun⟩,nofun,there⟩

theorem Rewriting.finished (present : p.running = some running) (left : running.run.pc = .left true) :
    (∃ after, p.disk (env.targetPath running.config) = some after) ∧
      ∀ context ∈ InitSessionContext disk running.config env.task, ∀ index,
      Rewrites (env.sessionEnv running.config) (source running.config) context index →
      Held env p.disk running.config (source running.config) index := by
  have mine := rewriting.queued.member arrangement.sessions present
  obtain ⟨own,context,o,found,underway⟩ := rewriting.ongoing running present
  refine ⟨⟨_,underway.mounted⟩,fun taken opened index rewrites => ?_⟩
  cases found.symm.trans opened
  rw [← own] at rewrites ⊢
  refine underway.complete (arrangement.pooled _ mine) (arrangement.comparable _ mine) ?_ rewrites
  rw [show (p.polling running).pc = _ from left]
  rfl

theorem Rewriting.step (step : TaskStep env p action q) (observed : Observed env source p action) :
    Rewriting env source disk queue q := by
  have queued := rewriting.queued.step step
  have filed := rewriting.filed.step step
  have idle (none : q.running = none) : Current (fun running polling => running.source = source running.config ∧ ∃ context o,
      InitSessionContext disk running.config env.task = some context ∧
        Underway env running.config running.source context o polling) q := by
    intro running present
    cases none.symm.trans present
  have preparing {pc : TaskPc} (here : p.pc = pc) (early : pc.preparing = true) : False := by
    have begun := rewriting.begun
    rw [here] at begun
    cases begun.symm.trans early
  cases step with
  | move moves =>
      have none : p.running = none := rewriting.queued.layout.idle rfl moves.elsewhere.1
      cases moves with
      | drained here empty | aborted here abort | unopened here | cleared here =>
          exact ⟨queued,filed,rfl,nofun,rewriting.patched,idle none,rewriting.completed⟩
      | _ here => exact (preparing here rfl).elim
  | assign here =>
      have none : p.running = none := rewriting.queued.layout.idle rfl (assigns_elsewhere here).1
      rcases assigns_cases here with ⟨same,rfl,rfl⟩ | ⟨same,rfl,rfl⟩ | ⟨same,rfl⟩ | ⟨same,rfl,rfl⟩
      · exact (preparing same rfl).elim
      · have contexts := rewriting.contexts
        simp only [Process.waiting,same] at contexts
        exact ⟨queued,filed,rfl,contexts,rewriting.patched,idle none,rewriting.completed⟩
      · exact ⟨queued,filed,rfl,nofun,rewriting.patched,idle none,rewriting.completed⟩
      · exact ⟨queued,filed,rfl,nofun,rewriting.patched,idle none,rewriting.completed⟩
  | create here | truncate here | splitBackup here | splitRestore here => exact (preparing here rfl).elim
  | pop here first running =>
      have contexts := rewriting.contexts
      simp only [Process.waiting,here,first] at contexts
      exact ⟨queued,filed,rfl,contexts,rewriting.patched,idle (rewriting.queued.layout.idle here nofun),rewriting.completed⟩
  | opened here positive made =>
      have contexts := rewriting.contexts
      simp only [Process.waiting,here] at contexts
      refine ⟨queued,filed,rfl,fun config inside => contexts config (List.mem_cons_of_mem _ inside),rewriting.patched,?_,
        rewriting.completed⟩
      intro running present
      cases Option.some.inj present
      exact rewriting.opened here made (observed.2 _ (by rw [here]; rfl))
  | poll here present ran =>
      obtain ⟨clean,returns⟩ := observed.1 _ present
      exact rewriting.polled arrangement present (pollNext_sound ran) clean returns
  | component present ran =>
      obtain ⟨clean,returns⟩ := observed.1 _ present
      exact rewriting.polled arrangement present (pollNext_sound ran) clean returns
  | completed here present left =>
      have contexts := rewriting.contexts
      simp only [Process.waiting,here] at contexts
      refine ⟨queued,filed,rfl,contexts,rewriting.patched,idle rfl,fun running inside => ?_⟩
      rcases List.mem_cons.mp inside with rfl | earlier
      · exact rewriting.finished arrangement present left
      · exact rewriting.completed running earlier
  | failed here present left => exact ⟨queued,filed,rfl,nofun,rewriting.patched,idle rfl,rewriting.completed⟩
  | clear here =>
      rename_i file rest reply
      have kept (config : VolumeTaskSharedConfig) (member : config ∈ queue) :
          (if reply.isYes then RemoveFile p.disk file else p.disk) (env.targetPath config) = p.disk (env.targetPath config) :=
        rewriting.filed.cleared arrangement.sessions here (fun other second => (arrangement.separate other second _ member).checkpoint) _
      refine ⟨queued,filed,rfl,nofun,?_,idle (rewriting.queued.layout.idle here nofun),fun running inside => ?_⟩
      · intro config member after there
        exact rewriting.patched config member after ((kept config member).symm.trans there)
      · have member := rewriting.queued.completed_member arrangement.sessions (.inr (by rw [here]; rfl)) inside
        obtain ⟨⟨after,there⟩,held⟩ := rewriting.completed running inside
        refine ⟨⟨after,(kept _ member).trans there⟩,fun context opened index rewrites => ?_⟩
        obtain ⟨content,present,holds⟩ := held context opened index rewrites
        exact ⟨content,(kept _ member).trans present,holds⟩
  | request => exact ⟨queued,filed,rewriting.begun,rewriting.contexts,rewriting.patched,rewriting.ongoing,rewriting.completed⟩
  | client calling =>
      refine ⟨queued,filed,rewriting.begun,rewriting.contexts,rewriting.patched,?_,rewriting.completed⟩
      intro running present
      obtain ⟨own,context,o,found,underway⟩ := rewriting.ongoing running present
      exact ⟨own,context,o,found,⟨underway.processed,underway.previous,underway.roomy,
        ⟨underway.polled.valid,underway.polled.steady,underway.polled.sampled⟩,underway.whole,underway.mounted⟩⟩

end step

def Untouched (p : Process) : Prop := p.pc.preparing = true ∨ p.pc = .prepared → p.completed = []

theorem Untouched.step (untouched : Untouched p) (step : TaskStep env p action q) : Untouched q := by
  cases step with
  | move moves =>
      cases moves with
      | drained here | aborted here | unopened here | cleared here => rintro (early | late) <;> contradiction
      | _ here => exact fun _ => untouched (.inl (by rw [here]; rfl))
  | assign here =>
      rcases assigns_cases here with ⟨same,rfl,rfl⟩ | ⟨same,rfl,rfl⟩ | ⟨same,rfl⟩ | ⟨same,rfl,rfl⟩ <;>
        rintro (early | late) <;> contradiction
  | create here | truncate here | splitBackup here | splitRestore here => exact fun _ => untouched (.inl (by rw [here]; rfl))
  | pop | opened | completed | failed | clear => rintro (early | late) <;> contradiction
  | poll | component | request | client => exact untouched

theorem Rewriting.start (reached : Reached (taskNext env) Anything (.new fresh) p)
    (here : p.pc = .prepared) : Rewriting env source p.disk queue p := by
  obtain ⟨actions,path⟩ := reached
  have queued : Queued env p := Queued.new.run path
  have untouched : Untouched p := path.invariant Untouched (fun _ => rfl) fun _ _ _ known ran _ => known.step (taskNext_sound ran)
  refine ⟨queued,?_,by rw [here]; rfl,fun _ _ => rfl,fun config member after there => ⟨after,there,.refl⟩,?_,?_⟩
  · exact path.invariant (Filed env) .new fun _ _ _ known ran _ => known.step (taskNext_sound ran)
  · intro running present
    cases (queued.layout.idle here nofun).symm.trans present
  · intro running inside
    have none : p.completed = [] := untouched (.inr here)
    rw [none] at inside
    cases inside

theorem copy_outcome (arrangement : Arrangement env source queue) (reached : Reached (taskNext env) Anything (.new fresh) p)
    (here : p.pc = .prepared) (path : Runs (taskNext env) (Observed env source) p actions q) (status : q.task.m_status = .SUCCEED)
    (member : config ∈ queue) : ∃ before after, p.disk (env.targetPath config) = some before ∧
      q.disk (env.targetPath config) = some after ∧
      AllPatched (Patches env source p.disk queue (env.targetPath config)) before after := by
  have rewriting : Rewriting env source p.disk queue q := path.invariant (Rewriting env source p.disk queue)
    (.start reached here) fun _ _ _ known ran observed => known.step arrangement (taskNext_sound ran) observed
  have order := rewriting.queued.finished status
  rw [arrangement.sessions] at order
  have completed (other : VolumeTaskSharedConfig) (inside : other ∈ queue) : ∃ running ∈ q.completed, running.config = other := by
    rw [Option.some.inj order] at inside
    obtain ⟨running,done,same⟩ := List.mem_map.mp inside
    exact ⟨running,List.mem_reverse.mp done,same⟩
  obtain ⟨running,done,rfl⟩ := completed config member
  obtain ⟨after,there⟩ := (rewriting.completed running done).1
  obtain ⟨before,origin,patched⟩ := rewriting.patched _ member after there
  refine ⟨before,after,origin,there,patched,?_⟩
  rintro patch ⟨other,second,same,context,opened,index,rewrites,rfl⟩
  obtain ⟨earlier,left,rfl⟩ := completed other second
  obtain ⟨content,present,holds⟩ := (rewriting.completed earlier left).2 context opened index rewrites
  rw [same,there] at present
  cases Option.some.inj present
  exact holds_patch.mp holds

end task

end VolumeBackup
