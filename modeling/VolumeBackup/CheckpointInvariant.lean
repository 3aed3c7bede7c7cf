import VolumeBackup.CheckpointWindow

namespace VolumeBackup
open ByteMemory LabelledRuns

section law
variable (env : TaskEnv) (config : VolumeTaskSharedConfig) (source : Content)

def HashOnDisk (disk : Disk) (index : Nat) : Prop := ∃ content, disk config.lastestChecksumBinPath = some content ∧
  index*32+32 ≤ content.size ∧ entry content.byte index = blockDigest (env.sessionEnv config) source index

-- The writer has written the block, or has left it out as one of zeros where skipEmptyBlock asks for it.
def Stands (history : List Event) (index : Nat) : Prop :=
  (∃ offset data, .write index offset data true ∈ history) ∨ .skipEmpty index ∈ history ∧ config.skipEmptyBlock = true ∧
    ∀ k < config.nBytesToRead index, source.byte (readPosition (env.sessionEnv config) index+k) = 0

end law

def PollPc.saves : PollPc → Bool
  | .refreshTable _ | .refreshWriter _ | .saveBitmap _ _ | .saveSnapshot _ | .flushTable | .flushWriter | .saveFinal _ => true
  | _ => false

def NoFailure (p : Polling) : PollAction → Prop
  | .thread reply => p.pc.saves = true → reply.isYes = true
  | .component action => WriteReturns p.state action
  | .client _ => True

def PollPc.tabling : PollPc → Bool
  | .refreshWriter _ | .refreshBitmap _ | .flushWriter | .flushBitmap => true
  | _ => false

def PollPc.syncing : PollPc → Bool
  | .refreshBitmap _ | .flushBitmap => true
  | _ => false

-- Between the save of the table and FlushSessionBitmap's snapshot a block is marked only if its checksum was in the table, and, once the
-- copy was synced, only if it was dropped or was in the copy by then.
def Timely (p : Polling) : PollAction → Prop
  | .component action => ∀ index ∈ p.state.marking action, (p.pc.tabling = true → .hash index ∈ p.tabled) ∧
      (p.pc.syncing = true → .drop index ∈ p.state.history ∨ index ∈ recorded p.synced)
  | _ => True

def Vouched (origin : Nat → Prop) (hashed dropped written : List Event) (index : Nat) : Prop :=
  origin index ∨ .hash index ∈ hashed ∧ (.drop index ∈ dropped ∨ index ∈ recorded written)

def PollPc.snapshots : PollPc → List CheckpointSnapshot
  | .refreshTable taken | .refreshWriter taken | .refreshBitmap taken | .saveSnapshot taken | .saveFinal taken => [taken]
  | .saveBitmap taken fresh => [taken,fresh]
  | _ => []

def Polling.hashed (p : Polling) : List Event :=
  match p.pc with
  | .refreshTable _ => p.state.history
  | _ => p.tabled

def Polling.written (p : Polling) : List Event :=
  match p.pc with
  | .refreshTable _ | .refreshWriter _ | .flushWriter => p.state.history
  | _ => p.synced

structure Ready (config : VolumeTaskSharedConfig) (origin : Nat → Prop) (hashed dropped written : List Event) (bitmap : Bitmap) :
    Prop where
  capacity : bitmap.m_capacity = (Bitmap.new config.TotalBlocks).m_capacity
  vouched : ∀ index < config.TotalBlocks, bitmap.Test index = true → Vouched origin hashed dropped written index

-- A session whose files are what its thread has saved. The bits of `origin` were in the checkpoint file
-- when it began.
structure Consistent (env : TaskEnv) (config : VolumeTaskSharedConfig) (source : Content) (o : Flow) (origin : Nat → Prop)
    (p : Polling) : Prop where
  marked : Marked (env.sessionEnv config) source o p.state
  size : p.state.hashingContext.lastestSize = config.TotalBlocks*32
  tabled : p.tabled ⊆ p.state.history
  synced : p.synced ⊆ p.state.history
  covered : p.covered ⊆ p.synced
  entries : ∀ index < config.TotalBlocks, origin index →
    entry p.state.hashingContext.lastestTable index = blockDigest (env.sessionEnv config) source index
  table : ∀ index < config.TotalBlocks, origin index ∨ .hash index ∈ p.tabled → HashOnDisk env config source p.disk index
  file : ∀ index < config.TotalBlocks, Checkpointed p.disk config index → Vouched origin p.tabled p.state.history p.covered index
  saving : ∀ snapshot ∈ p.pc.snapshots, Ready config origin p.hashed p.state.history p.written snapshot.processed
  window : p.pc.tabling = true → Ready config origin p.hashed p.state.history p.written p.state.processedBitmap

structure SeparateFiles (env : TaskEnv) (config : VolumeTaskSharedConfig) : Prop where
  table : config.lastestChecksumBinPath ≠ env.targetPath config
  checkpoint : config.checkpointFilePath ≠ env.targetPath config
  apart : config.lastestChecksumBinPath ≠ config.checkpointFilePath

structure Begun (env : TaskEnv) (config : VolumeTaskSharedConfig) (o : Flow) (origin : Nat → Prop) : Prop where
  roomy : Roomy (env.sessionEnv config) o
  processed : o.processed.m_capacity = (Bitmap.new config.TotalBlocks).m_capacity
  written : o.written.m_capacity = (Bitmap.new config.TotalBlocks).m_capacity
  fresh : ∀ index, o.processed.Test index = true → origin index

variable {env : TaskEnv} {config : VolumeTaskSharedConfig} {source : Content} {o : Flow} {origin : Nat → Prop}
  {p q : Polling} {disk other : Disk} {hashed dropped written caught left wrote : List Event}

theorem Vouched.mono (vouched : Vouched origin hashed dropped written index) (hash : hashed ⊆ caught) (drop : dropped ⊆ left)
    (write : written ⊆ wrote) : Vouched origin caught left wrote index := by
  refine vouched.imp_right fun ⟨stored,kept⟩ => ⟨hash stored,kept.imp (fun gone => drop gone) fun known => ?_⟩
  obtain ⟨event,present,same⟩ := List.mem_filterMap.mp known
  exact List.mem_filterMap.mpr ⟨event,write present,same⟩

theorem Ready.mono (ready : Ready config origin hashed dropped written bitmap) (hash : hashed ⊆ caught) (drop : dropped ⊆ left)
    (write : written ⊆ wrote) : Ready config origin caught left wrote bitmap :=
  ⟨ready.capacity,fun index inside set => (ready.vouched index inside set).mono hash drop write⟩

theorem settled_kept (left : index ∈ settled history) : .drop index ∈ history ∨ index ∈ recorded history := by
  rcases settled_cases left with drop | empty | ⟨offset,data,ok,wrote⟩
  · exact .inl drop
  · exact .inr (List.mem_filterMap.mpr ⟨_,empty,rfl⟩)
  · exact .inr (write_recorded wrote)

theorem hash_congr (same : disk config.lastestChecksumBinPath = other config.lastestChecksumBinPath) :
    HashOnDisk env config source disk index ↔ HashOnDisk env config source other index := by
  unfold HashOnDisk
  rw [same]

theorem separate_backup {backup : VolumeBackupConfig} (task : env.task = .backup backup volumeSize) :
    SeparateFiles env (backup.NewVolumeTaskSession offset size number) := by
  have target : env.targetPath (backup.NewVolumeTaskSession offset size number) =
      GetCopyDataFilePath backup.outputCopyDataDirPath backup.copyName backup.copyFormat number := by
    unfold TaskEnv.targetPath
    rw [task]
    rfl
  refine ⟨?_,?_,?_⟩
  · rw [target]
    exact copy_checksum.symm
  · rw [target]
    exact copy_checkpoint.symm
  · exact checksum_checkpoint

theorem abortFrom_idle (status : TaskStatus) (components : List Component) :
    (abortFrom status components).snapshots = [] ∧ (abortFrom status components).tabling = false := by
  cases components <;> exact ⟨rfl,rfl⟩

theorem aborting_idle {pc : PollPc} (next : (∃ later, pc = .abort later component rest status) ∨ pc = abortFrom status rest) :
    pc.snapshots = [] ∧ pc.tabling = false := by
  rcases next with ⟨later,rfl⟩ | rfl
  · exact ⟨rfl,rfl⟩
  · exact abortFrom_idle status rest

theorem taken_processed {s : Session} (processed : s.processedBitmap.m_capacity = s.writtenBitmap.m_capacity) :
    (TakeSessionCheckpointSnapshot s).processed = s.processedBitmap := by
  unfold CheckpointSnapshot.processed TakeSessionCheckpointSnapshot
  rw [← processed]

section invariant
variable (consistent : Consistent env config source o origin p)
include consistent

theorem Consistent.moved (state : q.state = p.state) (disk : q.disk = p.disk) (tabled : q.tabled = p.tabled)
    (synced : q.synced = p.synced) (covered : q.covered = p.covered)
    (saving : ∀ snapshot ∈ q.pc.snapshots, Ready config origin q.hashed q.state.history q.written snapshot.processed)
    (window : q.pc.tabling = true → Ready config origin q.hashed q.state.history q.written q.state.processedBitmap) :
    Consistent env config source o origin q where
  marked := state ▸ consistent.marked
  size := state ▸ consistent.size
  tabled := by rw [tabled,state]; exact consistent.tabled
  synced := by rw [synced,state]; exact consistent.synced
  covered := by rw [covered,synced]; exact consistent.covered
  entries := state ▸ consistent.entries
  table := by rw [tabled,disk]; exact consistent.table
  file := by rw [disk,tabled,state,covered]; exact consistent.file
  saving := saving
  window := window

theorem Consistent.ran (begun : Begun env config o origin) (pooled : Pooled config) {action : SessionAction}
    (step : Step (env.sessionEnv config) source p.state action q.state) (returns : WriteReturns p.state action)
    (table : q.disk config.lastestChecksumBinPath = p.disk config.lastestChecksumBinPath)
    (file : q.disk config.checkpointFilePath = p.disk config.checkpointFilePath) (tabled : q.tabled = p.tabled)
    (synced : q.synced = p.synced) (covered : q.covered = p.covered)
    (saving : ∀ snapshot ∈ q.pc.snapshots, Ready config origin q.hashed q.state.history q.written snapshot.processed)
    (window : q.pc.tabling = true → Ready config origin q.hashed q.state.history q.written q.state.processedBitmap) :
    Consistent env config source o origin q := by
  have marked := consistent.marked.step begun.roomy step returns
  obtain ⟨more,entries⟩ := consistent.marked.sound.events step
  refine ⟨marked,(step_marks step).1.trans consistent.size,?_,?_,?_,?_,?_,?_,saving,window⟩
  · rw [tabled]
    exact List.Subset.trans consistent.tabled more
  · rw [synced]
    exact List.Subset.trans consistent.synced more
  · rw [covered,synced]
    exact consistent.covered
  · intro index inside before
    rcases entries index with stored | same
    · exact (marked.sound.intact pooled marked.whole).checksums.stored index stored
    · exact same.trans (consistent.entries index inside before)
  · intro index inside known
    rw [tabled] at known
    exact (hash_congr table).mpr (consistent.table index inside known)
  · intro index inside marks
    rw [tabled,covered]
    exact (consistent.file index inside ((marks_congr file).mp marks)).mono (List.Subset.refl _) more (List.Subset.refl _)

theorem Consistent.idle (idle : pc.snapshots = [] ∧ pc.tabling = false) :
    Consistent env config source o origin {p with pc := pc} := by
  refine consistent.moved rfl rfl rfl rfl rfl ?_ ?_
  · rw [idle.1]
    exact nofun
  · rw [idle.2]
    exact nofun

theorem Consistent.driven (begun : Begun env config o origin) (pooled : Pooled config) {action : SessionAction}
    (ran : sessionStep (env.sessionEnv config) source p.state action = some state) (returns : WriteReturns p.state action)
    (idle : pc.snapshots = [] ∧ pc.tabling = false) :
    Consistent env config source o origin {p with state := state,pc := pc} := by
  refine consistent.ran begun pooled (sessionStep_sound ran) returns rfl rfl rfl rfl rfl ?_ ?_
  · rw [idle.1]
    exact nofun
  · rw [idle.2]
    exact nofun

theorem Consistent.capacity (begun : Begun env config o origin) :
    p.state.processedBitmap.m_capacity = (Bitmap.new config.TotalBlocks).m_capacity ∧
      p.state.processedBitmap.m_capacity = p.state.writtenBitmap.m_capacity := by
  have marks := consistent.marked.sound.marks
  have processed : p.state.processedBitmap.m_capacity = _ := marks.processed.capacity.trans begun.processed
  have written : p.state.writtenBitmap.m_capacity = _ := marks.written.capacity.trans begun.written
  exact ⟨processed,processed.trans written.symm⟩

variable (pooled : Pooled config)
include pooled

theorem Consistent.entry_known (inside : index < config.TotalBlocks) (known : origin index ∨ .hash index ∈ p.state.history) :
    entry p.state.hashingContext.lastestTable index = blockDigest (env.sessionEnv config) source index := by
  rcases known with before | stored
  · exact consistent.entries index inside before
  · exact (consistent.marked.sound.intact pooled consistent.marked.whole).checksums.stored index stored

theorem Consistent.now (hasher : config.hasherEnabled = true) (begun : Begun env config o origin) :
    Ready config origin p.state.history p.state.history p.state.history p.state.processedBitmap := by
  refine ⟨(consistent.capacity begun).1,fun index _ set => ?_⟩
  rcases consistent.marked.sound.marks.processed.justified index set with before | left
  · exact .inl (begun.fresh index before)
  · have checksums := (consistent.marked.sound.intact pooled consistent.marked.whole).checksums
    exact .inr ⟨checksums.done hasher index (settled_done left),settled_kept left⟩

end invariant

section files
variable (consistent : Consistent env config source o origin p) (separate : SeparateFiles env config)
include consistent separate

theorem Consistent.saveTable (pooled : Pooled config)
    (saving : ∀ snapshot ∈ pc.snapshots, Ready config origin p.state.history p.state.history p.state.history snapshot.processed)
    (window : Ready config origin p.state.history p.state.history p.state.history p.state.processedBitmap)
    (next : (∃ snapshot, pc = .refreshWriter snapshot) ∨ pc = .flushWriter) :
    Consistent env config source o origin (p.saveTable config .yes pc) := by
  have caught : (p.saveTable config .yes pc).hashed = p.state.history ∧ (p.saveTable config .yes pc).written = p.state.history := by
    rcases next with ⟨snapshot,rfl⟩ | rfl <;> exact ⟨rfl,rfl⟩
  refine ⟨consistent.marked,consistent.size,List.Subset.refl _,consistent.synced,consistent.covered,consistent.entries,?_,?_,?_,?_⟩
  · intro index inside known
    have size := consistent.size
    have room : index*32+32 ≤ p.state.hashingContext.lastestSize := by omega
    refine ⟨_,put_same,room,?_⟩
    rw [← consistent.entry_known pooled inside known]
    funext k
    exact Content.of_byte (by have bound := k.isLt; omega)
  · intro index inside marks
    have file : (p.saveTable config .yes pc).disk config.checkpointFilePath = p.disk config.checkpointFilePath :=
      put_other separate.apart.symm
    exact (consistent.file index inside ((marks_congr file).mp marks)).mono consistent.tabled (List.Subset.refl _)
      (List.Subset.refl _)
  · rw [caught.1,caught.2]
    exact saving
  · rw [caught.1,caught.2]
    exact fun _ => window

theorem Consistent.saveCheckpoint (ready : Ready config origin p.tabled p.state.history p.synced snapshot.processed)
    (saving : ∀ snapshot ∈ pc.snapshots, Ready config origin p.tabled p.state.history p.synced snapshot.processed)
    (next : (∃ snapshot, pc = .saveSnapshot snapshot) ∨ pc = .resume ∨ pc = .completed) :
    Consistent env config source o origin (p.saveCheckpoint config snapshot .yes pc) := by
  have caught : (p.saveCheckpoint config snapshot .yes pc).hashed = p.tabled ∧
      (p.saveCheckpoint config snapshot .yes pc).written = p.synced ∧ pc.tabling = false := by
    rcases next with ⟨later,rfl⟩ | rfl | rfl <;> exact ⟨rfl,rfl,rfl⟩
  refine ⟨consistent.marked,consistent.size,consistent.tabled,consistent.synced,List.Subset.refl _,consistent.entries,?_,?_,?_,?_⟩
  · intro index inside known
    have table : (p.saveCheckpoint config snapshot .yes pc).disk config.lastestChecksumBinPath =
        p.disk config.lastestChecksumBinPath := put_other separate.apart
    exact (hash_congr table).mpr (consistent.table index inside known)
  · intro index inside marks
    have saved : Checkpointed (snapshot.SaveTo p.disk config.checkpointFilePath .yes) config index := marks
    rcases save_marks ready.capacity saved with before | set
    · exact (consistent.file index inside before).mono (List.Subset.refl _) (List.Subset.refl _) consistent.covered
    · exact ready.vouched index inside set
  · rw [caught.1,caught.2.1]
    exact saving
  · exact fun inside => Bool.noConfusion (caught.2.2.symm.trans inside)

omit separate in
theorem Consistent.synced_now
    (saving : ∀ snapshot ∈ pc.snapshots, Ready config origin p.tabled p.state.history p.state.history snapshot.processed)
    (window : Ready config origin p.tabled p.state.history p.state.history p.state.processedBitmap)
    (next : (∃ snapshot, pc = .refreshBitmap snapshot) ∨ pc = .flushBitmap) :
    Consistent env config source o origin {p with synced := p.state.history,pc := pc} := by
  have caught : ({p with synced := p.state.history,pc := pc} : Polling).hashed = p.tabled ∧
      ({p with synced := p.state.history,pc := pc} : Polling).written = p.state.history := by
    rcases next with ⟨snapshot,rfl⟩ | rfl <;> exact ⟨rfl,rfl⟩
  refine ⟨consistent.marked,consistent.size,consistent.tabled,List.Subset.refl _,
    List.Subset.trans consistent.covered consistent.synced,consistent.entries,consistent.table,consistent.file,?_,?_⟩
  · rw [caught.1,caught.2]
    exact saving
  · rw [caught.1,caught.2]
    exact fun _ => window

end files

section lines
variable (consistent : Consistent env config source o origin p) (begun : Begun env config o origin)
  (pooled : Pooled config) (hasher : config.hasherEnabled = true)
include consistent begun pooled

theorem Consistent.component (separate : SeparateFiles env config) {action : SessionAction}
    (ran : sessionStep (env.sessionEnv config) source p.state action = some state) (returns : WriteReturns p.state action)
    (timely : Timely p (.component action)) :
    Consistent env config source o origin {p with state := state,disk := p.disk.put (env.targetPath config) state.target} := by
  have step := sessionStep_sound ran
  obtain ⟨more,_⟩ := consistent.marked.sound.events step
  have hashed : p.hashed ⊆ ({p with state := state} : Polling).hashed := by
    unfold Polling.hashed
    cases p.pc <;> first | exact List.Subset.refl _ | exact more
  have written : p.written ⊆ ({p with state := state} : Polling).written := by
    unfold Polling.written
    cases p.pc <;> first | exact List.Subset.refl _ | exact more
  refine consistent.ran begun pooled step returns (put_other separate.table) (put_other separate.checkpoint) rfl rfl rfl ?_ ?_
  · exact fun snapshot inside => (consistent.saving snapshot inside).mono hashed more written
  · intro window
    have ready := (consistent.window window).mono hashed more written
    have marked := consistent.marked.step begun.roomy step returns
    refine ⟨marked.sound.marks.processed.capacity.trans begun.processed,fun index inside set => ?_⟩
    rcases (step_marks step).2 index set with earlier | marks
    · exact ready.vouched index inside earlier
    · have known := timely index marks
      rcases marked.sound.marks.processed.justified index set with before | left
      · exact .inl (begun.fresh index before)
      have kept := settled_kept left
      revert known window
      simp only [Polling.hashed,Polling.written]
      cases p.pc with
      | refreshWriter taken | flushWriter => exact fun _ known => .inr ⟨known.1 rfl,kept⟩
      | refreshBitmap taken | flushBitmap => exact fun _ known => .inr ⟨known.1 rfl,(known.2 rfl).imp_left fun gone => more gone⟩
      | _ => exact nofun

include hasher

theorem Consistent.move (backup : env.task.isBackup = true) (moves : PollMove env config p pc) :
    Consistent env config source o origin {p with pc := pc} := by
  have saving := consistent.saving
  have window := consistent.window
  have now := consistent.now pooled hasher begun
  have taken := taken_processed (consistent.capacity begun).2
  cases moves with
  | taken here enabled =>
      refine consistent.moved rfl rfl rfl rfl rfl (fun snapshot inside => ?_) nofun
      cases List.mem_singleton.mp inside
      rw [taken]
      exact now
  | fresh here =>
      simp only [Polling.hashed,Polling.written,here] at saving window
      refine consistent.moved rfl rfl rfl rfl rfl (fun snapshot inside => ?_) nofun
      rcases List.mem_cons.mp inside with rfl | second
      · exact saving _ List.mem_cons_self
      · cases List.mem_singleton.mp second
        rw [taken]
        exact window rfl
  | final here enabled =>
      simp only [Polling.hashed,Polling.written,here] at window
      refine consistent.moved rfl rfl rfl rfl rfl (fun snapshot inside => ?_) nofun
      cases List.mem_singleton.mp inside
      rw [taken]
      exact window rfl
  | takenPlain here plain | noTable here plain => cases hasher.symm.trans plain
  | allTerminated here =>
      rw [if_pos backup]
      exact consistent.idle ⟨rfl,rfl⟩
  | aborts here => exact consistent.idle (abortFrom_idle _ _)
  | reads here next => exact consistent.idle (aborting_idle next)
  | _ => exact consistent.idle ⟨rfl,rfl⟩

theorem Consistent.step (separate : SeparateFiles env config) (backup : env.task.isBackup = true)
    (step : PollStep env config source p action q) (fine : NoFailure p action) (timely : Timely p action) :
    Consistent env config source o origin q := by
  have saving := consistent.saving
  have window := consistent.window
  have now := consistent.now pooled hasher begun
  cases step with
  | move moves => exact consistent.move begun pooled hasher backup moves
  | drive drives ran =>
      cases drives with
      | startFailed here => exact consistent.driven begun pooled ran trivial (abortFrom_idle _ _)
      | assigned here assigns next =>
          refine consistent.driven begun pooled ran ?_ (aborting_idle next)
          rcases assigns with rfl | rfl | rfl <;> trivial
      | _ => exact consistent.driven begun pooled ran trivial ⟨rfl,rfl⟩
  | table here yes =>
      simp only [Polling.hashed,Polling.written,here] at saving
      cases reply_yes yes
      exact consistent.saveTable separate pooled saving now (.inl ⟨_,rfl⟩)
  | sync here yes =>
      simp only [Polling.hashed,Polling.written,here] at saving window
      exact consistent.synced_now saving (window rfl) (.inl ⟨_,rfl⟩)
  | bitmap here yes =>
      simp only [Polling.hashed,Polling.written,here] at saving
      cases reply_yes yes
      refine consistent.saveCheckpoint separate (saving _ (by simp [PollPc.snapshots])) (fun taken inside => ?_) (.inl ⟨_,rfl⟩)
      exact saving taken (List.mem_cons.mpr (.inl (List.mem_singleton.mp inside)))
  | snapshot here =>
      cases reply_yes (fine (by rw [here]; rfl))
      simp only [Polling.hashed,Polling.written,here] at saving
      exact consistent.saveCheckpoint separate (saving _ List.mem_cons_self) nofun (.inr (.inl rfl))
  | finalTable here enabled =>
      cases reply_yes (fine (by rw [here]; rfl))
      exact consistent.saveTable separate pooled nofun now (.inr rfl)
  | finalSync here =>
      cases reply_yes (fine (by rw [here]; rfl))
      simp only [Polling.hashed,Polling.written,here] at window
      exact consistent.synced_now nofun (window rfl) (.inr rfl)
  | finalBitmap here =>
      cases reply_yes (fine (by rw [here]; rfl))
      simp only [Polling.hashed,Polling.written,here] at saving
      exact consistent.saveCheckpoint separate (saving _ List.mem_cons_self) nofun (.inr (.inr rfl))
  | tableLost here no | bitmapLost here no => cases no.symm.trans (fine (by rw [here]; rfl))
  | statistics here | completed here | concluded here => exact consistent.moved rfl rfl rfl rfl rfl nofun nofun
  | component own ran => exact consistent.component begun pooled separate ran fine timely
  | client => exact consistent.moved rfl rfl rfl rfl rfl saving window

end lines

end VolumeBackup
