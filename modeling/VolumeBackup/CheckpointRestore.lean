import VolumeBackup.CheckpointSnapshot
import VolumeBackup.ProcessedMark
import VolumeBackup.ProtectTask

namespace VolumeBackup
open ByteMemory

def CheckpointSnapshot.processed (snapshot : CheckpointSnapshot) : Bitmap :=
  ⟨snapshot.bitmapBufferBytesLength,snapshot.processedBitmapBuffer⟩

section marks
variable (disk : Disk) (config : VolumeTaskSharedConfig)

def Checkpointed (index : Nat) : Prop := ∃ snapshot, CheckpointSnapshot.LoadFrom disk config.checkpointFilePath = some snapshot ∧
  snapshot.bitmapBufferBytesLength = (Bitmap.new config.TotalBlocks).m_capacity ∧ snapshot.processed.Test index = true

-- What a context that was restored any number of times has kept, and where its bits come from.
structure Opened (hashing : BlockHashingContext) (context : VolumeTaskSharedContext) : Prop where
  previous : context.hashingContext.previousTable = hashing.previousTable
  size : context.hashingContext.lastestSize = hashing.lastestSize
  failed : context.counter.blockesWriteFailed = 0
  processed : context.processedBitmap.m_capacity = (Bitmap.new config.TotalBlocks).m_capacity
  written : context.writtenBitmap.m_capacity = (Bitmap.new config.TotalBlocks).m_capacity
  marked : ∀ index, context.processedBitmap.Test index = true → config.checkpointEnabled = true ∧ Checkpointed disk config index ∧
    (config.hasherEnabled = true → ∃ content, disk config.lastestChecksumBinPath = some content ∧
      Same hashing.lastestSize context.hashingContext.lastestTable 0 content.byte 0)

end marks

variable {disk other : Disk} {config : VolumeTaskSharedConfig} {hashing : BlockHashingContext}
  {context : VolumeTaskSharedContext} {snapshot : CheckpointSnapshot}

theorem binary_parts (found : ReadBinaryBuffer disk path length = some buffer) :
    length ≠ 0 ∧ ∃ content, disk path = some content ∧ buffer = content.byte := by
  unfold ReadBinaryBuffer at found
  split at found
  · cases found
  · obtain ⟨content,present,rfl⟩ := Option.map_eq_some_iff.mp found
    exact ⟨‹_›,content,present,rfl⟩

theorem load_parts (loaded : CheckpointSnapshot.LoadFrom disk path = some snapshot) :
    ∃ content, disk path = some content ∧ content.size = 2*snapshot.bitmapBufferBytesLength ∧
      snapshot.processedBitmapBuffer = content.byte := by
  unfold CheckpointSnapshot.LoadFrom at loaded
  dsimp only at loaded
  split at loaded
  · cases loaded
  · rename_i whole
    obtain ⟨buffer,found,rfl⟩ := Option.map_eq_some_iff.mp loaded
    obtain ⟨_,content,present,rfl⟩ := binary_parts found
    have size : GetFileSize disk path = content.size := by simp [GetFileSize,present]
    rw [size] at whole ⊢
    exact ⟨content,present,by dsimp only; omega,rfl⟩

theorem load_congr (same : disk path = other path) :
    CheckpointSnapshot.LoadFrom disk path = CheckpointSnapshot.LoadFrom other path := by
  unfold CheckpointSnapshot.LoadFrom GetFileSize ReadBinaryBuffer
  rw [same]

theorem marks_congr (same : disk config.checkpointFilePath = other config.checkpointFilePath) :
    Checkpointed disk config index ↔ Checkpointed other config index := by
  unfold Checkpointed
  rw [load_congr same]

theorem marks_absent (absent : disk config.checkpointFilePath = none) : ¬Checkpointed disk config index := by
  rintro ⟨snapshot,loaded,_⟩
  obtain ⟨content,present,_⟩ := load_parts loaded
  cases absent.symm.trans present

theorem save_marks (capacity : snapshot.bitmapBufferBytesLength = (Bitmap.new config.TotalBlocks).m_capacity)
    (marks : Checkpointed (snapshot.SaveTo disk config.checkpointFilePath reply) config index) :
    Checkpointed disk config index ∨ snapshot.processed.Test index = true := by
  obtain ⟨saved,loaded,exact,set⟩ := marks
  obtain ⟨content,present,size,bytes⟩ := load_parts loaded
  rw [exact,← capacity] at size
  rcases save_whole present size with old | new
  · refine .inl ⟨saved,?_,exact,set⟩
    rw [← loaded]
    exact load_congr (old.trans present.symm)
  · refine .inr ?_
    have same : saved.processed.Test index = snapshot.processed.Test index := by
      refine test_congr (exact.trans capacity.symm) (fun k bound => ?_) index
      simp only [CheckpointSnapshot.processed,Nat.zero_add] at bound ⊢
      rw [exact,← capacity] at bound
      rw [bytes,new,Content.of_byte (by omega)]
      exact if_pos bound
    exact same.symm.trans set

theorem Opened.fresh (made : hashing.lastestSize = context.hashingContext.lastestSize)
    (previous : context.hashingContext.previousTable = hashing.previousTable) (failed : context.counter.blockesWriteFailed = 0)
    (processed : context.processedBitmap = .new config.TotalBlocks) (written : context.writtenBitmap = .new config.TotalBlocks) :
    Opened disk config hashing context := by
  refine ⟨previous,made.symm,failed,by rw [processed],by rw [written],fun index set => ?_⟩
  rw [processed,test_new] at set
  cases set

theorem table_parts (loaded : ReadLatestHashingTable disk config context = some next) :
    ∃ content, disk config.lastestChecksumBinPath = some content ∧
      next = {context with hashingContext := {context.hashingContext with
        lastestTable := store context.hashingContext.lastestTable 0 context.hashingContext.lastestSize content.byte}} := by
  unfold ReadLatestHashingTable at loaded
  obtain ⟨buffer,found,rfl⟩ := Option.map_eq_some_iff.mp loaded
  obtain ⟨_,content,present,rfl⟩ := binary_parts found
  exact ⟨content,present,rfl⟩

theorem Opened.load (opened : Opened disk config hashing context)
    (loaded : ReadLatestHashingTable disk config context = some next) : Opened disk config hashing next ∧
      ∃ content, disk config.lastestChecksumBinPath = some content ∧
        Same hashing.lastestSize next.hashingContext.lastestTable 0 content.byte 0 := by
  obtain ⟨content,present,rfl⟩ := table_parts loaded
  have same : Same hashing.lastestSize (store context.hashingContext.lastestTable 0 context.hashingContext.lastestSize
      content.byte) 0 content.byte 0 := by
    rw [opened.size]
    exact same_store
  refine ⟨⟨opened.previous,opened.size,opened.failed,opened.processed,opened.written,fun index set => ?_⟩,content,present,same⟩
  obtain ⟨enabled,marks,_⟩ := opened.marked index set
  exact ⟨enabled,marks,fun _ => ⟨content,present,same⟩⟩

theorem bitmap_parts (restored : RestoreSessionBitmap disk config context = some next) :
    ∃ snapshot, CheckpointSnapshot.LoadFrom disk config.checkpointFilePath = some snapshot ∧
      snapshot.bitmapBufferBytesLength = context.writtenBitmap.m_capacity ∧
      next = {context with
        processedBitmap := snapshot.processed
        writtenBitmap := ⟨snapshot.bitmapBufferBytesLength,snapshot.writtenBitmapBuffer⟩} := by
  unfold RestoreSessionBitmap at restored
  obtain ⟨snapshot,loaded,rest⟩ := Option.bind_eq_some_iff.mp restored
  split at rest
  · exact ⟨snapshot,loaded,‹_›,(Option.some.inj rest).symm⟩
  · cases rest

theorem Opened.restore (opened : Opened disk config hashing context) :
    Opened disk config hashing (RestoreSessionCheckpoint disk config context) := by
  unfold RestoreSessionCheckpoint
  split
  · exact opened
  · rename_i allowed
    simp only [Bool.or_eq_true,Bool.not_eq_true',not_or,Bool.not_eq_false] at allowed
    split
    · exact opened
    · rename_i loaded read
      have known : Opened disk config hashing loaded ∧ (config.hasherEnabled = true → ∃ content,
          disk config.lastestChecksumBinPath = some content ∧
          Same hashing.lastestSize loaded.hashingContext.lastestTable 0 content.byte 0) := by
        split at read
        · exact ⟨(opened.load read).1,fun _ => (opened.load read).2⟩
        · cases Option.some.inj read
          exact ⟨opened,fun enabled => absurd enabled ‹_›⟩
      split
      · exact known.1
      · rename_i restored found
        obtain ⟨snapshot,present,capacity,rfl⟩ := bitmap_parts found
        rw [known.1.written] at capacity
        exact ⟨known.1.previous,known.1.size,known.1.failed,capacity,capacity,fun index set =>
          ⟨allowed.2,⟨snapshot,present,capacity,set⟩,known.2⟩⟩

theorem init_opened (made : InitSessionContext disk config task = some context) :
    ∃ hashing, InitHashingContext disk config task = some hashing ∧ Opened disk config hashing context := by
  unfold InitSessionContext at made
  obtain ⟨hashing,found,rfl⟩ := Option.map_eq_some_iff.mp made
  have fresh : Opened disk config hashing
      {processedBitmap := .new config.TotalBlocks,writtenBitmap := .new config.TotalBlocks,counter := {},
        hashingContext := hashing} := .fresh rfl rfl rfl rfl rfl
  exact ⟨hashing,found,fresh.restore.restore⟩

theorem entry_store (inside : index*32+32 ≤ length) : entry (store table 0 length buffer) index = entry buffer index := by
  funext k
  have bound := k.isLt
  unfold entry
  rw [store_inside (Nat.zero_le _) (by omega),Nat.sub_zero]

theorem entry_behind (behind : length ≤ index*32) : entry (store table 0 length buffer) index = entry table index := by
  funext k
  unfold entry
  exact store_outside (.inr (by omega))

theorem previous_entry (loaded : LoadSessionPreviousCopyChecksum disk config = some table) :
    ∃ content, disk config.prevChecksumBinPath = some content ∧
      ∀ index, entry table index = entry content.byte index ∨ entry table index = fun _ => 0 := by
  unfold LoadSessionPreviousCopyChecksum at loaded
  dsimp only at loaded
  obtain ⟨buffer,found,rfl⟩ := Option.map_eq_some_iff.mp loaded
  obtain ⟨_,content,present,rfl⟩ := binary_parts found
  refine ⟨content,present,fun index => ?_⟩
  by_cases inside : index*32+32 ≤ config.sessionSize.toNat/config.blockSize.toNat % 2^32*SHA256_CHECKSUM_SIZE % 2^32
  · exact .inl (entry_store inside)
  · refine .inr (entry_behind ?_)
    unfold SHA256_CHECKSUM_SIZE at inside ⊢
    omega

def LoadedTable (disk : Disk) (config : VolumeTaskSharedConfig) (table : Memory) : Prop := ∀ index < config.TotalBlocks,
  entry table index = (fun _ => 0) ∨ ∃ content, disk config.lastestChecksumBinPath = some content ∧
    entry table index = entry content.byte index

theorem LoadedTable.restore (loaded : LoadedTable disk config context.hashingContext.lastestTable)
    (size : context.hashingContext.lastestSize = config.TotalBlocks*32) :
    LoadedTable disk config (RestoreSessionCheckpoint disk config context).hashingContext.lastestTable := by
  unfold RestoreSessionCheckpoint
  split
  · exact loaded
  · split
    · exact loaded
    · rename_i next read
      have known : LoadedTable disk config next.hashingContext.lastestTable := by
        split at read
        · obtain ⟨content,present,rfl⟩ := table_parts read
          refine fun index inside => .inr ⟨content,present,entry_store ?_⟩
          omega
        · cases Option.some.inj read
          exact loaded
      split
      · exact known
      · rename_i restored found
        obtain ⟨snapshot,_,_,rfl⟩ := bitmap_parts found
        exact known

theorem bitmap_accepted (loaded : CheckpointSnapshot.LoadFrom disk config.checkpointFilePath = some snapshot)
    (exact : snapshot.bitmapBufferBytesLength = context.writtenBitmap.m_capacity) :
    ∃ next, RestoreSessionBitmap disk config context = some next ∧ next.processedBitmap = snapshot.processed := by
  unfold RestoreSessionBitmap
  rw [loaded]
  exact ⟨_,if_pos exact,rfl⟩

theorem table_accepted (present : disk config.lastestChecksumBinPath = some content) (size : context.hashingContext.lastestSize ≠ 0) :
    ∃ next, ReadLatestHashingTable disk config context = some next ∧ next.writtenBitmap = context.writtenBitmap := by
  unfold ReadLatestHashingTable ReadBinaryBuffer
  simp only [if_neg size,present]
  exact ⟨_,rfl,rfl⟩

theorem Opened.accepts (opened : Opened disk config hashing context) (enabled : config.checkpointEnabled = true)
    (marks : Checkpointed disk config index)
    (table : config.hasherEnabled = true → ∃ content, disk config.lastestChecksumBinPath = some content ∧ hashing.lastestSize ≠ 0) :
    (RestoreSessionCheckpoint disk config context).processedBitmap.Test index = true := by
  obtain ⟨snapshot,loaded,capacity,set⟩ := marks
  obtain ⟨content,present,_⟩ := load_parts loaded
  have here : IsSessionRestarted disk config = true := by simp [IsSessionRestarted,IsFileExists,present]
  obtain ⟨read,found,same⟩ : ∃ next, (if config.hasherEnabled then ReadLatestHashingTable disk config context else some context) =
      some next ∧ next.writtenBitmap = context.writtenBitmap := by
    split
    · rename_i hasher
      obtain ⟨file,there,size⟩ := table hasher
      exact table_accepted there (opened.size ▸ size)
    · exact ⟨context,rfl,rfl⟩
  obtain ⟨restored,taken,bits⟩ := bitmap_accepted loaded (capacity.trans (by rw [same,opened.written]))
  unfold RestoreSessionCheckpoint
  rw [here,enabled,found]
  simp only [taken]
  exact bits ▸ set

section opening
variable {env : TaskEnv} {config : VolumeTaskSharedConfig} {disk : Disk} {context : VolumeTaskSharedContext}
  {source target : Content} (made : InitSessionContext disk config env.task = some context)
include made

theorem opened_roomy : Roomy (env.sessionEnv config)
    ((env.newSession config context source target).run.state.flow (env.sessionEnv config)) := by
  obtain ⟨hashing,_,opened⟩ := init_opened made
  have room : Roomy (env.sessionEnv config) ((env.newSession config context source target).run.state.flow _) :=
    roomy_capacity opened.processed opened.written
  exact room

theorem opened_valid : Valid (env.sessionEnv config) source
    ((env.newSession config context source target).run.state.flow (env.sessionEnv config))
    (env.newSession config context source target).run.state := by
  obtain ⟨hashing,_,opened⟩ := init_opened made
  have valid : Valid (env.sessionEnv config) source ((env.newSession config context source target).run.state.flow _)
      (env.newSession config context source target).run.state := Valid.new opened.failed
  exact valid

end opening

end VolumeBackup
