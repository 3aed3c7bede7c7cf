import VolumeBackup.CheckpointRestore
import VolumeBackup.PipelineExactness

namespace VolumeBackup
open ByteMemory

def VolumeTaskSharedContext.fresh (config : VolumeTaskSharedConfig) (hashing : BlockHashingContext) : VolumeTaskSharedContext where
  processedBitmap := .new config.TotalBlocks
  writtenBitmap := .new config.TotalBlocks
  counter := {}
  hashingContext := hashing

structure Installed (snapshot : CheckpointSnapshot) (context : VolumeTaskSharedContext) : Prop where
  processed : context.processedBitmap.m_capacity = snapshot.bitmapBufferBytesLength
  written : context.writtenBitmap.m_capacity = snapshot.bitmapBufferBytesLength
  marks : Same snapshot.bitmapBufferBytesLength context.processedBitmap.m_table 0 snapshot.processedBitmapBuffer 0
  writes : Same snapshot.bitmapBufferBytesLength context.writtenBitmap.m_table 0 snapshot.writtenBitmapBuffer 0

variable {disk : Disk} {config : VolumeTaskSharedConfig} {hashing : BlockHashingContext}
  {context loaded other : VolumeTaskSharedContext} {snapshot : CheckpointSnapshot}

theorem table_keeps (read : (if config.hasherEnabled then ReadLatestHashingTable disk config context else some context) = some loaded) :
    loaded.processedBitmap = context.processedBitmap ∧ loaded.writtenBitmap = context.writtenBitmap ∧
      loaded.counter = context.counter := by
  split at read
  · obtain ⟨content,_,rfl⟩ := table_parts read
    exact ⟨rfl,rfl,rfl⟩
  · cases Option.some.inj read
    exact ⟨rfl,rfl,rfl⟩

section whole
variable (saved : disk config.checkpointFilePath = some (.of (2*snapshot.bitmapBufferBytesLength) snapshot.buffer))
  (long : 0 < snapshot.bitmapBufferBytesLength)
include saved long

theorem load_saved : ∃ found, CheckpointSnapshot.LoadFrom disk config.checkpointFilePath = some found ∧
    found.bitmapBufferBytesLength = snapshot.bitmapBufferBytesLength ∧
    Same snapshot.bitmapBufferBytesLength found.processedBitmapBuffer 0 snapshot.processedBitmapBuffer 0 ∧
    Same snapshot.bitmapBufferBytesLength found.writtenBitmapBuffer 0 snapshot.writtenBitmapBuffer 0 := by
  have size : GetFileSize disk config.checkpointFilePath = 2*snapshot.bitmapBufferBytesLength := by simp [GetFileSize,saved]
  have half : 2*snapshot.bitmapBufferBytesLength/2 = snapshot.bitmapBufferBytesLength := by omega
  unfold CheckpointSnapshot.LoadFrom ReadBinaryBuffer
  simp only [size,saved,half]
  rw [if_neg (by omega),if_neg (by omega)]
  refine ⟨_,rfl,rfl,fun k bound => ?_,fun k bound => ?_⟩
  · simp only [Nat.zero_add]
    rw [Content.of_byte (by omega),CheckpointSnapshot.buffer,if_pos bound]
  · simp only [Nat.zero_add]
    rw [Content.of_byte (by omega),CheckpointSnapshot.buffer,if_neg (by omega),Nat.add_sub_cancel_left]

theorem bitmap_installed (capacity : snapshot.bitmapBufferBytesLength = context.writtenBitmap.m_capacity) :
    ∃ next, RestoreSessionBitmap disk config context = some next ∧ Installed snapshot next := by
  obtain ⟨found,loaded,length,marks,writes⟩ := load_saved saved long
  unfold RestoreSessionBitmap
  rw [loaded]
  exact ⟨_,if_pos (length.trans capacity),length,length,marks,writes⟩

theorem restore_installed (enabled : config.checkpointEnabled = true) (tabled : config.hasherEnabled = true →
      context.hashingContext.lastestSize ≠ 0 ∧ IsFileExists disk config.lastestChecksumBinPath = true)
    (capacity : snapshot.bitmapBufferBytesLength = context.writtenBitmap.m_capacity) :
    Installed snapshot (RestoreSessionCheckpoint disk config context) := by
  have restarted : ¬(!IsSessionRestarted disk config || !config.checkpointEnabled) = true := by
    simp [IsSessionRestarted,IsFileExists,saved,enabled]
  obtain ⟨loaded,read⟩ : ∃ loaded, (if config.hasherEnabled then ReadLatestHashingTable disk config context else some context) = some loaded := by
    cases hasher : config.hasherEnabled with
    | false => exact ⟨_,rfl⟩
    | true =>
        obtain ⟨some,there⟩ := tabled hasher
        obtain ⟨content,present⟩ := Option.isSome_iff_exists.mp there
        simp [ReadLatestHashingTable,ReadBinaryBuffer,some,present]
  obtain ⟨_,written,_⟩ := table_keeps read
  obtain ⟨next,restored,installed⟩ := bitmap_installed saved long (capacity.trans (congrArg Bitmap.m_capacity written.symm))
  simp only [RestoreSessionCheckpoint,if_neg restarted,read,restored]
  exact ⟨installed.processed,installed.written,installed.marks,installed.writes⟩

end whole

theorem bitmap_refused (size : GetFileSize disk config.checkpointFilePath ≠ 2*context.writtenBitmap.m_capacity) :
    RestoreSessionBitmap disk config context = none := by
  refine Option.eq_none_iff_forall_ne_some.mpr fun next restored => size ?_
  obtain ⟨snapshot,found,capacity,_⟩ := bitmap_parts restored
  obtain ⟨content,present,length,_⟩ := load_parts found
  rw [← capacity,← length]
  simp [GetFileSize,present]

theorem restore_refused (size : GetFileSize disk config.checkpointFilePath ≠ 2*context.writtenBitmap.m_capacity) :
    (RestoreSessionCheckpoint disk config context).processedBitmap = context.processedBitmap ∧
    (RestoreSessionCheckpoint disk config context).writtenBitmap = context.writtenBitmap ∧
    (RestoreSessionCheckpoint disk config context).counter = context.counter := by
  unfold RestoreSessionCheckpoint
  split
  · exact ⟨rfl,rfl,rfl⟩
  · split
    · exact ⟨rfl,rfl,rfl⟩
    · rename_i loaded read
      have kept := table_keeps read
      rw [bitmap_refused (by rw [kept.2.1]; exact size)]
      exact kept

section again

theorem store_store {table buffer : Memory} : store (store table 0 length buffer) 0 length buffer = store table 0 length buffer := by
  funext address
  unfold store
  split <;> rfl

theorem table_again (read : (if config.hasherEnabled then ReadLatestHashingTable disk config context else some context) = some loaded)
    (same : other.hashingContext = loaded.hashingContext) :
    (if config.hasherEnabled then ReadLatestHashingTable disk config other else some other) = some other := by
  split at read
  · rename_i hasher
    unfold ReadLatestHashingTable at read ⊢
    obtain ⟨buffer,found,rfl⟩ := Option.map_eq_some_iff.mp read
    rw [if_pos hasher,same]
    refine Option.map_eq_some_iff.mpr ⟨buffer,found,?_⟩
    dsimp only
    rw [store_store]
    cases other
    cases same
    rfl
  · rename_i plain
    rw [if_neg plain]

theorem bitmap_again (restored : RestoreSessionBitmap disk config context = some loaded)
    (same : other.processedBitmap = loaded.processedBitmap) (written : other.writtenBitmap = loaded.writtenBitmap) :
    RestoreSessionBitmap disk config other = some other := by
  obtain ⟨snapshot,found,capacity,rfl⟩ := bitmap_parts restored
  unfold RestoreSessionBitmap
  rw [found]
  cases other
  cases same
  cases written
  exact if_pos rfl

theorem restore_twice : RestoreSessionCheckpoint disk config (RestoreSessionCheckpoint disk config context) =
    RestoreSessionCheckpoint disk config context := by
  by_cases refused : (!IsSessionRestarted disk config || !config.checkpointEnabled) = true
  · have skipped (context : VolumeTaskSharedContext) : RestoreSessionCheckpoint disk config context = context := if_pos refused
    rw [skipped]
  · cases read : if config.hasherEnabled then ReadLatestHashingTable disk config context else some context with
    | none =>
        have once : RestoreSessionCheckpoint disk config context = context := by
          simp only [RestoreSessionCheckpoint,if_neg refused,read]
        rw [once,once]
    | some loaded =>
        cases found : RestoreSessionBitmap disk config loaded with
        | none =>
            have once : RestoreSessionCheckpoint disk config context = loaded := by
              simp only [RestoreSessionCheckpoint,if_neg refused,read,found]
            rw [once]
            simp only [RestoreSessionCheckpoint,if_neg refused,table_again read rfl,found]
        | some restored =>
            have once : RestoreSessionCheckpoint disk config context = RestoreSessionCounter config restored := by
              simp only [RestoreSessionCheckpoint,if_neg refused,read,found]
            have table : (RestoreSessionCounter config restored).hashingContext = loaded.hashingContext := by
              obtain ⟨snapshot,_,_,rfl⟩ := bitmap_parts found
              rfl
            rw [once]
            simp only [RestoreSessionCheckpoint,if_neg refused,table_again read table]
            have again : RestoreSessionBitmap disk config (RestoreSessionCounter config restored) = _ := bitmap_again found rfl rfl
            rw [again]
            rfl

theorem init_once {task : ProtectTask} : InitSessionContext disk config task =
    (InitHashingContext disk config task).map fun hashing => RestoreSessionCheckpoint disk config (.fresh config hashing) := by
  unfold InitSessionContext
  simp only [restore_twice]
  rfl

end again

-- A checkpoint file is taken whole or not at all, and taking it twice is taking it once.
theorem checkpoint_whole_or_none (disk : Disk) (config : VolumeTaskSharedConfig) (hashing : BlockHashingContext) :
    (∀ (snapshot : CheckpointSnapshot) (before : Disk), snapshot.bitmapBufferBytesLength = (Bitmap.new config.TotalBlocks).m_capacity →
      disk config.checkpointFilePath = snapshot.SaveTo before config.checkpointFilePath .yes config.checkpointFilePath →
      (∃ next, RestoreSessionBitmap disk config (.fresh config hashing) = some next ∧ Installed snapshot next) ∧
      (config.checkpointEnabled = true → (config.hasherEnabled = true →
          hashing.lastestSize ≠ 0 ∧ IsFileExists disk config.lastestChecksumBinPath = true) →
        Installed snapshot (RestoreSessionCheckpoint disk config (.fresh config hashing)))) ∧
    (GetFileSize disk config.checkpointFilePath ≠ 2*(Bitmap.new config.TotalBlocks).m_capacity →
      (RestoreSessionCheckpoint disk config (.fresh config hashing)).processedBitmap = .new config.TotalBlocks ∧
      (RestoreSessionCheckpoint disk config (.fresh config hashing)).writtenBitmap = .new config.TotalBlocks ∧
      (RestoreSessionCheckpoint disk config (.fresh config hashing)).counter = {}) ∧
    RestoreSessionCheckpoint disk config (RestoreSessionCheckpoint disk config (.fresh config hashing)) =
      RestoreSessionCheckpoint disk config (.fresh config hashing) ∧
    ∀ task, InitSessionContext disk config task =
      (InitHashingContext disk config task).map fun hashing => RestoreSessionCheckpoint disk config (.fresh config hashing) := by
  refine ⟨fun snapshot before capacity saved => ?_,fun size => restore_refused size,restore_twice,fun task => init_once⟩
  have whole : disk config.checkpointFilePath = some (.of (2*snapshot.bitmapBufferBytesLength) snapshot.buffer) := saved.trans put_same
  have long : 0 < snapshot.bitmapBufferBytesLength := by rw [capacity]; exact Nat.succ_pos _
  exact ⟨bitmap_installed whole long capacity,fun enabled tabled => restore_installed whole long enabled tabled capacity⟩

def letterCheckpoint : CheckpointSnapshot := ⟨1,fun _ => 1,fun _ => 1⟩

def resumableConfig : VolumeTaskSharedConfig := {letterConfig with checkpointEnabled := true}

def tableDisk : Disk := fun path => if path = resumableConfig.lastestChecksumBinPath then some (.of 32 zeros) else none

def checkpointDisk (reply : Reply) : Disk := letterCheckpoint.SaveTo tableDisk resumableConfig.checkpointFilePath reply

theorem checkpoint_whole_or_none_letter :
    (∃ next, RestoreSessionBitmap (checkpointDisk .yes) resumableConfig (.fresh resumableConfig ⟨32,0,zeros,zeros⟩) = some next ∧
      Installed letterCheckpoint next) ∧
    Installed letterCheckpoint (RestoreSessionCheckpoint (checkpointDisk .yes) resumableConfig (.fresh resumableConfig ⟨32,0,zeros,zeros⟩)) ∧
    (RestoreSessionCheckpoint (checkpointDisk (.no (some 1))) resumableConfig (.fresh resumableConfig ⟨32,0,zeros,zeros⟩)).counter = {} := by
  obtain ⟨bitmap,whole⟩ := (checkpoint_whole_or_none (checkpointDisk .yes) resumableConfig ⟨32,0,zeros,zeros⟩).1
    letterCheckpoint tableDisk rfl rfl
  exact ⟨bitmap,whole rfl fun _ => ⟨by decide,by decide⟩,
    ((checkpoint_whole_or_none (checkpointDisk (.no (some 1))) resumableConfig ⟨32,0,zeros,zeros⟩).2.1 (by decide)).2.2⟩

end VolumeBackup
