import VolumeBackup.CrashResume
import VolumeBackup.UsableMetadata

namespace VolumeBackup
open ByteMemory LabelledRuns

-- Different blocks have different checksums, and none has that of an entry that was not loaded.
structure Distinguishes (sha256 : List UInt8 → Digest) (blocks : Set (List UInt8)) : Prop where
  injective : Set.InjOn sha256 blocks
  nonzero : ∀ block ∈ blocks, sha256 block ≠ fun _ => 0

section law
variable (env : TaskEnv) (queue : List VolumeTaskSharedConfig)

def SessionBlocks (volume : Content) : Set (List UInt8) :=
  {block | ∃ config ∈ queue, ∃ index ≤ config.m_maxIndex, block = blockBytes (env.sessionEnv config) volume index}

def PreviousTables (disk : Disk) (volume : Content) : Prop := ∀ config ∈ queue, ∃ table,
  disk config.prevChecksumBinPath = some table ∧
    ∀ index ≤ config.m_maxIndex, entry table.byte index = blockDigest (env.sessionEnv config) volume index

-- A copy of a volume with its checksums, before the first attempt to bring it up to the volume of now.
structure Previous (disk : Disk) (before volume : Content) : Prop where
  fresh : ∀ config ∈ queue, disk config.checkpointFilePath = none
  copied : ∀ config ∈ queue, ∀ index ≤ config.m_maxIndex, Held env disk config before index
  tables : PreviousTables env queue disk before
  distinguishes : Distinguishes env.sha256 (SessionBlocks env queue before ∪ SessionBlocks env queue volume)

end law

variable {env : TaskEnv} {config : VolumeTaskSharedConfig} {queue : List VolumeTaskSharedConfig} {backup : VolumeBackupConfig}
  {volumeSize : UInt64} {disk after : Disk} {before volume : Content} {p : Process}

theorem Previous.same (previous : Previous env queue disk before volume) (member : config ∈ queue) (inside : index ≤ config.m_maxIndex)
    (equal : blockDigest (env.sessionEnv config) before index = blockDigest (env.sessionEnv config) volume index) :
    blockBytes (env.sessionEnv config) before index = blockBytes (env.sessionEnv config) volume index :=
  previous.distinguishes.injective (.inl ⟨config,member,index,inside,rfl⟩) (.inr ⟨config,member,index,inside,rfl⟩) equal

theorem Previous.nonzero (previous : Previous env queue disk before volume) (member : config ∈ queue) : NonZero env config volume :=
  fun _ index inside => previous.distinguishes.nonzero _ (.inr ⟨config,member,index,inside,rfl⟩)

theorem Held.same (held : Held env disk config before index)
    (equal : blockBytes (env.sessionEnv config) before index = blockBytes (env.sessionEnv config) volume index) :
    Held env disk config volume index := by
  obtain ⟨content,present,size,bytes⟩ := held
  exact ⟨content,present,size,bytes.trans (read_same.mp equal)⟩

theorem Previous.trusted (previous : Previous env queue disk before volume) (member : config ∈ queue) : Trusted env disk config volume where
  marked := fun _ _ _ marks => absurd marks (marks_absent (previous.fresh config member))
  known := by
    intro compares table present index inside equal
    obtain ⟨file,found,entries⟩ := previous.tables config member
    cases found.symm.trans present
    exact (previous.copied config member index inside).same (previous.same member inside ((entries index inside).symm.trans equal))

-- An incremental backup that crashes any number of times and ends with SUCCEED has brought the copy up to the volume, where no
-- table is saved over the one of the previous copy while a block that it describes is on its way.
theorem increment_resumes (task : env.task = .backup backup volumeSize) (sessions : env.task.sessions = some queue)
    (accepted : Accepted backup queue) (previous : Previous env queue disk before volume)
    (crashes : Attempts (taskNext env) (fun p action => Sturdy env (fun _ => volume) p action ∧ Tidy env p action) .new
      (Breaks env (Tidy env)) disk after)
    (path : Runs (taskNext env) (Observed env fun _ => volume) (.new after) actions p) (status : p.task.m_status = .SUCCEED)
    (inside : address < volumeSize.toNat) : (∃ config ∈ queue, Covers config address) ∧
      ∀ config ∈ queue, Covers config address → CopyHolds env p.disk config volume.byte address := by
  have recoverable := backup_recoverable task sessions accepted fun config member => previous.nonzero member
  have trusted := crashes_trusted recoverable (fun config member => previous.trusted member) crashes
  refine ⟨backup_covers task sessions inside,fun config member covers => ?_⟩
  have within : address < 2^64 := Nat.lt_trans inside volumeSize.toNat_lt
  exact Held.copy task (recoverable.copyable config member).pooled.positive
    (fun index below => recovered_exact recoverable trusted path status member below) covers within

def blockBackup (size : UInt32) (outputCopyMetaDirPath : String) : VolumeBackupConfig where
  backupType := .FOREVER_INC
  copyFormat := .IMAGE
  copyName := "c"
  volumePath := "/dev/sda1"
  prevCopyMetaDirPath := "/meta"
  outputCopyDataDirPath := "/copy"
  outputCopyMetaDirPath := outputCopyMetaDirPath
  blockSize := size
  sessionSize := size.toUInt64
  hasherNum := 1
  checkpointDirPath := "/checkpoint"

def blockMeta (size : UInt32) : VolumeCopyMeta where
  copyName := "c"
  backupType := .FULL
  copyFormat := .IMAGE
  volumeSize := size.toUInt64
  blockSize := size
  segments := []
  volumePath := "/dev/sda1"

def firstByte (data : List UInt8) : Digest := fun _ => data.headD 0

def blockEnv (size : UInt32) (outputCopyMetaDirPath : String) : TaskEnv where
  task := .backup (blockBackup size outputCopyMetaDirPath) size.toUInt64
  sha256 := firstByte
  json := CopyMetaFile.recordLibrary ((blockMeta size::
    ((blockBackup size outputCopyMetaDirPath).volumeCopyMeta size.toUInt64).toList).map CopyMetaFile.ofMeta)
  device := fun path => path = "/dev/sda1"

def blockSession (size : UInt32) (outputCopyMetaDirPath : String) : VolumeTaskSharedConfig :=
  (blockBackup size outputCopyMetaDirPath).NewVolumeTaskSession 0 size.toUInt64 0

def blockOf (size : UInt32) (byte : UInt8) : Content := .of size.toNat fun _ => byte

def blockDisk (size : UInt32) : Disk := fun path =>
  if path = "/dev/sda1" then some (blockOf size 97)
  else if path = "/copy/c.copydata.img" then some (blockOf size 98)
  else if path = GetChecksumBinPath "/meta" "c" 0 then some (.of 32 fun _ => 98)
  else if path = GetVolumeCopyMetaPath "/meta" "c" then some ((blockEnv size "/meta").Serialize (blockMeta size))
  else none

section block
variable {size : UInt32} {dir : String}

theorem block_geometry (positive : 0 < size.toNat) : (blockSession size dir).m_maxIndex = 0 ∧
    (blockSession size dir).nBytesToRead 0 = size.toNat := by
  have same : (blockSession size dir).sessionSize.toNat = size.toNat ∧ (blockSession size dir).blockSize.toNat = size.toNat :=
    ⟨UInt32.toNat_toUInt64 size,rfl⟩
  unfold VolumeTaskSharedConfig.m_maxIndex VolumeTaskSharedConfig.TotalBlocks VolumeTaskSharedConfig.nBytesToRead
  rw [same.1,same.2]
  simp [Nat.div_self positive]

theorem block_positions : readPosition ((blockEnv size dir).sessionEnv (blockSession size dir)) 0 = 0 ∧
    writePosition ((blockEnv size dir).sessionEnv (blockSession size dir)) 0 = 0 := by
  obtain ⟨reads,writes⟩ := @backup_positions (blockEnv size dir) _ _ rfl (blockSession size dir) 0
  have start : (blockSession size dir).consumeBlockOffset 0 = 0 := by
    unfold VolumeTaskSharedConfig.consumeBlockOffset
    rw [Nat.zero_mul]
    rfl
  rw [reads,writes,start]
  exact ⟨rfl,rfl⟩

theorem block_digest (positive : 0 < size.toNat) :
    blockDigest ((blockEnv size dir).sessionEnv (blockSession size dir)) (blockOf size byte) 0 = fun _ => byte := by
  have bytes : blockBytes ((blockEnv size dir).sessionEnv (blockSession size dir)) (blockOf size byte) 0 =
      read (blockOf size byte).byte 0 size.toNat := by
    unfold blockBytes
    rw [block_positions.1]
    exact congrArg _ (block_geometry positive).2
  have digest : blockDigest ((blockEnv size dir).sessionEnv (blockSession size dir)) (blockOf size byte) 0 =
      firstByte (read (blockOf size byte).byte 0 size.toNat) := congrArg firstByte bytes
  rw [digest]
  obtain ⟨rest,length⟩ := Nat.exists_eq_succ_of_ne_zero (Nat.pos_iff_ne_zero.mp positive)
  funext k
  simp [firstByte,ByteMemory.read,blockOf,Content.of,length]

theorem block_previous (positive : 0 < size.toNat) :
    Previous (blockEnv size dir) [blockSession size dir] (blockDisk size) (blockOf size 98) (blockOf size 97) := by
  obtain ⟨last,length⟩ := @block_geometry size dir positive
  have only (config : VolumeTaskSharedConfig) (member : config ∈ [blockSession size dir]) (index : Nat) (inside : index ≤ config.m_maxIndex) :
      config = blockSession size dir ∧ index = 0 := by
    cases List.mem_singleton.mp member
    exact ⟨rfl,by omega⟩
  have blocks (byte : UInt8) (block : List UInt8) (inside : block ∈ SessionBlocks (blockEnv size dir) [blockSession size dir]
      (blockOf size byte)) : block = blockBytes ((blockEnv size dir).sessionEnv (blockSession size dir)) (blockOf size byte) 0 := by
    obtain ⟨config,member,index,below,same⟩ := inside
    obtain ⟨rfl,rfl⟩ := only config member index below
    exact same
  have digest (byte : UInt8) (block : List UInt8) (inside : block ∈ SessionBlocks (blockEnv size dir) [blockSession size dir]
      (blockOf size byte)) : firstByte block = fun _ => byte := by
    rw [blocks byte block inside]
    exact block_digest positive
  refine ⟨?_,?_,?_,?_,?_⟩
  · intro config member
    cases List.mem_singleton.mp member
    rfl
  · intro config member index inside
    obtain ⟨rfl,rfl⟩ := only config member index inside
    refine ⟨blockOf size 98,rfl,?_,?_⟩
    · rw [block_positions.2]
      exact Nat.le_of_eq ((Nat.zero_add _).trans length)
    · rw [block_positions.1,block_positions.2]
      exact .refl
  · intro config member
    cases List.mem_singleton.mp member
    refine ⟨.of 32 fun _ => 98,rfl,fun index inside => ?_⟩
    have first : index = 0 := by omega
    subst first
    rw [block_digest positive]
    decide
  · rintro left (first | first) right (second | second) equal
    · rw [blocks 98 left first,blocks 98 right second]
    · have byte := congrFun ((digest 98 left first).symm.trans (equal.trans (digest 97 right second))) 0
      cases byte
    · have byte := congrFun ((digest 97 left first).symm.trans (equal.trans (digest 98 right second))) 0
      cases byte
    · rw [blocks 97 left first,blocks 97 right second]
  · rintro block (first | first) zero
    · cases congrFun ((digest 98 block first).symm.trans zero) 0
    · cases congrFun ((digest 97 block first).symm.trans zero) 0

end block

def diedWaiting : List TaskAction := threads 12++readers 10++hashers 11++threads 12

def rewrittenActions : List TaskAction := threads 12++readers 10++hashers 12++writers 10++threads 19

theorem died_waiting : (execute (taskNext (blockEnv 1 "/latest")) (fun p action => decide (Sturdy (blockEnv 1 "/latest")
    (fun _ => blockOf 1 97) p action)) (.new (blockDisk 1)) diedWaiting).isSome = true := by decide +kernel

def diedWaitingDisk : Disk := ((execute (taskNext (blockEnv 1 "/latest")) (fun p action => decide (Sturdy (blockEnv 1 "/latest")
  (fun _ => blockOf 1 97) p action)) (.new (blockDisk 1)) diedWaiting).get died_waiting).disk

theorem increment_resumes_block : ∃ p : Process, p.task.m_status = .SUCCEED ∧
    CopyHolds (blockEnv 1 "/latest") p.disk (blockSession 1 "/latest") (blockOf 1 97).byte 0 := by
  have apart (p : Process) (action : TaskAction) : Tidy (blockEnv 1 "/latest") p action := fun overwrites => absurd overwrites.2 (by decide)
  have died := (execute_runs (fun _ _ => of_decide_eq_true) (Option.some_get died_waiting).symm).weaken
    fun p action sturdy => And.intro sturdy (apart p action)
  have run : (execute (taskNext (blockEnv 1 "/latest")) (fun p action => decide (Observed (blockEnv 1 "/latest") (fun _ => blockOf 1 97) p action))
      (.new diedWaitingDisk) rewrittenActions).any (fun p => decide (p.task.m_status = .SUCCEED)) = true := by decide +kernel
  obtain ⟨p,path,good⟩ := execute_ends (fun _ _ => of_decide_eq_true) run
  have succeeded := of_decide_eq_true good
  have accepted : Accepted (blockBackup 1 "/latest") [blockSession 1 "/latest"] := ⟨rfl,by decide,by decide,fun _ => by decide⟩
  exact ⟨p,succeeded,(increment_resumes rfl rfl accepted (block_previous (by decide)) (.again .start died (.inl rfl)) path succeeded
    (show 0 < 1 by decide)).2 _ List.mem_cons_self ⟨by decide,by decide⟩⟩

-- With one directory for both copies, the attempt after a crash finds the block unchanged, and drops it.
def droppedActions : List TaskAction := threads 12++readers 10++hashers 13++writers 4++threads 19

theorem overwritten_some : (execute (taskNext (blockEnv DEFAULT_BLOCK_SIZE "/meta"))
    (fun p action => decide (Careful p action) && Faultless action) (.new (blockDisk DEFAULT_BLOCK_SIZE)) diedWaiting).isSome = true := by
  decide +kernel

def overwrittenDisk : Disk := ((execute (taskNext (blockEnv DEFAULT_BLOCK_SIZE "/meta"))
  (fun p action => decide (Careful p action) && Faultless action) (.new (blockDisk DEFAULT_BLOCK_SIZE)) diedWaiting).get
  overwritten_some).disk

theorem shared_tables_lose_block : ¬(Previous (blockEnv DEFAULT_BLOCK_SIZE "/meta") [blockSession DEFAULT_BLOCK_SIZE "/meta"]
      (blockDisk DEFAULT_BLOCK_SIZE) (blockOf DEFAULT_BLOCK_SIZE 98) (blockOf DEFAULT_BLOCK_SIZE 97) →
    ∀ after, Attempts (taskNext (blockEnv DEFAULT_BLOCK_SIZE "/meta")) (fun p action => Careful p action ∧ Faultless action = true) .new
      (Breaks (blockEnv DEFAULT_BLOCK_SIZE "/meta") Anything) (blockDisk DEFAULT_BLOCK_SIZE) after →
    ∀ p, Reached (taskNext (blockEnv DEFAULT_BLOCK_SIZE "/meta")) (fun p action => Careful p action ∧ Faultless action = true)
      (.new after) p → p.task.m_status = .SUCCEED →
    ∀ address < DEFAULT_BLOCK_SIZE.toNat, CopyHolds (blockEnv DEFAULT_BLOCK_SIZE "/meta") p.disk (blockSession DEFAULT_BLOCK_SIZE "/meta")
      (blockOf DEFAULT_BLOCK_SIZE 97).byte address) := by
  intro always
  have first := execute_runs careful_faultless (Option.some_get overwritten_some).symm
  have run : (execute (taskNext (blockEnv DEFAULT_BLOCK_SIZE "/meta")) (fun p action => decide (Careful p action) && Faultless action)
      (.new overwrittenDisk) droppedActions).any (fun q => decide (q.task.m_status = .SUCCEED ∧
        ¬CopyHolds (blockEnv DEFAULT_BLOCK_SIZE "/meta") q.disk (blockSession DEFAULT_BLOCK_SIZE "/meta")
          (blockOf DEFAULT_BLOCK_SIZE 97).byte 0)) = true := by decide +kernel
  obtain ⟨q,second,good⟩ := execute_ends careful_faultless run
  obtain ⟨succeeded,lost⟩ := of_decide_eq_true good
  exact lost (always (block_previous (by decide)) _ (.again .start first (.inl rfl)) q ⟨_,second⟩ succeeded 0 (by decide))

end VolumeBackup
