import VolumeBackup.IdleIncrement
import VolumeBackup.InputStreams

namespace VolumeBackup
open ByteMemory LabelledRuns InputStreams

namespace ChecksumDump

def SEPARATOR : String := "/"

structure DumpFiles where
  volumeIn : String → Option Content
  fileOut : String → Bool

section exec
variable (sha256 : List UInt8 → Digest)

def ComputeSHA256 (data : Memory) (len : Nat) (output : Memory) (outputLen : Nat) : Memory :=
  store output 0 outputLen (sha256 (read data 0 len)).bytes

def hexByte (byte : UInt8) : List Char := (Nat.toDigits 16 byte.toNat).leftpad 2 '0'

def checksumLine (checksumBuffer : Memory) : List Char := ((List.range 32).flatMap fun i => hexByte (checksumBuffer i))++['\n']

def blockSize : Nat := 1024*1024*4

def dumpBlock (dataBuffer : Memory) (state : Memory × List Char) : Memory × Memory × List Char :=
  let checksumBuffer := ComputeSHA256 sha256 dataBuffer blockSize state.1 32
  let fileOut := state.2++checksumLine checksumBuffer
  (store dataBuffer 0 blockSize zeros,store checksumBuffer 0 32 zeros,fileOut)

-- The exit code, and the file that has been written, if any, with its text. The block size that is asked for is not used.
-- A round reads a whole block, so that the loop ends within as many rounds as the volume has bytes, and one more.
def ExecDumpVolumeSha256 (files : DumpFiles) (volumePath _blockSizeString outputDir : String) :
    Option (Nat × Option (String × List Char)) :=
  let outputFile := outputDir++SEPARATOR++"sha256.checksum.txt"
  match files.volumeIn volumePath with
  | none => some (1,none)
  | some content =>
    if files.fileOut outputFile then
      (whileRead blockSize (dumpBlock sha256) (content.size+1) {content := content} zeros (zeros,[])).map fun state =>
        (0,some (outputFile,state.2))
    else some (1,none)

end exec

def checksumText (content : Content) : List Char :=
  (List.range (content.size/32)).flatMap fun index => checksumLine (entry content.byte index).bytes

section text
variable {sha256 : List UInt8 → Digest} {files : DumpFiles} {volumePath blockSizeString outputDir : String} {content : Content}

theorem hexByte_length (byte : UInt8) : (hexByte byte).length = 2 := by
  have few : (Nat.toDigits 16 byte.toNat).length ≤ 2 := (Nat.length_toDigits_le_iff (by decide) (by decide)).mpr byte.toNat_lt
  unfold hexByte
  rw [List.length_leftpad]
  omega

theorem checksumLine_length (checksumBuffer : Memory) : (checksumLine checksumBuffer).length = 65 := by
  simp [checksumLine,List.length_flatMap,hexByte_length]

theorem lines_length (blocks : Nat) (line : Nat → Memory) :
    ((List.range blocks).flatMap fun index => checksumLine (line index)).length = 65*blocks := by
  simp [List.length_flatMap,checksumLine_length,Nat.mul_comm]

theorem checksumLine_congr {left right : Memory} (same : Same 32 left 0 right 0) : checksumLine left = checksumLine right := by
  unfold checksumLine
  congr 1
  apply List.flatMap_congr
  intro i inside
  have byte := same i (List.mem_range.mp inside)
  rw [Nat.zero_add] at byte
  rw [byte]

def Dumped (sha256 : List UInt8 → Digest) (content : Content) (blocks : Nat) (state : Memory × List Char) : Prop :=
  state.2 = (List.range blocks).flatMap fun index => checksumLine (sha256 (read content.byte (index*blockSize) blockSize)).bytes

theorem Dumped.step {index : Nat} {dataBuffer : Memory} {state : Memory × List Char} (dumped : Dumped sha256 content index state)
    (loaded : Same blockSize dataBuffer 0 content.byte (index*blockSize)) :
    Dumped sha256 content (index+1) (dumpBlock sha256 dataBuffer state).2 := by
  have line : checksumLine (ComputeSHA256 sha256 dataBuffer blockSize state.1 32) =
      checksumLine (sha256 (read content.byte (index*blockSize) blockSize)).bytes := by
    rw [← read_same.mpr loaded]
    exact checksumLine_congr same_store
  unfold Dumped
  rw [List.range_succ,List.flatMap_append,← show state.2 = _ from dumped]
  simp only [List.flatMap_cons,List.flatMap_nil,List.append_nil,← line]
  rfl

theorem dump_text (opened : files.volumeIn volumePath = some content)
    (writable : files.fileOut (outputDir++SEPARATOR++"sha256.checksum.txt") = true) :
    ExecDumpVolumeSha256 sha256 files volumePath blockSizeString outputDir =
      some (0,some (outputDir++SEPARATOR++"sha256.checksum.txt",
        (List.range (content.size/blockSize)).flatMap fun index =>
          checksumLine (sha256 (read content.byte (index*blockSize) blockSize)).bytes)) := by
  have enough : content.size/blockSize < content.size+1 := Nat.lt_succ_of_le (Nat.div_le_self _ _)
  have run : ∃ last, whileRead blockSize (dumpBlock sha256) (content.size+1) ⟨content,0,false⟩ zeros (zeros,[]) = some last ∧
      Dumped sha256 content (content.size/blockSize) last :=
    whileRead_blocks (by decide) (Dumped sha256 content) (fun index _ _ _ loaded dumped => dumped.step loaded) rfl enough
  obtain ⟨last,ran,dumped⟩ := run
  unfold ExecDumpVolumeSha256
  simp only [opened,if_pos writable,ran,Option.map_some,show last.2 = _ from dumped]

end text

section session
variable {backup : VolumeBackupConfig} {volumeSize : UInt64} {config : VolumeTaskSharedConfig}

theorem single_session (sessions : (ProtectTask.backup backup volumeSize).sessions = some [config]) :
    config = backup.NewVolumeTaskSession 0 volumeSize 0 ∧ 0 < volumeSize.toNat := by
  have cuts : Cuts backup.NewVolumeTaskSession volumeSize backup.sessionSize 0 0 [config] := splitVolume_sound sessions
  cases cuts with
  | next before cut rest =>
      have some : 0 < volumeSize.toNat := UInt64.lt_iff_toNat_lt.mp before
      cases rest with
      | done past =>
          rcases cut with ⟨rfl,_⟩ | ⟨rfl,short⟩
          · rw [UInt64.sub_zero]
            exact ⟨rfl,some⟩
          · exact absurd short (UInt64.not_lt.mpr past)

variable {env : TaskEnv} {volume table : Content} {disk : Disk}
  (task : env.task = .backup backup volumeSize) (single : config = backup.NewVolumeTaskSession 0 volumeSize 0)
  (blocks : backup.blockSize = DEFAULT_BLOCK_SIZE)
include single blocks

theorem single_length (index : Nat) : config.nBytesToRead index = min blockSize (volumeSize.toNat-index*blockSize) := by
  subst single
  unfold VolumeTaskSharedConfig.nBytesToRead VolumeBackupConfig.NewVolumeTaskSession
  rw [blocks]
  rfl

theorem single_blocks : config.TotalBlocks = if volumeSize.toNat % blockSize ≠ 0 then volumeSize.toNat/blockSize+1 else volumeSize.toNat/blockSize := by
  subst single
  unfold VolumeTaskSharedConfig.TotalBlocks VolumeBackupConfig.NewVolumeTaskSession
  rw [blocks]
  rfl

include task

theorem single_digest {index : Nat} (inside : index*blockSize < volumeSize.toNat) : blockDigest (env.sessionEnv config) volume index =
    env.sha256 (read volume.byte (index*blockSize) (min blockSize (volumeSize.toNat-index*blockSize))) := by
  have small := volumeSize.toNat_lt
  have offset : config.consumeBlockOffset index = index*blockSize := by
    have start : config.consumeBlockOffset index = (index*blockSize+0) % 2^64 := by
      subst single
      unfold VolumeTaskSharedConfig.consumeBlockOffset VolumeBackupConfig.NewVolumeTaskSession
      rw [blocks]
      rfl
    have bound : index*blockSize < 2^64 := Nat.lt_trans inside small
    rw [start,Nat.add_zero,Nat.mod_eq_of_lt bound]
  unfold blockDigest blockBytes
  rw [(backup_positions task config index).1,offset]
  exact congrArg (fun length => env.sha256 (read volume.byte (index*blockSize) length)) (single_length single blocks index)

theorem exact_text (size : table.size = config.TotalBlocks*32)
    (entries : ∀ index < config.TotalBlocks, entry table.byte index = blockDigest (env.sessionEnv config) volume index) :
    (List.range (volumeSize.toNat/blockSize)).flatMap (fun index =>
      checksumLine (env.sha256 (read volume.byte (index*blockSize) blockSize)).bytes) = checksumText table ↔
    volumeSize.toNat % blockSize = 0 := by
  have total := single_blocks single blocks
  have count : table.size/32 = config.TotalBlocks := by omega
  unfold checksumText
  rw [count]
  constructor
  · intro same
    have lengths := congrArg List.length same
    rw [lines_length,lines_length] at lengths
    split at total <;> omega
  · intro even
    rw [if_neg (not_not.mpr even)] at total
    rw [total]
    apply List.flatMap_congr
    intro index inside
    have before := List.mem_range.mp inside
    have whole : index*blockSize+blockSize ≤ volumeSize.toNat := by
      rw [← Nat.succ_mul]
      exact (Nat.le_div_iff_mul_le (by decide)).mp before
    have positive : 0 < blockSize := by decide
    rw [entries index (total ▸ before),single_digest task single blocks (by omega),Nat.min_eq_left (by omega)]

end session

section dump
variable {env : TaskEnv} {backup : VolumeBackupConfig} {volumeSize : UInt64} {config : VolumeTaskSharedConfig} {volume : Content}
  {disk : Disk} {p : Process} {actions : List TaskAction} {files : DumpFiles} {volumePath blockSizeString outputDir : String}

-- The dump of a volume against the table that a backup of it has left: they agree just where the volume ends with a block.
theorem dump_agrees (task : env.task = .backup backup volumeSize) (sessions : env.task.sessions = some [config])
    (hasher : backup.hasherEnabled = true) (blocks : backup.blockSize = DEFAULT_BLOCK_SIZE)
    (few : backup.IsIncrementBackup = true → config.m_maxIndex < 2^27)
    (fresh : backup.enableCheckpoint = true → disk config.checkpointFilePath = none)
    (path : Runs (taskNext env) (Smooth env fun _ => volume) (.new disk) actions p) (status : p.task.m_status = .SUCCEED)
    (size : volume.size = volumeSize.toNat) (opened : files.volumeIn volumePath = some volume)
    (writable : files.fileOut (outputDir++SEPARATOR++"sha256.checksum.txt") = true) :
    ∃ table text, p.disk config.lastestChecksumBinPath = some table ∧ table.size = config.TotalBlocks*32 ∧
      ExecDumpVolumeSha256 env.sha256 files volumePath blockSizeString outputDir =
        some (0,some (outputDir++SEPARATOR++"sha256.checksum.txt",text)) ∧
      (text = checksumText table ↔ volumeSize.toNat % blockSize = 0) := by
  have single : config = backup.NewVolumeTaskSession 0 volumeSize 0 := by
    rw [task] at sessions
    exact (single_session sessions).1
  have positive : 1 ≤ backup.blockSize.toNat := by rw [blocks]; decide
  have addresses : 32*backup.blockSize.toNat < 2^32 := by rw [blocks]; decide
  have left : LeftBehind env backup volumeSize [config] volume p.disk := fresh_leaves task sessions hasher positive addresses
    (fun increment => List.forall_mem_singleton.mpr (few increment)) path status
    (fun enabled => List.forall_mem_singleton.mpr (fresh enabled))
  obtain ⟨table,present,whole,entries⟩ := left.table config List.mem_cons_self
  refine ⟨table,_,present,whole,dump_text opened writable,?_⟩
  rw [size]
  exact exact_text task single blocks whole entries

end dump

def dumpFiles (volume : Content) : DumpFiles := ⟨fun path => if path = "/dev/sda1" then some volume else none,fun _ => true⟩

theorem dump_agrees_whole : ∃ (p : Process) (table : Content) (text : List Char), p.task.m_status = .SUCCEED ∧
    p.disk (wholeSession 8388608).lastestChecksumBinPath = some table ∧
    ExecDumpVolumeSha256 (wholeEnv 8388608).sha256 (dumpFiles (letters 8388608)) "/dev/sda1" "4MB" "/out" =
      some (0,some ("/out/sha256.checksum.txt",text)) ∧ text = checksumText table := by
  obtain ⟨p,smooth,succeeded⟩ := pair_leaves
  have own : (wholeEnv 8388608).task = .backup wholeBackup 8388608 := rfl
  obtain ⟨table,text,present,_,dumped,agrees⟩ := @dump_agrees _ _ _ _ _ _ _ _ (dumpFiles (letters 8388608)) "/dev/sda1" "4MB" "/out"
    own pair_sessions rfl rfl nofun nofun smooth succeeded rfl rfl rfl
  exact ⟨p,table,text,succeeded,present,dumped,agrees.mpr (by decide)⟩

theorem dump_misses_tail : ¬∀ (p : Process) (table : Content) (text : List Char),
    Reached (taskNext (wholeEnv 1)) (Smooth (wholeEnv 1) fun _ => letter) (.new plainDisk) p → p.task.m_status = .SUCCEED →
    p.disk (wholeSession 1).lastestChecksumBinPath = some table →
    ExecDumpVolumeSha256 (wholeEnv 1).sha256 (dumpFiles letter) "/dev/sda1" "4MB" "/out" =
      some (0,some ("/out/sha256.checksum.txt",text)) → text = checksumText table := by
  intro always
  obtain ⟨path,succeeded⟩ := tail_leaves
  have own : (wholeEnv 1).task = .backup wholeBackup 1 := rfl
  have sessions : (wholeEnv 1).task.sessions = some [wholeSession 1] := rfl
  have left : LeftBehind (wholeEnv 1) wholeBackup 1 [wholeSession 1] letter tailLeft.disk :=
    fresh_leaves own sessions rfl (by decide) (by decide) nofun path succeeded nofun
  obtain ⟨table,present,whole,entries⟩ := left.table _ List.mem_cons_self
  have dumped := always tailLeft table _ ⟨_,path⟩ succeeded present (dump_text rfl rfl)
  have ends : (1 : UInt64).toNat % blockSize = 0 := (exact_text own rfl rfl whole entries).mp dumped
  exact absurd ends (by decide)

end ChecksumDump

end VolumeBackup
