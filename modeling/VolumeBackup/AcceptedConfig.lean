import Mathlib.Data.Nat.Find
import VolumeBackup.CheckpointSnapshot
import VolumeBackup.SessionSplit
import VolumeBackup.Strides

namespace VolumeBackup
open Strides

def VOLUME_NAME_LEN_MAX : Nat := 32

structure BuildHost where
  ReadVolumeSize : String → Option UInt64
  IsDirectoryExists : String → Bool
  timestamp : Nat

section build
variable (host : BuildHost)

def VolumeProtectTask.BuildBackupTask (backupConfig : VolumeBackupConfig) : Option ProtectTask :=
  let finalBackupConfig :=
    if backupConfig.copyName.isEmpty ∨ VOLUME_NAME_LEN_MAX < backupConfig.copyName.utf8ByteSize then
      {backupConfig with copyName := toString host.timestamp}
    else backupConfig
  match host.ReadVolumeSize backupConfig.volumePath with
  | none => none
  | some volumeSize =>
    if volumeSize = 0 then none
    else if !host.IsDirectoryExists backupConfig.outputCopyDataDirPath ∨
        !host.IsDirectoryExists backupConfig.outputCopyMetaDirPath ∨
        (backupConfig.backupType = .FOREVER_INC ∧ !host.IsDirectoryExists backupConfig.prevCopyMetaDirPath) then none
    else some (.backup finalBackupConfig volumeSize)

-- The C interface: a null string is an empty one, and the fields that it lacks keep their defaults.
structure VolumeBackupConf_C where
  backupType : Int
  copyFormat : Int
  copyName : Option String
  volumePath : Option String
  prevCopyMetaDirPath : Option String
  outputCopyDataDirPath : Option String
  outputCopyMetaDirPath : Option String
  blockSize : UInt32
  sessionSize : UInt64
  hasherNum : UInt32
  hasherEnabled : Bool
  enableCheckpoint : Bool

def StringFromCStr (str : Option String) : String := str.getD ""

-- The casts to the two enumerations; a number that names none of their values is left out.
def backupTypeOf : Int → Option BackupType
  | 0 => some .FULL
  | 1 => some .FOREVER_INC
  | _ => none

def copyFormatOf : Int → Option CopyFormat
  | 0 => some .BIN
  | 1 => some .IMAGE
  | _ => none

def VolumeBackupConf_C.backupConfig (cBackupConf : VolumeBackupConf_C) (backupType : BackupType) (copyFormat : CopyFormat) :
    VolumeBackupConfig where
  backupType := backupType
  copyFormat := copyFormat
  copyName := StringFromCStr cBackupConf.copyName
  volumePath := StringFromCStr cBackupConf.volumePath
  prevCopyMetaDirPath := StringFromCStr cBackupConf.prevCopyMetaDirPath
  outputCopyDataDirPath := StringFromCStr cBackupConf.outputCopyDataDirPath
  outputCopyMetaDirPath := StringFromCStr cBackupConf.outputCopyMetaDirPath
  blockSize := cBackupConf.blockSize
  sessionSize := cBackupConf.sessionSize
  hasherNum := cBackupConf.hasherNum
  hasherEnabled := cBackupConf.hasherEnabled
  enableCheckpoint := cBackupConf.enableCheckpoint
  checkpointDirPath := ""

def BuildBackupTask (cBackupConf : VolumeBackupConf_C) : Option ProtectTask :=
  (backupTypeOf cBackupConf.backupType).bind fun backupType =>
    (copyFormatOf cBackupConf.copyFormat).bind fun copyFormat =>
      VolumeProtectTask.BuildBackupTask host (cBackupConf.backupConfig backupType copyFormat)

end build

-- A division of the machine has no result where the divisor is 0.
def divide (dividend divisor : Nat) : Option Nat := if divisor = 0 then none else some (dividend/divisor)

def modulo (dividend divisor : Nat) : Option Nat := if divisor = 0 then none else some (dividend % divisor)

section divisions
variable (config : VolumeTaskSharedConfig)

def VolumeTaskSharedConfig.numBlocks : Option Nat :=
  (divide config.sessionSize.toNat config.blockSize.toNat).bind fun numBlocks =>
    (modulo config.sessionSize.toNat config.blockSize.toNat).map fun rest =>
      if rest ≠ 0 then numBlocks+1 else numBlocks

def VolumeTaskSharedConfig.readerMaxIndex : Option Nat :=
  config.numBlocks.map fun numBlocks => if numBlocks = 0 then 0 else numBlocks-1

def VolumeTaskSharedConfig.previousBlocks : Option Nat :=
  (divide config.sessionSize.toNat config.blockSize.toNat).map (· % 2^32)

structure Divides : Prop where
  total : ∃ numBlocks, config.numBlocks = some numBlocks
  previous : ∃ blockCount, config.previousBlocks = some blockCount
  reader : ∃ maxIndex, config.readerMaxIndex = some maxIndex

end divisions

-- The loops that split the volume come to an end, and no session that they make divides by zero.
structure Proceeds (config : VolumeBackupConfig) (volumeSize : UInt64) : Prop where
  resources : config.copyFormat = .BIN → ∃ rounds fragments, splitVolume
    (fun _ sessionSize _ => (GetCopyDataFilePath config.outputCopyDataDirPath config.copyName .BIN 0,sessionSize))
    volumeSize config.sessionSize rounds 0 0 = some fragments
  sessions : ∃ rounds sessions, splitVolume config.NewVolumeTaskSession volumeSize config.sessionSize rounds 0 0 = some sessions
  divisions : ∀ rounds sessions, splitVolume config.NewVolumeTaskSession volumeSize config.sessionSize rounds 0 0 = some sessions →
    ∀ session ∈ sessions, Divides session

section walk
variable {β : Type} {piece : UInt64 → UInt64 → Nat → β} {volumeSize sessionSize offset : UInt64} {pieces : List β}

theorem offset_stride (here : offset.toNat = place (2^64) sessionSize.toNat j) :
    (offset+sessionSize).toNat = place (2^64) sessionSize.toNat (j+1) := by
  rw [UInt64.toNat_add,place_succ,here]

theorem offset_last (inside : offset < volumeSize) : offset+(volumeSize-offset) = volumeSize := by
  apply UInt64.toNat_inj.mp
  have below := UInt64.lt_iff_toNat_lt.mp inside
  have bound := volumeSize.toNat_lt
  rw [UInt64.toNat_add,UInt64.toNat_sub_of_le _ _ (UInt64.le_of_lt inside)]
  omega

theorem split_arrives (past : volumeSize.toNat ≤ place (2^64) sessionSize.toNat d)
    (here : offset.toNat = place (2^64) sessionSize.toNat j) (before : j ≤ d) (enough : d-j < rounds) :
    ∃ pieces, splitVolume piece volumeSize sessionSize rounds offset index = some pieces := by
  induction rounds generalizing offset index j with
  | zero => omega
  | succ rounds ih =>
      rw [splitVolume]
      split
      · rename_i inside
        have below := UInt64.lt_iff_toNat_lt.mp inside
        have earlier : j < d := by
          apply Nat.lt_of_le_of_ne before
          intro same
          rw [same] at here
          omega
        have further : ∃ rest, splitVolume piece volumeSize sessionSize rounds
            (offset+if volumeSize ≤ offset+sessionSize then volumeSize-offset else sessionSize) (index+1) = some rest := by
          split
          · obtain ⟨rounds,rfl⟩ : ∃ n, rounds = n+1 := ⟨rounds-1,by omega⟩
            rw [offset_last inside,splitVolume,if_neg (by simp)]
            exact ⟨[],rfl⟩
          · exact ih (offset_stride here) earlier (by omega)
        obtain ⟨rest,more⟩ := further
        exact ⟨_,by simp only [more]; rfl⟩
      · exact ⟨[],rfl⟩

theorem split_arrived (here : offset.toNat = place (2^64) sessionSize.toNat j)
    (split : splitVolume piece volumeSize sessionSize rounds offset index = some pieces) :
    ∃ d, volumeSize.toNat ≤ place (2^64) sessionSize.toNat d := by
  have cuts := splitVolume_sound split
  clear split
  induction cuts generalizing j with
  | done past => exact ⟨j,by rw [← here]; exact UInt64.le_iff_toNat_le.mp past⟩
  | next before cut rest ih =>
      rcases cut with ⟨_,last⟩ | ⟨rfl,_⟩
      · refine ⟨j+1,?_⟩
        rw [← offset_stride here]
        exact UInt64.le_iff_toNat_le.mp last
      · exact ih (offset_stride here)

theorem split_visits (split : splitVolume piece volumeSize sessionSize rounds offset index = some pieces)
    (here : offset.toNat = place (2^64) sessionSize.toNat j)
    (before : ∀ i ≤ n, place (2^64) sessionSize.toNat (j+i) < volumeSize.toNat) :
    ∃ start, start.toNat = place (2^64) sessionSize.toNat (j+n) ∧ pieces[n]? = some
      (piece start (if volumeSize ≤ start+sessionSize then volumeSize-start else sessionSize) (index+n)) := by
  have inside : offset < volumeSize := by
    rw [UInt64.lt_iff_toNat_lt,here]
    exact before 0 (Nat.zero_le _)
  induction n generalizing rounds offset index j pieces with
  | zero =>
      cases rounds with
      | zero => cases split
      | succ rounds =>
          rw [splitVolume,if_pos inside] at split
          obtain ⟨rest,_,rfl⟩ := Option.map_eq_some_iff.mp split
          exact ⟨offset,here,rfl⟩
  | succ n ih =>
      cases rounds with
      | zero => cases split
      | succ rounds =>
          have next := offset_stride here
          have short : (offset+sessionSize).toNat < volumeSize.toNat := by
            rw [next]
            exact before 1 (by omega)
          have another : ¬volumeSize ≤ offset+sessionSize := by
            rw [UInt64.le_iff_toNat_le]
            omega
          rw [splitVolume,if_pos inside] at split
          simp only [if_neg another] at split
          obtain ⟨rest,more,rfl⟩ := Option.map_eq_some_iff.mp split
          obtain ⟨start,there,found⟩ := ih more next
            (fun i bound => by rw [Nat.add_assoc,Nat.add_comm 1 i]; exact before (i+1) (by omega)) (UInt64.lt_iff_toNat_lt.mpr short)
          refine ⟨start,by rw [there,Nat.add_assoc,Nat.add_comm 1 n],?_⟩
          rw [List.getElem?_cons_succ,found,Nat.add_assoc,Nat.add_comm 1 n]

theorem split_ends_iff : (∃ rounds pieces, splitVolume piece volumeSize sessionSize rounds 0 0 = some pieces) ↔
    volumeSize.toNat+Nat.gcd sessionSize.toNat (2^64) ≤ 2^64 := by
  rw [← reaches_iff (by decide)]
  constructor
  · rintro ⟨rounds,pieces,split⟩
    exact split_arrived (j := 0) (by rw [place_zero]; rfl) split
  · rintro ⟨d,past⟩
    have arrives : ∃ pieces, splitVolume piece volumeSize sessionSize (d+1) 0 0 = some pieces :=
      split_arrives past (by rw [place_zero]; rfl) (Nat.zero_le _) (by omega)
    exact ⟨d+1,arrives⟩

theorem split_rounds {config : VolumeBackupConfig} (split : splitVolume piece volumeSize config.sessionSize rounds 0 0 = some pieces) :
    ∃ pieces, config.split volumeSize piece = some pieces := by
  have reached := split_arrived (j := 0) (by rw [place_zero]; rfl) split
  have past : volumeSize.toNat ≤ place (2^64) config.sessionSize.toNat (Nat.find reached) := Nat.find_spec reached
  have before : ∀ e < Nat.find reached, place (2^64) config.sessionSize.toNat e < volumeSize.toNat := by
    intro e early
    exact Nat.lt_of_not_le (Nat.find_min reached early)
  have soon := first_soon before past
  exact split_arrives past (by rw [place_zero]; rfl) (Nat.zero_le _) (by omega)

end walk

section divisions
variable {config : VolumeTaskSharedConfig}

theorem numBlocks_total (block : config.blockSize ≠ 0) : config.numBlocks = some config.TotalBlocks := by
  have positive : config.blockSize.toNat ≠ 0 := by simpa [← UInt32.toNat_inj] using block
  unfold VolumeTaskSharedConfig.numBlocks VolumeTaskSharedConfig.TotalBlocks
  simp only [divide,modulo,if_neg positive,Option.bind_some,Option.map_some]

theorem reader_max (block : config.blockSize ≠ 0) : config.readerMaxIndex = some config.m_maxIndex := by
  unfold VolumeTaskSharedConfig.readerMaxIndex VolumeTaskSharedConfig.m_maxIndex
  rw [numBlocks_total block,Option.map_some]
  congr 1
  split <;> omega

theorem divides_iff : Divides config ↔ config.blockSize ≠ 0 := by
  constructor
  · rintro ⟨⟨_,total⟩,_,_⟩ none
    unfold VolumeTaskSharedConfig.numBlocks at total
    simp [divide,none] at total
  · intro block
    have positive : config.blockSize.toNat ≠ 0 := by simpa [← UInt32.toNat_inj] using block
    refine ⟨⟨_,numBlocks_total block⟩,?_,⟨_,reader_max block⟩⟩
    unfold VolumeTaskSharedConfig.previousBlocks
    simp [divide,positive]

end divisions

section accepted
variable {host : BuildHost} {backupConfig config : VolumeBackupConfig} {volumeSize : UInt64}

theorem accepted_fields (accepted : VolumeProtectTask.BuildBackupTask host backupConfig = some (.backup config volumeSize)) :
    0 < volumeSize.toNat ∧ config.sessionSize = backupConfig.sessionSize ∧ config.blockSize = backupConfig.blockSize := by
  unfold VolumeProtectTask.BuildBackupTask at accepted
  dsimp only at accepted
  split at accepted
  · cases accepted
  · rename_i size measured
    split at accepted
    · cases accepted
    · rename_i some
      split at accepted
      · cases accepted
      · cases accepted
        have positive : 0 < volumeSize.toNat := by
          apply Nat.pos_of_ne_zero
          intro none
          exact some (UInt64.toNat_inj.mp none)
        refine ⟨positive,?_,?_⟩
        · split <;> rfl
        · split <;> rfl

theorem split_block (split : splitVolume config.NewVolumeTaskSession volumeSize sessionSize rounds offset index = some sessions)
    (inside : session ∈ sessions) : session.blockSize = config.blockSize := by
  obtain ⟨_,_,_,_,rfl⟩ := split_member split inside
  rfl

theorem session_made (positive : 0 < volumeSize.toNat)
    (split : splitVolume config.NewVolumeTaskSession volumeSize sessionSize rounds 0 0 = some sessions) : ∃ session, session ∈ sessions := by
  cases splitVolume_sound split with
  | done past =>
      have none := UInt64.le_iff_toNat_le.mp past
      simp only [UInt64.toNat_zero] at none
      omega
  | next => exact ⟨_,List.mem_cons_self⟩

-- A configuration that is accepted neither hangs nor divides by zero just where its sessions get past the
-- end of the volume in 64 bits, and its blocks have bytes; the task then has its sessions.
theorem accepted_config (host : BuildHost) (backupConfig : VolumeBackupConfig)
    (accepted : VolumeProtectTask.BuildBackupTask host backupConfig = some (.backup config volumeSize)) :
    (Proceeds config volumeSize ↔
      volumeSize.toNat+Nat.gcd backupConfig.sessionSize.toNat (2^64) ≤ 2^64 ∧ backupConfig.blockSize ≠ 0) ∧
    (Proceeds config volumeSize → ∃ queue, (ProtectTask.backup config volumeSize).sessions = some queue) := by
  obtain ⟨positive,sameSession,sameBlock⟩ := accepted_fields accepted
  rw [← sameSession,← sameBlock]
  refine ⟨?_,fun proceeds => ?queued⟩
  case queued =>
    obtain ⟨rounds,sessions,split⟩ := proceeds.sessions
    exact split_rounds split
  constructor
  · intro proceeds
    obtain ⟨rounds,sessions,split⟩ := proceeds.sessions
    obtain ⟨session,inside⟩ := session_made positive split
    have block := divides_iff.mp (proceeds.divisions rounds sessions split session inside)
    rw [split_block split inside] at block
    exact ⟨split_ends_iff.mp ⟨rounds,sessions,split⟩,block⟩
  · rintro ⟨room,block⟩
    refine ⟨fun _ => split_ends_iff.mpr room,split_ends_iff.mpr room,?_⟩
    intro rounds sessions split session inside
    apply divides_iff.mpr
    rw [split_block split inside]
    exact block

end accepted

def oneVolumeHost (volumeSize : UInt64) : BuildHost where
  ReadVolumeSize := fun volumePath => if volumePath = "/dev/sda1" then some volumeSize else none
  IsDirectoryExists := fun _ => true
  timestamp := 0

def volumeConf (sessionSize : UInt64) (blockSize : UInt32) : VolumeBackupConf_C where
  backupType := 0
  copyFormat := 0
  copyName := some "copy"
  volumePath := some "/dev/sda1"
  prevCopyMetaDirPath := none
  outputCopyDataDirPath := some "/data"
  outputCopyMetaDirPath := some "/meta"
  blockSize := blockSize
  sessionSize := sessionSize
  hasherNum := DEFAULT_HASHER_NUM
  hasherEnabled := true
  enableCheckpoint := true

def volumeConfig (sessionSize : UInt64) (blockSize : UInt32) : VolumeBackupConfig :=
  (volumeConf sessionSize blockSize).backupConfig .FULL .BIN

-- A volume of a byte more than two default sessions.
theorem accepted_config_default : Proceeds (volumeConfig DEFAULT_SESSION_SIZE DEFAULT_BLOCK_SIZE) 2199023255553 :=
  (accepted_config (oneVolumeHost 2199023255553) (volumeConfig DEFAULT_SESSION_SIZE DEFAULT_BLOCK_SIZE) rfl).1.mpr
    (by decide)

-- Sessions of no bytes keep the loop where it is, and blocks of none are divided by; both are accepted.
theorem accepted_config_stuck :
    (BuildBackupTask (oneVolumeHost 1) (volumeConf 0 DEFAULT_BLOCK_SIZE) = some (.backup (volumeConfig 0 DEFAULT_BLOCK_SIZE) 1) ∧
      ¬Proceeds (volumeConfig 0 DEFAULT_BLOCK_SIZE) 1) ∧
    (BuildBackupTask (oneVolumeHost 1) (volumeConf DEFAULT_SESSION_SIZE 0) = some (.backup (volumeConfig DEFAULT_SESSION_SIZE 0) 1) ∧
      ¬Proceeds (volumeConfig DEFAULT_SESSION_SIZE 0) 1) := by
  refine ⟨⟨rfl,?_⟩,⟨rfl,?_⟩⟩
  · intro proceeds
    exact absurd (split_ends_iff.mp proceeds.sessions) (by decide)
  · intro proceeds
    obtain ⟨rounds,sessions,split⟩ := proceeds.sessions
    obtain ⟨session,inside⟩ := session_made (by decide) split
    have block := divides_iff.mp (proceeds.divisions rounds sessions split session inside)
    rw [split_block split inside] at block
    exact block rfl

end VolumeBackup
