import VolumeBackup.ProtectTask
import VolumeBackup.SessionSplit

namespace VolumeBackup
open ByteMemory
open CopyMetaFile (ofMeta plain_read spaced_missed recordLibrary record_documented)

def sessionAt (volumeSize maxSessionSize : UInt64) : Nat → UInt64 → Option (UInt64 × UInt64)
  | 0,offset =>
    if offset < volumeSize then
      some (offset,if volumeSize ≤ offset+maxSessionSize then volumeSize-offset else maxSessionSize)
    else none
  | k+1,offset =>
    if offset < volumeSize then
      sessionAt volumeSize maxSessionSize k (offset+if volumeSize ≤ offset+maxSessionSize then volumeSize-offset else maxSessionSize)
    else none

-- The bytes of the volume that a backup takes for block i of its session k, and whose checksum is entry i
-- of that session's table: where they start, and how many they are.
def VolumeBackupConfig.hashedRange (config : VolumeBackupConfig) (volumeSize : UInt64) (k i : Nat) : Option (Nat × Nat) :=
  (sessionAt volumeSize config.sessionSize k 0).bind fun (offset,size) =>
    let session := config.NewVolumeTaskSession offset size k
    if i < session.TotalBlocks then some (session.consumeBlockOffset i,session.nBytesToRead i) else none

-- Every checksum that the latest backup compares with is one of the very bytes that it has read.
def ComparesAlike (previous latest : VolumeBackupConfig) (volumeSize : UInt64) : Prop :=
  ∀ k i range, latest.hashedRange volumeSize k i = some range → previous.hashedRange volumeSize k i = some range

-- Both backups cut the volume into sessions of one size, and those into blocks of one size, so far as a
-- volume and a session are long enough to be cut; sessions of size 0 have no blocks.
def CutsAlike (previous latest : VolumeBackupConfig) (volumeSize : UInt64) : Prop :=
  latest.sessionSize = 0 ∨
    min previous.sessionSize.toNat volumeSize.toNat = min latest.sessionSize.toNat volumeSize.toNat ∧
      min previous.blockSize.toNat (min previous.sessionSize.toNat volumeSize.toNat) =
        min latest.blockSize.toNat (min latest.sessionSize.toNat volumeSize.toNat)

variable {β : Type} {piece : UInt64 → UInt64 → Nat → β} {volumeSize maxSessionSize offset size : UInt64} {pieces : List β}
  {previous latest config : VolumeBackupConfig}

theorem sessionAt_past (past : ¬offset < volumeSize) : sessionAt volumeSize maxSessionSize k offset = none := by
  cases k <;> simp [sessionAt,past]

theorem sessionAt_next (inside : offset < volumeSize) : sessionAt volumeSize maxSessionSize (k+1) offset =
    if volumeSize ≤ offset+maxSessionSize then none else sessionAt volumeSize maxSessionSize k (offset+maxSessionSize) := by
  simp only [sessionAt,inside,if_true]
  split
  · apply sessionAt_past
    apply UInt64.not_lt.mpr
    apply UInt64.le_iff_toNat_le.mpr
    have bound := UInt64.lt_iff_toNat_lt.mp inside
    have limit := volumeSize.toNat_lt
    rw [UInt64.toNat_add,UInt64.toNat_sub_of_le _ _ (UInt64.le_of_lt inside)]
    omega
  · rfl

theorem sessionAt_size (some : sessionAt volumeSize maxSessionSize k offset = some (start,size))
    (straight : offset = 0 ∨ maxSessionSize < volumeSize) : size.toNat ≤ min maxSessionSize.toNat volumeSize.toNat := by
  induction k generalizing offset with
  | zero =>
      unfold sessionAt at some
      split at some
      · rename_i inside
        have bound := UInt64.lt_iff_toNat_lt.mp inside
        cases Option.some.inj some
        split
        · rename_i last
          have reach := UInt64.le_iff_toNat_le.mp last
          rw [UInt64.toNat_add] at reach
          rw [UInt64.toNat_sub_of_le _ _ (UInt64.le_of_lt inside)]
          have limit := maxSessionSize.toNat_lt
          omega
        · rename_i another
          have reach := UInt64.lt_iff_toNat_lt.mp (UInt64.not_le.mp another)
          rcases straight with rfl | less
          · rw [UInt64.zero_add] at reach
            omega
          · have below := UInt64.lt_iff_toNat_lt.mp less
            omega
      · cases some
  | succ k ih =>
      by_cases inside : offset < volumeSize
      · rw [sessionAt_next inside] at some
        split at some
        · cases some
        · rename_i another
          apply ih some
          rcases straight with rfl | less
          · rw [UInt64.zero_add] at another
            exact .inr (UInt64.not_le.mp another)
          · exact .inr less
      · rw [sessionAt_past inside] at some
        cases some

theorem sessionAt_first (some : 0 < volumeSize) : ∃ first, sessionAt volumeSize maxSessionSize 0 0 = .some (0,first) ∧
    first.toNat = min maxSessionSize.toNat volumeSize.toNat := by
  refine ⟨if volumeSize ≤ 0+maxSessionSize then volumeSize-0 else maxSessionSize,by simp only [sessionAt,some,if_true],?_⟩
  rw [UInt64.zero_add]
  split
  · rename_i last
    have reach := UInt64.le_iff_toNat_le.mp last
    rw [UInt64.sub_zero]
    omega
  · rename_i another
    have reach := UInt64.lt_iff_toNat_lt.mp (UInt64.not_le.mp another)
    omega

theorem sessionAt_second (positive : 0 < maxSessionSize) (more : maxSessionSize < volumeSize) :
    ∃ second, sessionAt volumeSize maxSessionSize 1 0 = some (maxSessionSize,second) ∧ 0 < second.toNat := by
  have some := UInt64.lt_trans positive more
  rw [show (1 : Nat) = 0+1 from rfl,sessionAt_next some,UInt64.zero_add,if_neg (UInt64.not_le.mpr more)]
  refine ⟨if volumeSize ≤ maxSessionSize+maxSessionSize then volumeSize-maxSessionSize else maxSessionSize,
    by simp only [sessionAt,more,if_true],?_⟩
  have bound := UInt64.lt_iff_toNat_lt.mp more
  split
  · rw [UInt64.toNat_sub_of_le _ _ (UInt64.le_of_lt more)]
    omega
  · exact UInt64.lt_iff_toNat_lt.mp positive

theorem sessionAt_only (whole : volumeSize ≤ maxSessionSize) : sessionAt volumeSize maxSessionSize (k+1) 0 = none := by
  by_cases some : 0 < volumeSize
  · rw [sessionAt_next some,UInt64.zero_add,if_pos whole]
  · exact sessionAt_past some

theorem sessions_alike {other : UInt64} (alike : min maxSessionSize.toNat volumeSize.toNat = min other.toNat volumeSize.toNat) :
    sessionAt volumeSize maxSessionSize k 0 = sessionAt volumeSize other k 0 := by
  by_cases same : maxSessionSize = other
  · rw [same]
  · have differ : maxSessionSize.toNat ≠ other.toNat := fun equal => same (UInt64.toNat_inj.mp equal)
    have left : volumeSize ≤ maxSessionSize := UInt64.le_iff_toNat_le.mpr (by omega)
    have right : volumeSize ≤ other := UInt64.le_iff_toNat_le.mpr (by omega)
    cases k with
    | zero => simp only [sessionAt,UInt64.zero_add,left,right,if_true]
    | succ k => rw [sessionAt_only left,sessionAt_only right]

section blocks
variable {session other : VolumeTaskSharedConfig}

theorem totalBlocks_positive (some : 0 < session.sessionSize.toNat) : 0 < session.TotalBlocks := by
  unfold VolumeTaskSharedConfig.TotalBlocks
  have split := Nat.div_add_mod session.sessionSize.toNat session.blockSize.toNat
  generalize session.sessionSize.toNat/session.blockSize.toNat = count at split ⊢
  dsimp only
  split
  · exact Nat.succ_pos count
  · rename_i even
    apply Nat.pos_of_ne_zero
    intro none
    rw [none,Nat.mul_zero] at split
    omega

theorem totalBlocks_alike (sizes : session.sessionSize = other.sessionSize) (blocks : session.blockSize = other.blockSize) :
    session.TotalBlocks = other.TotalBlocks := by
  unfold VolumeTaskSharedConfig.TotalBlocks
  rw [sizes,blocks]

theorem totalBlocks_empty (none : session.sessionSize.toNat = 0) : session.TotalBlocks = 0 := by
  simp [VolumeTaskSharedConfig.TotalBlocks,none]

theorem blocks_reach (some : 0 < session.sessionSize.toNat) (positive : 0 < session.blockSize.toNat) :
    ∃ i < session.TotalBlocks, i*session.blockSize.toNat+session.nBytesToRead i = session.sessionSize.toNat := by
  obtain ⟨inside,start,stop⟩ := address_block positive (show session.sessionSize.toNat-1 < session.sessionSize.toNat by omega)
  have total := totalBlocks_positive some
  have ended := index_end inside
  unfold VolumeTaskSharedConfig.m_maxIndex at inside
  refine ⟨(session.sessionSize.toNat-1)/session.blockSize.toNat,?_,?_⟩
  · generalize (session.sessionSize.toNat-1)/session.blockSize.toNat = last at inside ⊢
    omega
  · omega

theorem blocks_single (long : session.sessionSize.toNat ≤ session.blockSize.toNat) (inside : i < session.TotalBlocks) : i = 0 := by
  unfold VolumeTaskSharedConfig.TotalBlocks at inside
  have split := Nat.div_add_mod session.sessionSize.toNat session.blockSize.toNat
  have once : session.sessionSize.toNat/session.blockSize.toNat ≤ 1 := by
    by_cases none : session.blockSize.toNat = 0
    · rw [none,Nat.div_zero]
      exact Nat.zero_le 1
    · rw [← Nat.div_self (Nat.pos_of_ne_zero none)]
      exact Nat.div_le_div_right long
  generalize session.sessionSize.toNat/session.blockSize.toNat = count at inside split once
  dsimp only at inside
  split at inside
  · rename_i uneven
    have less : count ≠ 1 := by
      intro one
      rw [one,Nat.mul_one] at split
      omega
    omega
  · omega

end blocks

theorem ranges_alike (cut : CutsAlike previous latest volumeSize) : ComparesAlike previous latest volumeSize := by
  intro k i range taken
  obtain ⟨⟨start,size⟩,session,taken⟩ := Option.bind_eq_some_iff.mp taken
  have short := sessionAt_size session (.inl rfl)
  dsimp only at taken
  split at taken
  · rename_i inside
    have some : 0 < size.toNat := by
      apply Nat.pos_of_ne_zero
      intro none
      rw [totalBlocks_empty none] at inside
      cases inside
    rcases cut with empty | ⟨sessions,blocks⟩
    · rw [empty] at short
      simp at short
      omega
    · rw [← sessions_alike sessions] at session
      unfold VolumeBackupConfig.hashedRange
      rw [session,Option.bind_some]
      dsimp only
      by_cases same : previous.blockSize = latest.blockSize
      · have blocks : (previous.NewVolumeTaskSession start size k).TotalBlocks = (latest.NewVolumeTaskSession start size k).TotalBlocks :=
          totalBlocks_alike rfl same
        rw [if_pos (blocks ▸ inside),← taken]
        simp only [VolumeTaskSharedConfig.consumeBlockOffset,VolumeTaskSharedConfig.nBytesToRead,
          VolumeBackupConfig.NewVolumeTaskSession,same]
      · have differ : previous.blockSize.toNat ≠ latest.blockSize.toNat := fun equal => same (UInt32.toNat_inj.mp equal)
        have first : i = 0 := blocks_single (show size.toNat ≤ latest.blockSize.toNat by omega) inside
        subst first
        have total : 0 < (previous.NewVolumeTaskSession start size k).TotalBlocks := totalBlocks_positive some
        rw [if_pos total,← taken]
        simp only [VolumeTaskSharedConfig.consumeBlockOffset,VolumeTaskSharedConfig.nBytesToRead,VolumeBackupConfig.NewVolumeTaskSession]
        congr 2
        · rw [Nat.zero_mul,Nat.zero_mul]
        · rw [Nat.zero_mul,Nat.zero_mul]
          omega
  · cases taken

theorem hashedRange_session (session : sessionAt volumeSize config.sessionSize k 0 = some (offset,size))
    (inside : i < (config.NewVolumeTaskSession offset size k).TotalBlocks) : config.hashedRange volumeSize k i =
      some ((config.NewVolumeTaskSession offset size k).consumeBlockOffset i,(config.NewVolumeTaskSession offset size k).nBytesToRead i) := by
  unfold VolumeBackupConfig.hashedRange
  rw [session,Option.bind_some]
  exact if_pos inside

theorem hashedRange_some (taken : config.hashedRange volumeSize k i = some range) : ∃ offset size,
    sessionAt volumeSize config.sessionSize k 0 = some (offset,size) ∧ i < (config.NewVolumeTaskSession offset size k).TotalBlocks ∧
      range = ((config.NewVolumeTaskSession offset size k).consumeBlockOffset i,(config.NewVolumeTaskSession offset size k).nBytesToRead i) := by
  obtain ⟨⟨offset,size⟩,session,taken⟩ := Option.bind_eq_some_iff.mp taken
  dsimp only at taken
  split at taken
  · exact ⟨offset,size,session,‹_›,(Option.some.inj taken).symm⟩
  · cases taken

-- Ranges that are the same bytes were cut at the same places: the first block tells how long blocks are, the
-- last one how long a session is, and the second session where it starts.
theorem ranges_cut (worked : 0 < previous.blockSize.toNat) (some : 0 < volumeSize) (split : 0 < previous.sessionSize)
    (alike : ComparesAlike previous latest volumeSize) : CutsAlike previous latest volumeSize := by
  by_cases empty : latest.sessionSize = 0
  · exact .inl empty
  have positive : 0 < latest.sessionSize := UInt64.pos_iff_ne_zero.mpr empty
  have reach := UInt64.lt_iff_toNat_lt.mp some
  have cut := UInt64.lt_iff_toNat_lt.mp split
  have recut := UInt64.lt_iff_toNat_lt.mp positive
  rw [UInt64.toNat_zero] at reach cut recut
  obtain ⟨former,opened,length⟩ : ∃ first, sessionAt volumeSize previous.sessionSize 0 0 = .some (0,first) ∧
      first.toNat = min previous.sessionSize.toNat volumeSize.toNat := sessionAt_first some
  obtain ⟨newer,reopened,relength⟩ : ∃ first, sessionAt volumeSize latest.sessionSize 0 0 = .some (0,first) ∧
      first.toNat = min latest.sessionSize.toNat volumeSize.toNat := sessionAt_first some
  have bound := former.toNat_lt
  have rebound := newer.toNat_lt
  have first := alike 0 0 _ (hashedRange_session reopened (totalBlocks_positive (show 0 < newer.toNat by omega)))
  rw [hashedRange_session opened (totalBlocks_positive (show 0 < former.toNat by omega))] at first
  have blocks : min previous.blockSize.toNat (former.toNat-0*previous.blockSize.toNat) =
      min latest.blockSize.toNat (newer.toNat-0*latest.blockSize.toNat) := (Prod.mk.inj (Option.some.inj first)).2
  rw [Nat.zero_mul,Nat.zero_mul,Nat.sub_zero,Nat.sub_zero] at blocks
  have within : newer.toNat ≤ former.toNat := by
    obtain ⟨i,inside,stop⟩ : ∃ i < (latest.NewVolumeTaskSession 0 newer 0).TotalBlocks,
        i*latest.blockSize.toNat+(latest.NewVolumeTaskSession 0 newer 0).nBytesToRead i = newer.toNat :=
      blocks_reach (show 0 < newer.toNat by omega) (show 0 < latest.blockSize.toNat by omega)
    obtain ⟨_,_,session,within,range⟩ := hashedRange_some (alike 0 i _ (hashedRange_session reopened inside))
    rw [opened] at session
    cases session
    obtain ⟨start,same⟩ := Prod.mk.inj range
    have ended : i*previous.blockSize.toNat+(previous.NewVolumeTaskSession 0 former 0).nBytesToRead i ≤ former.toNat :=
      index_end (Nat.le_sub_one_of_lt within)
    have start : (i*latest.blockSize.toNat+(0 : UInt64).toNat) % 2^64 = (i*previous.blockSize.toNat+(0 : UInt64).toNat) % 2^64 := start
    rw [UInt64.toNat_zero] at start
    omega
  refine .inr ⟨?_,by rw [← length,← relength]; exact blocks⟩
  apply Nat.le_antisymm ?_ (by omega)
  apply Nat.le_of_not_lt
  intro shorter
  have long : latest.sessionSize < volumeSize := UInt64.lt_iff_toNat_lt.mpr (by omega)
  obtain ⟨another,second,more⟩ := sessionAt_second positive long
  have inside : 0 < (latest.NewVolumeTaskSession latest.sessionSize another 1).TotalBlocks := totalBlocks_positive more
  obtain ⟨start,size,session,_,range⟩ := hashedRange_some (alike 1 0 _ (hashedRange_session second inside))
  by_cases whole : volumeSize ≤ previous.sessionSize
  · rw [sessionAt_only whole] at session
    cases session
  · obtain ⟨_,apart,_⟩ := sessionAt_second split (UInt64.not_le.mp whole)
    rw [apart] at session
    cases session
    have start : (0*latest.blockSize.toNat+latest.sessionSize.toNat) % 2^64 =
        (0*previous.blockSize.toNat+previous.sessionSize.toNat) % 2^64 := (Prod.mk.inj range).1
    have limit := previous.sessionSize.toNat_lt
    have relimit := latest.sessionSize.toNat_lt
    omega

variable {env : TaskEnv} {disk : Disk} {volumeCopyMeta : VolumeCopyMeta} {verbatim : UInt8 → Bool}

theorem alike_empty (empty : volumeSize = 0) : ComparesAlike previous latest volumeSize ∧ CutsAlike previous latest volumeSize := by
  subst empty
  refine ⟨fun k i range taken => ?_,.inr (by simp)⟩
  obtain ⟨_,_,session,_⟩ := hashedRange_some taken
  rw [sessionAt_past (by simp)] at session
  cases session

theorem validates_default (record : previous.volumeCopyMeta volumeSize = some volumeCopyMeta)
    (written : disk (GetVolumeCopyMetaPath latest.prevCopyMetaDirPath latest.copyName) = some (env.Serialize volumeCopyMeta))
    (known : env.json.Documented (ofMeta volumeCopyMeta) verbatim) :
    ValidateIncrementBackup env disk latest .yes = true ↔
      (ofMeta volumeCopyMeta).Plain verbatim ∧ latest.blockSize = DEFAULT_BLOCK_SIZE := by
  by_cases plain : (ofMeta volumeCopyMeta).Plain verbatim
  · obtain ⟨after,found,same⟩ := @plain_read _ _ _ _ _ .initial written known.inverts (known.solid.mp plain)
    have size : after.blockSize = DEFAULT_BLOCK_SIZE := by
      obtain ⟨segments,_,rfl⟩ := Option.map_eq_some_iff.mp record
      exact same.blockSize
    simp [ValidateIncrementBackup,found,size,plain,Reply.isYes]
  · simp [ValidateIncrementBackup,spaced_missed written known plain,plain,Reply.isYes]

-- An incremental backup after the previous one, whose meta is there as it was recorded, is accepted just when it
-- compares alike, if and only if a meta that can be read and blocks of the default size are what makes the two cut alike.
theorem validates_alike (previous latest : VolumeBackupConfig) (record : previous.volumeCopyMeta volumeSize = some volumeCopyMeta)
    (worked : volumeSize ≠ 0 → previous.blockSize ≠ 0)
    (written : disk (GetVolumeCopyMetaPath latest.prevCopyMetaDirPath latest.copyName) = some (env.Serialize volumeCopyMeta))
    (known : env.json.Documented (ofMeta volumeCopyMeta) verbatim) :
    (ValidateIncrementBackup env disk latest .yes = true ↔ ComparesAlike previous latest volumeSize) ↔
      ((ofMeta volumeCopyMeta).Plain verbatim ∧ latest.blockSize = DEFAULT_BLOCK_SIZE ↔ CutsAlike previous latest volumeSize) := by
  have same : ComparesAlike previous latest volumeSize ↔ CutsAlike previous latest volumeSize := by
    by_cases empty : volumeSize = 0
    · have alike : ComparesAlike previous latest volumeSize ∧ CutsAlike previous latest volumeSize := alike_empty empty
      exact ⟨fun _ => alike.2,fun _ => alike.1⟩
    · have some : 0 < volumeSize := UInt64.pos_iff_ne_zero.mpr empty
      have blocks : 0 < previous.blockSize.toNat := by
        apply Nat.pos_of_ne_zero
        intro zero
        exact worked empty (UInt32.toNat_inj.mp zero)
      obtain ⟨segments,split,_⟩ := Option.map_eq_some_iff.mp record
      have sessions : 0 < previous.sessionSize := UInt64.lt_iff_toNat_lt.mpr ((splitVolume_sound split).positive some)
      exact ⟨ranges_cut blocks some sessions,ranges_alike⟩
  rw [validates_default record written known,same]

def smallBlocks : VolumeBackupConfig where
  volumePath := "/dev/sda1"
  prevCopyMetaDirPath := "/meta"
  outputCopyDataDirPath := "/data"
  outputCopyMetaDirPath := "/meta"
  checkpointDirPath := ""
  blockSize := 1
  sessionSize := 2

def smallBlocksLater : VolumeBackupConfig := {smallBlocks with backupType := .FOREVER_INC}

def smallBlocksMeta : VolumeCopyMeta :=
  {copyName := DEFAULT_VOLUME_COPY_NAME,backupType := .FULL,copyFormat := .BIN,volumeSize := 3,blockSize := DEFAULT_BLOCK_SIZE,
    segments := [smallBlocks.NewCopySegment 0 2 0,smallBlocks.NewCopySegment 2 1 1],volumePath := "/dev/sda1"}

def smallBlocksEnv : TaskEnv where
  task := .backup smallBlocksLater 3
  sha256 := fun _ _ => 0
  json := recordLibrary [ofMeta smallBlocksMeta]
  device := fun _ => true

def smallBlocksDisk : Disk := fun path =>
  if path = GetVolumeCopyMetaPath "/meta" DEFAULT_VOLUME_COPY_NAME then some (smallBlocksEnv.Serialize smallBlocksMeta) else none

theorem small_documented : smallBlocksEnv.json.Documented (ofMeta smallBlocksMeta) fun c => c = 32 := record_documented (by decide +kernel)

theorem validates_alike_small : (ValidateIncrementBackup smallBlocksEnv smallBlocksDisk smallBlocksLater .yes = true ↔
    ComparesAlike smallBlocks smallBlocksLater 3) ↔ ((ofMeta smallBlocksMeta).Plain (fun c => c = 32) ∧
      smallBlocksLater.blockSize = DEFAULT_BLOCK_SIZE ↔ CutsAlike smallBlocks smallBlocksLater 3) :=
  validates_alike smallBlocks smallBlocksLater (by decide) (by decide) rfl small_documented

theorem validate_rejects_same : ¬∀ (env : TaskEnv) (disk : Disk) (previous latest : VolumeBackupConfig) (volumeSize : UInt64),
    ∀ volumeCopyMeta, previous.volumeCopyMeta volumeSize = some volumeCopyMeta → (volumeSize ≠ 0 → previous.blockSize ≠ 0) →
    disk (GetVolumeCopyMetaPath latest.prevCopyMetaDirPath latest.copyName) = some (env.Serialize volumeCopyMeta) →
    env.json.Documented (ofMeta volumeCopyMeta) (fun c => c = 32) →
    (ValidateIncrementBackup env disk latest .yes = true ↔ ComparesAlike previous latest volumeSize) := by
  intro always
  have accepts := always smallBlocksEnv smallBlocksDisk smallBlocks smallBlocksLater 3 smallBlocksMeta (by decide) (by decide) rfl
    small_documented
  have refused : ValidateIncrementBackup smallBlocksEnv smallBlocksDisk smallBlocksLater .yes = false := by decide +kernel
  rw [refused] at accepts
  cases accepts.mpr fun _ _ _ taken => taken

end VolumeBackup
