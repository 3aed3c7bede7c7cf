import Mathlib.Logic.ExistsUnique
import VolumeBackup.SessionSplit

namespace VolumeBackup
open ByteMemory

def sessionStart (sessionSize : Nat) (k : Nat) : Nat := k*sessionSize

def sessionLength (volumeSize sessionSize : Nat) (k : Nat) : Nat := min sessionSize (volumeSize-k*sessionSize)

def sessionCount (volumeSize sessionSize : Nat) : Nat := (volumeSize+sessionSize-1)/sessionSize

section counting
variable {volumeSize sessionSize k address : Nat} (sized : 1 ≤ sessionSize)
include sized

theorem below_count : k < sessionCount volumeSize sessionSize ↔ k*sessionSize < volumeSize := by
  unfold sessionCount
  rw [Nat.lt_iff_add_one_le,Nat.le_div_iff_mul_le sized,Nat.succ_mul]
  omega

theorem count_le : sessionCount volumeSize sessionSize ≤ volumeSize := by
  apply Nat.le_of_not_lt
  intro more
  have inside := (below_count sized).mp more
  have product : volumeSize*1 ≤ volumeSize*sessionSize := Nat.mul_le_mul_left _ sized
  omega

omit sized in
theorem count_reach (straight : volumeSize+sessionSize < 2^64) : sessionCount volumeSize sessionSize*sessionSize < 2^64 := by
  have most : sessionCount volumeSize sessionSize*sessionSize ≤ volumeSize+sessionSize-1 := Nat.div_mul_le_self _ _
  omega

theorem length_positive (below : k < sessionCount volumeSize sessionSize) : 1 ≤ sessionLength volumeSize sessionSize k := by
  have inside := (below_count sized).mp below
  unfold sessionLength
  omega

theorem address_session (inside : address < volumeSize) :
    address/sessionSize < sessionCount volumeSize sessionSize ∧ sessionStart sessionSize (address/sessionSize) ≤ address ∧
      address < sessionStart sessionSize (address/sessionSize)+sessionLength volumeSize sessionSize (address/sessionSize) := by
  have split := Nat.div_add_mod address sessionSize
  have small := Nat.mod_lt address sized
  rw [Nat.mul_comm] at split
  refine ⟨(below_count sized).mpr (by omega),by unfold sessionStart; omega,?_⟩
  unfold sessionStart sessionLength
  omega

omit sized in
theorem session_unique (lower : sessionStart sessionSize k ≤ address)
    (upper : address < sessionStart sessionSize k+sessionLength volumeSize sessionSize k) : address/sessionSize = k := by
  unfold sessionStart sessionLength at *
  apply Nat.div_eq_of_lt_le
  · exact lower
  · rw [Nat.succ_mul]
    omega

end counting

-- The loop in closed form: as long as no sum wraps, a round moves on by one session.
theorem split_closed {piece : UInt64 → UInt64 → Nat → β} {volumeSize maxSessionSize offset : UInt64}
    (reach : sessionCount volumeSize.toNat maxSessionSize.toNat*maxSessionSize.toNat < 2^64) (sized : 1 ≤ maxSessionSize.toNat) (left : Nat)
    (count : index+left = sessionCount volumeSize.toNat maxSessionSize.toNat)
    (here : offset.toNat = min (index*maxSessionSize.toNat) volumeSize.toNat) (rounds : Nat) (more : left < rounds) :
    splitVolume piece volumeSize maxSessionSize rounds offset index = some ((List.range' index left).map fun k =>
      piece (UInt64.ofNat (sessionStart maxSessionSize.toNat k)) (UInt64.ofNat (sessionLength volumeSize.toNat maxSessionSize.toNat k)) k) := by
  induction left generalizing index offset rounds with
  | zero =>
      have past : ¬index*maxSessionSize.toNat < volumeSize.toNat := fun inside => by
        have below := (below_count sized).mpr inside
        omega
      obtain ⟨rounds,rfl⟩ : ∃ n, rounds = n+1 := ⟨rounds-1,by omega⟩
      rw [splitVolume,if_neg]
      · rfl
      · rw [UInt64.lt_iff_toNat_lt]
        omega
  | succ left ih =>
      have inside := (below_count sized).mp (show index < sessionCount volumeSize.toNat maxSessionSize.toNat by omega)
      have bound := volumeSize.toNat_lt
      obtain ⟨rounds,rfl⟩ : ∃ n, rounds = n+1 := ⟨rounds-1,by omega⟩
      have at_start : offset.toNat = index*maxSessionSize.toNat := by omega
      have start : offset = UInt64.ofNat (sessionStart maxSessionSize.toNat index) := by
        apply UInt64.toNat_inj.mp
        rw [UInt64.toNat_ofNat_of_lt' (show sessionStart maxSessionSize.toNat index < 2^64 by unfold sessionStart; omega),sessionStart]
        exact at_start
      have below : offset < volumeSize := by
        rw [UInt64.lt_iff_toNat_lt]
        omega
      have turn : index*maxSessionSize.toNat+maxSessionSize.toNat ≤
          sessionCount volumeSize.toNat maxSessionSize.toNat*maxSessionSize.toNat := by
        rw [← Nat.succ_mul]
        exact Nat.mul_le_mul_right _ (by omega)
      have sum : (offset+maxSessionSize).toNat = offset.toNat+maxSessionSize.toNat := by
        rw [UInt64.toNat_add]
        omega
      have size : (if volumeSize ≤ offset+maxSessionSize then volumeSize-offset else maxSessionSize) =
          UInt64.ofNat (sessionLength volumeSize.toNat maxSessionSize.toNat index) := by
        apply UInt64.toNat_inj.mp
        rw [UInt64.toNat_ofNat_of_lt' (show sessionLength volumeSize.toNat maxSessionSize.toNat index < 2^64 by
          unfold sessionLength; omega),sessionLength]
        split
        · rename_i last
          have reach := UInt64.le_iff_toNat_le.mp last
          rw [UInt64.toNat_sub_of_le _ _ (UInt64.le_of_lt below)]
          omega
        · rename_i another
          have reach := UInt64.lt_iff_toNat_lt.mp (UInt64.not_le.mp another)
          omega
      have next : (offset+UInt64.ofNat (sessionLength volumeSize.toNat maxSessionSize.toNat index)).toNat =
          min ((index+1)*maxSessionSize.toNat) volumeSize.toNat := by
        rw [UInt64.toNat_add,UInt64.toNat_ofNat_of_lt' (show sessionLength volumeSize.toNat maxSessionSize.toNat index < 2^64 by
          unfold sessionLength; omega),sessionLength,Nat.succ_mul]
        omega
      rw [splitVolume,if_pos below]
      simp only [size]
      rw [ih (by omega) next rounds (by omega),List.range'_succ,Option.map_some,List.map_cons,← start]

theorem mapped_at {f : Nat → β} : ((List.range n).map f)[i]? = some x ↔ i < n ∧ f i = x := by
  rw [List.getElem?_map]
  constructor
  · intro found
    obtain ⟨number,listed,rfl⟩ := Option.map_eq_some_iff.mp found
    obtain ⟨bound,same⟩ := List.getElem?_eq_some_iff.mp listed
    rw [List.getElem_range] at same
    rw [List.length_range] at bound
    exact ⟨bound,by rw [same]⟩
  · rintro ⟨bound,rfl⟩
    rw [List.getElem?_range bound]
    rfl

section backup
variable {config : VolumeBackupConfig} {volumeSize : UInt64}

theorem reach_split {piece : UInt64 → UInt64 → Nat → β}
    (reach : sessionCount volumeSize.toNat config.sessionSize.toNat*config.sessionSize.toNat < 2^64) (sized : 1 ≤ config.sessionSize.toNat) :
    config.split volumeSize piece = some ((List.range (sessionCount volumeSize.toNat config.sessionSize.toNat)).map fun k =>
      piece (UInt64.ofNat (sessionStart config.sessionSize.toNat k))
        (UInt64.ofNat (sessionLength volumeSize.toNat config.sessionSize.toNat k)) k) := by
  have most : sessionCount volumeSize.toNat config.sessionSize.toNat ≤ volumeSize.toNat := count_le sized
  rw [List.range_eq_range']
  exact split_closed reach sized _ (Nat.zero_add _) (by simp) _ (by omega)

theorem backup_split {piece : UInt64 → UInt64 → Nat → β} (straight : volumeSize.toNat+config.sessionSize.toNat < 2^64)
    (sized : 1 ≤ config.sessionSize.toNat) :
    config.split volumeSize piece = some ((List.range (sessionCount volumeSize.toNat config.sessionSize.toNat)).map fun k =>
      piece (UInt64.ofNat (sessionStart config.sessionSize.toNat k))
        (UInt64.ofNat (sessionLength volumeSize.toNat config.sessionSize.toNat k)) k) :=
  reach_split (count_reach straight) sized

-- sessionIndex is an int, and counts on past the last int.
def sessionIndex (rounds : Nat) : Int := (Int32.ofNat rounds).toInt

-- The loop over the sessions ends; its segments are numbered, contiguous and cover the volume; and each byte
-- lies in one block of one of the sessions that are queued with them.
structure SplitsInto (config : VolumeBackupConfig) (volumeSize : UInt64) (segments : List CopySegment)
    (sessions : List VolumeTaskSharedConfig) : Prop where
  recorded : config.split volumeSize config.NewCopySegment = some segments
  queued : config.split volumeSize config.NewVolumeTaskSession = some sessions
  numbered : ∀ (i : Nat) segment, segments[i]? = some segment → sessionIndex segment.index = i
  lengths : ∀ segment ∈ segments, 1 ≤ segment.length.toNat ∧ segment.length.toNat ≤ config.sessionSize.toNat
  first : ∀ segment, segments.head? = some segment → segment.offset = 0
  contiguous : ∀ (i : Nat) segment next, segments[i]? = some segment → segments[i+1]? = some next →
    next.offset.toNat = segment.offset.toNat+segment.length.toNat
  last : ∀ segment, segments.getLast? = some segment → segment.offset.toNat+segment.length.toNat = volumeSize.toNat
  some : segments ≠ []
  alike : sessions.map (fun session => (session.sessionOffset,session.sessionSize)) =
    segments.map fun segment => (segment.offset,segment.length)
  blocks : ∀ session ∈ sessions, session.blockSize = config.blockSize ∧ session.m_maxIndex+1 = session.TotalBlocks ∧
    ∀ index < session.TotalBlocks, 1 ≤ session.nBytesToRead index ∧ session.nBytesToRead index ≤ config.blockSize.toNat ∧
      session.consumeBlockOffset index = session.sessionOffset.toNat+index*config.blockSize.toNat ∧
      session.consumeBlockOffset index+session.nBytesToRead index ≤ volumeSize.toNat
  covered : ∀ address < volumeSize.toNat, ∃! place : Nat × Nat, ∃ session, sessions[place.1]? = .some session ∧
    place.2 < session.TotalBlocks ∧ session.consumeBlockOffset place.2 ≤ address ∧
    address < session.consumeBlockOffset place.2+session.nBytesToRead place.2

theorem index_int : sessionIndex k = k ↔ k < 2^31 := by
  constructor
  · intro same
    have below := (Int32.ofNat k).toInt_lt
    unfold sessionIndex at same
    omega
  · exact fun small => Int32.toInt_ofNat_of_lt small

section sessions
variable (straight : volumeSize.toNat+config.sessionSize.toNat < 2^64) (sized : 1 ≤ config.sessionSize.toNat)
  (block : 1 ≤ config.blockSize.toNat)

def backupSession (config : VolumeBackupConfig) (volumeSize : UInt64) (k : Nat) : VolumeTaskSharedConfig :=
  config.NewVolumeTaskSession (UInt64.ofNat (sessionStart config.sessionSize.toNat k))
    (UInt64.ofNat (sessionLength volumeSize.toNat config.sessionSize.toNat k)) k

theorem backup_sessions (straight : volumeSize.toNat+config.sessionSize.toNat < 2^64) (sized : 1 ≤ config.sessionSize.toNat) :
    config.split volumeSize config.NewVolumeTaskSession =
      some ((List.range (sessionCount volumeSize.toNat config.sessionSize.toNat)).map (backupSession config volumeSize)) :=
  backup_split straight sized

theorem session_size : (backupSession config volumeSize k).sessionSize.toNat =
    sessionLength volumeSize.toNat config.sessionSize.toNat k := by
  have bound := config.sessionSize.toNat_lt
  exact UInt64.toNat_ofNat_of_lt' (show sessionLength volumeSize.toNat config.sessionSize.toNat k < 2^64 by unfold sessionLength; omega)

include sized in
theorem session_offset (below : k < sessionCount volumeSize.toNat config.sessionSize.toNat) :
    (backupSession config volumeSize k).sessionOffset.toNat = sessionStart config.sessionSize.toNat k := by
  have inside := (below_count sized).mp below
  have bound := volumeSize.toNat_lt
  exact UInt64.toNat_ofNat_of_lt' (show sessionStart config.sessionSize.toNat k < 2^64 by unfold sessionStart; omega)

include sized in
theorem session_end (below : k < sessionCount volumeSize.toNat config.sessionSize.toNat) :
    sessionStart config.sessionSize.toNat k+sessionLength volumeSize.toNat config.sessionSize.toNat k =
      min (sessionStart config.sessionSize.toNat (k+1)) volumeSize.toNat := by
  have inside := (below_count sized).mp below
  unfold sessionStart sessionLength
  rw [Nat.succ_mul]
  omega

include sized block in
theorem session_blocks (below : k < sessionCount volumeSize.toNat config.sessionSize.toNat) :
    (backupSession config volumeSize k).m_maxIndex+1 = (backupSession config volumeSize k).TotalBlocks := by
  have positive := length_positive sized below
  rw [← session_size] at positive
  have counted : 0 < (backupSession config volumeSize k).TotalBlocks := by
    apply index_counted (Nat.zero_le _)
    exact index_positive (Nat.zero_le _) block positive
  unfold VolumeTaskSharedConfig.m_maxIndex
  omega

include sized block in
theorem block_within (below : k < sessionCount volumeSize.toNat config.sessionSize.toNat)
    (inside : index < (backupSession config volumeSize k).TotalBlocks) :
    1 ≤ (backupSession config volumeSize k).nBytesToRead index ∧
      (backupSession config volumeSize k).consumeBlockOffset index =
        sessionStart config.sessionSize.toNat k+index*config.blockSize.toNat ∧
      index*config.blockSize.toNat+(backupSession config volumeSize k).nBytesToRead index ≤
        sessionLength volumeSize.toNat config.sessionSize.toNat k := by
  have positive := length_positive sized below
  rw [← session_size] at positive
  have within : index ≤ (backupSession config volumeSize k).m_maxIndex := by
    rw [← session_blocks sized block below] at inside
    omega
  have some : 1 ≤ (backupSession config volumeSize k).nBytesToRead index := index_positive within block positive
  have ends := index_end within
  rw [session_size] at ends
  have whole := session_end sized below
  have bound := volumeSize.toNat_lt
  refine ⟨some,?_,ends⟩
  rw [VolumeTaskSharedConfig.consumeBlockOffset,session_offset sized below,Nat.add_comm]
  apply Nat.mod_eq_of_lt
  have step : index*(backupSession config volumeSize k).blockSize.toNat = index*config.blockSize.toNat := rfl
  omega

include sized block in
theorem block_of (inside : address < volumeSize.toNat) :
    ∃! place : Nat × Nat, ∃ session, ((List.range (sessionCount volumeSize.toNat config.sessionSize.toNat)).map
        (backupSession config volumeSize))[place.1]? = some session ∧ place.2 < session.TotalBlocks ∧
      session.consumeBlockOffset place.2 ≤ address ∧ address < session.consumeBlockOffset place.2+session.nBytesToRead place.2 := by
  obtain ⟨below,lower,upper⟩ := address_session sized inside
  generalize chosen : address/config.sessionSize.toNat = k at below lower upper
  have here : address-sessionStart config.sessionSize.toNat k < (backupSession config volumeSize k).sessionSize.toNat := by
    rw [session_size]
    omega
  obtain ⟨within,start,stop⟩ : (address-sessionStart config.sessionSize.toNat k)/config.blockSize.toNat ≤
        (backupSession config volumeSize k).m_maxIndex ∧
      (address-sessionStart config.sessionSize.toNat k)/config.blockSize.toNat*config.blockSize.toNat ≤
        address-sessionStart config.sessionSize.toNat k ∧
      address-sessionStart config.sessionSize.toNat k <
        (address-sessionStart config.sessionSize.toNat k)/config.blockSize.toNat*config.blockSize.toNat+
          (backupSession config volumeSize k).nBytesToRead ((address-sessionStart config.sessionSize.toNat k)/config.blockSize.toNat) :=
    address_block (show 0 < (backupSession config volumeSize k).blockSize.toNat from block) here
  generalize slot : (address-sessionStart config.sessionSize.toNat k)/config.blockSize.toNat = j at within start stop
  have counted : j < (backupSession config volumeSize k).TotalBlocks := by
    rw [← session_blocks sized block below]
    exact Nat.lt_succ_of_le within
  refine ⟨(k,j),?_,?_⟩
  · obtain ⟨_,offset,_⟩ := block_within sized block below counted
    refine ⟨backupSession config volumeSize k,by simp [below],counted,?_,?_⟩
    · dsimp only
      omega
    · dsimp only
      omega
  · rintro ⟨i,other⟩ ⟨session,found,least,left,right⟩
    dsimp only at found least left right
    obtain ⟨bound,rfl⟩ := mapped_at.mp found
    obtain ⟨_,offset,ends⟩ := block_within sized block bound least
    have short : (backupSession config volumeSize i).nBytesToRead other ≤ config.blockSize.toNat := nBytesToRead_le
    rw [offset] at left right
    have within : address < sessionStart config.sessionSize.toNat i+sessionLength volumeSize.toNat config.sessionSize.toNat i := by omega
    have mine : k = i := by
      rw [← chosen]
      exact session_unique (by omega) within
    subst mine
    have same : j = other := by
      rw [← slot]
      apply Nat.div_eq_of_lt_le
      · omega
      · rw [Nat.succ_mul]
        omega
    rw [same]

include straight sized block in
theorem splits_into (some : 1 ≤ volumeSize.toNat) (few : volumeSize.toNat ≤ 2^31*config.sessionSize.toNat) :
    ∃ segments sessions, SplitsInto config volumeSize segments sessions := by
  have most : sessionCount volumeSize.toNat config.sessionSize.toNat ≤ 2^31 := by
    apply Nat.le_of_not_lt
    intro more
    have inside := (below_count sized).mp more
    omega
  have several : 0 < sessionCount volumeSize.toNat config.sessionSize.toNat := (below_count sized).mpr (by omega)
  -- The k-th segment is about the k-th session.
  have segment_offset {k : Nat} (below : k < sessionCount volumeSize.toNat config.sessionSize.toNat) :
      (UInt64.ofNat (sessionStart config.sessionSize.toNat k)).toNat = sessionStart config.sessionSize.toNat k :=
    @session_offset config volumeSize sized k below
  have segment_length {k : Nat} : (UInt64.ofNat (sessionLength volumeSize.toNat config.sessionSize.toNat k)).toNat =
      sessionLength volumeSize.toNat config.sessionSize.toNat k := @session_size config volumeSize k
  refine ⟨_,_,backup_split straight sized,backup_sessions straight sized,?_,?_,?_,?_,?_,?_,?_,?_,fun _ => block_of sized block⟩
  · intro i segment found
    obtain ⟨bound,rfl⟩ := mapped_at.mp found
    exact index_int.mpr (Nat.lt_of_lt_of_le bound most)
  · intro segment inside
    obtain ⟨k,listed,rfl⟩ := List.mem_map.mp inside
    have below := List.mem_range.mp listed
    have positive := length_positive sized below
    simp only [VolumeBackupConfig.NewCopySegment,segment_length]
    exact ⟨positive,Nat.min_le_left _ _⟩
  · intro segment found
    rw [List.head?_eq_getElem?] at found
    obtain ⟨_,rfl⟩ := mapped_at.mp found
    apply UInt64.toNat_inj.mp
    simp only [VolumeBackupConfig.NewCopySegment,sessionStart,Nat.zero_mul]
    rfl
  · intro i segment next found later
    obtain ⟨bound,rfl⟩ := mapped_at.mp found
    obtain ⟨further,rfl⟩ := mapped_at.mp later
    have ends := @session_end config volumeSize sized i bound
    have inside := (below_count sized).mp further
    simp only [VolumeBackupConfig.NewCopySegment,segment_offset bound,segment_offset further,segment_length]
    unfold sessionStart at ends ⊢
    omega
  · intro segment found
    rw [List.getLast?_eq_getElem?,List.length_map,List.length_range] at found
    obtain ⟨bound,rfl⟩ := mapped_at.mp found
    have ends := @session_end config volumeSize sized _ bound
    have past : ¬sessionCount volumeSize.toNat config.sessionSize.toNat*config.sessionSize.toNat < volumeSize.toNat := fun inside =>
      Nat.lt_irrefl _ ((below_count sized).mpr inside)
    simp only [VolumeBackupConfig.NewCopySegment,segment_offset bound,segment_length,ends]
    unfold sessionStart
    rw [Nat.sub_add_cancel several]
    omega
  · intro none
    have length := congrArg List.length none
    simp only [List.length_map,List.length_range,List.length_nil] at length
    omega
  · simp only [List.map_map]
    rfl
  · intro session inside
    obtain ⟨k,listed,rfl⟩ := List.mem_map.mp inside
    have below := List.mem_range.mp listed
    refine ⟨rfl,session_blocks sized block below,fun index counted => ?_⟩
    obtain ⟨positive,offset,ends⟩ := block_within sized block below counted
    have whole := @session_end config volumeSize sized k below
    refine ⟨positive,nBytesToRead_le,?_,?_⟩
    · rw [session_offset sized below,offset]
    · omega

theorem splits_few (sized : 1 ≤ config.sessionSize.toNat) (straight : volumeSize.toNat+config.sessionSize.toNat < 2^64)
    (splits : SplitsInto config volumeSize segments sessions) : volumeSize.toNat ≤ 2^31*config.sessionSize.toNat := by
  apply Nat.le_of_not_lt
  intro many
  have further := (below_count sized).mpr many
  have recorded := splits.recorded
  rw [backup_split straight sized] at recorded
  cases Option.some.inj recorded
  have numbered := splits.numbered _ _ (mapped_at.mpr ⟨further,rfl⟩)
  exact Nat.lt_irrefl _ (index_int.mp numbered)

end sessions

-- The sessions of a volume are a partition of it just where an int can number them.
theorem volume_partition (config : VolumeBackupConfig) (volumeSize : UInt64) (some : 1 ≤ volumeSize.toNat)
    (sized : 1 ≤ config.sessionSize.toNat) (straight : volumeSize.toNat+config.sessionSize.toNat < 2^64)
    (block : 1 ≤ config.blockSize.toNat) : (∃ segments sessions, SplitsInto config volumeSize segments sessions) ↔
      volumeSize.toNat ≤ 2^31*config.sessionSize.toNat := by
  constructor
  · rintro ⟨segments,sessions,splits⟩
    exact splits_few sized straight splits
  · exact splits_into straight sized block some

end backup

def splitBackup (sessionSize : UInt64) : VolumeBackupConfig where
  volumePath := "/dev/sda1"
  prevCopyMetaDirPath := ""
  outputCopyDataDirPath := "/data"
  outputCopyMetaDirPath := "/meta"
  sessionSize := sessionSize
  checkpointDirPath := ""

-- A volume of one byte more than a session.
theorem volume_partition_tail : ∃ segments sessions, SplitsInto (splitBackup DEFAULT_SESSION_SIZE) (DEFAULT_SESSION_SIZE+1) segments sessions :=
  (volume_partition _ _ (by decide) (by decide) (by decide) (by decide)).mpr (by decide)

-- Sessions of one byte: the volume has one more of them than an int can count from 0.
theorem partition_overflows : ¬∃ segments sessions, SplitsInto (splitBackup 1) 2147483649 segments sessions := by
  rintro ⟨segments,sessions,splits⟩
  exact absurd (splits_few (by decide) (by decide) splits) (by decide)

end VolumeBackup
