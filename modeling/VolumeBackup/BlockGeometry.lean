import VolumeBackup.Session

namespace VolumeBackup
open ByteMemory

variable {config : VolumeTaskSharedConfig} {raw : RawData} {index other : Nat}

theorem nBytesToRead_le : config.nBytesToRead index ≤ config.blockSize.toNat := Nat.min_le_left _ _

theorem index_start (inside : index ≤ config.m_maxIndex) :
    index*config.blockSize.toNat ≤ config.sessionSize.toNat := by
  have whole : config.sessionSize.toNat/config.blockSize.toNat*config.blockSize.toNat ≤ config.sessionSize.toNat :=
    Nat.div_mul_le_self _ _
  refine Nat.le_trans (Nat.mul_le_mul_right _ ?_) whole
  unfold VolumeTaskSharedConfig.m_maxIndex VolumeTaskSharedConfig.TotalBlocks at inside
  generalize config.sessionSize.toNat/config.blockSize.toNat = count at inside ⊢
  dsimp only at inside
  split at inside <;> omega

theorem index_end (inside : index ≤ config.m_maxIndex) :
    index*config.blockSize.toNat+config.nBytesToRead index ≤ config.sessionSize.toNat := by
  have start := index_start inside
  unfold VolumeTaskSharedConfig.nBytesToRead
  omega

theorem index_positive (inside : index ≤ config.m_maxIndex) (positive : 0 < config.blockSize.toNat)
    (some : 0 < config.sessionSize.toNat) : 0 < config.nBytesToRead index := by
  have short : index*config.blockSize.toNat < config.sessionSize.toNat := by
    have split := Nat.div_add_mod config.sessionSize.toNat config.blockSize.toNat
    unfold VolumeTaskSharedConfig.m_maxIndex VolumeTaskSharedConfig.TotalBlocks at inside
    generalize config.sessionSize.toNat/config.blockSize.toNat = count at inside split
    rw [Nat.mul_comm] at split
    dsimp only at inside
    split at inside
    · have most : index*config.blockSize.toNat ≤ count*config.blockSize.toNat := Nat.mul_le_mul_right _ (by omega)
      omega
    · rename_i even
      have above : 0 < count := by
        refine Nat.pos_of_ne_zero fun none => ?_
        rw [none,Nat.zero_mul] at split
        omega
      have most : index*config.blockSize.toNat+config.blockSize.toNat ≤ count*config.blockSize.toNat := by
        rw [← Nat.succ_mul]
        exact Nat.mul_le_mul_right _ (by omega)
      omega
  unfold VolumeTaskSharedConfig.nBytesToRead
  omega

theorem index_counted (inside : index ≤ config.m_maxIndex) (some : 0 < config.nBytesToRead index) : index < config.TotalBlocks := by
  have counted : 0 < config.TotalBlocks := by
    have split := Nat.div_add_mod config.sessionSize.toNat config.blockSize.toNat
    unfold VolumeTaskSharedConfig.nBytesToRead at some
    unfold VolumeTaskSharedConfig.TotalBlocks
    dsimp only
    split
    · exact Nat.succ_pos _
    · refine Nat.pos_of_ne_zero fun none => ?_
      rw [none,Nat.mul_zero] at split
      omega
  unfold VolumeTaskSharedConfig.m_maxIndex at inside
  omega

theorem address_block (positive : 0 < config.blockSize.toNat) (inside : other < config.sessionSize.toNat) :
    other/config.blockSize.toNat ≤ config.m_maxIndex ∧
      other/config.blockSize.toNat*config.blockSize.toNat ≤ other ∧
      other < other/config.blockSize.toNat*config.blockSize.toNat+config.nBytesToRead (other/config.blockSize.toNat) := by
  have split := Nat.div_add_mod other config.blockSize.toNat
  have small := Nat.mod_lt other positive
  rw [Nat.mul_comm] at split
  have whole := Nat.div_add_mod config.sessionSize.toNat config.blockSize.toNat
  rw [Nat.mul_comm] at whole
  have below : other/config.blockSize.toNat ≤ config.sessionSize.toNat/config.blockSize.toNat :=
    Nat.div_le_div_right (Nat.le_of_lt inside)
  refine ⟨?_,by omega,?_⟩
  · unfold VolumeTaskSharedConfig.m_maxIndex VolumeTaskSharedConfig.TotalBlocks
    dsimp only
    split
    · omega
    · rename_i even
      have strict : other/config.blockSize.toNat < config.sessionSize.toNat/config.blockSize.toNat := by
        refine Nat.lt_of_le_of_ne below fun same => ?_
        rw [same] at split
        omega
      omega
  · unfold VolumeTaskSharedConfig.nBytesToRead
    omega

theorem position_shift (raw : RawData) (config : VolumeTaskSharedConfig) : ∃ shift, ∀ index,
    raw.position (config.consumeBlockOffset index) = (index*config.blockSize.toNat+shift) % 2^64 := by
  unfold RawData.position VolumeTaskSharedConfig.consumeBlockOffset
  have bound := raw.m_shiftOffset.toNat_lt
  by_cases up : 0 < raw.m_flag
  · exact ⟨config.sessionOffset.toNat+raw.m_shiftOffset.toNat,fun index => by rw [if_pos up]; omega⟩
  · by_cases down : raw.m_flag < 0
    · refine ⟨config.sessionOffset.toNat+(2^64-raw.m_shiftOffset.toNat),fun index => ?_⟩
      rw [if_neg up,if_pos down]
      omega
    · exact ⟨config.sessionOffset.toNat,fun index => by rw [if_neg up,if_neg down]⟩

-- Two blocks share no byte of the target, not even where the positions of a session wrap at 2^64: a
-- session is shorter than that.
theorem blocks_apart (differ : index ≠ other) (inside : index ≤ config.m_maxIndex) (within : other ≤ config.m_maxIndex) :
    Apart (raw.position (config.consumeBlockOffset index)) (config.nBytesToRead index)
      (raw.position (config.consumeBlockOffset other)) (config.nBytesToRead other) := by
  obtain ⟨shift,position⟩ := position_shift raw config
  rw [position,position]
  have bound := config.sessionSize.toNat_lt
  have first := index_end inside
  have second := index_end within
  have short : config.nBytesToRead index ≤ config.blockSize.toNat := nBytesToRead_le
  have brief : config.nBytesToRead other ≤ config.blockSize.toNat := nBytesToRead_le
  unfold Apart
  rcases Nat.lt_or_gt_of_ne differ with less | greater
  · have step : index*config.blockSize.toNat+config.blockSize.toNat ≤ other*config.blockSize.toNat := by
      rw [← Nat.succ_mul]
      exact Nat.mul_le_mul_right _ less
    omega
  · have step : other*config.blockSize.toNat+config.blockSize.toNat ≤ index*config.blockSize.toNat := by
      rw [← Nat.succ_mul]
      exact Nat.mul_le_mul_right _ greater
    omega

end VolumeBackup
