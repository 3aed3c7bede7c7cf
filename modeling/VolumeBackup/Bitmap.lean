import VolumeBackup.ByteMemory

namespace VolumeBackup
open ByteMemory

def BITS_PER_UINT8 : Nat := 8
def BITMAP_RSHIFT : Nat := 3

def bitMask (index : Nat) : UInt8 := (1 : UInt8) <<< UInt8.ofNat (index % BITS_PER_UINT8)

structure Bitmap where
  m_capacity : Nat
  m_table : Memory

-- Bitmap(uint64_t size): one byte more than the whole bytes of `size`, all zero.
def Bitmap.new (size : Nat) : Bitmap := ⟨size/BITS_PER_UINT8+1,zeros⟩

-- m_capacity * 8 stays below 2^64 for every table that can be allocated.
def Bitmap.Set (bitmap : Bitmap) (index : Nat) : Bitmap :=
  if bitmap.m_capacity*BITS_PER_UINT8 ≤ index then bitmap
  else {bitmap with m_table := fun address =>
    if address = index >>> BITMAP_RSHIFT then bitmap.m_table address ||| bitMask index else bitmap.m_table address}

def Bitmap.Test (bitmap : Bitmap) (index : Nat) : Bool :=
  if bitmap.m_capacity*BITS_PER_UINT8 ≤ index then false
  else bitmap.m_table (index >>> BITMAP_RSHIFT) &&& bitMask index != 0

def Bitmap.firstUnset (bitmap : Bitmap) : Nat → Nat → Nat
  | index,0 => index
  | index,remain+1 => if bitmap.Test index then bitmap.firstUnset (index+1) remain else index

def Bitmap.FirstIndexUnset (bitmap : Bitmap) : Nat := bitmap.firstUnset 0 (bitmap.m_capacity*BITS_PER_UINT8)

def Bitmap.countSet (bitmap : Bitmap) : Nat → Nat
  | 0 => 0
  | index+1 => bitmap.countSet index + if bitmap.Test index then 1 else 0

def Bitmap.TotalSetCount (bitmap : Bitmap) : Nat := bitmap.countSet (bitmap.m_capacity*BITS_PER_UINT8)

@[simp] theorem Bitmap.new_capacity (size : Nat) : (Bitmap.new size).m_capacity = size/8+1 := rfl

@[simp] theorem Bitmap.set_capacity (bitmap : Bitmap) (index : Nat) :
    (bitmap.Set index).m_capacity = bitmap.m_capacity := by
  unfold Bitmap.Set
  split <;> rfl

theorem test_inside {bitmap : Bitmap} {index : Nat} (set : bitmap.Test index = true) :
    index < bitmap.m_capacity*8 := by
  unfold Bitmap.Test BITS_PER_UINT8 at set
  split at set
  · cases set
  · omega

@[simp] theorem test_new (size index : Nat) : (Bitmap.new size).Test index = false := by
  unfold Bitmap.Test
  split
  · rfl
  · simp [Bitmap.new,zeros]

theorem mask_ne_zero (index : Nat) : bitMask index ≠ 0 := by
  have bits : ∀ k : Fin 8, (1 : UInt8) <<< UInt8.ofNat k.val ≠ 0 := by decide
  exact bits ⟨index%8,Nat.mod_lt _ (by decide)⟩

theorem mask_apart {index other : Nat} (differ : index%8 ≠ other%8) : bitMask index &&& bitMask other = 0 := by
  have bits : ∀ k l : Fin 8, k ≠ l →
      (1 : UInt8) <<< UInt8.ofNat k.val &&& (1 : UInt8) <<< UInt8.ofNat l.val = 0 := by decide
  exact bits ⟨index%8,Nat.mod_lt _ (by decide)⟩ ⟨other%8,Nat.mod_lt _ (by decide)⟩
    fun equal => differ (congrArg Fin.val equal)

theorem or_and_self (byte mask : UInt8) : (byte ||| mask) &&& mask = mask := by
  apply UInt8.eq_of_toBitVec_eq
  apply BitVec.eq_of_getLsbD_eq
  intro k bound
  simp only [UInt8.toBitVec_and,UInt8.toBitVec_or,BitVec.getLsbD_and,BitVec.getLsbD_or]
  cases byte.toBitVec.getLsbD k <;> cases mask.toBitVec.getLsbD k <;> rfl

theorem or_and_apart {byte mask other : UInt8} (apart : mask &&& other = 0) :
    (byte ||| mask) &&& other = byte &&& other := by
  apply UInt8.eq_of_toBitVec_eq
  apply BitVec.eq_of_getLsbD_eq
  intro k bound
  have none : (mask.toBitVec &&& other.toBitVec).getLsbD k = false := by
    rw [← UInt8.toBitVec_and,apart]
    simp
  simp only [UInt8.toBitVec_and,UInt8.toBitVec_or,BitVec.getLsbD_and,BitVec.getLsbD_or] at none ⊢
  revert none
  cases byte.toBitVec.getLsbD k <;> cases mask.toBitVec.getLsbD k <;>
    cases other.toBitVec.getLsbD k <;> decide

theorem test_set (bitmap : Bitmap) (index other : Nat) :
    (bitmap.Set index).Test other = (bitmap.Test other || decide (other = index ∧ index < bitmap.m_capacity*8)) := by
  by_cases outside : bitmap.m_capacity*8 ≤ index
  · have same : bitmap.Set index = bitmap := if_pos outside
    have off : decide (other = index ∧ index < bitmap.m_capacity*8) = false := decide_eq_false (by omega)
    rw [same,off,Bool.or_false]
  by_cases past : bitmap.m_capacity*8 ≤ other
  · have before : bitmap.Test other = false := if_pos past
    have after : (bitmap.Set index).Test other = false := by
      unfold Bitmap.Test
      rw [Bitmap.set_capacity]
      exact if_pos past
    rw [before,after]
    simp
    omega
  have lower : bitmap.Test other = (bitmap.m_table (other >>> 3) &&& bitMask other != 0) := if_neg past
  have upper : (bitmap.Set index).Test other = ((bitmap.Set index).m_table (other >>> 3) &&& bitMask other != 0) := by
    unfold Bitmap.Test
    rw [Bitmap.set_capacity]
    exact if_neg past
  have table : (bitmap.Set index).m_table (other >>> 3) =
      if other >>> 3 = index >>> 3 then bitmap.m_table (other >>> 3) ||| bitMask index
      else bitmap.m_table (other >>> 3) := by
    unfold Bitmap.Set
    rw [if_neg (show ¬bitmap.m_capacity*BITS_PER_UINT8 ≤ index from outside)]
    rfl
  rw [upper,lower,table]
  have shifts : other >>> 3 = other/8 ∧ index >>> 3 = index/8 :=
    ⟨Nat.shiftRight_eq_div_pow _ _,Nat.shiftRight_eq_div_pow _ _⟩
  rw [shifts.1,shifts.2]
  by_cases equal : other = index
  · subst other
    simp [or_and_self,mask_ne_zero,Nat.lt_of_not_le outside]
  · by_cases together : other/8 = index/8
    · have apart : bitMask index &&& bitMask other = 0 := mask_apart (by omega)
      simp [together,or_and_apart apart,equal]
    · simp [together,equal]

theorem test_set_mono {bitmap : Bitmap} {index other : Nat} (set : bitmap.Test other = true) :
    (bitmap.Set index).Test other = true := by simp [test_set,set]

theorem test_set_self {bitmap : Bitmap} {index : Nat} (inside : index < bitmap.m_capacity*8) :
    (bitmap.Set index).Test index = true := by simp [test_set,inside]

theorem test_set_cases {bitmap : Bitmap} {index other : Nat} (set : (bitmap.Set index).Test other = true) :
    bitmap.Test other = true ∨ other = index := by
  simp only [test_set,Bool.or_eq_true,decide_eq_true_eq] at set
  exact set.imp_right And.left

theorem test_congr {left right : Bitmap} (capacity : left.m_capacity = right.m_capacity)
    (same : Same left.m_capacity left.m_table 0 right.m_table 0) (index : Nat) :
    left.Test index = right.Test index := by
  unfold Bitmap.Test
  rw [← capacity]
  split
  · rfl
  · rename_i inside
    have shift : index >>> BITMAP_RSHIFT = index/8 := Nat.shiftRight_eq_div_pow _ _
    have byte := same (index/8) (by simp only [BITS_PER_UINT8] at inside; omega)
    simp only [Nat.zero_add] at byte
    rw [shift,byte]

theorem firstUnset_below {bitmap : Bitmap} {index remain other : Nat} (lower : index ≤ other)
    (upper : other < bitmap.firstUnset index remain) : bitmap.Test other = true := by
  induction remain generalizing index with
  | zero => simp [Bitmap.firstUnset] at upper; omega
  | succ remain ih =>
      simp only [Bitmap.firstUnset] at upper
      split at upper
      · rename_i set
        by_cases first : other = index
        · subst other; exact set
        · exact ih (by omega) upper
      · omega

theorem firstUnset_stop {bitmap : Bitmap} {index remain : Nat}
    (short : bitmap.firstUnset index remain < index+remain) :
    bitmap.Test (bitmap.firstUnset index remain) = false := by
  induction remain generalizing index with
  | zero => simp [Bitmap.firstUnset] at short
  | succ remain ih =>
      simp only [Bitmap.firstUnset] at short ⊢
      split
      · rename_i set
        rw [if_pos set] at short
        exact ih (by omega)
      · rename_i unset
        simpa using unset

theorem below_FirstIndexUnset {bitmap : Bitmap} {index : Nat} (below : index < bitmap.FirstIndexUnset) :
    bitmap.Test index = true := firstUnset_below (Nat.zero_le _) below

theorem FirstIndexUnset_le {bitmap : Bitmap} {index : Nat} (unset : bitmap.Test index = false) :
    bitmap.FirstIndexUnset ≤ index := by
  apply Nat.le_of_not_lt
  intro above
  have set := below_FirstIndexUnset above
  rw [unset] at set
  cases set

end VolumeBackup
