import VolumeBackup.Bitmap
import Mathlib.Data.Finset.Card
import Mathlib.Data.Finset.Insert
import Mathlib.Order.Bounds.Basic

namespace VolumeBackup
open ByteMemory

def Bitmap.indices (bitmap : Bitmap) : Finset Nat := (Finset.range (bitmap.m_capacity*8)).filter fun index => bitmap.Test index = true

section set
variable {bitmap : Bitmap} {index bound : Nat}

@[simp] theorem mem_indices : index ∈ bitmap.indices ↔ bitmap.Test index = true := by
  simp only [Bitmap.indices,Finset.mem_filter,Finset.mem_range,and_iff_right_iff_imp]
  exact test_inside

theorem mem_set_indices {other : Nat} : other ∈ (bitmap.Set index).indices ↔
    other ∈ bitmap.indices ∨ other = index ∧ index < bitmap.m_capacity*8 := by
  simp [test_set]

@[simp] theorem sets_capacity (calls : List Nat) : (calls.foldl Bitmap.Set bitmap).m_capacity = bitmap.m_capacity := by
  induction calls generalizing bitmap with
  | nil => rfl
  | cons call calls ih => simp [ih]

-- The induction is on the calls; what a call outside leaves alone is not in the set either.
theorem sets_indices (calls : List Nat) : index ∈ (calls.foldl Bitmap.Set bitmap).indices ↔
    index ∈ bitmap.indices ∨ index ∈ calls ∧ index < bitmap.m_capacity*8 := by
  induction calls generalizing bitmap with
  | nil => simp
  | cons call calls ih =>
      simp only [List.foldl_cons,ih,mem_set_indices,Bitmap.set_capacity,List.mem_cons]
      constructor
      · rintro ((before | ⟨rfl,inside⟩) | ⟨later,inside⟩)
        · exact .inl before
        · exact .inr ⟨.inl rfl,inside⟩
        · exact .inr ⟨.inr later,inside⟩
      · rintro (before | ⟨rfl | later,inside⟩)
        · exact .inl (.inl before)
        · exact .inl (.inr ⟨rfl,inside⟩)
        · exact .inr ⟨later,inside⟩

theorem countSet_card : bitmap.countSet bound = ((Finset.range bound).filter fun index => bitmap.Test index = true).card := by
  induction bound with
  | zero => simp [Bitmap.countSet]
  | succ bound ih =>
      rw [Finset.range_add_one,Finset.filter_insert]
      cases set : bitmap.Test bound <;> simp [Bitmap.countSet,ih,set]

theorem TotalSetCount_card : bitmap.TotalSetCount = bitmap.indices.card := countSet_card

theorem FirstIndexUnset_unset : bitmap.Test bitmap.FirstIndexUnset = false := by
  rcases Nat.lt_or_ge bitmap.FirstIndexUnset (bitmap.m_capacity*8) with short | full
  · exact firstUnset_stop (by rw [Nat.zero_add]; exact short)
  · exact if_pos full

theorem FirstIndexUnset_least : IsLeast {index | index ∉ bitmap.indices} bitmap.FirstIndexUnset := by
  constructor
  · simp [FirstIndexUnset_unset]
  · intro index unset
    apply FirstIndexUnset_le
    simpa using unset

end set

-- The class Bitmap in the uint64_t arithmetic of its code, over the memory that operator new[] hands out.
structure Bitmap64 where
  m_capacity : UInt64
  m_table : Memory

namespace Bitmap64

def BITS : UInt64 := 8

def new (allocate : UInt64 → Option Memory) (size : UInt64) : Option Bitmap64 :=
  let m_capacity := size/BITS+1
  (allocate m_capacity).map fun m_table => ⟨m_capacity,store m_table 0 m_capacity.toNat zeros⟩

def rebuild (ptr : Memory) (capacity : UInt64) : Bitmap64 := ⟨capacity,ptr⟩

def Set (bitmap : Bitmap64) (index : UInt64) : Bitmap64 :=
  if bitmap.m_capacity*BITS ≤ index then bitmap
  else {bitmap with m_table := fun address =>
    if address = (index >>> 3).toNat then bitmap.m_table address ||| bitMask index.toNat else bitmap.m_table address}

variable (object : Bitmap64)

def Test (index : UInt64) : Bool :=
  if object.m_capacity*BITS ≤ index then false
  else object.m_table (index >>> 3).toNat &&& bitMask index.toNat != 0

def Capacity : UInt64 := object.m_capacity
def Ptr : Memory := object.m_table
def MaxIndex : UInt64 := object.m_capacity*BITS-1

def firstUnset : Nat → UInt64 → UInt64
  | 0,_ => object.MaxIndex+1
  | remain+1,index => if object.Test index then firstUnset remain (index+1) else index

def FirstIndexUnset : UInt64 := object.firstUnset (object.m_capacity*BITS).toNat 0

def countSet : Nat → UInt64 → UInt64 → UInt64
  | 0,_,totalSetCount => totalSetCount
  | remain+1,index,totalSetCount => countSet remain (index+1) (totalSetCount+if object.Test index then 1 else 0)

def TotalSetCount : UInt64 := object.countSet (object.m_capacity*BITS).toNat 0 0

def unbounded : Bitmap := ⟨object.m_capacity.toNat,object.m_table⟩

def Fits : Prop := object.m_capacity.toNat*8 < 2^64

end Bitmap64

structure StandsFor (object : Bitmap64) (set : Finset Nat) : Prop where
  test : ∀ index, object.Test index = true ↔ index.toNat ∈ set
  count : object.TotalSetCount.toNat = set.card
  first : IsLeast {index | index ∉ set} object.FirstIndexUnset.toNat
  full : object.FirstIndexUnset = object.Capacity*8 → ∀ index < object.Capacity*8, index.toNat ∈ set

structure SameAnswers (left right : Bitmap64) : Prop where
  capacity : left.Capacity = right.Capacity
  last : left.MaxIndex = right.MaxIndex
  test : ∀ index, left.Test index = right.Test index
  first : left.FirstIndexUnset = right.FirstIndexUnset
  count : left.TotalSetCount = right.TotalSetCount

section object
variable {object : Bitmap64} {index : UInt64} (fits : object.Fits)
include fits

theorem Bitmap64.Fits.bound : (object.m_capacity*Bitmap64.BITS).toNat = object.m_capacity.toNat*8 := by
  rw [UInt64.toNat_mul]
  exact Nat.mod_eq_of_lt fits

theorem Bitmap64.Fits.outside : object.m_capacity*Bitmap64.BITS ≤ index ↔ object.unbounded.m_capacity*8 ≤ index.toNat := by
  rw [UInt64.le_iff_toNat_le,fits.bound]
  rfl

omit fits in
theorem byte_index : (index >>> 3).toNat = index.toNat >>> BITMAP_RSHIFT := by simp [BITMAP_RSHIFT]

theorem Bitmap64.Fits.test : object.Test index = object.unbounded.Test index.toNat := by
  unfold Bitmap64.Test Bitmap.Test
  simp only [fits.outside,byte_index]
  rfl

theorem Bitmap64.Fits.set : (object.Set index).unbounded = object.unbounded.Set index.toNat := by
  by_cases past : object.unbounded.m_capacity*8 ≤ index.toNat
  · have same : object.Set index = object := if_pos (fits.outside.mpr past)
    have kept : object.unbounded.Set index.toNat = object.unbounded := if_pos past
    rw [same,kept]
  · have stored : object.unbounded.Set index.toNat = _ := if_neg past
    unfold Bitmap64.Set
    rw [stored,if_neg (fun outside => past (fits.outside.mp outside)),byte_index]
    rfl

theorem Bitmap64.Fits.kept : (object.Set index).Fits := by
  have same : (object.Set index).m_capacity = object.m_capacity := by
    unfold Bitmap64.Set
    split <;> rfl
  unfold Bitmap64.Fits
  rw [same]
  exact fits

theorem Bitmap64.Fits.full : (object.MaxIndex+1).toNat = object.unbounded.m_capacity*8 := by
  unfold Bitmap64.MaxIndex
  rw [UInt64.sub_add_cancel,fits.bound]
  rfl

omit fits in
theorem index_succ (below : index.toNat+1 < 2^64) : (index+1).toNat = index.toNat+1 := by
  rw [UInt64.toNat_add]
  exact Nat.mod_eq_of_lt below

theorem Bitmap64.Fits.firstUnset {remain : Nat} (here : index.toNat+remain = object.unbounded.m_capacity*8) :
    (object.firstUnset remain index).toNat = object.unbounded.firstUnset index.toNat remain := by
  have short : object.unbounded.m_capacity*8 < 2^64 := fits
  induction remain generalizing index with
  | zero =>
      simp only [Bitmap64.firstUnset,Bitmap.firstUnset,fits.full]
      omega
  | succ remain ih =>
      have next : (index+1).toNat = index.toNat+1 := index_succ (by omega)
      simp only [Bitmap64.firstUnset,Bitmap.firstUnset,fits.test]
      split
      · rw [ih (by omega),next]
      · rfl

theorem Bitmap64.Fits.FirstIndexUnset : object.FirstIndexUnset.toNat = object.unbounded.FirstIndexUnset := by
  unfold Bitmap64.FirstIndexUnset
  rw [fits.bound,fits.firstUnset (by simp [Bitmap64.unbounded])]
  rfl

omit fits in
theorem countSet_bound {bitmap : Bitmap} {bound : Nat} : bitmap.countSet bound ≤ bound := by
  rw [countSet_card]
  exact (Finset.card_filter_le _ _).trans (Finset.card_range bound).le

theorem Bitmap64.Fits.countSet {remain : Nat} {total : UInt64} (here : index.toNat+remain = object.unbounded.m_capacity*8)
    (counted : total.toNat = object.unbounded.countSet index.toNat) :
    (object.countSet remain index total).toNat = object.unbounded.countSet (index.toNat+remain) := by
  have short : object.unbounded.m_capacity*8 < 2^64 := fits
  induction remain generalizing index total with
  | zero => exact counted
  | succ remain ih =>
      have next : (index+1).toNat = index.toNat+1 := index_succ (by omega)
      have few : object.unbounded.countSet index.toNat ≤ index.toNat := countSet_bound
      simp only [Bitmap64.countSet]
      rw [ih (by omega),next]
      · congr 1
        omega
      · rw [next,UInt64.toNat_add,fits.test]
        simp only [Bitmap.countSet,← counted]
        split <;> exact Nat.mod_eq_of_lt (by simp; omega)

theorem Bitmap64.Fits.TotalSetCount : object.TotalSetCount.toNat = object.unbounded.TotalSetCount := by
  unfold Bitmap64.TotalSetCount
  rw [fits.countSet (by rw [fits.bound]; simp [Bitmap64.unbounded]) rfl,fits.bound]
  simp [Bitmap.TotalSetCount,Bitmap64.unbounded,BITS_PER_UINT8]

omit fits in
theorem same_answers {other : Bitmap64} (capacity : object.m_capacity = other.m_capacity) (tests : ∀ index, object.Test index = other.Test index) :
    SameAnswers object other := by
  have first (remain : Nat) (index : UInt64) : object.firstUnset remain index = other.firstUnset remain index := by
    induction remain generalizing index with
    | zero => simp only [Bitmap64.firstUnset,Bitmap64.MaxIndex,capacity]
    | succ remain ih => simp only [Bitmap64.firstUnset,tests,ih]
  have count (remain : Nat) (index total : UInt64) : object.countSet remain index total = other.countSet remain index total := by
    induction remain generalizing index total with
    | zero => rfl
    | succ remain ih => simp only [Bitmap64.countSet,tests,ih]
  refine ⟨capacity,?_,tests,?_,?_⟩
  · simp only [Bitmap64.MaxIndex,capacity]
  · simp only [Bitmap64.FirstIndexUnset,capacity,first]
  · simp only [Bitmap64.TotalSetCount,capacity,count]

theorem rebuilt_answers {copy : Memory} (same : Same object.Capacity.toNat copy 0 object.Ptr 0) :
    SameAnswers (Bitmap64.rebuild copy object.Capacity) object := by
  have there : (Bitmap64.rebuild copy object.Capacity).Fits := fits
  have capacity : (Bitmap64.rebuild copy object.Capacity).m_capacity = object.m_capacity := rfl
  apply same_answers capacity
  intro index
  rw [there.test,fits.test]
  exact @test_congr (Bitmap64.rebuild copy object.Capacity).unbounded object.unbounded rfl same _

theorem Bitmap64.Fits.sets (calls : List UInt64) : (calls.foldl Bitmap64.Set object).Fits ∧
    (calls.foldl Bitmap64.Set object).unbounded = (calls.map UInt64.toNat).foldl Bitmap.Set object.unbounded := by
  induction calls generalizing object with
  | nil => exact ⟨fits,rfl⟩
  | cons call calls ih =>
      obtain ⟨kept,same⟩ := ih fits.kept
      exact ⟨kept,by rw [List.map_cons,List.foldl_cons,List.foldl_cons,same,fits.set]⟩

theorem Bitmap64.Fits.standsFor : StandsFor object object.unbounded.indices := by
  refine ⟨fun index => ?_,?_,?_,?_⟩
  · rw [fits.test,mem_indices]
  · rw [fits.TotalSetCount,TotalSetCount_card]
  · rw [fits.FirstIndexUnset]
    exact FirstIndexUnset_least
  · intro whole index inside
    rw [mem_indices]
    apply below_FirstIndexUnset
    rw [← fits.FirstIndexUnset,whole]
    exact UInt64.lt_iff_toNat_lt.mp inside

end object

section new
variable {allocate : UInt64 → Option Memory} {size : UInt64} {object : Bitmap64}
  (addresses : ∀ capacity memory, allocate capacity = some memory → capacity.toNat < 2^61) (made : Bitmap64.new allocate size = some object)
include addresses made

theorem new_fits : object.Fits := by
  obtain ⟨memory,found,rfl⟩ := Option.map_eq_some_iff.mp made
  have few : (size/8+1).toNat < 2^61 := addresses _ _ found
  have bound : (size/8+1).toNat*8 < 2^64 := by omega
  exact bound

omit addresses in
theorem new_room : object.unbounded.m_capacity = size.toNat/8+1 := by
  obtain ⟨memory,found,rfl⟩ := Option.map_eq_some_iff.mp made
  have small := size.toNat_lt
  have same : (size/8+1).toNat = size.toNat/8+1 := by
    rw [UInt64.toNat_add,UInt64.toNat_div]
    exact Nat.mod_eq_of_lt (by simp; omega)
  exact same

omit addresses in
theorem new_clear : object.unbounded.indices = ∅ := by
  have room : object.unbounded.m_capacity = (Bitmap.new size.toNat).m_capacity := new_room made
  obtain ⟨memory,found,rfl⟩ := Option.map_eq_some_iff.mp made
  ext index
  rw [mem_indices,test_congr room same_store,test_new]
  simp

-- A bitmap is a finite set, whatever is called on it, and has a bit to spare behind the indices it was made for.
theorem bitmap_stands_for (calls : List UInt64) (after : Bitmap64) (called : after = calls.foldl Bitmap64.Set object) :
    StandsFor after ((calls.map UInt64.toNat).toFinset.filter fun index => index < after.Capacity.toNat*8) ∧
    size.toNat < after.Capacity.toNat*8 ∧ (∀ call < size, (after.Set call).Test size = after.Test size) ∧
    ((∀ index, after.Test index = true ↔ index < size) → after.FirstIndexUnset = size) ∧
    ∀ copy, Same after.Capacity.toNat copy 0 after.Ptr 0 → SameAnswers (Bitmap64.rebuild copy after.Capacity) after := by
  have fits := new_fits addresses made
  have room := new_room made
  obtain ⟨kept,same⟩ := fits.sets calls
  rw [← called] at kept same
  have capacity : after.Capacity.toNat = size.toNat/8+1 := by
    rw [← room,← @sets_capacity object.unbounded (calls.map UInt64.toNat),← same]
    rfl
  have inside : size.toNat < after.Capacity.toNat*8 := by omega
  have set : after.unbounded.indices = (calls.map UInt64.toNat).toFinset.filter fun index => index < after.Capacity.toNat*8 := by
    ext index
    rw [same,sets_indices,new_clear made,room,capacity]
    simp
  have stands := kept.standsFor
  refine ⟨set ▸ stands,inside,fun call before => ?_,fun exact => ?_,fun copy => rebuilt_answers kept⟩
  · have apart : ¬(size.toNat = call.toNat ∧ call.toNat < after.unbounded.m_capacity*8) :=
      fun both => absurd both.1 (Nat.ne_of_gt (UInt64.lt_iff_toNat_lt.mp before))
    rw [kept.kept.test,kept.set,test_set,kept.test,decide_eq_false apart,Bool.or_false]
  · apply UInt64.toNat_inj.mp
    apply stands.first.unique
    constructor
    · intro member
      exact absurd ((exact size).mp ((stands.test size).mpr member)) (UInt64.lt_irrefl size)
    · intro index unset
      apply Nat.le_of_not_lt
      intro below
      have small := size.toNat_lt
      have index64 : (UInt64.ofNat index).toNat = index := UInt64.toNat_ofNat_of_lt' (Nat.lt_trans below small)
      apply unset
      rw [← index64,← stands.test,exact,UInt64.lt_iff_toNat_lt,index64]
      exact below

end new

def ample (capacity : UInt64) : Option Memory := if capacity.toNat < 2^47 then some fun _ => 205 else none

def eightCalls : List UInt64 := [0,1,2,3,4,5,6,7,9223372036854775808]

theorem bitmap_stands_for_eight : ∃ object, Bitmap64.new ample 8 = some object ∧
    (eightCalls.foldl Bitmap64.Set object).FirstIndexUnset = 8 := by
  have addresses (capacity : UInt64) (memory : Memory) (found : ample capacity = some memory) : capacity.toNat < 2^61 := by
    unfold ample at found
    split at found
    · rename_i low
      exact Nat.lt_trans low (by decide)
    · cases found
  have made : Bitmap64.new ample 8 = some ⟨2,store (fun _ => 205) 0 2 zeros⟩ := rfl
  obtain ⟨stands,_,_,full,_⟩ := bitmap_stands_for addresses made eightCalls _ rfl
  refine ⟨_,made,full fun index => ?_⟩
  rw [stands.test,UInt64.lt_iff_toNat_lt]
  change index.toNat ∈ Finset.filter (fun index => index < 16) _ ↔ _
  simp [eightCalls]
  omega

end VolumeBackup
