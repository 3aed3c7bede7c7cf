import Mathlib.Data.List.Perm.Basic
import VolumeBackup.FlowData
import VolumeBackup.LabelledRuns

namespace VolumeBackup
open ByteMemory LabelledRuns

-- The calls of an allocator. Next to it stand the pointers that callers have got and not given back.
inductive AllocatorCall where
  | BlockAlloc
  | BlockFree (ptr : Nat)
  deriving DecidableEq

def allocatorStep (s : VolumeBlockAllocator × List Nat) : AllocatorCall → Option (VolumeBlockAllocator × List Nat)
  | .BlockAlloc =>
    match s.1.BlockAlloc with
    | some (ptr,allocator) => some (allocator,ptr::s.2)
    | none => some s
  | .BlockFree ptr => (s.1.BlockFree ptr).map fun allocator => (allocator,s.2.erase ptr)

def FreesHeld (s : VolumeBlockAllocator × List Nat) : AllocatorCall → Prop
  | .BlockAlloc => True
  | .BlockFree ptr => ptr ∈ s.2

-- The pool has blockSize * blockNum bytes, a product of 32 bits.
def poolSize (blockSize blockNum : UInt32) : Nat := (blockSize*blockNum).toNat

def allocatorStart (blockSize blockNum : UInt32) : VolumeBlockAllocator × List Nat := (.new blockSize blockNum.toNat,[])

-- The buffers that are held lie apart in the pool and are those that the table has marked. There is one more
-- until all are held, and each can be freed, which clears its own mark.
structure Allocates (blockSize blockNum : UInt32) (s : VolumeBlockAllocator × List Nat) : Prop where
  inside : ∀ ptr ∈ s.2, ptr+blockSize.toNat ≤ poolSize blockSize blockNum
  apart : s.2.Pairwise fun ptr other => Apart ptr blockSize.toNat other blockSize.toNat
  marked : ∀ k < blockNum.toNat, s.1.m_allocTable[k]? = some true ↔ s.1.address k ∈ s.2
  null : s.1.BlockAlloc = none ↔ s.2.length = blockNum.toNat
  freed : ∀ ptr ∈ s.2, ∃ k next, ptr = s.1.address k ∧ s.1.BlockFree ptr = some next ∧
    next = {s.1 with m_allocTable := s.1.m_allocTable.set k false}

variable {blockSize blockNum : UInt32} {s t : VolumeBlockAllocator × List Nat} {ptr k : Nat}

structure Slotted (blockSize blockNum : UInt32) (s : VolumeBlockAllocator × List Nat) : Prop where
  size : s.1.m_blockSize = blockSize
  table : s.1.m_allocTable.length = blockNum.toNat
  nodup : s.2.Nodup
  held : ∀ ptr, ptr ∈ s.2 ↔ ∃ k, ptr = k*blockSize.toNat ∧ s.1.m_allocTable[k]? = some true

theorem Slotted.address (slotted : Slotted blockSize blockNum s) (fits : blockSize.toNat*blockNum.toNat < 2^32) (below : k < blockNum.toNat) :
    s.1.address k = k*blockSize.toNat := by
  unfold VolumeBlockAllocator.address
  rw [slotted.size,Nat.mul_comm k]
  have most : blockSize.toNat*k ≤ blockSize.toNat*blockNum.toNat := Nat.mul_le_mul_left _ (Nat.le_of_lt below)
  exact Nat.mod_eq_of_lt (Nat.lt_of_le_of_lt most fits)

theorem Slotted.alloc (slotted : Slotted blockSize blockNum s) (positive : 1 ≤ blockSize.toNat)
    (fits : blockSize.toNat*blockNum.toNat < 2^32) (found : s.1.BlockAlloc = some (ptr,next)) :
    Slotted blockSize blockNum (next,ptr::s.2) := by
  obtain ⟨k,same,unset,rfl⟩ := alloc_slot found
  obtain ⟨bound,_⟩ := List.getElem?_eq_some_iff.mp unset
  have exact : ptr = k*blockSize.toNat := by
    rw [← slotted.address fits (slotted.table ▸ bound)]
    exact same
  refine ⟨slotted.size,by rw [← slotted.table]; exact List.length_set,?_,?_⟩
  · apply List.nodup_cons.mpr
    refine ⟨fun present => ?_,slotted.nodup⟩
    obtain ⟨other,equal,marked⟩ := (slotted.held ptr).mp present
    have slot : other = k := Nat.eq_of_mul_eq_mul_right positive (equal.symm.trans exact)
    rw [slot,unset] at marked
    cases marked
  · intro other
    rw [List.mem_cons,slotted.held other]
    constructor
    · rintro (rfl | ⟨slot,equal,marked⟩)
      · exact ⟨k,exact,by rw [List.getElem?_set_self bound]⟩
      · refine ⟨slot,equal,?_⟩
        by_cases same : k = slot
        · rw [← same,List.getElem?_set_self bound]
        · rw [List.getElem?_set_ne same,marked]
    · rintro ⟨slot,equal,marked⟩
      by_cases same : k = slot
      · exact .inl (by rw [equal,exact,same])
      · rw [List.getElem?_set_ne same] at marked
        exact .inr ⟨slot,equal,marked⟩

theorem Slotted.free (slotted : Slotted blockSize blockNum s) (positive : 1 ≤ blockSize.toNat) (present : ptr ∈ s.2) :
    ∃ k, ptr = k*blockSize.toNat ∧ s.1.m_allocTable[k]? = some true ∧
      s.1.BlockFree ptr = some {s.1 with m_allocTable := s.1.m_allocTable.set k false} := by
  obtain ⟨k,exact,marked⟩ := (slotted.held ptr).mp present
  refine ⟨k,exact,marked,?_⟩
  unfold VolumeBlockAllocator.BlockFree
  simp only [slotted.size,exact,Nat.mul_mod_left,if_true,Nat.mul_div_cancel _ positive]

theorem Slotted.release (slotted : Slotted blockSize blockNum s) (positive : 1 ≤ blockSize.toNat) (present : ptr ∈ s.2)
    (free : s.1.BlockFree ptr = some next) :
    Slotted blockSize blockNum (next,s.2.erase ptr) := by
  obtain ⟨k,exact,marked,done⟩ := slotted.free positive present
  cases Option.some.inj (free.symm.trans done)
  obtain ⟨bound,_⟩ := List.getElem?_eq_some_iff.mp marked
  refine ⟨slotted.size,by rw [← slotted.table]; exact List.length_set,slotted.nodup.erase _,?_⟩
  intro other
  rw [slotted.nodup.mem_erase_iff,slotted.held other]
  constructor
  · rintro ⟨differ,slot,equal,set⟩
    refine ⟨slot,equal,?_⟩
    have apart : k ≠ slot := fun same => differ (by rw [equal,exact,same])
    rw [List.getElem?_set_ne apart,set]
  · rintro ⟨slot,equal,set⟩
    have apart : k ≠ slot := by
      rintro rfl
      rw [List.getElem?_set_self bound] at set
      cases set
    rw [List.getElem?_set_ne apart] at set
    refine ⟨fun same => apart ?_,slot,equal,set⟩
    exact Nat.eq_of_mul_eq_mul_right positive (exact.symm.trans (same.symm.trans equal))

theorem Slotted.step (slotted : Slotted blockSize blockNum s) (positive : 1 ≤ blockSize.toNat)
    (fits : blockSize.toNat*blockNum.toNat < 2^32) (ran : allocatorStep s call = some t) (holds : FreesHeld s call) :
    Slotted blockSize blockNum t := by
  cases call with
  | BlockAlloc =>
      simp only [allocatorStep] at ran
      split at ran
      · rename_i found
        cases Option.some.inj ran
        exact slotted.alloc positive fits found
      · cases Option.some.inj ran
        exact slotted
  | BlockFree ptr =>
      obtain ⟨next,free,rfl⟩ := Option.map_eq_some_iff.mp ran
      exact slotted.release positive holds free

theorem Slotted.start : Slotted blockSize blockNum (allocatorStart blockSize blockNum) where
  size := rfl
  table := by simp [allocatorStart,VolumeBlockAllocator.new]
  nodup := .nil
  held := by
    intro ptr
    constructor
    · exact nofun
    · rintro ⟨k,_,marked⟩
      cases (List.mem_replicate.mp (List.mem_of_getElem? marked)).2

theorem Slotted.count (slotted : Slotted blockSize blockNum s) (positive : 1 ≤ blockSize.toNat) :
    s.2.length = ((List.range blockNum.toNat).filter fun k => s.1.m_allocTable[k]? = some true).length := by
  have slots : s.2.Perm (((List.range blockNum.toNat).filter fun k => s.1.m_allocTable[k]? = some true).map (·*blockSize.toNat)) := by
    apply (List.perm_ext_iff_of_nodup slotted.nodup ?_).mpr
    · intro ptr
      rw [slotted.held ptr]
      simp only [List.mem_map,List.mem_filter,List.mem_range,decide_eq_true_eq]
      constructor
      · rintro ⟨k,exact,marked⟩
        obtain ⟨bound,_⟩ := List.getElem?_eq_some_iff.mp marked
        exact ⟨k,⟨slotted.table ▸ bound,marked⟩,exact.symm⟩
      · rintro ⟨k,⟨_,marked⟩,exact⟩
        exact ⟨k,exact.symm,marked⟩
    · apply List.Nodup.map_on
      · intro k _ other _ same
        exact Nat.eq_of_mul_eq_mul_right positive same
      · exact List.nodup_range.filter _
  rw [slots.length_eq,List.length_map]

theorem Slotted.null (slotted : Slotted blockSize blockNum s) (positive : 1 ≤ blockSize.toNat) (small : blockNum.toNat < 2^31) :
    s.1.BlockAlloc = none ↔ s.2.length = blockNum.toNat := by
  have failed : s.1.BlockAlloc = none ↔ ∀ k < blockNum.toNat, s.1.m_allocTable[k]? = some true := by
    unfold VolumeBlockAllocator.BlockAlloc
    simp only [slotted.table,Int32.toInt_ofNat_of_lt small,Int.ofNat_lt]
    constructor
    · intro none k below
      split at none
      · cases none
      · rename_i late
        have before : k < s.1.m_allocTable.findIdx (· = false) := by omega
        have set := List.not_of_lt_findIdx before
        rw [List.getElem?_eq_getElem (by rw [slotted.table]; exact below)]
        simpa using set
    · intro all
      rw [if_neg]
      intro early
      have bound : s.1.m_allocTable.findIdx (· = false) < s.1.m_allocTable.length := by rw [slotted.table]; exact early
      have unset := List.findIdx_getElem (w := bound)
      have set := all _ early
      rw [List.getElem?_eq_getElem bound] at set
      simp_all
  rw [failed,slotted.count positive]
  have whole : (List.range blockNum.toNat).length = blockNum.toNat := List.length_range
  constructor
  · intro all
    rw [List.length_filter_eq_length_iff.mpr,whole]
    intro k inside
    simpa using all k (List.mem_range.mp inside)
  · intro same k below
    have full := List.length_filter_eq_length_iff.mp (same.trans whole.symm) k (List.mem_range.mpr below)
    simpa using full

theorem Slotted.allocates (slotted : Slotted blockSize blockNum s) (positive : 1 ≤ blockSize.toNat)
    (fits : blockSize.toNat*blockNum.toNat < 2^32) (small : blockNum.toNat < 2^31) : Allocates blockSize blockNum s where
  inside := by
    intro ptr present
    obtain ⟨k,exact,marked⟩ := (slotted.held ptr).mp present
    obtain ⟨bound,_⟩ := List.getElem?_eq_some_iff.mp marked
    have below : k+1 ≤ blockNum.toNat := slotted.table ▸ bound
    have size : poolSize blockSize blockNum = blockNum.toNat*blockSize.toNat := by
      rw [poolSize,UInt32.toNat_mul,Nat.mod_eq_of_lt fits,Nat.mul_comm]
    rw [size,exact,← Nat.succ_mul]
    exact Nat.mul_le_mul_right _ below
  apart := by
    apply slotted.nodup.imp_of_mem
    intro ptr other first second differ
    obtain ⟨k,exact,_⟩ := (slotted.held ptr).mp first
    obtain ⟨l,same,_⟩ := (slotted.held other).mp second
    have slots : k ≠ l := fun equal => differ (by rw [exact,same,equal])
    unfold Apart
    rw [exact,same,← Nat.succ_mul,← Nat.succ_mul]
    rcases Nat.lt_or_gt_of_ne slots with less | greater
    · exact .inl (Nat.mul_le_mul_right _ less)
    · exact .inr (Nat.mul_le_mul_right _ greater)
  marked := by
    intro k below
    rw [slotted.address fits below,slotted.held]
    constructor
    · exact fun set => ⟨k,rfl,set⟩
    · rintro ⟨slot,same,set⟩
      rwa [Nat.eq_of_mul_eq_mul_right positive same]
  null := slotted.null positive small
  freed := by
    intro ptr present
    obtain ⟨k,exact,marked,free⟩ := slotted.free positive present
    obtain ⟨bound,_⟩ := List.getElem?_eq_some_iff.mp marked
    exact ⟨k,_,by rw [slotted.address fits (slotted.table ▸ bound),exact],free,rfl⟩

def firstTaken (k n : Nat) : List Bool := .replicate k true++.replicate (n-k) false

theorem first_free {allocator : VolumeBlockAllocator} (table : allocator.m_allocTable = firstTaken k n) (below : k < n) (small : n < 2^31) :
    allocator.BlockAlloc = some (allocator.address k,{allocator with m_allocTable := firstTaken (k+1) n}) := by
  have tail : List.replicate (n-k) false = false::List.replicate (n-(k+1)) false := by
    rw [show n-k = n-(k+1)+1 by omega,List.replicate_succ]
  have length : (firstTaken k n).length = n := by simp [firstTaken]; omega
  have first : (firstTaken k n).findIdx (· = false) = k := by
    have behind : (List.replicate k true).findIdx (· = false) = k := by
      rw [List.findIdx_eq_length_of_false,List.length_replicate]
      intro slot inside
      simp [(List.mem_replicate.mp inside).2]
    rw [firstTaken,tail,List.findIdx_append,behind,if_neg (by simp)]
    simp [List.findIdx_cons]
  have taken : (firstTaken k n).set k true = firstTaken (k+1) n := by
    rw [firstTaken,tail,List.set_append_right _ _ (by simp)]
    simp only [List.length_replicate,Nat.sub_self,List.set_cons_zero,firstTaken]
    rw [List.replicate_succ',List.append_assoc]
    rfl
  unfold VolumeBlockAllocator.BlockAlloc
  simp only [table,first,length,taken,Int32.toInt_ofNat_of_lt small,Int.ofNat_lt,below,if_true]

theorem handed_out (small : blockNum.toNat < 2^31) (bound : k ≤ blockNum.toNat) : ∃ s,
    Runs allocatorStep FreesHeld (allocatorStart blockSize blockNum) (.replicate k .BlockAlloc) s ∧ s.1.m_blockSize = blockSize ∧
      s.1.m_allocTable = firstTaken k blockNum.toNat ∧ ∀ i < k, blockSize.toNat*i % 2^32 ∈ s.2 := by
  induction k with
  | zero => exact ⟨_,.nil,rfl,by simp [allocatorStart,VolumeBlockAllocator.new,firstTaken],nofun⟩
  | succ k ih =>
      obtain ⟨s,path,size,table,held⟩ := ih (by omega)
      have found := first_free table (by omega) small
      refine ⟨({s.1 with m_allocTable := firstTaken (k+1) blockNum.toNat},s.1.address k::s.2),?_,size,rfl,?_⟩
      · rw [List.replicate_succ']
        refine .step path ?_ (show FreesHeld s .BlockAlloc from trivial)
        simp only [allocatorStep,found]
      · intro i below
        rcases Nat.lt_succ_iff_lt_or_eq.mp below with less | rfl
        · exact List.mem_cons_of_mem _ (held i less)
        · rw [VolumeBlockAllocator.address,size]
          exact List.mem_cons_self

-- The buffers of an allocator lie apart and inside, whatever the order of the calls, just where neither the size of
-- the pool nor the bound of the search wraps.
theorem allocator_disjoint (blockSize blockNum : UInt32) (positive : 1 ≤ blockSize.toNat) :
    (∀ actions s, Runs allocatorStep FreesHeld (allocatorStart blockSize blockNum) actions s → Allocates blockSize blockNum s) ↔
      blockSize.toNat*blockNum.toNat < 2^32 ∧ blockNum.toNat < 2^31 := by
  constructor
  · intro all
    -- The first buffer is handed out only if the bound is a positive int.
    have small : blockNum.toNat < 2^31 := by
      have first := (all [] _ .nil).null
      apply Nat.lt_of_not_le
      intro large
      have none : (allocatorStart blockSize blockNum).1.BlockAlloc = none := by
        unfold VolumeBlockAllocator.BlockAlloc
        simp only [allocatorStart,VolumeBlockAllocator.new,List.length_replicate]
        rw [if_neg]
        have bound := blockNum.toNat_lt
        rw [Int32.toInt_ofNat',show Int32.size = 2^32 from rfl,Int.bmod_def]
        split <;> omega
      have full := first.mp none
      simp only [allocatorStart,List.length_nil] at full
      omega
    refine ⟨?_,small⟩
    apply Nat.lt_of_not_le
    intro wraps
    -- One buffer more than fit into the pool can be handed out.
    have pool : poolSize blockSize blockNum < 2^32 := (blockSize*blockNum).toNat_lt
    have most : poolSize blockSize blockNum/blockSize.toNat < blockNum.toNat := by
      apply Nat.div_lt_of_lt_mul
      omega
    obtain ⟨s,path,_,_,held⟩ := handed_out small (Nat.succ_le_of_lt most)
    have inside := (all _ s path).inside _ (held _ (Nat.lt_succ_self _))
    have split := Nat.div_add_mod (poolSize blockSize blockNum) blockSize.toNat
    have rest := Nat.mod_lt (poolSize blockSize blockNum) positive
    rw [Nat.mod_eq_of_lt (by omega)] at inside
    omega
  · rintro ⟨fits,small⟩ actions s path
    have slotted : Slotted blockSize blockNum s := path.invariant (Slotted blockSize blockNum) .start
      fun _ _ _ known ran holds => known.step positive fits ran holds
    exact slotted.allocates positive fits small

theorem allocator_disjoint_default : DEFAULT_BLOCK_SIZE.toNat*32 < 2^32 ∧ ∀ actions s,
    Runs allocatorStep FreesHeld (allocatorStart DEFAULT_BLOCK_SIZE 32) actions s → Allocates DEFAULT_BLOCK_SIZE 32 s :=
  ⟨by decide,(allocator_disjoint DEFAULT_BLOCK_SIZE 32 (by decide)).mpr (by decide)⟩

-- Of 32 buffers of 200 MiB the pool has room for 11, and the next one goes past its end.
theorem allocator_overruns : ¬∀ actions s,
    Runs allocatorStep FreesHeld (allocatorStart 209715200 32) actions s → Allocates 209715200 32 s := by
  intro all
  obtain ⟨s,path,_,_,held⟩ := @handed_out 209715200 32 12 (by decide) (by decide)
  have inside := (all _ s path).inside _ (held 11 (by decide))
  exact absurd inside (by decide)

end VolumeBackup
