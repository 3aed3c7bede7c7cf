import VolumeBackup.FlowMarks
import VolumeBackup.BlockGeometry

namespace VolumeBackup
open ByteMemory

-- What a session has to be for its buffers to lie apart in the pool: 32-bit addresses that do not wrap.
structure Pooled (config : VolumeTaskSharedConfig) : Prop where
  positive : 0 < config.blockSize.toNat
  fits : DEFAULT_ALLOCATOR_BLOCK_NUM*config.blockSize.toNat < 2^32

def Flow.buffers (f : Flow) : Multiset Nat := f.inFlight.map VolumeConsumeBlock.ptr+f.loose

-- The buffers in use are different ones, and each has its mark in the table; the reader keeps the
-- buffer of a read that failed, and no other buffer is marked.
structure Buffers (env : SessionEnv) (f : Flow) : Prop where
  size : f.allocator.m_blockSize = env.config.blockSize
  table : f.allocator.m_allocTable.length = DEFAULT_ALLOCATOR_BLOCK_NUM
  apart : f.buffers.Nodup
  taken : ∀ ptr ∈ f.buffers, ∃ k, ptr = k*env.config.blockSize.toNat ∧ f.allocator.m_allocTable[k]? = some true
  marked : Unread f.history ∨ ∀ k, f.allocator.m_allocTable[k]? = some true → k*env.config.blockSize.toNat ∈ f.buffers

variable {env : SessionEnv} {source : Content} {o f g : Flow} {block other : VolumeConsumeBlock}

theorem alloc_slot {allocator next : VolumeBlockAllocator} (found : allocator.BlockAlloc = some (ptr,next)) :
    ∃ k, ptr = allocator.m_blockSize.toNat*k % 2^32 ∧ allocator.m_allocTable[k]? = some false ∧
      next = {allocator with m_allocTable := allocator.m_allocTable.set k true} := by
  unfold VolumeBlockAllocator.BlockAlloc at found
  dsimp only at found
  split at found
  · rename_i below
    have bound := int_bound below
    cases Option.some.inj found
    refine ⟨_,rfl,?_,rfl⟩
    have unset := List.findIdx_getElem (w := bound)
    rw [List.getElem?_eq_getElem bound]
    exact congrArg some (by simpa using unset)
  · cases found

theorem free_slot {allocator next : VolumeBlockAllocator} (free : allocator.BlockFree ptr = some next) :
    next = {allocator with m_allocTable := allocator.m_allocTable.set (ptr/allocator.m_blockSize.toNat) false} := by
  unfold VolumeBlockAllocator.BlockFree at free
  split at free
  · exact (Option.some.inj free).symm
  · cases free

theorem Buffers.same (buffers : Buffers env f) (allocator : g.allocator = f.allocator)
    (held : g.buffers = f.buffers) (history : Unread f.history → Unread g.history) : Buffers env g := by
  refine ⟨?_,?_,?_,?_,?_⟩
  · rw [allocator]; exact buffers.size
  · rw [allocator]; exact buffers.table
  · rw [held]; exact buffers.apart
  · rw [held,allocator]; exact buffers.taken
  · rw [held,allocator]; exact buffers.marked.imp_left history

theorem Buffers.lose (buffers : Buffers env f) (allocator : g.allocator = f.allocator)
    (held : f.buffers = ptr ::ₘ g.buffers) (unread : Unread g.history) : Buffers env g := by
  refine ⟨?_,?_,?_,?_,.inl unread⟩
  · rw [allocator]; exact buffers.size
  · rw [allocator]; exact buffers.table
  · have apart := buffers.apart
    rw [held] at apart
    exact (Multiset.nodup_cons.mp apart).2
  · rw [allocator]
    intro other inside
    exact buffers.taken other (held ▸ Multiset.mem_cons_of_mem inside)

theorem Buffers.take (buffers : Buffers env f) (pooled : Pooled env.config)
    (found : f.allocator.BlockAlloc = some (ptr,g.allocator)) (held : g.buffers = ptr ::ₘ f.buffers)
    (history : g.history = f.history) : Buffers env g := by
  obtain ⟨k,same,unset,next⟩ := alloc_slot found
  obtain ⟨bound,_⟩ := List.getElem?_eq_some_iff.mp unset
  rw [buffers.size] at same
  -- The product does not wrap: k is below 32.
  have exact : ptr = k*env.config.blockSize.toNat := by
    have fits := pooled.fits
    have small : env.config.blockSize.toNat*k ≤ env.config.blockSize.toNat*DEFAULT_ALLOCATOR_BLOCK_NUM :=
      Nat.mul_le_mul_left _ (by rw [← buffers.table]; exact Nat.le_of_lt bound)
    rw [Nat.mul_comm env.config.blockSize.toNat DEFAULT_ALLOCATOR_BLOCK_NUM] at small
    rw [same,Nat.mod_eq_of_lt (by omega),Nat.mul_comm]
  have keeps (j : Nat) (set : f.allocator.m_allocTable[j]? = some true) :
      g.allocator.m_allocTable[j]? = some true := by
    rw [next]
    by_cases here : k = j
    · subst here; simp [bound]
    · simpa [here] using set
  refine ⟨?_,?_,?_,?_,?_⟩
  · rw [next]; exact buffers.size
  · rw [next]; simpa using buffers.table
  · rw [held]
    refine Multiset.nodup_cons.mpr ⟨fun inside => ?_,buffers.apart⟩
    obtain ⟨j,equal,set⟩ := buffers.taken ptr inside
    have slot : j = k := Nat.eq_of_mul_eq_mul_right pooled.positive (equal.symm.trans exact)
    rw [slot,unset] at set
    cases set
  · rw [held]
    intro other inside
    rcases Multiset.mem_cons.mp inside with rfl | earlier
    · exact ⟨k,exact,by rw [next]; simp [bound]⟩
    · obtain ⟨j,equal,set⟩ := buffers.taken other earlier
      exact ⟨j,equal,keeps j set⟩
  · rw [history,held,next]
    refine buffers.marked.imp_right fun marked j set => ?_
    by_cases here : k = j
    · subst here
      exact exact ▸ Multiset.mem_cons_self _ _
    · exact Multiset.mem_cons_of_mem (marked j (by simpa [here] using set))

theorem Buffers.give (buffers : Buffers env f) (pooled : Pooled env.config)
    (free : f.allocator.BlockFree ptr = some g.allocator) (held : f.buffers = ptr ::ₘ g.buffers)
    (history : Unread f.history → Unread g.history) : Buffers env g := by
  have next := free_slot free
  have apart := buffers.apart
  rw [held] at apart
  obtain ⟨gone,rest⟩ := Multiset.nodup_cons.mp apart
  obtain ⟨k,same,_⟩ := buffers.taken ptr (held ▸ Multiset.mem_cons_self _ _)
  have slot : ptr/f.allocator.m_blockSize.toNat = k := by
    rw [buffers.size,same,Nat.mul_div_cancel _ pooled.positive]
  refine ⟨?_,?_,rest,?_,?_⟩
  · rw [next]; exact buffers.size
  · rw [next]; simpa using buffers.table
  · intro other inside
    obtain ⟨j,equal,set⟩ := buffers.taken other (held ▸ Multiset.mem_cons_of_mem inside)
    refine ⟨j,equal,?_⟩
    have differ : k ≠ j := by
      rintro rfl
      rw [same,← equal] at gone
      exact gone inside
    rw [next,slot]
    simpa [differ] using set
  · rw [next,slot]
    refine buffers.marked.imp history fun marked j set => ?_
    have differ : k ≠ j := by
      rintro rfl
      simp [List.getElem?_set] at set
    have inside := marked j (by simpa [differ] using set)
    rw [held] at inside
    refine (Multiset.mem_cons.mp inside).resolve_left fun equal => differ ?_
    exact Nat.eq_of_mul_eq_mul_right pooled.positive (same.symm.trans equal.symm)

@[simp] theorem accept_allocator : (Flow.accept env f block).allocator = f.allocator := by
  unfold Flow.accept
  split <;> rfl

@[simp] theorem accept_loose : (Flow.accept env f block).loose = f.loose := by
  unfold Flow.accept
  split <;> rfl

@[simp] theorem forward_allocator : (Flow.forward env f block).allocator = f.allocator := by
  unfold Flow.forward
  split <;> rfl

@[simp] theorem forward_loose : (Flow.forward env f block).loose = f.loose := by
  unfold Flow.forward
  split <;> rfl

theorem Buffers.step (buffers : Buffers env f) (pooled : Pooled env.config) (step : FlowStep env source f g)
    (whole : ¬Torn g.history) : Buffers env g := by
  cases step with
  | allocate found =>
      refine buffers.take pooled found ?_ rfl
      simp [Flow.buffers,Flow.inFlight]
  | read chosen held made done =>
      subst made
      refine buffers.same (by simp) ?_ (by simpa using Unread.cons)
      simp only [Flow.buffers,accept_inFlight,accept_loose,Multiset.map_cons,held,Multiset.cons_add,Multiset.add_cons]
      rfl
  | unread held =>
      rename_i ptr others
      refine buffers.lose rfl (?_ : _ = ptr ::ₘ _) ⟨_,List.mem_cons_self⟩
      simp only [Flow.buffers,held,Multiset.add_cons]
      rfl
  | hash held same =>
      refine buffers.same (by simp) ?_ (by simpa using Unread.cons)
      simp only [Flow.buffers,forward_inFlight,forward_loose,Multiset.map_cons]
      simp [Flow.inFlight,held]
  | drop held equal | write held needed done | tear torn held | empty held zeros =>
      refine buffers.same rfl ?_ Unread.cons
      simp [Flow.buffers,Flow.inFlight,held]
  | pass held differ =>
      refine buffers.same rfl ?_ id
      simp [Flow.buffers,Flow.inFlight,held]
  | discard held free =>
      refine buffers.give pooled free ?_ Unread.cons
      simp [Flow.buffers,Flow.inFlight,held]
  | free held free =>
      refine buffers.give pooled free ?_ id
      simp [Flow.buffers,Flow.inFlight,held]
  | freeEarly free failed => exact absurd failed whole
  | _ => exact buffers.same rfl rfl id

section block
variable (env : SessionEnv) (source : Content) (index : Nat)

def readPosition : Nat := env.dataReader.position (env.config.consumeBlockOffset index)
def writePosition : Nat := env.dataWriter.position (env.config.consumeBlockOffset index)
def blockBytes : List UInt8 := ByteMemory.read source.byte (readPosition env index) (env.config.nBytesToRead index)
def blockDigest : Digest := env.sha256 (blockBytes env source index)

end block

structure Carries (env : SessionEnv) (source : Content) (pool : Memory) (block : VolumeConsumeBlock) : Prop where
  inside : block.index ≤ env.config.m_maxIndex
  offset : block.volumeOffset = env.config.consumeBlockOffset block.index
  length : block.length = env.config.nBytesToRead block.index
  some : 0 < block.length
  bytes : Same block.length pool block.ptr source.byte (readPosition env block.index)
  within : readPosition env block.index+block.length ≤ source.size

theorem Carries.data (carries : Carries env source pool block) :
    ByteMemory.read pool block.ptr block.length = blockBytes env source block.index := by
  unfold blockBytes
  rw [← carries.length]
  exact read_same.mpr carries.bytes

def Carried (env : SessionEnv) (source : Content) (f : Flow) : Prop :=
  ∀ block ∈ f.inFlight, Carries env source f.pool block

theorem read_some {raw : RawData} (done : raw.Read source offset length = some data) :
    0 < length ∧ raw.position offset+length ≤ source.size ∧ data = fun k => source.byte (raw.position offset+k) := by
  unfold RawData.Read at done
  split at done
  · rename_i accepted
    have positive : 0 < length := by
      have bounds := of_decide_eq_true accepted.1
      omega
    exact ⟨positive,Content.read_some done⟩
  · cases done

theorem Buffers.apart_of (buffers : Buffers env f) (pooled : Pooled env.config) (held : f.loose = ptr ::ₘ others)
    (flying : block ∈ f.inFlight) (short : block.length ≤ env.config.blockSize.toNat)
    (less : length ≤ env.config.blockSize.toNat) : Apart ptr length block.ptr block.length := by
  have inside : block.ptr ∈ f.inFlight.map VolumeConsumeBlock.ptr := Multiset.mem_map_of_mem _ flying
  have apart := buffers.apart
  have mine : ptr ∈ f.buffers := Multiset.mem_add.mpr (.inr (held ▸ Multiset.mem_cons_self _ _))
  obtain ⟨k,first,_⟩ := buffers.taken ptr mine
  obtain ⟨j,second,_⟩ := buffers.taken block.ptr (Multiset.mem_add.mpr (.inl inside))
  have differ : k ≠ j := by
    rintro rfl
    rw [Flow.buffers,held,Multiset.add_cons] at apart
    exact (Multiset.nodup_cons.mp apart).1 (Multiset.mem_add.mpr (.inl (by rw [first,← second]; exact inside)))
  unfold Apart
  rw [first,second]
  have positive := pooled.positive
  rcases Nat.lt_or_gt_of_ne differ with less | greater
  · have step : k*env.config.blockSize.toNat+env.config.blockSize.toNat ≤ j*env.config.blockSize.toNat := by
      rw [← Nat.succ_mul]
      exact Nat.mul_le_mul_right _ less
    omega
  · have step : j*env.config.blockSize.toNat+env.config.blockSize.toNat ≤ k*env.config.blockSize.toNat := by
      rw [← Nat.succ_mul]
      exact Nat.mul_le_mul_right _ greater
    omega

@[simp] theorem accept_pool : (Flow.accept env f block).pool = f.pool := by
  unfold Flow.accept
  split <;> rfl

@[simp] theorem forward_pool : (Flow.forward env f block).pool = f.pool := by
  unfold Flow.forward
  split <;> rfl

theorem Carried.fewer (carried : Carried env source f) (pool : g.pool = f.pool)
    (held : ∀ block ∈ g.inFlight, block ∈ f.inFlight) : Carried env source g := by
  intro block flying
  rw [pool]
  exact carried block (held block flying)

theorem Carried.step (carried : Carried env source f) (buffers : Buffers env f) (pooled : Pooled env.config)
    (tokens : Tokens env f) (step : FlowStep env source f g) : Carried env source g := by
  cases step with
  | read chosen held made done =>
      rename_i ptr others data
      obtain ⟨some,fits,rfl⟩ := read_some done
      have short : env.config.nBytesToRead f.progress ≤ env.config.blockSize.toNat := nBytesToRead_le
      subst made
      intro block flying
      simp only [accept_inFlight,accept_pool,Multiset.mem_cons] at flying ⊢
      rcases flying with rfl | earlier
      · refine ⟨tokens.chosen chosen,rfl,rfl,some,?_,fits⟩
        exact same_store_at fun k bound => by simp [readPosition]
      · have known := carried block earlier
        have brief : block.length ≤ env.config.blockSize.toNat := known.length ▸ nBytesToRead_le
        exact {known with bytes := known.bytes.store_apart (buffers.apart_of pooled held earlier brief short)}
  | hash held same =>
      refine carried.fewer (by simp) ?_
      intro block flying
      simp only [forward_inFlight] at flying
      simpa [Flow.inFlight,held] using flying
  | drop held equal | write held needed done | tear torn held | empty held zeros | discard held free =>
      refine carried.fewer rfl ?_
      intro block flying
      simp only [Flow.inFlight,held,Multiset.mem_add,Multiset.mem_cons] at flying ⊢
      grind
  | pass held differ =>
      refine carried.fewer rfl ?_
      intro block flying
      simp only [Flow.inFlight,held,Multiset.mem_add,Multiset.mem_cons] at flying ⊢
      grind
  | _ => exact carried

end VolumeBackup
