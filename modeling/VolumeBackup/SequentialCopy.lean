import Mathlib.Data.List.Perm.Basic
import VolumeBackup.SessionCounters
import VolumeBackup.PipelineExactness

namespace ByteMemory

variable {memory data other : Memory} {content : Content} {offset length start width : Nat}

theorem store_comm (apart : Apart offset length start width) :
    store (store memory offset length data) start width other = store (store memory start width other) offset length data := by
  funext address
  by_cases first : offset ≤ address ∧ address < offset+length
  · rw [store_outside (by rcases apart with before | behind <;> omega),store_inside first.1 first.2,store_inside first.1 first.2]
  · have outside : address < offset ∨ offset+length ≤ address := by omega
    rw [store_outside outside]
    by_cases second : start ≤ address ∧ address < start+width
    · rw [store_inside second.1 second.2,store_inside second.1 second.2]
    · have beyond : address < start ∨ start+width ≤ address := by omega
      rw [store_outside beyond,store_outside beyond,store_outside outside]

theorem Content.write_comm (apart : Apart offset length start width) :
    (content.write offset length data).write start width other = (content.write start width other).write offset length data := by
  refine Content.ext ?_ fun address _ => congrFun (store_comm apart) address
  change (if width = 0 then (if length = 0 then content.size else max content.size (offset+length))
    else max (if length = 0 then content.size else max content.size (offset+length)) (start+width)) =
    if length = 0 then (if width = 0 then content.size else max content.size (start+width))
    else max (if width = 0 then content.size else max content.size (start+width)) (offset+length)
  split <;> split <;> omega

theorem Content.write_congr (same : Same length data 0 other 0) : content.write offset length data = content.write offset length other := by
  refine Content.ext rfl fun address _ => ?_
  change store content.byte offset length data address = store content.byte offset length other address
  by_cases inside : offset ≤ address ∧ address < offset+length
  · rw [store_inside inside.1 inside.2,store_inside inside.1 inside.2]
    simpa using same (address-offset) (by omega)
  · have outside : address < offset ∨ offset+length ≤ address := by omega
    rw [store_outside outside,store_outside outside]

end ByteMemory

namespace VolumeBackup
open ByteMemory

theorem setEntry_comm (differ : index ≠ other) :
    setEntry (setEntry table index digest) other second = setEntry (setEntry table other second) index digest :=
  store_comm (by unfold Apart; omega)

theorem set_comm (bitmap : Bitmap) (index other : Nat) : (bitmap.Set index).Set other = (bitmap.Set other).Set index := by
  unfold Bitmap.Set
  by_cases first : bitmap.m_capacity*BITS_PER_UINT8 ≤ index <;> by_cases second : bitmap.m_capacity*BITS_PER_UINT8 ≤ other <;>
    simp only [first,second,if_true,if_false]
  congr 1
  funext address
  split <;> split <;> first | rfl | rw [UInt8.or_assoc,UInt8.or_assoc,UInt8.or_comm (bitMask index)]

theorem needed_same (some : 0 < length) (same : Same length pool ptr other start) :
    NeedToWrite env pool ptr length = NeedToWrite env other start length := by
  have first : pool ptr = other start := by simpa using same 0 some
  have init : read pool ptr (length-1) = read other start (length-1) := read_same.mpr fun k bound => same k (by omega)
  have tail : read pool (ptr+1) (length-1) = read other (start+1) (length-1) := read_same.mpr fun k bound => by
    have next := same (k+1) (by omega)
    rwa [Nat.add_comm k,← Nat.add_assoc,← Nat.add_assoc] at next
  unfold NeedToWrite memcmp
  rw [first,init,tail]

-- What a session leaves behind besides its threads, queues and buffers.
structure Effects where
  counter : SessionCounter
  target : Content
  lastestTable : Memory
  processedBitmap : Bitmap
  writtenBitmap : Bitmap

def Session.effects (s : Session) : Effects := ⟨s.counter,s.target,s.hashingContext.lastestTable,s.processedBitmap,s.writtenBitmap⟩

section sequential
variable (env : SessionEnv) (source : Content) (previous : Memory)

def putBlock (index : Nat) (target : Content) : Content :=
  target.write (writePosition env index) (env.config.nBytesToRead index) fun k => source.byte (readPosition env index+k)

def putDigest (index : Nat) (table : Memory) : Memory := setEntry table index (blockDigest env source index)

def putBit (index : Nat) (bitmap : Bitmap) : Bitmap := bitmap.Set index

def Needed (index : Nat) : Bool := NeedToWrite env source.byte (readPosition env index) (env.config.nBytesToRead index)

def Effects.copyBlock (e : Effects) (index : Nat) : Effects :=
  if env.config.checkpointEnabled && e.processedBitmap.Test index then e
  else
    let length := env.config.nBytesToRead index
    let read := {e with counter := {e.counter with bytesRead := e.counter.bytesRead+length}}
    let hashed := if env.config.hasherEnabled then
        {read with
          lastestTable := putDigest env source index read.lastestTable,
          counter := {read.counter with blocksToHash := read.counter.blocksToHash+1,blocksHashed := read.counter.blocksHashed+1}}
      else read
    if Unchanged env source previous index then {hashed with processedBitmap := putBit index hashed.processedBitmap}
    else
      {hashed with
        target := if Needed env source index then putBlock env source index hashed.target else hashed.target,
        processedBitmap := putBit index hashed.processedBitmap,
        writtenBitmap := putBit index hashed.writtenBitmap,
        counter := {hashed.counter with
          bytesToWrite := hashed.counter.bytesToWrite+length,bytesWritten := hashed.counter.bytesWritten+length}}

-- No threads, no queues and no buffers: one block after the other.
def Effects.copyAll (e : Effects) : Effects :=
  (List.range (env.config.m_maxIndex+1)).foldl (Effects.copyBlock env source previous)
    {e with counter := {e.counter with bytesToRead := env.config.sessionSize.toNat}}

def Due (processed : Bitmap) (index : Nat) : Bool := !(env.config.checkpointEnabled && processed.Test index)

def due (processed : Bitmap) (indices : List Nat) : List Nat := indices.filter (Due env processed)

def differing (indices : List Nat) : List Nat := indices.filter fun index => !Unchanged env source previous index

def needed (indices : List Nat) : List Nat := indices.filter (Needed env source)

def Effects.after (e : Effects) (read passed wrote : List Nat) : Effects where
  counter := {e.counter with
    bytesRead := e.counter.bytesRead+env.config.bytes read,
    blocksToHash := e.counter.blocksToHash+if env.config.hasherEnabled then read.length else 0,
    blocksHashed := e.counter.blocksHashed+if env.config.hasherEnabled then read.length else 0,
    bytesToWrite := e.counter.bytesToWrite+env.config.bytes passed,
    bytesWritten := e.counter.bytesWritten+env.config.bytes passed}
  target := wrote.foldr (putBlock env source) e.target
  lastestTable := if env.config.hasherEnabled then read.foldr (putDigest env source) e.lastestTable else e.lastestTable
  processedBitmap := read.foldr putBit e.processedBitmap
  writtenBitmap := passed.foldr putBit e.writtenBitmap

end sequential

variable {env : SessionEnv} {source : Content} {previous : Memory} {e : Effects}

section lists
variable {processed : Bitmap} {indices : List Nat}

theorem mem_due : index ∈ due env processed indices ↔ index ∈ indices ∧ Due env processed index = true := List.mem_filter

theorem mem_differing : index ∈ differing env source previous indices ↔ index ∈ indices ∧ Unchanged env source previous index = false := by
  unfold differing
  rw [List.mem_filter,Bool.not_eq_true']

theorem mem_needed : index ∈ needed env source indices ↔ index ∈ indices ∧ Needed env source index = true := List.mem_filter

theorem due_nodup (once : indices.Nodup) : (due env processed indices).Nodup := once.filter _
theorem differing_nodup (once : indices.Nodup) : (differing env source previous indices).Nodup := once.filter _
theorem needed_nodup (once : indices.Nodup) : (needed env source indices).Nodup := once.filter _

end lists

theorem putBits_test {bitmap : Bitmap} {indices : List Nat} (absent : index ∉ indices) : (indices.foldr putBit bitmap).Test index = bitmap.Test index := by
  induction indices with
  | nil => rfl
  | cons first rest ih =>
      have differ : index ≠ first := fun same => absent (same ▸ List.mem_cons_self)
      rw [List.foldr_cons,putBit,test_set,ih fun later => absent (List.mem_cons_of_mem _ later)]
      simp [differ]

theorem Effects.copyBlock_after {read passed wrote : List Nat} (fresh : index ∉ read) :
    (e.after env source read passed wrote).copyBlock env source previous index =
      if Due env e.processedBitmap index = false then e.after env source read passed wrote
      else if Unchanged env source previous index then e.after env source (index::read) passed wrote
      else if Needed env source index then e.after env source (index::read) (index::passed) (index::wrote)
      else e.after env source (index::read) (index::passed) wrote := by
  have same : (e.after env source read passed wrote).processedBitmap.Test index = e.processedBitmap.Test index := putBits_test fresh
  have passed : (env.config.checkpointEnabled && e.processedBitmap.Test index) = !Due env e.processedBitmap index := by simp [Due]
  unfold Effects.copyBlock
  rw [same,passed]
  cases Due env e.processedBitmap index with
  | false => rfl
  | true =>
      cases hasher : env.config.hasherEnabled <;> cases unchanged : Unchanged env source previous index <;>
        cases need : Needed env source index <;>
        simp [Effects.after,hasher,← Multiset.cons_coe,Nat.add_assoc,Nat.add_comm]

theorem fold_copyBlock {indices : List Nat} (once : indices.Nodup) :
    indices.foldl (Effects.copyBlock env source previous) e = e.after env source (due env e.processedBitmap indices).reverse
      (differing env source previous (due env e.processedBitmap indices)).reverse
      (needed env source (differing env source previous (due env e.processedBitmap indices))).reverse := by
  induction indices using List.reverseRecOn with
  | nil => simp [due,differing,needed,Effects.after]
  | append_singleton earlier index ih =>
      obtain ⟨before,_,apart⟩ := List.nodup_append.mp once
      have fresh : index ∉ (due env e.processedBitmap earlier).reverse := by
        intro inside
        exact apart index (List.mem_filter.mp (List.mem_reverse.mp inside)).1 index (by simp) rfl
      rw [List.foldl_append,ih before,List.foldl_cons,List.foldl_nil,Effects.copyBlock_after fresh]
      cases passed : Due env e.processedBitmap index <;> cases unchanged : Unchanged env source previous index <;>
        cases need : Needed env source index <;>
        simp [due,differing,needed,List.filter_append,passed,unchanged,need]

end VolumeBackup
