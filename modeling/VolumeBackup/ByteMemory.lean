import Mathlib.Algebra.Group.Nat.Defs

namespace ByteMemory

-- Bytes by address. A store of `length` bytes changes the addresses `offset ..< offset+length`.
abbrev Memory := Nat → UInt8

def zeros : Memory := fun _ => 0

def store (memory : Memory) (offset length : Nat) (data : Memory) : Memory :=
  fun address => if offset ≤ address ∧ address < offset+length then data (address-offset) else memory address

def read (memory : Memory) : Nat → Nat → List UInt8
  | _,0 => []
  | offset,length+1 => memory offset::read memory (offset+1) length

def Same (length : Nat) (memory : Memory) (offset : Nat) (other : Memory) (start : Nat) : Prop :=
  ∀ k < length, memory (offset+k) = other (start+k)

variable {memory data other third : Memory} {offset length start width position origin part address : Nat}

def Apart (offset length start width : Nat) : Prop := offset+length ≤ start ∨ start+width ≤ offset

theorem Apart.symm (apart : Apart offset length start width) : Apart start width offset length := Or.symm apart

theorem Same.refl : Same length memory offset memory offset := fun _ _ => rfl

theorem Same.symm (same : Same length memory offset other start) : Same length other start memory offset :=
  fun k bound => (same k bound).symm

theorem Same.trans (left : Same length memory offset other start)
    (right : Same length other start third origin) : Same length memory offset third origin :=
  fun k bound => (left k bound).trans (right k bound)

theorem store_inside (lower : offset ≤ address) (upper : address < offset+length) :
    store memory offset length data address = data (address-offset) := if_pos ⟨lower,upper⟩

theorem store_outside (outside : address < offset ∨ offset+length ≤ address) :
    store memory offset length data address = memory address := if_neg (by omega)

theorem same_store : Same length (store memory offset length data) offset data 0 := by
  intro k bound
  rw [store_inside (by omega) (by omega)]
  congr 1
  omega

theorem same_store_at (same : Same length data 0 other start) :
    Same length (store memory offset length data) offset other start := same_store.trans same

theorem Same.store_apart (same : Same length memory offset other start)
    (apart : Apart position width offset length) :
    Same length (store memory position width data) offset other start := by
  intro k bound
  rw [store_outside (by rcases apart with before | behind <;> omega)]
  exact same k bound

theorem read_same : read memory offset length = read other start length ↔ Same length memory offset other start := by
  induction length generalizing offset start with
  | zero => simp [read,Same]
  | succ length ih =>
      simp only [read,List.cons.injEq,ih]
      constructor
      · rintro ⟨first,rest⟩ k bound
        cases k with
        | zero => exact first
        | succ k => simpa only [Nat.add_assoc,Nat.add_comm 1 k] using rest k (by omega)
      · intro same
        refine ⟨same 0 (by omega),fun k bound => ?_⟩
        simpa only [Nat.add_assoc,Nat.add_comm 1 k] using same (k+1) (by omega)

-- A finite sequence of bytes is a memory with a size; past the size every byte is zero, so that equal
-- sizes and equal bytes inside make equal contents, and a read past the end finds the zero padding.
structure Content where
  size : Nat
  byte : Memory
  padded : ∀ address, size ≤ address → byte address = 0

@[ext] theorem Content.ext {left right : Content} (size : left.size = right.size)
    (byte : ∀ address, address < left.size → left.byte address = right.byte address) : left = right := by
  obtain ⟨n,f,padded⟩ := left
  obtain ⟨m,g,clear⟩ := right
  cases size
  have equal : f = g := by
    funext address
    by_cases inside : address < n
    · exact byte address inside
    · rw [padded address (by omega),clear address (by omega)]
  cases equal
  rfl

instance : DecidableEq Content := fun left right =>
  decidable_of_iff (left.size = right.size ∧ ∀ address < left.size, left.byte address = right.byte address)
    ⟨fun same => Content.ext same.1 same.2,fun same => same ▸ ⟨rfl,fun _ _ => rfl⟩⟩

def Content.of (size : Nat) (memory : Memory) : Content where
  size := size
  byte := fun address => if address < size then memory address else 0
  padded := fun address past => if_neg (by omega)

def Content.empty : Content := .of 0 zeros

-- Which bytes of an interrupted write arrived: some of those below `reach`.
structure Tear where
  arrived : Nat → Bool
  reach : Nat

variable {content : Content} {torn : Tear}

@[simp] theorem Content.of_size : (Content.of length memory).size = length := rfl

theorem Content.of_byte (inside : address < length) : (Content.of length memory).byte address = memory address :=
  if_pos inside

theorem Content.of_same : Same length (Content.of length memory).byte 0 memory 0 := by
  intro k bound
  exact Content.of_byte (by omega)

def Content.resize (content : Content) (size : Nat) : Content := .of size content.byte

-- A positioned write; past the end it grows the content and leaves zeros in any gap.
def Content.write (content : Content) (offset length : Nat) (data : Memory) : Content where
  size := if length = 0 then content.size else max content.size (offset+length)
  byte := store content.byte offset length data
  padded := by
    intro address past
    split at past
    · rename_i none
      rw [store_outside (by omega)]
      exact content.padded address past
    · rw [store_outside (by omega)]
      exact content.padded address (by omega)

def Content.tear (content : Content) (offset length : Nat) (data : Memory) (torn : Tear) : Content :=
  content.write offset (min length torn.reach) fun k => if torn.arrived k then data k else content.byte (offset+k)

-- A read is exact: it gives the bytes only where the whole range lies inside.
def Content.read (content : Content) (offset length : Nat) : Option Memory :=
  if offset+length ≤ content.size then some fun k => content.byte (offset+k) else none

def Content.Holds (content : Content) (offset length : Nat) (other : Memory) (start : Nat) : Prop :=
  offset+length ≤ content.size ∧ Same length content.byte offset other start

instance : Decidable (Content.Holds content offset length other start) :=
  inferInstanceAs (Decidable (_ ∧ ∀ k < length, _))

theorem Content.read_some (done : content.read offset length = some data) :
    offset+length ≤ content.size ∧ data = fun k => content.byte (offset+k) := by
  unfold Content.read at done
  split at done
  · rename_i fits
    exact ⟨fits,(Option.some.inj done).symm⟩
  · cases done

theorem Content.size_write : content.size ≤ (Content.write content offset length data).size := by
  unfold Content.write
  dsimp only
  split <;> omega

theorem Content.write_holds (some : 0 < length) (same : Same length data 0 other start) :
    (Content.write content offset length data).Holds offset length other start := by
  refine ⟨?_,same_store_at same⟩
  unfold Content.write
  dsimp only
  rw [if_neg (by omega)]
  omega

theorem Content.Holds.write_apart (held : Content.Holds content offset length other start)
    (apart : Apart position width offset length) :
    (Content.write content position width data).Holds offset length other start :=
  ⟨Nat.le_trans held.1 Content.size_write,held.2.store_apart apart⟩

theorem Content.Holds.write_same (held : Content.Holds content offset length other start)
    (same : ∀ k < width, offset ≤ position+k → position+k < offset+length →
      data k = other (start+(position+k-offset)) ∨ data k = content.byte (position+k)) :
    (Content.write content position width data).Holds offset length other start := by
  refine ⟨Nat.le_trans held.1 Content.size_write,?_⟩
  intro k bound
  change store content.byte position width data (offset+k) = other (start+k)
  by_cases inside : position ≤ offset+k ∧ offset+k < position+width
  · rw [store_inside inside.1 inside.2]
    have place : position+(offset+k-position) = offset+k := by omega
    rcases same (offset+k-position) (by omega) (by omega) (by omega) with equal | kept
    · rw [equal,place,Nat.add_sub_cancel_left]
    · rw [kept,place]
      exact held.2 k bound
  · rw [store_outside (by omega)]
    exact held.2 k bound

theorem Content.write_outside (outside : address < offset ∨ offset+length ≤ address) :
    (Content.write content offset length data).byte address = content.byte address := store_outside outside

end ByteMemory
