import Mathlib.Algebra.Group.Nat.Defs
import Mathlib.Data.List.TakeWhile

-- Records in a buffer of bytes: numbers in little-endian order, texts that end with a zero, and records of any length that tell where
-- the next one begins.
namespace ByteRecords

def encode : Nat → Nat → List UInt8
  | 0,_ => []
  | width+1,value => UInt8.ofNat value::encode width (value/256)

def decode : List UInt8 → Nat
  | [] => 0
  | byte::rest => byte.toNat+256*decode rest

@[simp] theorem length_encode : (encode width value).length = width := by
  induction width generalizing value with
  | zero => rfl
  | succ width ih => rw [encode,List.length_cons,ih]

theorem decode_encode (small : value < 256^width) : decode (encode width value) = value := by
  induction width generalizing value with
  | zero =>
      have none : value = 0 := by simpa using small
      rw [none]
      rfl
  | succ width ih =>
      have rest : value/256 < 256^width := by
        rw [Nat.pow_succ] at small
        exact Nat.div_lt_of_lt_mul (by rwa [Nat.mul_comm])
      have byte : (UInt8.ofNat value).toNat = value % 256 := UInt8.toNat_ofNat'
      rw [encode,decode,ih rest,byte]
      exact Nat.mod_add_div value 256

def cstring (bytes : List UInt8) : Option (List UInt8) :=
  if 0 ∈ bytes then some (bytes.takeWhile fun byte => byte ≠ 0) else none

theorem cstring_text {text rest : List UInt8} (clear : 0 ∉ text) : cstring (text++0::rest) = some text := by
  have inside : (0 : UInt8) ∈ text++0::rest := by simp
  unfold cstring
  rw [if_pos inside,List.takeWhile_append_of_pos]
  · simp
  · intro byte member
    exact decide_eq_true fun zero => clear (zero ▸ member)

section chain
variable {ρ : Type u} {τ : Type v} (read : List UInt8 → Option (ρ × Nat))

-- Reads so many records one after the other, each as far behind the one before as that tells: where each is, and where they end.
def walk (buffer : List UInt8) : Nat → Nat → Option (List (Nat × ρ) × Nat)
  | 0,offset => some ([],offset)
  | count+1,offset => (read (buffer.drop offset)).bind fun (record,next) =>
      (walk buffer count (offset+next)).map fun (records,final) => ((offset,record)::records,final)

def places (written : τ → List UInt8) (view : τ → ρ) : Nat → List τ → List (Nat × ρ)
  | _,[] => []
  | offset,target::rest => (offset,view target)::places written view (offset+(written target).length) rest

variable {read}

theorem walk_step {buffer : List UInt8} {count offset next : Nat} {record : ρ} (first : read (buffer.drop offset) = some (record,next)) :
    walk read buffer (count+1) offset =
      (walk read buffer count (offset+next)).map fun (records,final) => ((offset,record)::records,final) := by
  rw [walk,first]
  rfl

variable {written : τ → List UInt8} {view : τ → ρ} {targets : List τ}

@[simp] theorem places_records {offset : Nat} : (places written view offset targets).map Prod.snd = targets.map view := by
  induction targets generalizing offset with
  | nil => rfl
  | cons target rest ih => rw [places,List.map_cons,List.map_cons,ih]

theorem places_aligned {n offset : Nat} (aligned : ∀ target ∈ targets, n ∣ (written target).length) (start : n ∣ offset) :
    ∀ place ∈ places written view offset targets, n ∣ place.1 := by
  induction targets generalizing offset with
  | nil => nofun
  | cons target rest ih =>
      have first := aligned target List.mem_cons_self
      have later := ih (fun other inside => aligned other (List.mem_cons_of_mem _ inside)) (Nat.dvd_add start first)
      intro place inside
      rcases List.mem_cons.mp inside with rfl | inside
      · exact start
      · exact later place inside

variable (exact : ∀ target ∈ targets, ∀ rest, read (written target++rest) = some (view target,(written target).length))
include exact

theorem walk_places (front : List UInt8) : walk read (front++targets.flatMap written) targets.length front.length =
    some (places written view front.length targets,(front++targets.flatMap written).length) := by
  induction targets generalizing front with
  | nil => simp [walk,places]
  | cons target rest ih =>
      have first := exact target List.mem_cons_self (rest.flatMap written)
      have later := ih (fun other inside => exact other (List.mem_cons_of_mem _ inside)) (front++written target)
      rw [List.append_assoc,List.length_append] at later
      have here : (front++(written target++rest.flatMap written)).drop front.length = written target++rest.flatMap written := List.drop_left
      rw [← here] at first
      rw [List.length_cons,List.flatMap_cons,walk_step first,later]
      rfl

theorem walk_beyond (nothing : read [] = none) (more : Nat) (front : List UInt8) :
    walk read (front++targets.flatMap written) (targets.length+more+1) front.length = none := by
  induction targets generalizing front with
  | nil => simp [walk,nothing]
  | cons target rest ih =>
      have first := exact target List.mem_cons_self (rest.flatMap written)
      have later := ih (fun other inside => exact other (List.mem_cons_of_mem _ inside)) (front++written target)
      have count : (target::rest).length+more+1 = rest.length+more+1+1 := by simp; omega
      rw [List.append_assoc,List.length_append] at later
      have here : (front++(written target++rest.flatMap written)).drop front.length = written target++rest.flatMap written := List.drop_left
      rw [← here] at first
      rw [count,List.flatMap_cons,walk_step first,later]
      rfl

end chain

end ByteRecords
