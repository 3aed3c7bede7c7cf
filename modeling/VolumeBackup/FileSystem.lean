import VolumeBackup.ByteMemory

namespace VolumeBackup
open ByteMemory

abbrev Disk := String → Option Content

-- What a call of the operating system, or the clock, answers. A file that could not be written may
-- have been opened and truncated before, and then keeps some first part of its new content.
inductive Reply where
  | yes
  | no (kept : Option Nat)
  deriving DecidableEq, Repr

def Reply.isYes : Reply → Bool
  | .yes => true
  | .no _ => false

def Reply.opened : Reply → Bool
  | .yes => true
  | .no kept => kept.isSome

section operations
variable (disk : Disk) (path : String)

def Disk.put (content : Content) : Disk := fun other => if other = path then some content else disk other

def RemoveFile : Disk := fun other => if other = path then none else disk other

def IsFileExists : Bool := (disk path).isSome

def GetFileSize : Nat := ((disk path).map Content.size).getD 0

-- A buffer of zeros, filled from the file as far as that reaches.
def ReadBinaryBuffer (length : Nat) : Option Memory :=
  if length = 0 then none else (disk path).map Content.byte

def Disk.save (content : Content) : Reply → Disk
  | .yes => disk.put path content
  | .no none => disk
  | .no (some kept) => disk.put path (content.resize (min kept content.size))

def WriteBinaryBuffer (buffer : Memory) (length : Nat) (reply : Reply) : Disk := disk.save path (.of length buffer) reply

end operations

variable {disk : Disk} {path other : String} {content : Content} {reply : Reply}

@[simp] theorem put_same : disk.put path content path = some content := if_pos rfl

theorem put_other (differ : other ≠ path) : disk.put path content other = disk other := if_neg differ

@[simp] theorem put_put {latest : Content} : (disk.put path content).put path latest = disk.put path latest := by
  funext other
  simp only [Disk.put]
  split <;> rfl

@[simp] theorem remove_same : RemoveFile disk path path = none := if_pos rfl

theorem remove_other (differ : other ≠ path) : RemoveFile disk path other = disk other := if_neg differ

theorem save_other (differ : other ≠ path) : disk.save path content reply other = disk other := by
  unfold Disk.save
  split
  · exact put_other differ
  · rfl
  · exact put_other differ

theorem reply_yes (yes : reply.isYes = true) : reply = .yes := by
  cases reply with
  | yes => rfl
  | no kept => cases yes

theorem resize_whole : content.resize content.size = content := by
  refine Content.ext rfl fun address inside => ?_
  exact Content.of_byte inside

theorem save_whole (saved : disk.save path content reply path = some result) (whole : result.size = content.size) :
    disk path = some result ∨ result = content := by
  unfold Disk.save at saved
  split at saved
  · exact .inr (Option.some.inj (put_same.symm.trans saved)).symm
  · exact .inl saved
  · rename_i kept
    have same := Option.some.inj (put_same.symm.trans saved)
    subst same
    refine .inr ?_
    rw [show min kept content.size = content.size from whole]
    exact resize_whole

end VolumeBackup
