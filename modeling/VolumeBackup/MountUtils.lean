import VolumeBackup.FileSystem

namespace VolumeBackup

def MAX_UMOUNT_RETRY : Nat := 3

structure MountEntry where
  devicePath : String
  mountTargetPath : String
  type : String
  options : String
  deriving DecidableEq, Repr

section mounts
variable (mounts : List MountEntry)

-- umount2() takes the mount on top of the target away, which is the last of its lines, or it fails.
def umount2 (mountTargetPath : String) (granted : Bool) : List MountEntry :=
  if granted then (mounts.reverse.eraseP fun entry => entry.mountTargetPath = mountTargetPath).reverse else mounts

-- The device of an entry is not looked at, and a table that cannot be opened counts as empty.
def GetAllMounts (_devicePath : String) (opened : Bool) : List MountEntry := if opened then mounts else []

def umountEntries (granted : Nat → Bool) : Nat → List MountEntry → List MountEntry → List MountEntry
  | _,[],mounts => mounts
  | call,entry::rest,mounts => umountEntries granted (call+1) rest (umount2 mounts entry.mountTargetPath (granted call))

def umountRetries (devicePath : String) (opened : Nat → Bool) (granted : Nat → Nat → Bool) :
    Nat → Nat → List MountEntry → List MountEntry → Bool × List MountEntry
  | 0,_,entries,mounts => (entries.isEmpty,mounts)
  | left+1,retry,entries,mounts =>
    if entries.isEmpty then (true,mounts)
    else
      let after := umountEntries (granted retry) 0 entries mounts
      umountRetries devicePath opened granted left (retry+1) (GetAllMounts after devicePath (opened (retry+1))) after

-- What UmountAll returns and the mounts it leaves, where the table opens at its n-th reading as `opened n`
-- says, and the calls of each round are answered as `granted` says.
def UmountAll (devicePath : String) (opened : Nat → Bool) (granted : Nat → Nat → Bool) : Bool × List MountEntry :=
  umountRetries devicePath opened granted MAX_UMOUNT_RETRY 0 (GetAllMounts mounts devicePath (opened 0)) mounts

end mounts

def UmountsDevice (mounts : List MountEntry) (devicePath : String) (opened : Nat → Bool) (granted : Nat → Nat → Bool) : Prop :=
  (UmountAll mounts devicePath opened granted).2.filter (fun entry => entry.devicePath ≠ devicePath) =
      mounts.filter (fun entry => entry.devicePath ≠ devicePath) ∧
    ((UmountAll mounts devicePath opened granted).1 = true ↔
      ∀ entry ∈ (UmountAll mounts devicePath opened granted).2, entry.devicePath ≠ devicePath)

-- The table opens and lists mounts of the device only, at each reading that the loop may come to; or it
-- does not open, and lists none of them.
def DeviceOnly (mounts : List MountEntry) (devicePath : String) (opened : Nat → Bool) : Prop :=
  if opened 0 then
    (∀ entry ∈ mounts, entry.devicePath = devicePath) ∧ (mounts = [] ∨ opened 1 = true ∧ opened 2 = true ∧ opened 3 = true)
  else ∀ entry ∈ mounts, entry.devicePath ≠ devicePath

variable {mounts entries : List MountEntry} {devicePath target : String} {opened : Nat → Bool} {granted : Nat → Nat → Bool}
  {answers : Nat → Bool}

theorem umount2_subset (answer : Bool) : umount2 mounts target answer ⊆ mounts := by
  cases answer with
  | false => exact List.Subset.refl _
  | true =>
      intro entry inside
      have earlier := List.mem_of_mem_eraseP (List.mem_reverse.mp inside)
      exact List.mem_reverse.mp earlier

theorem umount2_targets : List.Perm ((umount2 mounts target true).map MountEntry.mountTargetPath)
    ((mounts.map MountEntry.mountTargetPath).erase target) := by
  have taken : ((umount2 mounts target true).map MountEntry.mountTargetPath).reverse =
      ((mounts.map MountEntry.mountTargetPath).reverse).erase target := by
    simp only [umount2,if_true,← List.map_reverse,List.reverse_reverse]
    induction mounts.reverse with
    | nil => rfl
    | cons entry rest ih =>
        by_cases same : entry.mountTargetPath = target
        · simp [same]
        · simp [same,ih]
  refine (List.reverse_perm _).symm.trans ?_
  rw [taken]
  exact (List.reverse_perm _).erase target

theorem umountEntries_subset (call : Nat) : umountEntries answers call entries mounts ⊆ mounts := by
  induction entries generalizing call mounts with
  | nil => exact List.Subset.refl _
  | cons entry rest ih => exact List.Subset.trans (ih (call+1)) (umount2_subset _)

theorem umountEntries_refused (call : Nat) : umountEntries (fun _ => false) call entries mounts = mounts := by
  induction entries generalizing call with
  | nil => rfl
  | cons entry rest ih => exact ih (call+1)

theorem umountEntries_granted (call : Nat) (all : List.Perm (entries.map MountEntry.mountTargetPath)
    (mounts.map MountEntry.mountTargetPath)) : umountEntries (fun _ => true) call entries mounts = [] := by
  induction entries generalizing call mounts with
  | nil =>
      have empty := List.Perm.nil_eq all
      exact List.map_eq_nil_iff.mp empty.symm
  | cons entry rest ih =>
      apply ih (call+1)
      refine List.Perm.trans ?_ umount2_targets.symm
      simpa using all.erase entry.mountTargetPath

theorem umountRetries_subset (left retry : Nat) : (umountRetries devicePath opened granted left retry entries mounts).2 ⊆ mounts := by
  induction left generalizing retry entries mounts with
  | zero => exact List.Subset.refl _
  | succ left ih =>
      unfold umountRetries
      split
      · exact List.Subset.refl _
      · exact List.Subset.trans (ih (retry+1)) (umountEntries_subset 0)

theorem umountRetries_result (left retry : Nat) (opens : ∀ k, k < left → opened (retry+k+1) = true) (listed : entries = mounts) :
    (umountRetries devicePath opened granted left retry entries mounts).1 =
      (umountRetries devicePath opened granted left retry entries mounts).2.isEmpty := by
  induction left generalizing retry entries mounts with
  | zero => rw [listed]; rfl
  | succ left ih =>
      unfold umountRetries
      split
      · rename_i empty
        rw [← listed,empty]
      · apply ih (retry+1)
        · intro k bound
          have next := opens (k+1) (by omega)
          rwa [show retry+(k+1)+1 = retry+1+k+1 by omega] at next
        · have first : opened (retry+1) = true := opens 0 (by omega)
          rw [GetAllMounts,first,if_pos rfl]

theorem umountRetries_refused (left retry : Nat) (closed : ∃ k < left, opened (retry+k+1) = false) (some : mounts ≠ []) :
    umountRetries devicePath opened (fun _ _ => false) left retry mounts mounts = (true,mounts) := by
  induction left generalizing retry with
  | zero =>
      obtain ⟨k,impossible,_⟩ := closed
      omega
  | succ left ih =>
      unfold umountRetries
      have present : mounts.isEmpty = false := by simpa using some
      simp only [present,Bool.false_eq_true,if_false,umountEntries_refused,GetAllMounts]
      cases first : opened (retry+1) with
      | false =>
          cases left <;> simp [umountRetries]
      | true =>
          rw [if_pos rfl]
          apply ih (retry+1)
          obtain ⟨k,bound,shut⟩ := closed
          cases k with
          | zero => cases first.symm.trans shut
          | succ k => exact ⟨k,by omega,by rwa [show retry+1+k+1 = retry+(k+1)+1 by omega]⟩

theorem umountAll_subset : (UmountAll mounts devicePath opened granted).2 ⊆ mounts := umountRetries_subset _ _

theorem umountAll_granted (first : opened 0 = true) : (UmountAll mounts devicePath opened (fun _ _ => true)).2 = [] := by
  unfold UmountAll MAX_UMOUNT_RETRY umountRetries
  rw [GetAllMounts,first,if_pos rfl]
  split
  · rename_i empty
    exact List.isEmpty_iff.mp empty
  · apply List.subset_nil.mp
    refine List.Subset.trans (umountRetries_subset _ _) ?_
    rw [umountEntries_granted 0 (List.Perm.refl _)]
    exact List.Subset.refl _

theorem umountAll_unopened (first : opened 0 = false) : UmountAll mounts devicePath opened granted = (true,mounts) := by
  simp [UmountAll,MAX_UMOUNT_RETRY,umountRetries,GetAllMounts,first]

theorem umountAll_result (first : opened 0 = true) (opens : opened 1 = true ∧ opened 2 = true ∧ opened 3 = true) :
    (UmountAll mounts devicePath opened granted).1 = (UmountAll mounts devicePath opened granted).2.isEmpty := by
  apply umountRetries_result
  · intro k bound
    unfold MAX_UMOUNT_RETRY at bound
    obtain ⟨one,two,three⟩ := opens
    match k,bound with
    | 0,_ => exact one
    | 1,_ => exact two
    | 2,_ => exact three
  · rw [GetAllMounts,first,if_pos rfl]

theorem no_others (only : ∀ entry ∈ mounts, entry.devicePath = devicePath) (fewer : entries ⊆ mounts) :
    entries.filter (fun entry => entry.devicePath ≠ devicePath) = [] := by
  apply List.filter_eq_nil_iff.mpr
  intro entry inside
  simpa using only entry (fewer inside)

-- UmountAll does what it says for a device, whatever the system answers, just where the mounts are the device's own.
theorem umount_all (mounts : List MountEntry) (devicePath : String) (opened : Nat → Bool) :
    (∀ granted, UmountsDevice mounts devicePath opened granted) ↔ DeviceOnly mounts devicePath opened := by
  unfold DeviceOnly
  cases first : opened 0 with
  | false =>
      simp only [Bool.false_eq_true,if_false]
      constructor
      · intro device
        have result := (device fun _ _ => true).2
        rw [umountAll_unopened first] at result
        exact result.mp rfl
      · intro none granted
        unfold UmountsDevice
        rw [umountAll_unopened first]
        exact ⟨rfl,fun _ => none,fun _ => rfl⟩
  | true =>
      simp only [if_true]
      constructor
      · intro device
        have only : ∀ entry ∈ mounts, entry.devicePath = devicePath := by
          have spared := (device fun _ _ => true).1
          rw [umountAll_granted first] at spared
          intro entry inside
          have gone := List.filter_eq_nil_iff.mp spared.symm entry inside
          simpa using gone
        refine ⟨only,?_⟩
        by_cases some : mounts = []
        · exact .inl some
        · refine .inr ?_
          -- A table that stops opening hides the mounts that were refused.
          have opens : ∀ k, k < 3 → opened (0+k+1) = true := by
            intro k bound
            cases next : opened (0+k+1) with
            | true => rfl
            | false =>
                have result := (device fun _ _ => false).2
                have same : UmountAll mounts devicePath opened (fun _ _ => false) = (true,mounts) := by
                  unfold UmountAll
                  rw [GetAllMounts,first,if_pos rfl]
                  exact umountRetries_refused _ _ ⟨k,bound,next⟩ some
                rw [same] at result
                obtain ⟨entry,rest,present⟩ := List.exists_cons_of_ne_nil some
                have inside : entry ∈ mounts := present ▸ List.mem_cons_self
                exact absurd (only entry inside) (result.mp rfl entry inside)
          exact ⟨opens 0 (by decide),opens 1 (by decide),opens 2 (by decide)⟩
      · rintro ⟨only,opens⟩ granted
        have fewer : (UmountAll mounts devicePath opened granted).2 ⊆ mounts := umountAll_subset
        refine ⟨(no_others only fewer).trans (no_others only (List.Subset.refl _)).symm,?_⟩
        rcases opens with empty | opens
        · have after := List.subset_nil.mp (empty ▸ fewer)
          subst empty
          rw [after]
          simp [UmountAll,MAX_UMOUNT_RETRY,umountRetries,GetAllMounts,first]
        · rw [umountAll_result first opens,List.isEmpty_iff]
          constructor
          · intro empty
            rw [empty]
            exact fun _ inside => nomatch inside
          · intro none
            apply List.eq_nil_iff_forall_not_mem.mpr
            exact fun entry inside => none entry inside (only entry (fewer inside))

-- The root file system of the host goes with the device's mount.
theorem umount_all_root : ¬UmountsDevice [⟨"/dev/sda1","/","ext4","rw"⟩,⟨"/dev/loop0","/mnt","ext4","ro"⟩] "/dev/loop0"
    (fun _ => true) (fun _ _ => true) := by
  intro device
  have spared := device.1
  rw [umountAll_granted rfl] at spared
  cases spared

end VolumeBackup
