import VolumeBackup.MountRecord

namespace VolumeBackup
open ByteMemory

variable {host after : MountHost} {device path : String}

theorem loopDevice_inj (same : loopDevice i = loopDevice j) : i = j := by
  have text := congrArg String.toList same
  simp only [loopDevice,String.toList_append,Nat.toString_eq_repr,Nat.toList_repr] at text
  exact digits_inj (List.append_cancel_left text)

theorem lookup_key {files : List (String × β)} (found : files.lookup path = some content) : path ∈ files.map Prod.fst := by
  have inside := List.lookup_eq_some_iff.mp found
  obtain ⟨before,rest,rfl,_⟩ := inside
  simp

-- There are as many numbers below the length as devices with a file behind them, so that one number up to it is free.
theorem free_fresh : host.attached.lookup (freeLoopDevice host) = none := by
  unfold freeLoopDevice
  generalize found : (List.range host.attached.length).findIdx (fun n => (host.attached.lookup (loopDevice n)).isNone) = k
  by_cases below : k < host.attached.length
  · have bound : k < (List.range host.attached.length).length := by rwa [List.length_range]
    have free := List.findIdx_getElem (w := found ▸ bound) (p := fun n => (host.attached.lookup (loopDevice n)).isNone)
    simpa [found] using free
  · apply Option.eq_none_iff_forall_ne_some.mpr
    intro file taken
    have most : k ≤ host.attached.length := by
      rw [← found]
      exact Nat.le_trans List.findIdx_le_length (Nat.le_of_eq List.length_range)
    have whole : k = host.attached.length := by omega
    subst whole
    have all : ∀ n < host.attached.length, (host.attached.lookup (loopDevice n)).isNone = false := by
      intro n less
      rw [← found] at less
      have earlier := List.not_of_lt_findIdx less
      simpa using earlier
    have keys : (List.range (host.attached.length+1)).map loopDevice ⊆ host.attached.map Prod.fst := by
      intro device listed
      obtain ⟨n,inside,rfl⟩ := List.mem_map.mp listed
      by_cases less : n < host.attached.length
      · obtain ⟨content,there⟩ : ∃ content, host.attached.lookup (loopDevice n) = some content := by
          apply Option.ne_none_iff_exists'.mp
          simpa using all n less
        exact lookup_key there
      · have last : n = host.attached.length := by
          have limit := List.mem_range.mp inside
          omega
        rw [last]
        exact lookup_key taken
    have distinct : ((List.range (host.attached.length+1)).map loopDevice).Nodup := by
      apply List.pairwise_map.mpr
      exact List.Pairwise.imp (fun differ same => differ (loopDevice_inj same)) List.nodup_range
    have count := distinct.length_le_of_subset keys
    simp only [List.length_map,List.length_range] at count
    omega

theorem free_some (found : GetFreeLoopDevice host = (some device,after)) :
    device = freeLoopDevice host ∧ after = {host with
      replies := host.replies.tail
      blockDevices := host.blockDevices.insert device} := by
  simp only [GetFreeLoopDevice] at found
  split at found
  · cases found
    exact ⟨rfl,rfl⟩
  · cases found

theorem free_none (failed : GetFreeLoopDevice host = (none,after)) : after = host.ask.2 := by
  simp only [GetFreeLoopDevice] at failed
  split at failed
  · cases failed
  · cases failed
    rfl

theorem attach_some (done : loopbackAttach host path = (some device,after)) :
    device = freeLoopDevice host ∧ after = {host with
      replies := host.replies.tail.tail.tail
      attached := host.attached++[(device,path)]
      blockDevices := host.blockDevices.insert device} := by
  simp only [loopbackAttach] at done
  split at done
  · split at done
    · cases done
    · rename_i found
      obtain ⟨free,rfl⟩ := free_some found
      split at done
      · cases done
        exact ⟨free,rfl⟩
      · cases done
  · cases done

-- A failed attachment may leave one more device for /sys/block to list.
theorem attach_none (failed : loopbackAttach host path = (none,after)) :
    after.attached = host.attached ∧ after.dmDevices = host.dmDevices ∧ after.mounts = host.mounts ∧ after.files = host.files := by
  simp only [loopbackAttach] at failed
  split at failed
  · split at failed
    · rename_i refused
      cases failed
      rw [free_none refused]
      exact ⟨rfl,rfl,rfl,rfl⟩
    · rename_i found
      obtain ⟨_,rfl⟩ := free_some found
      split at failed
      · cases failed
      · cases failed
        exact ⟨rfl,rfl,rfl,rfl⟩
  · cases failed
    exact ⟨rfl,rfl,rfl,rfl⟩

structure OnlyFiles (host after : MountHost) : Prop where
  attached : after.attached = host.attached
  blockDevices : after.blockDevices = host.blockDevices
  dmDevices : after.dmDevices = host.dmDevices
  mounts : after.mounts = host.mounts
  sectorSize : after.sectorSize = host.sectorSize
  now : after.now = host.now

theorem OnlyFiles.refl : OnlyFiles host host := ⟨rfl,rfl,rfl,rfl,rfl,rfl⟩

section files
variable {dir name : String}

theorem create_only : OnlyFiles host (CreateEmptyFile host dir name).2 := by
  simp only [CreateEmptyFile]
  split
  · split <;> exact ⟨rfl,rfl,rfl,rfl,rfl,rfl⟩
  · exact ⟨rfl,rfl,rfl,rfl,rfl,rfl⟩

theorem remove_only : OnlyFiles host (RemoveFileAt host dir name).2 := by
  simp only [RemoveFileAt]
  split
  · split <;> exact ⟨rfl,rfl,rfl,rfl,rfl,rfl⟩
  · exact .refl

theorem saveLoop_only : OnlyFiles host (SaveLoopDeviceCreationRecord host dir name) := by
  unfold SaveLoopDeviceCreationRecord
  split
  · exact create_only
  · exact .refl

theorem saveDm_only : OnlyFiles host (SaveDmDeviceCreationRecord host dir name) := by
  unfold SaveDmDeviceCreationRecord
  split
  · exact .refl
  · exact create_only

theorem removeLoop_only : OnlyFiles host (RemoveLoopDeviceCreationRecord host dir name) := by
  unfold RemoveLoopDeviceCreationRecord
  split
  · exact remove_only
  · exact .refl

theorem removeDm_only : OnlyFiles host (RemoveDmDeviceCreationRecord host dir name) := by
  unfold RemoveDmDeviceCreationRecord
  split
  · exact .refl
  · exact remove_only

end files

end VolumeBackup
