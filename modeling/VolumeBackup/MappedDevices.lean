import VolumeBackup.DeviceMapperMount

namespace VolumeBackup

variable {host after : MountHost} {name path : String} {targets : List DmTargetLinear} {readOnly : Bool}

-- A call of the device mapper changes the devices of one name, and uses up answers, however far it gets.
structure OnlyDevice (name : String) (host after : MountHost) : Prop where
  files : after.files = host.files
  attached : after.attached = host.attached
  mounts : after.mounts = host.mounts
  others : after.dmDevices.filter (fun device => device.name ≠ name) = host.dmDevices.filter fun device => device.name ≠ name

theorem OnlyDevice.refl : OnlyDevice name host host := ⟨rfl,rfl,rfl,rfl⟩

theorem OnlyDevice.trans {middle : MountHost} (left : OnlyDevice name host middle) (right : OnlyDevice name middle after) :
    OnlyDevice name host after where
  files := right.files.trans left.files
  attached := right.attached.trans left.attached
  mounts := right.mounts.trans left.mounts
  others := right.others.trans left.others

theorem ask_device : OnlyDevice name host host.ask.2 := ⟨rfl,rfl,rfl,rfl⟩

theorem status_device : OnlyDevice name host (GetDeviceStatus host name).2 := ask_device

theorem path_device : OnlyDevice name host (GetDevicePathByName host name).2 := ask_device

theorem remove_device : OnlyDevice name host (RemoveDevice host name).2 := by
  have status := @status_device host name
  unfold RemoveDevice
  split
  · rename_i missing
    rwa [missing] at status
  · rename_i found present
    rw [present] at status
    have located := @path_device found name
    split
    · rename_i unknown
      rw [unknown] at located
      exact status.trans located
    · rename_i known
      rw [known] at located
      apply (status.trans located).trans
      dsimp only
      split
      · refine ⟨rfl,rfl,rfl,?_⟩
        simp [MountHost.ask]
      · exact ask_device

theorem removeIfExists_device : OnlyDevice name host (RemoveDeviceIfExists host name).2 := by
  have status := @status_device host name
  unfold RemoveDeviceIfExists
  split
  · rename_i missing
    rwa [missing] at status
  · rename_i present
    rw [present] at status
    exact status.trans remove_device

theorem empty_device : OnlyDevice name host (CreateEmptyDevice host name).2 := by
  unfold CreateEmptyDevice
  split
  · exact .refl
  · dsimp only
    split
    · refine ⟨rfl,rfl,rfl,?_⟩
      simp [MountHost.ask]
    · exact ask_device

theorem load_other {devices : List DmDevice} : (devices.map (DmDevice.load name targets readOnly)).filter
    (fun device => device.name ≠ name) = devices.filter fun device => device.name ≠ name := by
  induction devices with
  | nil => rfl
  | cons device rest ih =>
      by_cases same : device.name = name
      · simpa [DmDevice.load,same] using ih
      · simpa [DmDevice.load,same] using ih

theorem load_vacant {devices : List DmDevice} (vacant : ∀ device ∈ devices, device.name ≠ name) :
    devices.map (DmDevice.load name targets readOnly) = devices := by
  have same : devices.map (DmDevice.load name targets readOnly) = devices.map id :=
    List.map_congr_left fun device inside => if_neg (vacant device inside)
  exact same.trans (List.map_id devices)

theorem load_device : OnlyDevice name host (dmLoadTable host name targets readOnly).2 := by
  unfold dmLoadTable
  dsimp only
  split
  · split
    · exact ⟨rfl,rfl,rfl,load_other⟩
    · exact ask_device.trans ask_device
  · exact ask_device

theorem wait_device : OnlyDevice name host (WaitForDeviceCreated host name).2 := by
  have status := @status_device host name
  unfold WaitForDeviceCreated GetDeviceStatusUniquePath
  split
  · rename_i missing
    rw [missing] at status
    exact status.trans remove_device
  · rename_i found present
    rw [present] at status
    have located := @path_device found name
    split
    · rename_i unknown
      rw [unknown] at located
      exact (status.trans located).trans remove_device
    · rename_i known
      rw [known] at located
      exact (status.trans located).trans ask_device

theorem dmCreate_device : OnlyDevice name host (dmCreateDevice host name targets readOnly).2 := by
  have made := @empty_device host name
  unfold dmCreateDevice
  split
  · rename_i refused
    rwa [refused] at made
  · rename_i empty created
    rw [created] at made
    have filled := @load_device empty name targets readOnly
    split
    · rename_i failed
      rw [failed] at filled
      exact (made.trans filled).trans remove_device
    · rename_i full loaded
      rw [loaded] at filled
      have waited := @wait_device full name
      split
      · rename_i failed
        rw [failed] at waited
        exact ((made.trans filled).trans waited).trans remove_device
      · rename_i ready
        rw [ready] at waited
        exact (made.trans filled).trans waited

theorem empty_some (done : CreateEmptyDevice host name = (true,after)) :
    (∀ device ∈ host.dmDevices, device.name ≠ name) ∧ ∃ number, after.dmDevices = host.dmDevices++[⟨name,number,[],false⟩] := by
  unfold CreateEmptyDevice at done
  split at done
  · cases done
  · dsimp only at done
    split at done
    · rename_i granted
      have vacant := List.all_eq_true.mp (Bool.and_eq_true_iff.mp granted).2
      have last := (congrArg Prod.snd done).symm
      dsimp only at last
      refine ⟨fun device inside => of_decide_eq_true (vacant device inside),freeDmNumber host.ask.2,?_⟩
      rw [last]
      rfl
    · cases done

theorem empty_none (failed : CreateEmptyDevice host name = (false,after)) :
    (∀ device ∈ host.dmDevices, device.name ≠ name) ∨ after.dmDevices = host.dmDevices := by
  unfold CreateEmptyDevice at failed
  split at failed
  · cases failed
    exact .inr rfl
  · dsimp only at failed
    split at failed
    · rename_i granted
      have vacant := List.all_eq_true.mp (Bool.and_eq_true_iff.mp granted).2
      exact .inl fun device inside => of_decide_eq_true (vacant device inside)
    · cases failed
      exact .inr rfl

theorem load_some (done : dmLoadTable host name targets readOnly = (true,after)) :
    after.dmDevices = host.dmDevices.map (DmDevice.load name targets readOnly) := by
  unfold dmLoadTable at done
  dsimp only at done
  split at done
  · split at done
    · cases done
      rfl
    · cases done
  · cases done

theorem wait_some (done : WaitForDeviceCreated host name = (some path,after)) : after.dmDevices = host.dmDevices := by
  unfold WaitForDeviceCreated GetDeviceStatusUniquePath at done
  split at done
  · cases done
  · rename_i found present
    have asked : found = host.ask.2 := (congrArg Prod.snd present).symm
    split at done
    · cases done
    · rename_i located known
      have again : located = found.ask.2 := (congrArg Prod.snd known).symm
      have last : after = located.ask.2 := (congrArg Prod.snd done).symm
      rw [last,again,asked]
      rfl

-- A device that is made has the table asked for, and there was none of its name.
theorem dmCreate_some (done : dmCreateDevice host name targets readOnly = (some path,after)) :
    (∃ number, after.dmDevices = host.dmDevices++[⟨name,number,targets,readOnly⟩]) ∧ ∀ device ∈ host.dmDevices, device.name ≠ name := by
  unfold dmCreateDevice at done
  split at done
  · cases done
  · rename_i empty created
    obtain ⟨vacant,number,appended⟩ := empty_some created
    split at done
    · cases done
    · rename_i full loaded
      have table := load_some loaded
      split at done
      · cases done
      · rename_i ready
        cases done
        refine ⟨⟨number,?_⟩,vacant⟩
        rw [wait_some ready,table,appended,List.map_append,load_vacant vacant]
        simp [DmDevice.load]

theorem dmCreate_vacant : (∀ device ∈ host.dmDevices, device.name ≠ name) ∨
    (dmCreateDevice host name targets readOnly).2.dmDevices = host.dmDevices := by
  cases created : CreateEmptyDevice host name with
  | mk granted empty =>
      cases granted with
      | true => exact .inl (empty_some created).1
      | false =>
          unfold dmCreateDevice
          rw [created]
          exact empty_none created

end VolumeBackup
