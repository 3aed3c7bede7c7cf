import VolumeBackup.MountRollback

namespace VolumeBackup
open ByteMemory LabelledRuns LinuxDeviceMapperMountProvider

-- A host of which nothing is to be kept: what may be made on it is all that records may be of.
def MountHost.bare : MountHost where
  files := []
  attached := []
  blockDevices := []
  dmDevices := []
  mounts := []
  now := 0
  sectorSize := fun _ => 0

section residue
variable {provider : LinuxDeviceMapperMountProvider} {json : MountJson} {dir name path : String} {s after start : MountHost} {n : Nat}

theorem bare_unrecorded : Unrecorded dir .bare := fun _ inside => nomatch inside

theorem bare_made (own : ∀ file ∈ s.files, IsRecord dir file.1 → Own dir .bare file.1) : Made dir .bare s :=
  ⟨⟨List.nil_sublist _,List.nil_sublist _,List.nil_sublist _,fun _ _ there => nomatch there⟩,own⟩

def Fewer (s after : MountHost) : Prop := after.files ⊆ s.files

theorem Fewer.same (same : after.files = s.files) : Fewer s after := by
  unfold Fewer
  rw [same]
  exact List.Subset.refl _

theorem Fewer.refl : Fewer s s := .same rfl

theorem Fewer.trans {middle : MountHost} (left : Fewer s middle) (right : Fewer middle after) : Fewer s after :=
  List.Subset.trans right left

theorem remove_fewer : Fewer s (RemoveFileAt s dir name).2 := by
  simp only [RemoveFileAt]
  split
  · split
    · exact List.filter_sublist.subset
    · exact .refl
  · exact .refl

theorem removeLoop_fewer : Fewer s (RemoveLoopDeviceCreationRecord s dir name) := by
  unfold RemoveLoopDeviceCreationRecord
  split
  · exact remove_fewer
  · exact .refl

theorem removeDm_fewer : Fewer s (RemoveDmDeviceCreationRecord s dir name) := by
  unfold RemoveDmDeviceCreationRecord
  split
  · exact .refl
  · exact remove_fewer

theorem removeEach_fewer {remove : String → MountHost → Bool × MountHost} (each : ∀ name s, Fewer s (remove name s).2)
    (names : List String) : Fewer s (removeEach remove names s).2 := by
  induction names generalizing s with
  | nil => exact .refl
  | cons name rest ih =>
      simp only [removeEach]
      exact (each name s).trans ih

theorem loopbackDetach_files : (loopbackDetach s name).2.files = s.files := by
  simp only [loopbackDetach]
  split <;> rfl

theorem umount_fewer (umounter : LinuxDeviceMapperUmountProvider) : Fewer s (umounter.Umount s).2 := by
  have detach (name : String) (s : MountHost) : Fewer s (umounter.detachLoopDevice name s).2 := by
    have asked : (loopbackAttached s name).2.files = s.files := rfl
    unfold LinuxDeviceMapperUmountProvider.detachLoopDevice
    split
    · rename_i missing
      rw [missing] at asked
      exact .same asked
    · rename_i middle listed
      rw [listed] at asked
      have kept := @loopbackDetach_files name middle
      split
      · rename_i done
        rw [done] at kept
        exact .same (kept.trans asked)
      · rename_i failed
        rw [failed] at kept
        exact (Fewer.same (kept.trans asked)).trans removeLoop_fewer
  have target : (linuxUmount s umounter.m_mountTargetPath).2.files = s.files := by
    simp only [linuxUmount]
    split <;> rfl
  simp only [LinuxDeviceMapperUmountProvider.Umount]
  refine Fewer.trans (.same ?_) (removeEach_fewer detach _)
  split
  · exact target
  · exact removeIfExists_device.files.trans target

theorem next_made {action : MountAction} (next : mountNext json dir s action = some after) (made : Made dir .bare s) :
    Made dir .bare after := by
  cases action with
  | mount provider answers =>
      simp only [mountNext] at next
      split at next
      · rename_i here
        cases next
        exact mount_made bare_unrecorded here (made.same rfl rfl rfl rfl)
      · cases next
  | umount path answers =>
      obtain ⟨umounter,_,rfl⟩ := Option.map_eq_some_iff.mp next
      apply bare_made
      intro file inside
      exact made.own file (umount_fewer (s := s.answered answers) umounter inside)

theorem reached_made (reached : Reached (mountNext json dir) Anything start s) (clean : Unrecorded dir start) : Made dir .bare s := by
  obtain ⟨actions,path⟩ := reached
  refine path.invariant (Made dir .bare) ?_ fun _ _ _ made next _ => next_made next made
  apply bare_made
  intro file inside record
  exact absurd record (clean file inside)

def Silent (s : MountHost) : Prop := s.replies = []

def Gone (path : String) (s : MountHost) : Prop := ∀ file ∈ s.files, file.1 ≠ path

theorem Silent.granted (silent : Silent s) : s.ask.1 = true := by
  unfold Silent at silent
  simp [MountHost.ask,silent]

theorem Silent.ask (silent : Silent s) : Silent s.ask.2 := by
  unfold Silent at silent ⊢
  simp [MountHost.ask,silent]

theorem Gone.fewer (gone : Gone path s) (fewer : Fewer s after) : Gone path after := fun file inside => gone file (fewer inside)

theorem remove_silent (silent : Silent s) : Silent (RemoveFileAt s dir name).2 := by
  simp only [RemoveFileAt]
  split
  · split
    · exact silent.ask
    · exact silent.ask
  · exact silent

theorem remove_gone (granted : s.ask.1 = true) : Gone (PathJoin dir name) (RemoveFileAt s dir name).2 := by
  simp only [RemoveFileAt]
  split
  · intro file inside
    have kept := (List.mem_filter.mp inside).2
    exact of_decide_eq_true kept
  · rename_i missing
    exact lookup_none (Option.not_isSome_iff_eq_none.mp missing)

theorem removeLoop_silent (silent : Silent s) : Silent (RemoveLoopDeviceCreationRecord s dir name) := by
  unfold RemoveLoopDeviceCreationRecord
  split
  · exact remove_silent silent
  · exact silent

theorem removeLoop_gone (silent : Silent s) : Gone (PathJoin dir (loopRecordName n)) (RemoveLoopDeviceCreationRecord s dir (loopDevice n)) := by
  rw [removeLoop_device]
  exact remove_gone silent.granted

theorem loopbackDetach_silent (silent : Silent s) : Silent (loopbackDetach s name).2 := by
  simp only [loopbackDetach]
  split
  · exact silent.ask
  · exact silent.ask

theorem detach_silent (silent : Silent s) : Silent (provider.DetachLoopDeviceIfAttached name s).2 :=
  detach_keeps (fun _ => Silent.ask) (fun _ => loopbackDetach_silent) (fun _ => removeLoop_silent) silent

theorem detach_fewer : Fewer s (provider.DetachLoopDeviceIfAttached name s).2 := by
  apply detach_keeps _ _ _ (@Fewer.refl s)
  · intro middle fewer
    exact fewer.trans (.same rfl)
  · intro middle fewer
    exact fewer.trans (.same loopbackDetach_files)
  · intro middle fewer
    exact fewer.trans removeLoop_fewer

theorem detach_gone (silent : Silent s) (there : (s.attached.lookup (loopDevice n)).isSome) :
    Gone (PathJoin provider.m_outputDirPath (loopRecordName n)) (provider.DetachLoopDeviceIfAttached (loopDevice n) s).2 := by
  unfold DetachLoopDeviceIfAttached
  split
  · rename_i missing
    have asked : Silent (loopbackAttached s (loopDevice n)).2 := silent.ask
    rw [missing] at asked
    exact removeLoop_gone asked
  · rename_i middle listed
    obtain rfl : s.ask.2 = middle := congrArg Prod.snd listed
    have done : (loopbackDetach s.ask.2 (loopDevice n)).1 = true := by
      simp only [loopbackDetach]
      split
      · rfl
      · rename_i refused
        exact absurd (Bool.and_eq_true_iff.mpr ⟨silent.ask.granted,there⟩) refused
    have detached := @loopbackDetach_silent (loopDevice n) s.ask.2 silent.ask
    split
    · rename_i failed
      rw [failed] at done
      cases done
    · rename_i done
      rw [done] at detached
      exact removeLoop_gone detached

theorem detach_other (differ : name ≠ loopDevice n) (there : (s.attached.lookup (loopDevice n)).isSome) :
    ((provider.DetachLoopDeviceIfAttached name s).2.attached.lookup (loopDevice n)).isSome := by
  apply @detach_keeps provider name s (fun s => (s.attached.lookup (loopDevice n)).isSome) _ _ _ there
  · exact fun _ => id
  · intro middle kept
    simp only [loopbackDetach]
    split
    · obtain ⟨device,inside,equal⟩ := List.lookup_isSome_iff.mp kept
      apply List.lookup_isSome_iff.mpr
      refine ⟨device,List.mem_filter.mpr ⟨inside,?_⟩,equal⟩
      have same : loopDevice n = device.1 := by simpa using equal
      rw [← same]
      exact decide_eq_true differ.symm
    · exact kept
  · intro middle kept
    rwa [removeLoop_only.attached]

theorem removal_silent (silent : Silent s) : (RemoveDevice s name).1 = true ∧ Silent (RemoveDevice s name).2 := by
  have asked : Silent (GetDeviceStatus s name).2 := silent.ask
  unfold RemoveDevice
  split
  · rename_i missing
    rw [missing] at asked
    exact ⟨rfl,asked⟩
  · rename_i found present
    rw [present] at asked
    have there : (found.dmDevices.any fun device => device.name = name) = true := by
      obtain rfl : s.ask.2 = found := congrArg Prod.snd present
      exact (Bool.and_eq_true_iff.mp (congrArg Prod.fst present)).2
    have located : Silent (GetDevicePathByName found name).2 := asked.ask
    split
    · rename_i unknown
      have path := congrArg Prod.fst unknown
      simp only [GetDevicePathByName,asked.granted,if_true,Option.map_eq_none_iff] at path
      obtain ⟨device,inside,same⟩ := List.any_eq_true.mp there
      exact absurd same (List.find?_eq_none.mp path device inside)
    · rename_i known
      rw [known] at located
      dsimp only
      rw [if_pos located.granted]
      exact ⟨Silent.granted located.ask,Silent.ask located.ask⟩

theorem removeDevice_silent (silent : Silent s) : (RemoveDeviceIfExists s name).1 = true ∧ Silent (RemoveDeviceIfExists s name).2 := by
  have asked : Silent (GetDeviceStatus s name).2 := silent.ask
  unfold RemoveDeviceIfExists
  split
  · rename_i missing
    rw [missing] at asked
    exact ⟨rfl,asked⟩
  · rename_i present
    rw [present] at asked
    exact removal_silent asked

theorem removeDm_silent (silent : Silent s) : Silent (RemoveDmDeviceCreationRecord s dir name) := by
  unfold RemoveDmDeviceCreationRecord
  split
  · exact silent
  · exact remove_silent silent

theorem removeDm_gone (silent : Silent s) : Gone (PathJoin dir (dmRecordName n)) (RemoveDmDeviceCreationRecord s dir (dmName n)) := by
  unfold RemoveDmDeviceCreationRecord
  split
  · rename_i illegal
    obtain ⟨c,inside,slash⟩ := List.any_eq_true.mp illegal
    have plain := dmName_plain c inside
    simp [plain.1,plain.2] at slash
  · exact remove_gone silent.granted

theorem removeIfExists_fewer : Fewer s (provider.RemoveDmDeviceIfExists name s).2 := by
  have files := (@removeIfExists_device s name).files
  unfold RemoveDmDeviceIfExists
  split
  · rename_i failed
    rw [failed] at files
    exact .same files
  · rename_i done
    rw [done] at files
    exact (Fewer.same files).trans removeDm_fewer

theorem removeIfExists_silent (silent : Silent s) : Silent (provider.RemoveDmDeviceIfExists name s).2 ∧
    (provider.RemoveDmDeviceIfExists name s).2.attached = s.attached := by
  have removed := (@removeDevice_silent name s silent).2
  have attached := (@removeIfExists_device s name).attached
  unfold RemoveDmDeviceIfExists
  split
  · rename_i failed
    rw [failed] at removed attached
    exact ⟨removed,attached⟩
  · rename_i done
    rw [done] at removed attached
    exact ⟨removeDm_silent removed,removeDm_only.attached.trans attached⟩

theorem removeIfExists_gone (silent : Silent s) :
    Gone (PathJoin provider.m_outputDirPath (dmRecordName n)) (provider.RemoveDmDeviceIfExists (dmName n) s).2 := by
  obtain ⟨granted,removed⟩ := @removeDevice_silent (dmName n) s silent
  unfold RemoveDmDeviceIfExists
  split
  · rename_i failed
    rw [failed] at granted
    cases granted
  · rename_i done
    rw [done] at removed
    exact removeDm_gone removed

theorem removals_silent (names : List String) (silent : Silent s) :
    Silent (removeEach provider.RemoveDmDeviceIfExists names s).2 ∧
    (removeEach provider.RemoveDmDeviceIfExists names s).2.attached = s.attached := by
  induction names generalizing s with
  | nil => exact ⟨silent,rfl⟩
  | cons name rest ih =>
      obtain ⟨removed,attached⟩ := @removeIfExists_silent provider name s silent
      simp only [removeEach]
      obtain ⟨all,same⟩ := ih removed
      exact ⟨all,same.trans attached⟩

theorem removals_gone {names : List String} (silent : Silent s) (inside : dmName n ∈ names) :
    Gone (PathJoin provider.m_outputDirPath (dmRecordName n)) (removeEach provider.RemoveDmDeviceIfExists names s).2 := by
  induction names generalizing s with
  | nil => cases inside
  | cons name rest ih =>
      simp only [removeEach]
      apply (List.mem_cons.mp inside).elim
      · intro first
        subst first
        exact (removeIfExists_gone silent).fewer (removeEach_fewer (fun _ _ => removeIfExists_fewer) rest)
      · intro later
        exact ih (removeIfExists_silent silent).1 later

theorem detaches_gone {names : List String} (silent : Silent s) (inside : loopDevice n ∈ names)
    (there : (s.attached.lookup (loopDevice n)).isSome) :
    Gone (PathJoin provider.m_outputDirPath (loopRecordName n)) (removeEach provider.DetachLoopDeviceIfAttached names s).2 := by
  induction names generalizing s with
  | nil => cases inside
  | cons name rest ih =>
      simp only [removeEach]
      by_cases first : name = loopDevice n
      · subst first
        exact (detach_gone silent there).fewer (removeEach_fewer (fun _ _ => detach_fewer) rest)
      · have later := (List.mem_cons.mp inside).resolve_left fun same => first same.symm
        exact ih (detach_silent silent) later (detach_other first there)

theorem lists (silent : Silent s) (plain : Plain name) (there : (s.files.lookup (PathJoin dir name)).isSome) :
    name ∈ (ListRecordFiles s dir).1.getD [] := by
  simp only [ListRecordFiles]
  rw [if_pos silent.granted,Option.getD_some]
  obtain ⟨file,inside,equal⟩ := List.lookup_isSome_iff.mp there
  have same : PathJoin dir name = file.1 := by simpa using equal
  apply List.mem_filterMap.mpr
  refine ⟨file,inside,?_⟩
  rw [← same,file_name plain,if_pos rfl]

theorem gone_lookup (gone : Gone path s) : s.files.lookup path = none := by
  apply List.lookup_eq_none_iff.mpr
  intro file inside
  simpa using (gone file inside).symm

theorem rollback_dm (here : provider.m_outputDirPath = dir) (silent : Silent s) :
    (provider.RollbackClearResidue s).2.files.lookup (PathJoin dir (dmRecordName n)) = none := by
  subst here
  apply gone_lookup
  simp only [RollbackClearResidue]
  refine Gone.fewer ?_ (removeEach_fewer (fun _ _ => detach_fewer) _)
  by_cases there : (s.files.lookup (PathJoin provider.m_outputDirPath (dmRecordName n))).isSome
  · have asked : Silent (provider.LoadResidualDmDeviceList s).2 := silent.ask
    apply Gone.fewer (removals_gone asked _) (.same rfl)
    apply List.mem_filterMap.mpr
    refine ⟨_,lists silent dmRecord_plain there,?_⟩
    have found := @contains_ending DEVICE_MAPPER_DEVICE_CREATION_RECORD_SUFFIX (dmName n)
    obtain ⟨pos,at_pos⟩ := Option.isSome_iff_exists.mp found
    unfold dmRecordName
    rw [at_pos,Option.map_some,take_ending]
  · have gone : Gone (PathJoin provider.m_outputDirPath (dmRecordName n)) s := lookup_none (Option.not_isSome_iff_eq_none.mp there)
    exact gone.fewer (Fewer.trans (.same rfl) (removeEach_fewer (fun _ _ => removeIfExists_fewer) _))

theorem rollback_loop (here : provider.m_outputDirPath = dir) (silent : Silent s) (attached : (s.attached.lookup (loopDevice n)).isSome) :
    (provider.RollbackClearResidue s).2.files.lookup (PathJoin dir (loopRecordName n)) = none := by
  subst here
  apply gone_lookup
  simp only [RollbackClearResidue]
  have asked : Silent (provider.LoadResidualDmDeviceList s).2 := silent.ask
  obtain ⟨removed,same⟩ := @removals_silent provider _ (provider.LoadResidualDmDeviceList s).1 asked
  generalize removeEach provider.RemoveDmDeviceIfExists (provider.LoadResidualDmDeviceList s).1
    (provider.LoadResidualDmDeviceList s).2 = middle at removed same
  by_cases there : (middle.2.files.lookup (PathJoin provider.m_outputDirPath (loopRecordName n))).isSome
  · have again : Silent (provider.LoadResidualLoopDeviceList middle.2).2 := removed.ask
    apply detaches_gone again
    · apply List.mem_filterMap.mpr
      refine ⟨_,lists removed loopRecord_plain there,?_⟩
      unfold loopRecordName
      rw [(record_found digits_clear).1,Option.map_some,take_front]
      rfl
    · have kept : (middle.2.attached.lookup (loopDevice n)).isSome := by
        rw [same]
        exact attached
      exact kept
  · have gone : Gone (PathJoin provider.m_outputDirPath (loopRecordName n)) middle.2 :=
      lookup_none (Option.not_isSome_iff_eq_none.mp there)
    exact gone.fewer (Fewer.trans (.same rfl) (removeEach_fewer (fun _ _ => detach_fewer) _))

theorem free_least (first : ∀ j < n, (s.attached.lookup (loopDevice j)).isSome) (vacant : s.attached.lookup (loopDevice n) = none) :
    freeLoopDevice s = loopDevice n := by
  have fresh := @free_fresh s
  unfold freeLoopDevice at fresh ⊢
  generalize found : (List.range s.attached.length).findIdx (fun n => (s.attached.lookup (loopDevice n)).isNone) = k at fresh ⊢
  have least : ¬k < n := by
    intro below
    have taken := first k below
    rw [fresh] at taken
    cases taken
  have most : ¬n < k := by
    intro above
    rw [← found] at above
    have earlier := List.not_of_lt_findIdx above
    simp [vacant] at earlier
  have exact : k = n := by omega
  rw [exact]

theorem create_keeps (there : (s.files.lookup path).isSome) : ((CreateEmptyFile s dir name).2.files.lookup path).isSome := by
  simp only [CreateEmptyFile]
  split
  · split
    · exact there
    · rw [List.lookup_append,Option.isSome_or]
      exact Bool.or_eq_true_iff.mpr (.inl there)
  · exact there

theorem create_replies : (CreateEmptyFile s dir name).2.replies = s.replies.tail := by
  simp only [CreateEmptyFile]
  split
  · split <;> rfl
  · rfl

theorem attach_granted {filePath : String} {rest : List Bool} (answered : s.replies = true::true::true::rest)
    (copy : (s.files.lookup filePath).isSome) : loopbackAttach s filePath = (some (freeLoopDevice s),{s with
      replies := rest
      attached := s.attached++[(freeLoopDevice s,filePath)]
      blockDevices := s.blockDevices.insert (freeLoopDevice s)}) := by
  simp only [loopbackAttach,GetFreeLoopDevice,MountHost.ask,answered,List.headD_cons,List.tail_cons,copy,Bool.and_self,if_true]
  rfl

theorem attach_next {filePath : String} {rest : List Bool} (answered : s.replies = true::true::true::true::rest)
    (copy : (s.files.lookup filePath).isSome) (first : ∀ j < n, (s.attached.lookup (loopDevice j)).isSome) :
    ∃ device middle, provider.AttachDmLoopDevice filePath s = (some device,middle) ∧ middle.replies = rest ∧
      (middle.files.lookup filePath).isSome ∧ ∀ j < n+1, (middle.attached.lookup (loopDevice j)).isSome := by
  unfold AttachDmLoopDevice
  rw [attach_granted answered copy]
  obtain ⟨number,free⟩ : ∃ number, freeLoopDevice s = loopDevice number := ⟨_,rfl⟩
  rw [free]
  refine ⟨_,_,rfl,?_,?_,?_⟩
  · rw [saveLoop_device,create_replies]
    rfl
  · rw [saveLoop_device]
    exact create_keeps copy
  · intro j bound
    rw [saveLoop_only.attached,List.lookup_append,Option.isSome_or]
    apply Bool.or_eq_true_iff.mpr
    cases old : s.attached.lookup (loopDevice j) with
    | some file => exact .inl rfl
    | none =>
        have last : j = n := by
          apply Nat.le_antisymm (Nat.le_of_lt_succ bound)
          apply Nat.le_of_not_lt
          intro below
          have taken := first j below
          rw [old] at taken
          cases taken
        subst last
        have least : freeLoopDevice s = loopDevice j := free_least first old
        rw [← free,least]
        right
        simp

theorem attachments {segment : CopySegment} (k : Nat) (mountRecord : LinuxDeviceMapperCopyMountRecord)
    (answered : s.replies = List.replicate (4*k) true++[false])
    (copy : k ≠ 0 → (s.files.lookup (GetCopyDataFilePath provider.m_copyDataDirPath provider.m_copyName .BIN segment.index)).isSome)
    (first : ∀ j < n, (s.attached.lookup (loopDevice j)).isSome) :
    ∃ middle, provider.attachSegments (List.replicate (k+1) segment) mountRecord s = (none,middle) ∧ Silent middle ∧
      ∀ j < n+k, (middle.attached.lookup (loopDevice j)).isSome := by
  induction k generalizing s n mountRecord with
  | zero =>
      refine ⟨s.ask.2,?_,by simp [Silent,MountHost.ask,answered],first⟩
      simp [attachSegments,AttachDmLoopDevice,loopbackAttach,MountHost.ask,answered]
  | succ k ih =>
      have more : s.replies = true::true::true::true::(List.replicate (4*k) true++[false]) := answered
      obtain ⟨device,middle,attached,left,kept,second⟩ := attach_next more (copy (Nat.succ_ne_zero k)) first
      obtain ⟨last,done,silent,all⟩ := ih {mountRecord with
        loopDevices := mountRecord.loopDevices++[device]
        copySlices := mountRecord.copySlices++[⟨_,segment.offset,segment.length,device⟩]} left (fun _ => kept) second
      refine ⟨last,?_,silent,?_⟩
      · rw [List.replicate_succ,attachSegments,attached]
        exact done
      · intro j bound
        exact all j (by omega)

-- A mount of a copy in the directory that fails, however the system answers it, leaves what others have mounted.
def FailsAlone (json : MountJson) (dir : String) (s : MountHost) : Prop :=
  ∀ (provider : LinuxDeviceMapperMountProvider) (answers : Answers), provider.m_outputDirPath = dir → provider.m_segments ≠ [] →
    (provider.Mount json (s.answered answers)).1 = false → LeavesOthers s (provider.Mount json (s.answered answers)).2

def Mountable (s : MountHost) : Prop :=
  ∃ dataDir copyName index, (s.files.lookup (GetCopyDataFilePath dataDir copyName .BIN index)).isSome

def repeated (dir dataDir copyName : String) (index k : Nat) : LinuxDeviceMapperMountProvider where
  m_outputDirPath := dir
  m_copyDataDirPath := dataDir
  m_copyMetaDirPath := ""
  m_copyName := copyName
  m_mountTargetPath := ""
  m_mountFsType := ""
  m_mountOptions := ""
  m_segments := List.replicate k ⟨"","",index,0,0⟩

theorem repeated_dir {dataDir copyName : String} {index k : Nat} : (repeated dir dataDir copyName index k).m_outputDirPath = dir := rfl

theorem repeated_fails {dataDir copyName : String} {index : Nat} (k : Nat)
    (copy : (s.files.lookup (GetCopyDataFilePath dataDir copyName .BIN index)).isSome) (alone : FailsAlone json dir s) :
    ∃ middle, Silent middle ∧ (∀ j < k, (middle.attached.lookup (loopDevice j)).isSome) ∧
      LeavesOthers s ((repeated dir dataDir copyName index (k+1)).RollbackClearResidue middle).2 := by
  have others := alone (repeated dir dataDir copyName index (k+1)) {replies := List.replicate (4*k) true++[false]} rfl
    (List.cons_ne_nil _ _)
  obtain ⟨middle,failed,silent,attached⟩ : ∃ middle, (repeated dir dataDir copyName index (k+1)).attachSegments
      (List.replicate (k+1) ⟨"","",index,0,0⟩) {copyFormat := .BIN,mountTargetPath := ""}
        (s.answered {replies := List.replicate (4*k) true++[false]}) = (none,middle) ∧ Silent middle ∧
      ∀ j < 0+k, (middle.attached.lookup (loopDevice j)).isSome :=
    attachments k _ rfl (fun _ => copy) fun j below => nomatch below
  refine ⟨middle,silent,fun j below => attached j (by omega),?_⟩
  have rolled : (repeated dir dataDir copyName index (k+1)).Mount json (s.answered {replies := List.replicate (4*k) true++[false]}) =
      (repeated dir dataDir copyName index (k+1)).rollback middle := by
    unfold Mount
    simp only [repeated] at failed ⊢
    rw [failed]
  rw [rolled] at others
  exact others rfl

-- In every state that mounts and unmounts of copies with one output directory lead to, a further mount fails alone
-- where no record is in the directory; and where one has been left there, only if there is no copy to mount.
theorem mount_fails_alone (json : MountJson) (reached : Reached (mountNext json dir) Anything start s) :
    (Unrecorded dir s → FailsAlone json dir s) ∧
      (Unrecorded dir start → Mountable s → FailsAlone json dir s → Unrecorded dir s) := by
  constructor
  · intro fresh provider answers here _ _
    have made : Made dir s (s.answered answers) := by
      refine ⟨⟨.refl _,.refl _,.refl _,fun _ _ there => there⟩,?_⟩
      intro file inside record
      exact absurd record (fresh file inside)
    exact (mount_made fresh here made).others
  · rintro clean ⟨dataDir,copyName,index,copy⟩ alone file inside record
    have present : (s.files.lookup file.1).isSome := by
      apply List.lookup_isSome_iff.mpr
      exact ⟨file,inside,by simp⟩
    cases (reached_made reached clean).own file inside record with
    | loop n _ here =>
        obtain ⟨middle,silent,attached,others⟩ := repeated_fails (n+1) copy alone
        have kept := others.records file.1 (.inl (here ▸ creation_ends _)) present
        rw [here,rollback_loop repeated_dir silent (attached n (Nat.lt_succ_self n))] at kept
        cases kept
    | dm now _ here =>
        obtain ⟨middle,silent,_,others⟩ := repeated_fails 0 copy alone
        have kept := others.records file.1 (.inr (here ▸ creation_ends _)) present
        rw [here,rollback_dm repeated_dir silent] at kept
        cases kept

end residue

-- Two copies that share a directory; the first has one segment and a record to read, the file of the second is missing.
def firstCopy : LinuxDeviceMapperMountProvider := {partedProvider with m_segments := partedProvider.m_segments.take 1}

def secondCopy : LinuxDeviceMapperMountProvider := {firstCopy with m_copyName := "other"}

def sharedHost : MountHost := {partedHost with files := partedHost.files++[("/out/copy.bin.mount.record.json",.empty)]}

-- Others have a loop device and a device of the device mapper there, both mounted, and a record in a directory of their own.
def busyHost : MountHost where
  files := sharedHost.files++[("/elsewhere/loop0.loop.record",.empty)]
  attached := [("/dev/loop0","/images/disk.iso")]
  blockDevices := ["/dev/loop0"]
  dmDevices := [⟨"vg-home",0,[⟨"/dev/sdb1",0,2048,0⟩],false⟩]
  mounts := [⟨"/dev/loop0","/media","iso9660","ro"⟩,⟨"/dev/dm-0","/home","ext4","rw"⟩]
  now := 0
  sectorSize := fun _ => 512

def refusedHost : MountHost := (firstCopy.Mount plainJson (busyHost.answered {replies := [true,true,true,true,false]})).2

-- The second copy then fails, and what the others have is still there.
theorem mount_fails_alone_refused : FailsAlone plainJson "/out" refusedHost ∧ refusedHost.attached = busyHost.attached ∧
    refusedHost.dmDevices = busyHost.dmDevices ∧ refusedHost.mounts = busyHost.mounts ∧
    (secondCopy.Mount plainJson (refusedHost.answered {})).1 = false := by
  have next : mountNext plainJson "/out" busyHost (.mount firstCopy {replies := [true,true,true,true,false]}) = some refusedHost := rfl
  have reached : Reached (mountNext plainJson "/out") Anything busyHost refusedHost := Reached.refl.step next trivial
  have fresh : Unrecorded "/out" refusedHost := by
    unfold Unrecorded IsRecord
    decide +kernel
  exact ⟨(mount_fails_alone plainJson reached).1 fresh,by decide +kernel,by decide +kernel,by decide +kernel,by decide +kernel⟩

def mountedHost : MountHost := (firstCopy.Mount plainJson (sharedHost.answered {})).2

-- With the first copy mounted, the second one's failure takes its loop device and the record of it away.
theorem mount_fails_both : Reached (mountNext plainJson "/out") Anything sharedHost mountedHost ∧ Unrecorded "/out" sharedHost ∧
    mountedHost.attached = [("/dev/loop0","/data/copy.copydata.bin")] ∧
    mountedHost.mounts = [⟨"/dev/loop0","/mnt","ext4",""⟩] ∧
    (secondCopy.Mount plainJson (mountedHost.answered {})).1 = false ∧
    (secondCopy.Mount plainJson (mountedHost.answered {})).2.attached = [] ∧
    ¬LeavesOthers mountedHost (secondCopy.Mount plainJson (mountedHost.answered {})).2 := by
  have next : mountNext plainJson "/out" sharedHost (.mount firstCopy {}) = some mountedHost := rfl
  have reached : Reached (mountNext plainJson "/out") Anything sharedHost mountedHost := Reached.refl.step next trivial
  have taken : (secondCopy.Mount plainJson (mountedHost.answered {})).2.attached = [] := by decide +kernel
  refine ⟨reached,?_,by decide +kernel,by decide +kernel,by decide +kernel,taken,?_⟩
  · unfold Unrecorded IsRecord
    decide +kernel
  · intro others
    have kept := others.attached
    rw [taken,List.sublist_nil] at kept
    have held : mountedHost.attached ≠ [] := by decide +kernel
    exact held kept

end VolumeBackup
