import Mathlib.Data.List.Forall2
import VolumeBackup.AcceptedConfig
import VolumeBackup.LoopDevices
import VolumeBackup.SessionPartition

namespace VolumeBackup
open ByteMemory Strides

-- How the kernel reads a table: in sectors of 512 bytes, whatever sectors the devices have. A sector is that of
-- the target it lies in, and a loop device has its file from the first byte on.
def SECTOR_SIZE : Nat := 512

def dmTarget (targets : List DmTargetLinear) (sector : Nat) : Option DmTargetLinear :=
  targets.find? fun target => target.m_startSector ≤ sector ∧ sector < target.m_startSector+target.m_sectorsCount

def dmRead (host : MountHost) (targets : List DmTargetLinear) (address : Nat) : Option (String × Nat) :=
  (dmTarget targets (address/SECTOR_SIZE)).bind fun target =>
    (host.attached.lookup target.m_blockDevicePath).map fun file =>
      (file,(target.m_physicalSector+(address/SECTOR_SIZE-target.m_startSector))*SECTOR_SIZE+address % SECTOR_SIZE)

def Stores (session : VolumeTaskSharedConfig) (address : Nat) : Prop :=
  session.sessionOffset.toNat ≤ address ∧ address < session.sessionOffset.toNat+session.sessionSize.toNat

-- The targets follow each other from the first sector on, and every byte of the volume is read where the writer
-- of its session has put it.
structure MapsVolume (env : TaskEnv) (host : MountHost) (targets : List DmTargetLinear) (sessions : List VolumeTaskSharedConfig)
    (volumeSize : Nat) : Prop where
  first : ∀ target, targets.head? = some target → target.m_startSector = 0
  contiguous : ∀ (i : Nat) target next, targets[i]? = some target → targets[i+1]? = some next →
    next.m_startSector = target.m_startSector+target.m_sectorsCount
  stored : ∀ address < volumeSize, ∃ session ∈ sessions, Stores session address
  maps : ∀ address < volumeSize, ∀ session ∈ sessions, Stores session address →
    dmRead host targets address = some (session.copyFilePath,(env.copyData session).position address)

structure Exposes (host : MountHost) (file : String) (offset size : Nat) (target : DmTargetLinear) : Prop where
  start : target.m_startSector = offset/host.sectorSize target.m_blockDevicePath
  count : target.m_sectorsCount = size/host.sectorSize target.m_blockDevicePath
  physical : target.m_physicalSector = 0
  attached : host.attached.lookup target.m_blockDevicePath = some file

namespace LinuxDeviceMapperMountProvider
variable {provider : LinuxDeviceMapperMountProvider} {host after last : MountHost} {mountRecord final : LinuxDeviceMapperCopyMountRecord}
  {segments : List CopySegment} {copySlices : List CopySliceTarget} {device path : String}

structure Slices (provider : LinuxDeviceMapperMountProvider) (host : MountHost) (segment : CopySegment)
    (copySlice : CopySliceTarget) : Prop where
  file : copySlice.copyFilePath = GetCopyDataFilePath provider.m_copyDataDirPath provider.m_copyName .BIN segment.index
  offset : copySlice.volumeOffset = segment.offset
  size : copySlice.size = segment.length
  attached : host.attached.lookup copySlice.loopDevicePath = some copySlice.copyFilePath

theorem attachDm_some (done : provider.AttachDmLoopDevice path host = (some device,after)) :
    after.attached = host.attached++[(device,path)] ∧ host.attached.lookup device = none ∧ after.sectorSize = host.sectorSize := by
  unfold AttachDmLoopDevice at done
  split at done
  · cases done
  · rename_i found middle attached
    cases done
    obtain ⟨rfl,rfl⟩ := attach_some attached
    exact ⟨saveLoop_only.attached,free_fresh,saveLoop_only.sectorSize⟩

theorem lookup_extend {files : List (String × β)} {more : List (String × β)} (found : files.lookup path = some content) :
    (files++more).lookup path = some content := by
  rw [List.lookup_append,found]
  rfl

theorem attachSegments_slices (done : provider.attachSegments segments mountRecord host = (some final,after)) :
    after.sectorSize = host.sectorSize ∧ (∀ device file, host.attached.lookup device = some file → after.attached.lookup device = some file) ∧
    ∃ copySlices, final.copySlices = mountRecord.copySlices++copySlices ∧ List.Forall₂ (Slices provider after) segments copySlices := by
  induction segments generalizing mountRecord host with
  | nil =>
      cases done
      exact ⟨rfl,fun _ _ => id,[],(List.append_nil _).symm,.nil⟩
  | cons segment rest ih =>
      simp only [attachSegments] at done
      split at done
      · cases done
      · rename_i device middle attached
        obtain ⟨grown,fresh,sectors⟩ := attachDm_some attached
        obtain ⟨kept,more,copySlices,appended,sliced⟩ := ih done
        have here : middle.attached.lookup device = some
            (GetCopyDataFilePath provider.m_copyDataDirPath provider.m_copyName .BIN segment.index) := by
          rw [grown,List.lookup_append,fresh]
          simp
        refine ⟨kept.trans sectors,?_,⟨_,segment.offset,segment.length,device⟩::copySlices,?_,
          .cons ⟨rfl,rfl,rfl,more _ _ here⟩ sliced⟩
        · intro other file there
          apply more
          rw [grown]
          exact lookup_extend there
        · rw [appended,List.append_assoc]
          rfl

theorem dmTargets_map (done : dmTargets copySlices host = (some targets,after)) :
    after.attached = host.attached ∧ targets = copySlices.map fun copySlice =>
      ⟨copySlice.loopDevicePath,copySlice.volumeOffset.toNat/host.sectorSize copySlice.loopDevicePath,
        copySlice.size.toNat/host.sectorSize copySlice.loopDevicePath,0⟩ := by
  induction copySlices generalizing host targets with
  | nil =>
      cases done
      exact ⟨rfl,rfl⟩
  | cons copySlice rest ih =>
      simp only [dmTargets] at done
      split at done
      · generalize more : dmTargets rest host.ask.2 = result at done
        obtain ⟨found,next⟩ := result
        cases found with
        | none => cases done
        | some others =>
            cases done
            obtain ⟨same,rfl⟩ := ih more
            exact ⟨same,rfl⟩
      · cases done

theorem createDm_exposes (sliced : List.Forall₂ (Slices provider host) segments copySlices)
    (created : provider.CreateDmDevice copySlices host = (some named,last)) (device : last.dmDevices.getLast? = some made) :
    last.attached = host.attached ∧
    made.m_targets.map DmTargetLinear.m_blockDevicePath = copySlices.map CopySliceTarget.loopDevicePath ∧
    List.Forall₂ (fun segment target => Exposes host
      (GetCopyDataFilePath provider.m_copyDataDirPath provider.m_copyName .BIN segment.index)
      segment.offset.toNat segment.length.toNat target) segments made.m_targets := by
  simp only [CreateDmDevice] at created
  generalize table : dmTargets copySlices host = result at created
  obtain ⟨targets,middle⟩ := result
  cases targets with
  | none => cases created
  | some targets =>
      obtain ⟨same,rfl⟩ := dmTargets_map table
      dsimp only at created
      split at created
      · cases created
      · rename_i dmDevicePath next done
        cases created
        obtain ⟨⟨number,devices⟩,_⟩ := dmCreate_some done
        have kept := (congrArg (fun made => made.2.attached) done).symm.trans dmCreate_device.attached
        rw [saveDm_only.dmDevices,devices,List.getLast?_concat] at device
        cases device
        refine ⟨saveDm_only.attached.trans (kept.trans same),by simp,?_⟩
        apply List.forall₂_map_right_iff.mpr
        apply sliced.imp
        intro segment copySlice slice
        refine ⟨?_,?_,rfl,?_⟩
        · rw [slice.offset]
        · rw [slice.size]
        · rw [← slice.file]
          exact slice.attached

end LinuxDeviceMapperMountProvider

section table
variable {env : TaskEnv} {config : VolumeBackupConfig} {volumeSize : UInt64} {host : MountHost} {targets : List DmTargetLinear}
  {segments : List CopySegment} {sessions : List VolumeTaskSharedConfig} {session : VolumeTaskSharedConfig} {dir copyName : String}

theorem maps_attached {last : MountHost} (same : last.attached = host.attached) :
    MapsVolume env last targets sessions size ↔ MapsVolume env host targets sessions size := by
  have reads : dmRead last targets = dmRead host targets := by
    funext address
    unfold dmRead
    rw [same]
  constructor
  · exact fun maps => ⟨maps.first,maps.contiguous,maps.stored,by rw [← reads]; exact maps.maps⟩
  · exact fun maps => ⟨maps.first,maps.contiguous,maps.stored,by rw [reads]; exact maps.maps⟩

theorem writer_position (format : session.copyFormat = .BIN) (inside : session.sessionOffset.toNat ≤ address) (bound : address < 2^64) :
    (env.copyData session).position address = address-session.sessionOffset.toNat := by
  unfold TaskEnv.copyData RawData.position
  rw [format]
  dsimp only
  rw [if_neg (by decide),if_pos (by decide)]
  omega

theorem read_target (read : dmRead host targets address = some (file,position)) :
    ∃ (i : Nat) (target : DmTargetLinear), targets[i]? = some target ∧ target.m_startSector ≤ address/512 ∧
      address/512 < target.m_startSector+target.m_sectorsCount ∧ host.attached.lookup target.m_blockDevicePath = some file ∧
      position = (target.m_physicalSector+(address/512-target.m_startSector))*512+address % 512 := by
  unfold dmRead dmTarget at read
  obtain ⟨target,found,rest⟩ := Option.bind_eq_some_iff.mp read
  obtain ⟨other,attached,same⟩ := Option.map_eq_some_iff.mp rest
  cases same
  have holds := List.find?_some found
  obtain ⟨i,here⟩ := List.mem_iff_getElem?.mp (List.mem_of_find?_eq_some found)
  simp only [decide_eq_true_eq] at holds
  exact ⟨i,target,here,holds.1,holds.2,attached,rfl⟩

theorem exposed_at (exposes : List.Forall₂ (fun segment target => Exposes host (GetCopyDataFilePath dir copyName .BIN segment.index)
      segment.offset.toNat segment.length.toNat target) segments targets) :
    segments.length = targets.length ∧ ∀ (i : Nat) segment target, segments[i]? = some segment → targets[i]? = some target →
      Exposes host (GetCopyDataFilePath dir copyName .BIN segment.index) segment.offset.toNat segment.length.toNat target := by
  obtain ⟨same,all⟩ := List.forall₂_iff_get.mp exposes
  refine ⟨same,?_⟩
  intro i segment target here there
  obtain ⟨left,rfl⟩ := List.getElem?_eq_some_iff.mp here
  obtain ⟨right,rfl⟩ := List.getElem?_eq_some_iff.mp there
  exact all i left right

-- A sum that wraps makes a session that starts inside the first one, whose bytes are then in two files.
theorem maps_reach (format : config.copyFormat = .BIN) (sized : 1 ≤ config.sessionSize.toNat)
    (queued : config.split volumeSize config.NewVolumeTaskSession = some sessions)
    (maps : MapsVolume env host targets sessions volumeSize.toNat) :
    sessionCount volumeSize.toNat config.sessionSize.toNat*config.sessionSize.toNat < 2^64 := by
  apply Nat.lt_of_not_le
  intro wraps
  have most : sessionCount volumeSize.toNat config.sessionSize.toNat*config.sessionSize.toNat ≤
      volumeSize.toNat+config.sessionSize.toNat-1 := Nat.div_mul_le_self _ _
  generalize count : sessionCount volumeSize.toNat config.sessionSize.toNat = c at wraps most
  have volume := volumeSize.toNat_lt
  have session := config.sessionSize.toNat_lt
  have last : place (2^64) config.sessionSize.toNat c = c*config.sessionSize.toNat-2^64 := by
    unfold place
    omega
  have before : ∀ i ≤ c, place (2^64) config.sessionSize.toNat (0+i) < volumeSize.toNat := by
    intro i bound
    rw [Nat.zero_add]
    rcases Nat.lt_or_eq_of_le bound with less | rfl
    · have inside := (below_count sized).mp (count.symm ▸ less)
      exact Nat.lt_of_le_of_lt (Nat.mod_le _ _) inside
    · omega
  obtain ⟨first,start,found⟩ := split_visits queued (place_zero).symm (fun i bound => before i (Nat.le_trans bound (Nat.zero_le c)))
  obtain ⟨again,later,there⟩ := split_visits queued (place_zero).symm before
  rw [Nat.zero_add,place_zero] at start
  rw [Nat.zero_add,last] at later
  have inside : c*config.sessionSize.toNat-2^64 < volumeSize.toNat := by omega
  -- The byte at the start of the later session lies in both.
  have stored := maps.maps _ inside _ (List.mem_of_getElem? found) ⟨by simp [VolumeBackupConfig.NewVolumeTaskSession,start],by
    simp only [VolumeBackupConfig.NewVolumeTaskSession,start,Nat.zero_add]
    split
    · rw [UInt64.toNat_sub_of_le _ _ (by rw [UInt64.le_iff_toNat_le]; omega)]
      omega
    · omega⟩
  have twice := maps.maps _ inside _ (List.mem_of_getElem? there) ⟨by simp [VolumeBackupConfig.NewVolumeTaskSession,later],by
    simp only [VolumeBackupConfig.NewVolumeTaskSession,later]
    split
    · rw [UInt64.toNat_sub_of_le _ _ (by rw [UInt64.le_iff_toNat_le]; omega)]
      omega
    · omega⟩
  have files := congrArg Prod.fst (Option.some.inj (stored.symm.trans twice))
  simp only [VolumeBackupConfig.NewVolumeTaskSession,format,Nat.zero_add] at files
  have none := part_inj files
  rw [← none,Nat.zero_mul] at wraps
  omega

section straight
variable (format : config.copyFormat = .BIN) (sized : 1 ≤ config.sessionSize.toNat)
  (reach : sessionCount volumeSize.toNat config.sessionSize.toNat*config.sessionSize.toNat < 2^64)
  (recorded : config.split volumeSize config.NewCopySegment = some segments)
  (queued : config.split volumeSize config.NewVolumeTaskSession = some sessions)

include sized reach recorded in
theorem target_at (exposes : List.Forall₂ (fun segment target => Exposes host
      (GetCopyDataFilePath config.outputCopyDataDirPath config.copyName .BIN segment.index)
      segment.offset.toNat segment.length.toNat target) segments targets) :
    targets.length = sessionCount volumeSize.toNat config.sessionSize.toNat ∧ ∀ (k : Nat) target, targets[k]? = some target →
      Exposes host (GetCopyDataFilePath config.outputCopyDataDirPath config.copyName .BIN k) (k*config.sessionSize.toNat)
        (sessionLength volumeSize.toNat config.sessionSize.toNat k) target := by
  rw [reach_split reach sized] at recorded
  cases recorded
  obtain ⟨same,all⟩ := exposed_at exposes
  rw [List.length_map,List.length_range] at same
  refine ⟨same.symm,?_⟩
  intro k target here
  have below : k < sessionCount volumeSize.toNat config.sessionSize.toNat := by
    rw [same]
    exact (List.getElem?_eq_some_iff.mp here).1
  have exposed := all k _ target (mapped_at.mpr ⟨below,rfl⟩) here
  have offset : (UInt64.ofNat (sessionStart config.sessionSize.toNat k)).toNat = k*config.sessionSize.toNat :=
    @session_offset config volumeSize sized k below
  have length : (UInt64.ofNat (sessionLength volumeSize.toNat config.sessionSize.toNat k)).toNat =
      sessionLength volumeSize.toNat config.sessionSize.toNat k := @session_size config volumeSize k
  simp only [VolumeBackupConfig.NewCopySegment,offset,length] at exposed
  exact exposed

include sized reach queued in
theorem session_at (below : k < sessionCount volumeSize.toNat config.sessionSize.toNat) : backupSession config volumeSize k ∈ sessions := by
  rw [reach_split reach sized] at queued
  cases queued
  exact List.mem_map.mpr ⟨k,List.mem_range.mpr below,rfl⟩

include sized in
theorem stores_iff (below : k < sessionCount volumeSize.toNat config.sessionSize.toNat) :
    Stores (backupSession config volumeSize k) address ↔ k*config.sessionSize.toNat ≤ address ∧
      address < k*config.sessionSize.toNat+sessionLength volumeSize.toNat config.sessionSize.toNat k := by
  unfold Stores
  rw [session_size,session_offset sized below,sessionStart]

include format sized reach recorded queued in
theorem maps_own (exposes : List.Forall₂ (fun segment target => Exposes host
      (GetCopyDataFilePath config.outputCopyDataDirPath config.copyName .BIN segment.index)
      segment.offset.toNat segment.length.toNat target) segments targets)
    (maps : MapsVolume env host targets sessions volumeSize.toNat) (below : k < sessionCount volumeSize.toNat config.sessionSize.toNat)
    (lower : k*config.sessionSize.toNat ≤ address)
    (upper : address < k*config.sessionSize.toNat+sessionLength volumeSize.toNat config.sessionSize.toNat k) :
    ∃ target, targets[k]? = some target ∧ target.m_startSector ≤ address/512 ∧
      address/512 < target.m_startSector+target.m_sectorsCount ∧
      address-k*config.sessionSize.toNat = (address/512-target.m_startSector)*512+address % 512 := by
  have inside := (below_count sized).mp below
  have whole : address < volumeSize.toNat := by
    unfold sessionLength at upper
    omega
  have read := maps.maps address whole _ (session_at sized reach queued below) ((stores_iff sized below).mpr ⟨lower,upper⟩)
  obtain ⟨i,target,here,first,end_,attached,position⟩ := read_target read
  obtain ⟨_,exposed⟩ := target_at sized reach recorded exposes
  have own := exposed i target here
  have file := own.attached.symm.trans attached
  simp only [backupSession,VolumeBackupConfig.NewVolumeTaskSession,format,Option.some.injEq] at file
  have mine := part_inj file
  subst mine
  rw [own.physical,Nat.zero_add] at position
  refine ⟨target,here,first,end_,?_⟩
  have placed : (env.copyData (backupSession config volumeSize i)).position address = address-i*config.sessionSize.toNat := by
    rw [writer_position format ?_ (Nat.lt_trans whole volumeSize.toNat_lt),session_offset sized below,sessionStart]
    rw [session_offset sized below,sessionStart]
    exact lower
  rw [← placed]
  exact position

theorem sector_exact {offset sector : Nat} (least : 512 ≤ sector) (some : 1 ≤ offset) (same : offset = offset/sector*512) : sector = 512 := by
  apply Nat.le_antisymm _ least
  have within := Nat.div_mul_le_self offset sector
  generalize offset/sector = q at same within
  have positive : 0 < q := by
    apply Nat.pos_of_ne_zero
    intro none
    rw [none,Nat.zero_mul] at same
    omega
  rw [same] at within
  exact Nat.le_of_mul_le_mul_left within positive

include format sized reach recorded queued in
theorem maps_sectors (several : 2 ≤ sessionCount volumeSize.toNat config.sessionSize.toNat)
    (sectors : ∀ target ∈ targets, 512 ≤ host.sectorSize target.m_blockDevicePath)
    (exposes : List.Forall₂ (fun segment target => Exposes host
      (GetCopyDataFilePath config.outputCopyDataDirPath config.copyName .BIN segment.index)
      segment.offset.toNat segment.length.toNat target) segments targets)
    (maps : MapsVolume env host targets sessions volumeSize.toNat) :
    (∀ target ∈ targets, host.sectorSize target.m_blockDevicePath = 512) ∧ 512 ∣ config.sessionSize.toNat := by
  obtain ⟨length,exposed⟩ := target_at sized reach recorded exposes
  -- Where a session starts, so does its target.
  have starts {k : Nat} (below : k < sessionCount volumeSize.toNat config.sessionSize.toNat) : ∃ target, targets[k]? = some target ∧
      k*config.sessionSize.toNat = target.m_startSector*512 := by
    have positive := length_positive sized below
    obtain ⟨target,here,first,_,position⟩ := maps_own format sized reach recorded queued exposes maps below (Nat.le_refl _)
      (by omega)
    exact ⟨target,here,by omega⟩
  have divides : 512 ∣ config.sessionSize.toNat := by
    obtain ⟨target,_,start⟩ := starts several
    exact ⟨target.m_startSector,by omega⟩
  refine ⟨?_,divides⟩
  intro target inside
  obtain ⟨k,here⟩ := List.mem_iff_getElem?.mp inside
  have own := exposed k target here
  have least := sectors target inside
  have below : k < sessionCount volumeSize.toNat config.sessionSize.toNat := by
    rw [← length]
    exact (List.getElem?_eq_some_iff.mp here).1
  cases k with
  | succ k =>
      obtain ⟨other,there,start⟩ := starts below
      cases here.symm.trans there
      have some : 1 ≤ (k+1)*config.sessionSize.toNat := by
        rw [Nat.succ_mul]
        omega
      rw [own.start] at start
      exact sector_exact least some start
  | zero =>
      -- The first target starts at 0 for any sector; it is long enough for sectors of 512 only.
      obtain ⟨q,same⟩ := divides
      have next := (below_count sized).mp several
      have long : sessionLength volumeSize.toNat config.sessionSize.toNat 0 = config.sessionSize.toNat := by
        unfold sessionLength
        omega
      have lower : 0*config.sessionSize.toNat ≤ config.sessionSize.toNat-1 := by omega
      obtain ⟨other,there,_,last,_⟩ := maps_own format sized reach recorded queued exposes maps below lower (by rw [long]; omega)
      cases here.symm.trans there
      rw [own.start,own.count,long,Nat.zero_mul,Nat.zero_div,Nat.zero_add,same] at last
      have whole : q*host.sectorSize target.m_blockDevicePath ≤ q*512 := by
        have within := Nat.div_mul_le_self (512*q) (host.sectorSize target.m_blockDevicePath)
        have count : q ≤ 512*q/host.sectorSize target.m_blockDevicePath := by omega
        calc q*host.sectorSize target.m_blockDevicePath
            ≤ 512*q/host.sectorSize target.m_blockDevicePath*host.sectorSize target.m_blockDevicePath := Nat.mul_le_mul_right _ count
          _ ≤ 512*q := within
          _ = q*512 := Nat.mul_comm _ _
      have positive : 0 < q := by omega
      exact Nat.le_antisymm (Nat.le_of_mul_le_mul_left whole positive) least

theorem dmTarget_regular {q w k sector : Nat} {target : DmTargetLinear} (regular : ∀ {j : Nat} {target : DmTargetLinear},
      targets[j]? = some target → target.m_startSector = j*q ∧ target.m_sectorsCount = min q (w-j*q))
    (here : targets[k]? = some target) (lower : k*q ≤ sector) (upper : sector < k*q+min q (w-k*q)) :
    dmTarget targets sector = some target := by
  obtain ⟨start,count⟩ := regular here
  obtain ⟨bound,there⟩ := List.getElem?_eq_some_iff.mp here
  apply List.find?_eq_some_iff_getElem.mpr
  refine ⟨by simp only [decide_eq_true_eq]; omega,k,bound,there,?_⟩
  intro j earlier
  obtain ⟨starts,counts⟩ := regular (List.getElem?_eq_getElem (Nat.lt_trans earlier bound))
  have turn : (j+1)*q ≤ k*q := Nat.mul_le_mul_right _ earlier
  rw [Nat.succ_mul] at turn
  simp only [Bool.not_eq_true',decide_eq_false_iff_not]
  omega

-- With sectors of 512 bytes the targets have q of them a session, and w in all.
include sized reach recorded in
theorem sectors_regular {q w k : Nat} (volume : volumeSize.toNat = 512*w) (same : config.sessionSize.toNat = 512*q)
    (sectors : ∀ target ∈ targets, host.sectorSize target.m_blockDevicePath = 512)
    (exposes : List.Forall₂ (fun segment target => Exposes host
      (GetCopyDataFilePath config.outputCopyDataDirPath config.copyName .BIN segment.index)
      segment.offset.toNat segment.length.toNat target) segments targets) {target : DmTargetLinear} (here : targets[k]? = some target) :
    target.m_startSector = k*q ∧ target.m_sectorsCount = min q (w-k*q) := by
  obtain ⟨_,exposed⟩ := target_at sized reach recorded exposes
  have own := exposed k target here
  have start := own.start
  have count := own.count
  have product : k*(512*q) = 512*(k*q) := Nat.mul_left_comm k 512 q
  rw [sectors target (List.mem_of_getElem? here),same] at start count
  unfold sessionLength at count
  constructor <;> omega

include format sized reach recorded queued in
theorem sectors_map (whole : 512 ∣ volumeSize.toNat) (divides : 512 ∣ config.sessionSize.toNat)
    (sectors : ∀ target ∈ targets, host.sectorSize target.m_blockDevicePath = 512)
    (exposes : List.Forall₂ (fun segment target => Exposes host
      (GetCopyDataFilePath config.outputCopyDataDirPath config.copyName .BIN segment.index)
      segment.offset.toNat segment.length.toNat target) segments targets) :
    MapsVolume env host targets sessions volumeSize.toNat := by
  obtain ⟨length,exposed⟩ := target_at sized reach recorded exposes
  obtain ⟨q,same⟩ := divides
  obtain ⟨w,volume⟩ := whole
  have regular {k : Nat} {target : DmTargetLinear} (here : targets[k]? = some target) :
      target.m_startSector = k*q ∧ target.m_sectorsCount = min q (w-k*q) :=
    sectors_regular sized reach recorded volume same sectors exposes here
  refine ⟨?_,?_,?_,?_⟩
  · intro target here
    rw [List.head?_eq_getElem?] at here
    rw [(regular here).1,Nat.zero_mul]
  · intro i target next here there
    obtain ⟨start,count⟩ := regular here
    obtain ⟨follows,_⟩ := regular there
    have below : i+1 < sessionCount volumeSize.toNat config.sessionSize.toNat := by
      rw [← length]
      exact (List.getElem?_eq_some_iff.mp there).1
    have inside := (below_count sized).mp below
    have product : i*(512*q) = 512*(i*q) := Nat.mul_left_comm i 512 q
    rw [same,Nat.succ_mul] at inside
    rw [follows,start,count,Nat.succ_mul]
    omega
  · intro address inside
    obtain ⟨below,lower,upper⟩ := address_session sized inside
    exact ⟨_,session_at sized reach queued below,(stores_iff sized below).mpr ⟨lower,upper⟩⟩
  · intro address inside session queuing stores
    obtain ⟨k,below,rfl⟩ : ∃ k < sessionCount volumeSize.toNat config.sessionSize.toNat, session = backupSession config volumeSize k := by
      rw [reach_split reach sized] at queued
      cases queued
      obtain ⟨k,listed,rfl⟩ := List.mem_map.mp queuing
      exact ⟨k,List.mem_range.mp listed,rfl⟩
    obtain ⟨lower,upper⟩ := (stores_iff sized below).mp stores
    obtain ⟨target,here⟩ : ∃ target, targets[k]? = some target := by
      rw [← length] at below
      exact ⟨_,List.getElem?_eq_getElem below⟩
    have start := (regular here).1
    have own := exposed k target here
    have product : k*(512*q) = 512*(k*q) := Nat.mul_left_comm k 512 q
    unfold sessionLength at upper
    rw [same] at lower upper
    have found : dmTarget targets (address/512) = some target := dmTarget_regular regular here (by omega) (by omega)
    have placed : (env.copyData (backupSession config volumeSize k)).position address = address-k*config.sessionSize.toNat := by
      rw [writer_position format ?_ (Nat.lt_trans inside volumeSize.toNat_lt),session_offset sized below,sessionStart]
      rw [session_offset sized below,sessionStart,same]
      exact lower
    unfold dmRead SECTOR_SIZE
    rw [found,placed,Option.bind_some,own.attached,Option.map_some,own.physical,Nat.zero_add,same]
    have position : (address/512-target.m_startSector)*512+address % 512 = address-k*(512*q) := by omega
    rw [position]
    simp only [backupSession,VolumeBackupConfig.NewVolumeTaskSession,format]

end straight

theorem recorded_count (sized : 1 ≤ config.sessionSize.toNat)
    (reach : sessionCount volumeSize.toNat config.sessionSize.toNat*config.sessionSize.toNat < 2^64)
    (recorded : config.split volumeSize config.NewCopySegment = some segments) :
    segments.length = sessionCount volumeSize.toNat config.sessionSize.toNat := by
  rw [reach_split reach sized] at recorded
  cases recorded
  rw [List.length_map,List.length_range]

-- The device that a BIN copy of several segments is mounted from is the volume that was backed up just where the
-- loop devices report sectors of 512 bytes, the sessions are made of such sectors, and their offsets do not wrap.
theorem device_mapped {provider : LinuxDeviceMapperMountProvider} {middle last : MountHost}
    {mountRecord : LinuxDeviceMapperCopyMountRecord} {named : String × String} {made : DmDevice}
    (env : TaskEnv) (format : config.copyFormat = .BIN) (sized : 1 ≤ config.sessionSize.toNat) (whole : 512 ∣ volumeSize.toNat)
    (recorded : config.split volumeSize config.NewCopySegment = some segments) (several : 2 ≤ segments.length)
    (queued : config.split volumeSize config.NewVolumeTaskSession = some sessions)
    (loaded : provider.m_segments = segments) (dir : provider.m_copyDataDirPath = config.outputCopyDataDirPath)
    (name : provider.m_copyName = config.copyName)
    (attached : provider.attachSegments provider.m_segments {copyFormat := .BIN,mountTargetPath := provider.m_mountTargetPath} host =
      (some mountRecord,middle))
    (sectors : ∀ copySlice ∈ mountRecord.copySlices, ∃ k, 9 ≤ k ∧ middle.sectorSize copySlice.loopDevicePath = 2^k)
    (created : provider.CreateDmDevice mountRecord.copySlices middle = (some named,last))
    (device : last.dmDevices.getLast? = some made) :
    MapsVolume env last made.m_targets sessions volumeSize.toNat ↔
      (∀ copySlice ∈ mountRecord.copySlices, middle.sectorSize copySlice.loopDevicePath = 512) ∧
      512 ∣ config.sessionSize.toNat ∧
      sessionCount volumeSize.toNat config.sessionSize.toNat*config.sessionSize.toNat < 2^64 := by
  obtain ⟨_,_,copySlices,slices,sliced⟩ := LinuxDeviceMapperMountProvider.attachSegments_slices attached
  rw [List.nil_append] at slices
  rw [loaded,← slices] at sliced
  obtain ⟨kept,devices,exposes⟩ := LinuxDeviceMapperMountProvider.createDm_exposes sliced created device
  rw [dir,name] at exposes
  -- What is asked of the slices' devices is asked of the targets'.
  have each (holds : String → Prop) : (∀ target ∈ made.m_targets, holds target.m_blockDevicePath) ↔
      ∀ copySlice ∈ mountRecord.copySlices, holds copySlice.loopDevicePath := by
    rw [← List.forall_mem_map,devices,List.forall_mem_map]
  have least : ∀ target ∈ made.m_targets, 512 ≤ middle.sectorSize target.m_blockDevicePath := by
    apply (each fun path => 512 ≤ middle.sectorSize path).mpr
    intro copySlice inside
    obtain ⟨k,bound,sector⟩ := sectors copySlice inside
    rw [sector]
    have power : 2^9 ≤ 2^k := Nat.pow_le_pow_right (by decide) bound
    exact power
  rw [maps_attached kept,← each fun path => middle.sectorSize path = 512]
  constructor
  · intro maps
    have reach := maps_reach format sized queued maps
    rw [recorded_count sized reach recorded] at several
    obtain ⟨exact,divides⟩ := maps_sectors format sized reach recorded queued several least exposes maps
    exact ⟨exact,divides,reach⟩
  · rintro ⟨exact,divides,reach⟩
    exact sectors_map format sized reach recorded queued whole divides exact exposes

end table

def dmConfig : VolumeBackupConfig := {splitBackup DEFAULT_SESSION_SIZE with copyName := "copy"}

def dmVolume : UInt64 := 2199023255552

def dmSegments : List CopySegment :=
  [⟨"copy.copydata.bin","copy.0.sha256.meta.bin",0,0,DEFAULT_SESSION_SIZE⟩,
    ⟨"copy.copydata.bin.part1","copy.1.sha256.meta.bin",1,DEFAULT_SESSION_SIZE,DEFAULT_SESSION_SIZE⟩]

def dmProvider : LinuxDeviceMapperMountProvider :=
  {LinuxDeviceMapperMountProvider.partedProvider with m_segments := dmSegments}

def dmHost (sectorSize : Nat) : MountHost :=
  {LinuxDeviceMapperMountProvider.partedHost with sectorSize := fun _ => sectorSize}

def dmEnv : TaskEnv where
  task := .backup dmConfig dmVolume
  sha256 := fun _ _ => 0
  json := CopyMetaFile.recordLibrary []
  device := fun _ => false

def dmSessions : List VolumeTaskSharedConfig := [backupSession dmConfig dmVolume 0,backupSession dmConfig dmVolume 1]

theorem dm_recorded : dmConfig.split dmVolume dmConfig.NewCopySegment = some dmSegments :=
  (backup_split (by decide) (by decide)).trans (by decide +kernel)

theorem dm_queued : dmConfig.split dmVolume dmConfig.NewVolumeTaskSession = some dmSessions :=
  (backup_sessions (by decide) (by decide)).trans (by decide +kernel)

def dmSlices : List CopySliceTarget :=
  [⟨"/data/copy.copydata.bin",0,DEFAULT_SESSION_SIZE,"/dev/loop0"⟩,
    ⟨"/data/copy.copydata.bin.part1",DEFAULT_SESSION_SIZE,DEFAULT_SESSION_SIZE,"/dev/loop1"⟩]

def dmRecord : LinuxDeviceMapperCopyMountRecord :=
  {mountTargetPath := "/mnt",loopDevices := ["/dev/loop0","/dev/loop1"],copySlices := dmSlices}

def dmMiddle (sectorSize : Nat) : MountHost :=
  (dmProvider.attachSegments dmProvider.m_segments {copyFormat := .BIN,mountTargetPath := dmProvider.m_mountTargetPath}
    (dmHost sectorSize)).2

def dmLast (sectorSize : Nat) : MountHost := (dmProvider.CreateDmDevice dmSlices (dmMiddle sectorSize)).2

def dmMade (sectors : Nat) : DmDevice :=
  ⟨"volumeprotect_dm_copy_0",0,[⟨"/dev/loop0",0,sectors,0⟩,⟨"/dev/loop1",sectors,sectors,0⟩],true⟩

theorem device_mapped_aligned : MapsVolume dmEnv (dmLast 512) (dmMade 2147483648).m_targets dmSessions dmVolume.toNat := by
  have attached : dmProvider.attachSegments dmProvider.m_segments
      {copyFormat := .BIN,mountTargetPath := dmProvider.m_mountTargetPath} (dmHost 512) = (some dmRecord,dmMiddle 512) :=
    Prod.ext (by decide +kernel) rfl
  have created : dmProvider.CreateDmDevice dmRecord.copySlices (dmMiddle 512) =
      (some ("volumeprotect_dm_copy_0","/dev/dm-0"),dmLast 512) := Prod.ext (by decide +kernel) rfl
  have made : (dmLast 512).dmDevices.getLast? = some (dmMade 2147483648) := by decide +kernel
  have mapped := device_mapped dmEnv rfl (by decide) (by decide) dm_recorded (by decide) dm_queued (by decide +kernel) (by decide)
    (by decide) attached (fun _ _ => ⟨9,by decide,rfl⟩) created made
  exact mapped.mpr (by decide +kernel)

-- Loop devices with sectors of 4096 bytes: the second target starts at an eighth of where its session does.
theorem device_unmapped : (dmLast 4096).dmDevices.getLast? = some (dmMade 268435456) ∧
    ¬MapsVolume dmEnv (dmLast 4096) (dmMade 268435456).m_targets dmSessions dmVolume.toNat := by
  refine ⟨by decide +kernel,?_⟩
  intro maps
  have read := maps.maps DEFAULT_SESSION_SIZE.toNat (by decide) (backupSession dmConfig dmVolume 1) (by simp [dmSessions])
    ⟨by decide,by decide⟩
  have missed : dmRead (dmLast 4096) (dmMade 268435456).m_targets DEFAULT_SESSION_SIZE.toNat = none := by decide +kernel
  cases missed.symm.trans read

end VolumeBackup
