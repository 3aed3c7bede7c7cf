import VolumeBackup.RestoreContent

namespace VolumeBackup
open ByteMemory

-- One session of VolumeZeroCopyRestoreTask has no checkpoint.
def VolumeRestoreConfig.zeroCopySession (config : VolumeRestoreConfig) (volumeCopyMeta : VolumeCopyMeta) (segment : CopySegment) :
    VolumeTaskSharedConfig :=
  {config.session volumeCopyMeta segment with checkpointFilePath := "",checkpointEnabled := false}

-- The loop of PerformZeroCopyRestore: the offset into the copy and the length are its own, the position
-- in the volume is that of the descriptor. A result of sendfile() is the number of bytes it moved from the
-- one to the other, at most as many as it was asked for, or negative; it reads at the offset and moves it on.
structure ZeroCopyLoop where
  offset : UInt64
  len : UInt64
  position : Nat
  volume : Content

section loop
variable (copy : Content) (sessionMax : UInt64)

def ZeroCopyLoop.moved (s : ZeroCopyLoop) (result : Int) : Nat :=
  min result.toNat (if sessionMax < s.offset+s.len then sessionMax-s.offset else s.len).toNat

def ZeroCopyLoop.sendfile (s : ZeroCopyLoop) (result : Int) : ZeroCopyLoop where
  offset := s.offset+.ofNat (s.moved sessionMax result)
  len := if sessionMax < s.offset+s.len then sessionMax-s.offset else s.len
  position := s.position+s.moved sessionMax result
  volume := s.volume.write s.position (s.moved sessionMax result) fun k => copy.byte (s.offset.toNat+k)

-- Whether the loop ended well, with the volume and the results of later calls; `none` is a loop that still runs.
def performZeroCopy : List Int → ZeroCopyLoop → Option (Bool × Content × List Int)
  | results,s =>
    if s.offset < sessionMax then
      match results with
      | [] => none
      | result::rest => if result < 0 then some (false,s.volume,rest) else performZeroCopy rest (s.sendfile copy sessionMax result)
    else some (true,s.volume,results)

end loop

-- Reader and writer are opened for each session, so that the volume is written from its start again.
def PerformZeroCopyRestore (copy : Content) (config : VolumeTaskSharedConfig) (results : List Int) (volume : Content) :
    Option (Bool × Content × List Int) :=
  performZeroCopy copy (config.sessionOffset+config.sessionSize) results ⟨config.sessionOffset,config.blockSize.toUInt64,0,volume⟩

structure ZeroCopyReplies where
  found : Bool
  aborted : Nat → Bool
  opened : Nat → Bool
  results : List Int

def zeroCopyThread (copy : Content) (replies : ZeroCopyReplies) :
    Nat → List VolumeTaskSharedConfig → List Int → Content → Option (TaskStatus × Content)
  | _,[],_,volume => some (.SUCCEED,volume)
  | k,config::rest,results,volume =>
    if replies.aborted k then some (.ABORTED,volume)
    else if !replies.opened k then some (.FAILED,volume)
    else match PerformZeroCopyRestore copy config results volume with
      | none => none
      | some (false,volume,_) => some (.FAILED,volume)
      | some (true,volume,results) => zeroCopyThread copy replies (k+1) rest results volume

def zeroCopyRestore (config : VolumeRestoreConfig) (volumeCopyMeta : VolumeCopyMeta) (copy : Content) (replies : ZeroCopyReplies)
    (volume : Content) : Option (TaskStatus × Content) :=
  if replies.found then
    zeroCopyThread copy replies 0 (volumeCopyMeta.segments.map (config.zeroCopySession volumeCopyMeta)) replies.results volume
  else some (.FAILED,volume)

variable {copy volume after : Content} {config : VolumeTaskSharedConfig} {replies : ZeroCopyReplies} {s : ZeroCopyLoop}
  {sessionMax : UInt64}

structure Sending (copy volume : Content) (start : Nat) (sessionMax : UInt64) (s : ZeroCopyLoop) : Prop where
  offset : s.offset.toNat = start+s.position
  within : s.offset ≤ sessionMax
  size : s.volume.size = volume.size
  bytes : ∀ address, s.volume.byte address = if address < s.position then copy.byte (start+address) else volume.byte address

theorem moved_within (running : s.offset < sessionMax) (room : sessionMax.toNat+s.len.toNat < 2^64) (result : Int) :
    s.moved sessionMax result ≤ sessionMax.toNat-s.offset.toNat := by
  have bound := UInt64.lt_iff_toNat_lt.mp running
  refine Nat.le_trans (Nat.min_le_right _ _) ?_
  split
  · rw [UInt64.toNat_sub_of_le _ _ (UInt64.le_of_lt running)]
  · rename_i short
    have most := UInt64.le_iff_toNat_le.mp (UInt64.not_lt.mp short)
    rw [UInt64.toNat_add] at most
    omega

theorem sendfile_offset (running : s.offset < sessionMax) (room : sessionMax.toNat+s.len.toNat < 2^64) (result : Int) :
    (s.sendfile copy sessionMax result).offset.toNat = s.offset.toNat+s.moved sessionMax result := by
  have bound := UInt64.lt_iff_toNat_lt.mp running
  have part := moved_within running room result
  have limit := sessionMax.toNat_lt
  change (s.offset+.ofNat (s.moved sessionMax result)).toNat = _
  rw [UInt64.toNat_add,UInt64.toNat_ofNat']
  omega

theorem Sending.sendfile (sending : Sending copy volume start sessionMax s) (running : s.offset < sessionMax)
    (room : sessionMax.toNat+s.len.toNat < 2^64) (fits : sessionMax.toNat ≤ start+volume.size) (result : Int) :
    Sending copy volume start sessionMax (s.sendfile copy sessionMax result) := by
  have bound := UInt64.lt_iff_toNat_lt.mp running
  have part := moved_within running room result
  have next : (s.sendfile copy sessionMax result).offset.toNat = _ := sendfile_offset running room result
  have place := sending.offset
  refine ⟨?_,?_,?_,?_⟩
  · exact next.trans (by rw [place]; exact Nat.add_assoc _ _ _)
  · apply UInt64.le_iff_toNat_le.mpr
    refine Nat.le_trans (Nat.le_of_eq next) ?_
    omega
  · have size := sending.size
    simp only [ZeroCopyLoop.sendfile,Content.write]
    split <;> omega
  · intro address
    change store s.volume.byte s.position (s.moved sessionMax result) (fun k => copy.byte (s.offset.toNat+k)) address =
      if address < s.position+s.moved sessionMax result then copy.byte (start+address) else volume.byte address
    rw [store,sending.bytes]
    by_cases before : address < s.position
    · rw [if_neg (by omega),if_pos before,if_pos (by omega)]
    · by_cases inside : address < s.position+s.moved sessionMax result
      · rw [if_pos (by omega),if_pos inside]
        congr 1
        omega
      · rw [if_neg (by omega),if_neg before,if_neg inside]

theorem sendfile_len (running : s.offset < sessionMax) (room : sessionMax.toNat+s.len.toNat < 2^64) (result : Int) :
    sessionMax.toNat+(s.sendfile copy sessionMax result).len.toNat < 2^64 := by
  simp only [ZeroCopyLoop.sendfile]
  split
  · rename_i long
    have most := UInt64.lt_iff_toNat_lt.mp long
    rw [UInt64.toNat_add] at most
    have bound := UInt64.lt_iff_toNat_lt.mp running
    rw [UInt64.toNat_sub_of_le _ _ (UInt64.le_of_lt running)]
    omega
  · exact room

theorem Sending.performed (sending : Sending copy volume start sessionMax s) (room : sessionMax.toNat+s.len.toNat < 2^64)
    (fits : sessionMax.toNat ≤ start+volume.size)
    (done : performZeroCopy copy sessionMax results s = some (true,after,rest)) :
    after.size = volume.size ∧ ∀ address, after.byte address =
      if address < sessionMax.toNat-start then copy.byte (start+address) else volume.byte address := by
  have ended : ∀ t : ZeroCopyLoop, Sending copy volume start sessionMax t → ¬t.offset < sessionMax → after = t.volume →
      after.size = volume.size ∧ ∀ address, after.byte address =
        if address < sessionMax.toNat-start then copy.byte (start+address) else volume.byte address := by
    rintro t sent past rfl
    have most := UInt64.le_iff_toNat_le.mp sent.within
    have least := UInt64.le_iff_toNat_le.mp (UInt64.not_lt.mp past)
    have place := sent.offset
    refine ⟨sent.size,fun address => ?_⟩
    rw [sent.bytes,show sessionMax.toNat-start = t.position by omega]
  induction results generalizing s with
  | nil =>
      rw [performZeroCopy.eq_def] at done
      dsimp only at done
      split at done
      · cases done
      · exact ended s sending ‹_› (by cases done; rfl)
  | cons result results ih =>
      rw [performZeroCopy.eq_def] at done
      dsimp only at done
      split at done
      · rename_i running
        split at done
        · cases done
        · exact ih (sending.sendfile running room fits result) (sendfile_len running room result) done
      · exact ended s sending ‹_› (by cases done; rfl)

theorem session_sent (some : config.sessionOffset.toNat+config.sessionSize.toNat < 2^63)
    (fits : config.sessionSize.toNat ≤ volume.size)
    (done : PerformZeroCopyRestore copy config results volume = .some (true,after,rest)) :
    after.size = volume.size ∧ ∀ address, after.byte address =
      if address < config.sessionSize.toNat then copy.byte (config.sessionOffset.toNat+address) else volume.byte address := by
  have top : (config.sessionOffset+config.sessionSize).toNat = config.sessionOffset.toNat+config.sessionSize.toNat := by
    rw [UInt64.toNat_add]
    omega
  have begun : Sending copy volume config.sessionOffset.toNat (config.sessionOffset+config.sessionSize)
      ⟨config.sessionOffset,config.blockSize.toUInt64,0,volume⟩ := by
    refine ⟨rfl,UInt64.le_iff_toNat_le.mpr (by rw [top]; exact Nat.le_add_right _ _),rfl,fun address => ?_⟩
    rw [if_neg (by simp)]
  have block := config.blockSize.toNat_lt
  have sent := begun.performed (by simp only [top,UInt32.toNat_toUInt64]; omega) (by omega) done
  rw [top,Nat.add_sub_cancel_left] at sent
  exact sent

-- Byte by byte, what sessions of one size leave that start at `start` and have `left` bytes before them: at
-- each address the last session that is long enough has the say.
def lastSent (copy prior : Memory) (size start left : Nat) (address : Nat) : UInt8 :=
  if address < min size left then copy (start+(left-1-address)/size*size+address) else prior address

section bytes
variable {bytes prior : Memory}

theorem lastSent_single (last : left ≤ size) :
    lastSent bytes prior size start left address = if address < left then bytes (start+address) else prior address := by
  unfold lastSent
  rw [Nat.min_eq_right last]
  split
  · rw [Nat.div_eq_of_lt (by omega),Nat.zero_mul]
    rfl
  · rfl

theorem lastSent_next (more : size < left) (positive : 0 < size) :
    lastSent bytes (fun k => if k < size then bytes (start+k) else prior k) size (start+size) (left-size) address =
      lastSent bytes prior size start left address := by
  unfold lastSent
  by_cases near : address < min size (left-size)
  · have step : left-1-address = left-size-1-address+size := by omega
    rw [if_pos near,if_pos (by omega),step,Nat.add_div_right _ positive,Nat.succ_mul]
    congr 1
    omega
  · rw [if_neg near]
    dsimp only
    by_cases first : address < size
    · rw [if_pos first,if_pos (by omega),Nat.div_eq_of_lt (by omega),Nat.zero_mul]
      rfl
    · rw [if_neg first,if_neg (by omega)]

end bytes

variable {backup : VolumeBackupConfig} {restore : VolumeRestoreConfig} {volumeCopyMeta : VolumeCopyMeta} {volumeSize offset : UInt64}
  {segments : List CopySegment}

theorem thread_sent (split : splitVolume backup.NewCopySegment volumeSize backup.sessionSize rounds offset index = some segments)
    (short : volumeSize.toNat < 2^63) (size : volume.size = volumeSize.toNat) (below : offset.toNat ≤ volumeSize.toNat)
    (straight : offset < volumeSize → offset.toNat+backup.sessionSize.toNat < 2^64)
    (done : zeroCopyThread copy replies k (segments.map (restore.zeroCopySession volumeCopyMeta)) results volume =
      some (.SUCCEED,after)) :
    after.size = volumeSize.toNat ∧ ∀ address, after.byte address =
      lastSent copy.byte volume.byte backup.sessionSize.toNat offset.toNat (volumeSize.toNat-offset.toNat) address := by
  have cuts := splitVolume_sound split
  clear split
  induction cuts generalizing k results volume with
  | done past =>
      cases done
      have bound := UInt64.le_iff_toNat_le.mp past
      refine ⟨size,fun address => ?_⟩
      rw [lastSent,if_neg (by omega)]
  | @next offset length index segments inside cut rest ih =>
      have bound := UInt64.lt_iff_toNat_lt.mp inside
      have sum : (offset+backup.sessionSize).toNat = offset.toNat+backup.sessionSize.toNat := by
        rw [UInt64.toNat_add]
        have limit := straight inside
        omega
      simp only [List.map_cons,zeroCopyThread] at done
      split at done
      · cases done
      · split at done
        · cases done
        · split at done
          · cases done
          · cases done
          · rename_i middle remaining first
            rcases cut with ⟨rfl,last⟩ | ⟨rfl,another⟩
            · have length : (volumeSize-offset).toNat = volumeSize.toNat-offset.toNat :=
                UInt64.toNat_sub_of_le _ _ (UInt64.le_of_lt inside)
              have next : (offset+(volumeSize-offset)).toNat = volumeSize.toNat := by
                rw [UInt64.toNat_add,length]
                omega
              have reach := UInt64.le_iff_toNat_le.mp last
              obtain ⟨kept,sent⟩ := session_sent
                (by change offset.toNat+(volumeSize-offset).toNat < 2^63; omega)
                (by change (volumeSize-offset).toNat ≤ volume.size; omega) first
              obtain ⟨final,bytes⟩ := ih (kept.trans size) (Nat.le_of_eq next)
                (fun another => absurd (UInt64.lt_iff_toNat_lt.mp another) (by omega)) done
              refine ⟨final,fun address => ?_⟩
              rw [bytes,next,Nat.sub_self,lastSent_single (Nat.zero_le _),if_neg (Nat.not_lt_zero _),sent,lastSent_single (by omega)]
              change (if address < (volumeSize-offset).toNat then _ else _) = _
              rw [length]
              rfl
            · have reach := UInt64.lt_iff_toNat_lt.mp another
              obtain ⟨kept,sent⟩ := session_sent
                (by change offset.toNat+backup.sessionSize.toNat < 2^63; omega)
                (by change backup.sessionSize.toNat ≤ volume.size; omega) first
              obtain ⟨final,bytes⟩ := ih (kept.trans size) (by omega) (fun _ => by omega) done
              refine ⟨final,fun address => ?_⟩
              have prior : middle.byte = fun k =>
                  if k < backup.sessionSize.toNat then copy.byte (offset.toNat+k) else volume.byte k := funext sent
              rw [bytes,prior,sum,← Nat.sub_sub]
              exact lastSent_next (by omega) (rest.positive another)

def Restored (env : TaskEnv) (queue : List VolumeTaskSharedConfig) (copy volume : Content) : Prop :=
  ∀ config ∈ queue, ∀ index ≤ config.m_maxIndex, HoldsBlock (env.sessionEnv config) copy volume index

-- Every session of the copy repeats what the last session that is as long has at the same place, and past
-- the first session the volume has the bytes of the copy already.
def Repeats (volumeSize sessionSize : Nat) (copy volume : Memory) : Prop :=
  (∀ address < min sessionSize volumeSize, copy ((volumeSize-1-address)/sessionSize*sessionSize+address) = copy address) ∧
    ∀ address < volumeSize, sessionSize ≤ address → volume address = copy address

section restored
variable {env : TaskEnv} {queue : List VolumeTaskSharedConfig}

theorem restored_bytes (task : env.task = .restore restore volumeCopyMeta) (sessions : env.task.sessions = some queue)
    (record : backup.volumeCopyMeta volumeSize = some volumeCopyMeta) (format : backup.copyFormat = .IMAGE)
    (short : volumeSize.toNat < 2^63) (size : volume.size = volumeSize.toNat) :
    Restored env queue copy volume ↔ ∀ address < volumeSize.toNat, volume.byte address = copy.byte address := by
  obtain ⟨split,block,_,recorded⟩ := recorded_parts record
  -- An image and a volume have the bytes at the same addresses.
  have places : ∀ config ∈ queue, ∀ index k, config.sessionOffset.toNat+index*config.blockSize.toNat+k < 2^64 →
      readPosition (env.sessionEnv config) index+k = config.sessionOffset.toNat+index*config.blockSize.toNat+k ∧
      writePosition (env.sessionEnv config) index+k = config.sessionOffset.toNat+index*config.blockSize.toNat+k := by
    intro config member index k inside
    obtain ⟨segment,_,rfl⟩ := restore_member task sessions member
    obtain ⟨read,write⟩ := restore_positions task (restore.session volumeCopyMeta segment) index
    have image : (restore.session volumeCopyMeta segment).copyFormat = .IMAGE := recorded.trans format
    rw [read,write]
    unfold TaskEnv.copyData
    rw [image]
    exact ⟨position_volume inside,position_volume inside⟩
  constructor
  · intro restored address inside
    obtain ⟨config,member,covers⟩ := restore_covers task sessions (recorded_parts record).1 inside
    have positive : 0 < config.blockSize.toNat := by
      obtain ⟨segment,_,rfl⟩ := restore_member task sessions member
      change 0 < volumeCopyMeta.blockSize.toNat
      rw [block]
      decide
    obtain ⟨index,below,k,bound,rfl⟩ := covers_block positive covers
    obtain ⟨read,write⟩ := places config member index k (by omega)
    have byte := (restored config member index below).2 k bound
    rwa [read,write] at byte
  · intro bytes config member index below
    have within : config.sessionOffset.toNat+config.sessionSize.toNat ≤ volumeSize.toNat := by
      obtain ⟨segment,inside,rfl⟩ := restore_member task sessions member
      have straight : (0 : UInt64) < volumeSize → (0 : UInt64).toNat+backup.sessionSize.toNat < 2^64 := by
        have limit := backup.sessionSize.toNat_lt
        simpa using fun _ => limit
      obtain ⟨start,length,k,rfl,bound⟩ := split_within split short straight inside
      exact bound
    have ended := index_end below
    have start := (places config member index 0 (by omega)).2
    have same : (env.sessionEnv config).config.nBytesToRead index = config.nBytesToRead index := rfl
    refine ⟨by omega,fun k bound => ?_⟩
    obtain ⟨read,write⟩ := places config member index k (by omega)
    rw [read,write]
    exact bytes _ (by omega)

-- A zero-copy restore that ends with SUCCEED has written what the plain one writes just where the sessions
-- that it lays over each other repeat themselves.
theorem zero_copy_restores (task : env.task = .restore restore volumeCopyMeta) (sessions : env.task.sessions = some queue)
    (record : backup.volumeCopyMeta volumeSize = some volumeCopyMeta) (format : backup.copyFormat = .IMAGE)
    (whole : volumeSize.toNat ≤ copy.size) (file : copy.size < 2^63) (size : volume.size = volumeSize.toNat)
    (done : zeroCopyRestore restore volumeCopyMeta copy replies volume = some (.SUCCEED,after)) :
    Restored env queue copy after ↔ Repeats volumeSize.toNat backup.sessionSize.toNat copy.byte volume.byte := by
  have short : volumeSize.toNat < 2^63 := Nat.lt_of_le_of_lt whole file
  unfold zeroCopyRestore at done
  split at done
  · obtain ⟨final,bytes⟩ := thread_sent (recorded_parts record).1 short size (Nat.zero_le _)
      (fun _ => by have limit := backup.sessionSize.toNat_lt; simpa using limit) done
    rw [restored_bytes task sessions record format short final]
    have zero : (0 : UInt64).toNat = 0 := rfl
    simp only [zero,Nat.sub_zero,lastSent,Nat.zero_add] at bytes
    constructor
    · intro same
      refine ⟨fun address inside => ?_,fun address inside past => ?_⟩
      · rw [← same address (by omega),bytes,if_pos inside]
      · rw [← same address inside,bytes,if_neg (by omega)]
    · rintro ⟨repeated,there⟩ address inside
      rw [bytes]
      split
      · exact repeated address ‹_›
      · exact there address inside (by omega)
  · cases done

end restored

def pairMeta : VolumeCopyMeta :=
  {plainMeta with volumeSize := 2,segments := [plainBackup.NewCopySegment 0 1 0,plainBackup.NewCopySegment 1 1 1]}

def pairRestore : VolumeRestoreConfig where
  volumePath := "/dev/sda1"
  copyDataDirPath := "/copy"
  checkpointDirPath := "/checkpoint"

def pairEnv : TaskEnv := {restoreEnv "/dev/sda1" with task := .restore pairRestore pairMeta}

def byteReplies : ZeroCopyReplies := ⟨true,fun _ => false,fun _ => true,[1,1]⟩

-- A copy of two equal bytes, restored to a volume that has the second one already.
def equalBytes : Content := .of 2 fun _ => 97

def halfThere : Content := .of 2 fun address => if address = 0 then 0 else 97

theorem zero_copy_restores_pair : Restored pairEnv (pairMeta.segments.map (pairRestore.session pairMeta)) equalBytes equalBytes := by
  have record : plainBackup.volumeCopyMeta 2 = some pairMeta := by decide +kernel
  have done : zeroCopyRestore pairRestore pairMeta equalBytes byteReplies halfThere = some (.SUCCEED,equalBytes) := by decide +kernel
  have repeats : Repeats 2 1 equalBytes.byte halfThere.byte := by
    unfold Repeats
    decide
  exact (zero_copy_restores rfl rfl record rfl (by decide) (by decide) rfl done).mpr repeats

-- The second session overwrites what the first has written.
theorem zero_copy_overlays : ¬∀ after, zeroCopyRestore pairRestore pairMeta pair byteReplies (.of 2 zeros) = some (.SUCCEED,after) →
    Restored pairEnv (pairMeta.segments.map (pairRestore.session pairMeta)) pair after := by
  intro always
  have done : zeroCopyRestore pairRestore pairMeta pair byteReplies (.of 2 zeros) =
      some (.SUCCEED,.of 2 fun address => if address = 0 then 98 else 0) := by decide +kernel
  have record : plainBackup.volumeCopyMeta 2 = some pairMeta := by decide +kernel
  have bytes := (restored_bytes rfl rfl record rfl (by decide) rfl).mp (always _ done) 0 (by decide)
  revert bytes
  decide

end VolumeBackup
