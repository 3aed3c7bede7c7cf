import VolumeBackup.ZeroCopyRestore

namespace VolumeBackup
open ByteMemory

section loop
variable (copy : Content) (sessionMax : UInt64)

def ZeroCopyLoop.request (s : ZeroCopyLoop) : UInt64 := if sessionMax < s.offset+s.len then sessionMax-s.offset else s.len

-- What sendfile() may answer: a negative number on an error, which a count that no int holds becomes as well; 0 at the end of the
-- copy; otherwise a count between 1 and the length asked for.
def ZeroCopyLoop.Answers (s : ZeroCopyLoop) (result : Int) : Prop :=
  result < 0 ∨ copy.size ≤ s.offset.toNat ∧ result = 0 ∨
    s.offset.toNat < copy.size ∧ 1 ≤ result ∧ result ≤ (s.request sessionMax).toNat

def Answered : List Int → ZeroCopyLoop → Prop
  | [],_ => True
  | result::rest,s => s.offset < sessionMax → s.Answers copy sessionMax result ∧
      (0 ≤ result → Answered rest (s.sendfile copy sessionMax result))

def ZeroCopyLoop.run : List Int → ZeroCopyLoop → Option Bool × ZeroCopyLoop
  | results,s =>
    if s.offset < sessionMax then
      match results with
      | [] => (none,s)
      | result::rest => if result < 0 then (some false,s) else ZeroCopyLoop.run rest (s.sendfile copy sessionMax result)
    else (some true,s)

end loop

variable {copy volume : Content} {config : VolumeTaskSharedConfig} {s : ZeroCopyLoop} {sessionMax : UInt64} {results : List Int}

theorem run_ended (past : ¬s.offset < sessionMax) : s.run copy sessionMax results = (some true,s) := by
  rw [ZeroCopyLoop.run.eq_def]
  exact if_neg past

theorem run_waits (running : s.offset < sessionMax) : s.run copy sessionMax [] = (none,s) := by
  rw [ZeroCopyLoop.run.eq_def]
  exact if_pos running

theorem run_result (running : s.offset < sessionMax) : s.run copy sessionMax (result::results) =
    if result < 0 then (some false,s) else (s.sendfile copy sessionMax result).run copy sessionMax results := by
  rw [ZeroCopyLoop.run.eq_def]
  exact if_pos running

theorem perform_run : (performZeroCopy copy sessionMax results s).map (fun ended => (ended.1,ended.2.1)) =
    (s.run copy sessionMax results).1.map fun ok => (ok,(s.run copy sessionMax results).2.volume) := by
  induction results generalizing s with
  | nil =>
      rw [performZeroCopy.eq_def]
      dsimp only
      by_cases running : s.offset < sessionMax
      · rw [run_waits running,if_pos running]
        rfl
      · rw [run_ended running,if_neg running]
        rfl
  | cons result results ih =>
      rw [performZeroCopy.eq_def]
      dsimp only
      by_cases running : s.offset < sessionMax
      · rw [run_result running,if_pos running]
        split
        · rfl
        · exact ih
      · rw [run_ended running,if_neg running]
        rfl

structure Conveyed (copy : Content) (start : Nat) (s : ZeroCopyLoop) : Prop where
  offset : s.offset.toNat = start+s.position
  bytes : ∀ address < s.position, s.volume.byte address = copy.byte (start+address)

theorem Conveyed.sendfile (conveyed : Conveyed copy start s) (running : s.offset < sessionMax) (room : sessionMax.toNat+s.len.toNat < 2^64)
    (result : Int) : Conveyed copy start (s.sendfile copy sessionMax result) := by
  have place := conveyed.offset
  refine ⟨?_,fun address inside => ?_⟩
  · rw [sendfile_offset running room,place]
    exact Nat.add_assoc _ _ _
  · change address < s.position+s.moved sessionMax result at inside
    change store s.volume.byte s.position (s.moved sessionMax result) (fun k => copy.byte (s.offset.toNat+k)) address = _
    by_cases before : address < s.position
    · rw [store_outside (.inl before)]
      exact conveyed.bytes address before
    · rw [store_inside (by omega) inside,place]
      congr 1
      omega

theorem request_positive (running : s.offset < sessionMax) (positive : 0 < s.len.toNat) : 0 < (s.request sessionMax).toNat := by
  have bound := UInt64.lt_iff_toNat_lt.mp running
  unfold ZeroCopyLoop.request
  split
  · rw [UInt64.toNat_sub_of_le _ _ (UInt64.le_of_lt running)]
    omega
  · exact positive

-- Inside the image each call that reports no error moves a byte at least, so the session's bytes bound the calls.
theorem Conveyed.ends (conveyed : Conveyed copy start s) (room : sessionMax.toNat+s.len.toNat < 2^64) (positive : 0 < s.len.toNat)
    (within : s.offset.toNat ≤ sessionMax.toNat) (covered : sessionMax.toNat ≤ copy.size)
    (answered : Answered copy sessionMax results s) (enough : sessionMax.toNat-s.offset.toNat ≤ results.length) :
    ∃ ok t, s.run copy sessionMax results = (some ok,t) ∧ (ok = true → Conveyed copy start t ∧ t.offset = sessionMax) := by
  induction results generalizing s with
  | nil =>
      have past : ¬s.offset < sessionMax := fun running => by
        have bound := UInt64.lt_iff_toNat_lt.mp running
        simp at enough
        omega
      have same : s.offset = sessionMax := by
        apply UInt64.toNat_inj.mp
        simp at enough
        omega
      exact ⟨true,s,run_ended past,fun _ => ⟨conveyed,same⟩⟩
  | cons result results ih =>
      by_cases running : s.offset < sessionMax
      · have bound := UInt64.lt_iff_toNat_lt.mp running
        obtain ⟨answers,rest⟩ := answered running
        by_cases failed : result < 0
        · exact ⟨false,s,by rw [run_result running,if_pos failed],nofun⟩
        · have count : 1 ≤ result ∧ result ≤ (s.request sessionMax).toNat := by
            rcases answers with negative | ⟨past,_⟩ | ⟨_,least,most⟩
            · exact absurd negative failed
            · omega
            · exact ⟨least,most⟩
          have moved : 1 ≤ s.moved sessionMax result := Nat.le_min.mpr ⟨by omega,request_positive running positive⟩
          have part := moved_within running room result
          have next : (s.sendfile copy sessionMax result).offset.toNat = _ := sendfile_offset running room result
          rw [run_result running,if_neg failed]
          refine ih (conveyed.sendfile running room result) (sendfile_len running room result) (request_positive running positive)
            (by omega) (rest (by omega)) ?_
          simp only [List.length_cons] at enough
          omega
      · have same : s.offset = sessionMax := by
          have least := UInt64.le_iff_toNat_le.mp (UInt64.not_lt.mp running)
          exact UInt64.toNat_inj.mp (by omega)
        exact ⟨true,s,run_ended running,fun _ => ⟨conveyed,same⟩⟩

-- The answers of an image that gives its last bytes one by one and nothing behind them.
def drips (left : Nat) (n : Nat) : Int := if n < left then 1 else 0

theorem drips_next (left : Nat) : (fun n => drips left (n+1)) = drips (left-1) := by
  funext n
  unfold drips
  split <;> split <;> omega

theorem first_next (replies : Nat → Int) (n : Nat) :
    (List.range (n+1)).map replies = replies 0::(List.range n).map fun k => replies (k+1) := by
  rw [List.range_succ_eq_map,List.map_cons,List.map_map]
  rfl

theorem moved_one (running : s.offset < sessionMax) (positive : 0 < s.len.toNat) : s.moved sessionMax 1 = 1 :=
  Nat.min_eq_left (request_positive running positive)

theorem sendfile_one (running : s.offset < sessionMax) (positive : 0 < s.len.toNat) :
    (s.sendfile copy sessionMax 1).offset.toNat = s.offset.toNat+1 := by
  have bound := UInt64.lt_iff_toNat_lt.mp running
  have limit := sessionMax.toNat_lt
  change (s.offset+.ofNat (s.moved sessionMax 1)).toNat = _
  rw [moved_one running positive,UInt64.toNat_add,UInt64.toNat_ofNat']
  omega

theorem sendfile_none : (s.sendfile copy sessionMax 0).offset = s.offset := by
  change s.offset+.ofNat (min 0 _) = _
  rw [Nat.zero_min]
  exact UInt64.add_zero _

theorem drips_spin (short : copy.size < sessionMax.toNat) (positive : 0 < s.len.toNat) (running : s.offset < sessionMax) (n : Nat) :
    Answered copy sessionMax ((List.range n).map (drips (copy.size-s.offset.toNat))) s ∧
      (s.run copy sessionMax ((List.range n).map (drips (copy.size-s.offset.toNat)))).1 = none := by
  induction n generalizing s with
  | zero => exact ⟨trivial,by rw [List.range_zero,List.map_nil,run_waits running]⟩
  | succ n ih =>
      have more : 0 < (s.sendfile copy sessionMax (drips (copy.size-s.offset.toNat) 0)).len.toNat := request_positive running positive
      rw [first_next,drips_next]
      by_cases inside : s.offset.toNat < copy.size
      · have one : drips (copy.size-s.offset.toNat) 0 = 1 := if_pos (by omega)
        rw [one] at more ⊢
        have next : (s.sendfile copy sessionMax 1).offset.toNat = s.offset.toNat+1 := sendfile_one running positive
        have on : (s.sendfile copy sessionMax 1).offset < sessionMax := UInt64.lt_iff_toNat_lt.mpr (by omega)
        have known := ih more on
        rw [next,← Nat.sub_sub] at known
        refine ⟨fun _ => ⟨.inr (.inr ⟨inside,by omega,?_⟩),fun _ => known.1⟩,?_⟩
        · exact_mod_cast request_positive running positive
        · rw [run_result running,if_neg (by omega)]
          exact known.2
      · have none : drips (copy.size-s.offset.toNat) 0 = 0 := if_neg (by omega)
        rw [none] at more ⊢
        have same : (s.sendfile copy sessionMax 0).offset = s.offset := sendfile_none
        have known := ih more (same ▸ running)
        rw [same,show copy.size-s.offset.toNat = copy.size-s.offset.toNat-1 by omega] at known
        refine ⟨fun _ => ⟨.inr (.inl ⟨Nat.le_of_not_lt inside,rfl⟩),fun _ => known.1⟩,?_⟩
        rw [run_result running,if_neg (by omega)]
        exact known.2

def VolumeTaskSharedConfig.zeroCopyLoop (config : VolumeTaskSharedConfig) (volume : Content) : ZeroCopyLoop :=
  ⟨config.sessionOffset,config.blockSize.toUInt64,0,volume⟩

structure Transferred (copy : Content) (config : VolumeTaskSharedConfig) (t : ZeroCopyLoop) : Prop where
  moved : t.position = config.sessionSize.toNat
  bytes : ∀ address < config.sessionSize.toNat, t.volume.byte address = copy.byte (config.sessionOffset.toNat+address)

def ZeroCopyEnds (copy : Content) (config : VolumeTaskSharedConfig) (volume : Content) : Prop :=
  ∀ replies : Nat → Int,
    (∀ n, Answered copy (config.sessionOffset+config.sessionSize) ((List.range n).map replies) (config.zeroCopyLoop volume)) →
    ∃ n ok t, (config.zeroCopyLoop volume).run copy (config.sessionOffset+config.sessionSize) ((List.range n).map replies) = (some ok,t) ∧
      (ok = true → Transferred copy config t)

theorem wrapped_done (wraps : 2^64 ≤ config.sessionOffset.toNat+config.sessionSize.toNat) :
    ¬config.sessionOffset < config.sessionOffset+config.sessionSize := fun running => by
  have bound := UInt64.lt_iff_toNat_lt.mp running
  have limit := config.sessionSize.toNat_lt
  rw [UInt64.toNat_add] at bound
  omega

theorem range_end (fits : config.sessionOffset.toNat+config.sessionSize.toNat < 2^64) :
    (config.sessionOffset+config.sessionSize).toNat = config.sessionOffset.toNat+config.sessionSize.toNat := by
  rw [UInt64.toNat_add]
  omega

-- The loop ends and moves the whole range exactly where the range is empty or the image has all of it. Behind a shorter image it asks
-- for ever, and a range that wraps around is reported as restored. How the loop ends is how PerformZeroCopyRestore does.
theorem zero_copy_ends (positive : 0 < config.blockSize.toNat) (file : copy.size < 2^63) :
    (ZeroCopyEnds copy config volume ↔
      config.sessionSize.toNat = 0 ∨ config.sessionOffset.toNat+config.sessionSize.toNat ≤ copy.size) ∧
    ∀ results, (PerformZeroCopyRestore copy config results volume).map (fun ended => (ended.1,ended.2.1)) =
      ((config.zeroCopyLoop volume).run copy (config.sessionOffset+config.sessionSize) results).1.map fun ok =>
        (ok,((config.zeroCopyLoop volume).run copy (config.sessionOffset+config.sessionSize) results).2.volume) := by
  have length : (config.zeroCopyLoop volume).len.toNat = config.blockSize.toNat := UInt32.toNat_toUInt64 _
  have small := config.blockSize.toNat_lt
  refine ⟨?_,fun results => perform_run⟩
  constructor
  · intro ends
    by_contra beyond
    obtain ⟨some,short⟩ := not_or.mp beyond
    by_cases fits : config.sessionOffset.toNat+config.sessionSize.toNat < 2^64
    · have top := range_end fits
      have running : (config.zeroCopyLoop volume).offset < config.sessionOffset+config.sessionSize :=
        UInt64.lt_iff_toNat_lt.mpr (by rw [top]; change config.sessionOffset.toNat < _; omega)
      have lacks : copy.size < (config.sessionOffset+config.sessionSize).toNat := by omega
      have spins := drips_spin lacks (length ▸ positive) running
      obtain ⟨n,ok,t,ended,_⟩ := ends _ fun n => (spins n).1
      have waits := (spins n).2
      rw [ended] at waits
      cases waits
    · have past := wrapped_done (Nat.le_of_not_lt fits)
      obtain ⟨n,ok,t,ended,whole⟩ := ends (fun _ => -1) fun n => by
        cases n with
        | zero => exact trivial
        | succ n =>
            rw [first_next]
            exact fun running => absurd running past
      rw [run_ended past] at ended
      obtain ⟨rfl,rfl⟩ : true = ok ∧ config.zeroCopyLoop volume = t := by simpa using ended
      exact some (whole rfl).moved.symm
  · intro inside replies answered
    have conveyed : Conveyed copy config.sessionOffset.toNat (config.zeroCopyLoop volume) := ⟨rfl,nofun⟩
    rcases inside with none | covered
    · have empty : config.sessionSize = 0 := UInt64.toNat_inj.mp none
      refine ⟨0,true,_,run_ended ?_,fun _ => ⟨none.symm,fun address below => by omega⟩⟩
      rw [empty,UInt64.add_zero]
      exact UInt64.lt_irrefl _
    · have top : (config.sessionOffset+config.sessionSize).toNat = _ := range_end (by omega)
      have begins : (config.zeroCopyLoop volume).offset.toNat = config.sessionOffset.toNat := rfl
      obtain ⟨ok,t,ended,whole⟩ := conveyed.ends (by omega) (length ▸ positive) (by omega) (by omega) (answered config.sessionSize.toNat)
        (by simp; omega)
      refine ⟨_,ok,t,ended,fun done => ?_⟩
      obtain ⟨moved,last⟩ := whole done
      have place := moved.offset
      rw [last,top] at place
      have all : t.position = config.sessionSize.toNat := by omega
      exact ⟨all,fun address below => moved.bytes address (by omega)⟩

def pairSession : VolumeTaskSharedConfig := pairRestore.zeroCopySession pairMeta (plainBackup.NewCopySegment 0 2 0)

theorem zero_copy_ends_pair : ZeroCopyEnds pair pairSession (.of 2 zeros) :=
  (zero_copy_ends (by decide) (by decide)).1.mpr (.inr (by decide))

-- The image has lost its second byte.
theorem truncated_image_spins : ¬ZeroCopyEnds letter pairSession (.of 2 zeros) := by
  intro ends
  have lacks : letter.size < (pairSession.sessionOffset+pairSession.sessionSize).toNat := by decide
  have running : (pairSession.zeroCopyLoop (.of 2 zeros)).offset < pairSession.sessionOffset+pairSession.sessionSize := by decide
  have spins := drips_spin lacks (by decide) running
  obtain ⟨n,ok,t,ended,_⟩ := ends _ fun n => (spins n).1
  have waits := (spins n).2
  rw [ended] at waits
  cases waits

end VolumeBackup
