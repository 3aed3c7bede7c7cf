import VolumeBackup.ProtectConfig
import VolumeBackup.BlockGeometry

namespace VolumeBackup
open ByteMemory

inductive Cuts {β : Type} (piece : UInt64 → UInt64 → Nat → β) (volumeSize maxSessionSize : UInt64) : UInt64 → Nat → List β → Prop where
  | done (past : volumeSize ≤ offset) : Cuts piece volumeSize maxSessionSize offset index []
  | next {offset size : UInt64} {index : Nat} {pieces : List β} (before : offset < volumeSize)
      (cut : size = volumeSize-offset ∧ volumeSize ≤ offset+maxSessionSize ∨ size = maxSessionSize ∧ offset+maxSessionSize < volumeSize)
      (rest : Cuts piece volumeSize maxSessionSize (offset+size) (index+1) pieces) :
      Cuts piece volumeSize maxSessionSize offset index (piece offset size index::pieces)

variable {β : Type} {piece : UInt64 → UInt64 → Nat → β} {volumeSize maxSessionSize offset : UInt64} {pieces : List β} {x y : β}

theorem split_parts (split : splitVolume piece volumeSize maxSessionSize (rounds+1) offset index = some pieces) :
    (volumeSize ≤ offset ∧ pieces = []) ∨ ∃ size rest, offset < volumeSize ∧
      (size = volumeSize-offset ∧ volumeSize ≤ offset+maxSessionSize ∨ size = maxSessionSize ∧ offset+maxSessionSize < volumeSize) ∧
      splitVolume piece volumeSize maxSessionSize rounds (offset+size) (index+1) = some rest ∧ pieces = piece offset size index::rest := by
  rw [splitVolume] at split
  split at split
  · rename_i inside
    obtain ⟨rest,more,rfl⟩ := Option.map_eq_some_iff.mp split
    refine .inr ⟨_,rest,inside,?_,more,rfl⟩
    split
    · exact .inl ⟨rfl,‹_›⟩
    · exact .inr ⟨rfl,UInt64.not_le.mp ‹_›⟩
  · exact .inl ⟨UInt64.not_lt.mp ‹_›,(Option.some.inj split).symm⟩

theorem splitVolume_sound (split : splitVolume piece volumeSize maxSessionSize rounds offset index = some pieces) :
    Cuts piece volumeSize maxSessionSize offset index pieces := by
  induction rounds generalizing offset index pieces with
  | zero => cases split
  | succ rounds ih =>
      rcases split_parts split with ⟨past,rfl⟩ | ⟨size,rest,before,cut,more,rfl⟩
      · exact .done past
      · exact .next before cut (ih more)

theorem split_get (split : splitVolume piece volumeSize maxSessionSize rounds offset index = some pieces)
    (found : pieces[i]? = some x) : ∃ start size, x = piece start size (index+i) := by
  have cuts := splitVolume_sound split
  clear split
  induction cuts generalizing i with
  | done => cases found
  | @next offset size index pieces before cut rest ih =>
      cases i with
      | zero =>
          cases Option.some.inj found
          exact ⟨offset,size,rfl⟩
      | succ i =>
          obtain ⟨start,length,same⟩ := ih found
          exact ⟨start,length,by rw [same]; congr 1; omega⟩

theorem split_member (split : splitVolume piece volumeSize maxSessionSize rounds offset index = some pieces) (inside : x ∈ pieces) :
    ∃ i start size, pieces[i]? = some x ∧ x = piece start size (index+i) := by
  obtain ⟨i,found⟩ := List.mem_iff_getElem?.mp inside
  obtain ⟨start,size,same⟩ := split_get split found
  exact ⟨i,start,size,found,same⟩

theorem split_both {γ : Type} {other : UInt64 → UInt64 → Nat → γ} {others : List γ} {y : γ}
    (first : splitVolume piece volumeSize maxSessionSize rounds offset index = some pieces)
    (second : splitVolume other volumeSize maxSessionSize rounds offset index = some others) (inside : y ∈ others) :
    ∃ start size k, y = other start size k ∧ piece start size k ∈ pieces := by
  induction rounds generalizing offset index pieces others with
  | zero => cases first
  | succ rounds ih =>
      rw [splitVolume] at first second
      split at first
      · rename_i below
        rw [if_pos below] at second
        obtain ⟨rest,more,rfl⟩ := Option.map_eq_some_iff.mp first
        obtain ⟨tail,further,rfl⟩ := Option.map_eq_some_iff.mp second
        rcases List.mem_cons.mp inside with rfl | later
        · exact ⟨_,_,_,rfl,List.mem_cons_self⟩
        · obtain ⟨start,size,k,same,member⟩ := ih more further later
          exact ⟨start,size,k,same,List.mem_cons_of_mem _ member⟩
      · rename_i past
        rw [if_neg past] at second
        cases Option.some.inj second
        cases inside

theorem split_pairwise (split : splitVolume piece volumeSize maxSessionSize rounds offset index = some pieces) {apart : β → β → Prop}
    (behind : ∀ start size k origin length l, k < l → apart (piece start size k) (piece origin length l)) : pieces.Pairwise apart := by
  rw [List.pairwise_iff_getElem]
  intro i j first second less
  obtain ⟨start,size,earlier⟩ := split_get split (List.getElem?_eq_getElem first)
  obtain ⟨origin,length,later⟩ := split_get split (List.getElem?_eq_getElem second)
  rw [earlier,later]
  apply behind
  omega

theorem split_covers (split : splitVolume piece volumeSize maxSessionSize rounds offset index = some pieces)
    (lower : offset.toNat ≤ address) (upper : address < volumeSize.toNat) :
    ∃ start size k, piece start size k ∈ pieces ∧ start.toNat ≤ address ∧ address < start.toNat+size.toNat := by
  have cuts := splitVolume_sound split
  clear split
  induction cuts with
  | done past =>
      have bound := UInt64.le_iff_toNat_le.mp past
      omega
  | @next offset size index pieces before cut rest ih =>
      by_cases mine : address < offset.toNat+size.toNat
      · exact ⟨offset,size,index,List.mem_cons_self,lower,mine⟩
      · have next : (offset+size).toNat ≤ address := by
          rw [UInt64.toNat_add]
          omega
        obtain ⟨start,length,k,inside,within⟩ := ih next
        exact ⟨start,length,k,List.mem_cons_of_mem _ inside,within⟩

theorem Cuts.positive (cuts : Cuts piece volumeSize maxSessionSize offset index pieces) (inside : offset < volumeSize) :
    0 < maxSessionSize.toNat := by
  induction cuts with
  | done past => exact absurd inside (UInt64.not_lt.mpr past)
  | next before cut rest ih =>
      rcases cut with ⟨_,last⟩ | ⟨rfl,more⟩
      · apply Nat.pos_of_ne_zero
        intro zero
        have none : maxSessionSize = 0 := UInt64.toNat_inj.mp zero
        rw [none,UInt64.add_zero] at last
        exact absurd inside (UInt64.not_lt.mpr last)
      · exact ih more

theorem split_some (split : splitVolume piece volumeSize maxSessionSize rounds offset index = some pieces) (inside : x ∈ pieces) :
    ∃ start size k, x = piece start size k ∧ 0 < size.toNat := by
  have cuts := splitVolume_sound split
  clear split
  induction cuts with
  | done => cases inside
  | @next offset size index pieces before cut rest ih =>
      rcases List.mem_cons.mp inside with rfl | later
      · refine ⟨offset,size,index,rfl,?_⟩
        have positive := (Cuts.next before cut rest).positive before
        rcases cut with ⟨rfl,_⟩ | ⟨rfl,_⟩
        · have bound := UInt64.lt_iff_toNat_lt.mp before
          rw [UInt64.toNat_sub_of_le _ _ (UInt64.le_of_lt before)]
          omega
        · exact positive
      · exact ih later

theorem split_within (split : splitVolume piece volumeSize maxSessionSize rounds offset index = some pieces)
    (short : volumeSize.toNat < 2^63) (straight : offset < volumeSize → offset.toNat+maxSessionSize.toNat < 2^64)
    (inside : x ∈ pieces) : ∃ start size k, x = piece start size k ∧ start.toNat+size.toNat ≤ volumeSize.toNat := by
  have cuts := splitVolume_sound split
  clear split
  induction cuts with
  | done => cases inside
  | @next offset size index pieces before cut rest ih =>
      have bound := UInt64.lt_iff_toNat_lt.mp before
      have limit := straight before
      have sum : (offset+maxSessionSize).toNat = offset.toNat+maxSessionSize.toNat := by
        rw [UInt64.toNat_add]
        omega
      rcases cut with ⟨rfl,last⟩ | ⟨rfl,another⟩
      · have length := UInt64.toNat_sub_of_le _ _ (UInt64.le_of_lt before)
        rcases List.mem_cons.mp inside with rfl | later
        · exact ⟨offset,_,index,rfl,by omega⟩
        · have next : (offset+(volumeSize-offset)).toNat = volumeSize.toNat := by
            rw [UInt64.toNat_add]
            omega
          exact ih (fun again => absurd (UInt64.lt_iff_toNat_lt.mp again) (by omega)) later
      · have reach := UInt64.lt_iff_toNat_lt.mp another
        rcases List.mem_cons.mp inside with rfl | later
        · exact ⟨offset,_,index,rfl,by omega⟩
        · exact ih (fun _ => by omega) later

theorem Cuts.after (cuts : Cuts piece volumeSize maxSessionSize offset index pieces)
    (straight : ∀ start size k, piece start size k ∈ pieces → start.toNat+size.toNat < 2^64) (inside : x ∈ pieces) :
    ∃ start size k, x = piece start size k ∧ offset.toNat ≤ start.toNat := by
  induction cuts with
  | done => cases inside
  | @next offset size index pieces before cut rest ih =>
      rcases List.mem_cons.mp inside with rfl | later
      · exact ⟨offset,size,index,rfl,Nat.le_refl _⟩
      · have bound := straight offset size index List.mem_cons_self
        obtain ⟨start,length,k,same,after⟩ := ih (fun _ _ _ known => straight _ _ _ (List.mem_cons_of_mem _ known)) later
        refine ⟨start,length,k,same,Nat.le_trans ?_ after⟩
        rw [UInt64.toNat_add]
        omega

theorem split_ordered (split : splitVolume piece volumeSize maxSessionSize rounds offset index = some pieces)
    (straight : ∀ start size k, piece start size k ∈ pieces → start.toNat+size.toNat < 2^64) {apart : β → β → Prop}
    (behind : ∀ start size k origin length l, start.toNat+size.toNat ≤ origin.toNat →
      apart (piece start size k) (piece origin length l)) : pieces.Pairwise apart := by
  have cuts := splitVolume_sound split
  clear split
  induction cuts with
  | done => exact .nil
  | @next offset size index pieces before cut rest ih =>
      have later (start length : UInt64) (k : Nat) (known : piece start length k ∈ pieces) :=
        straight start length k (List.mem_cons_of_mem _ known)
      refine .cons (fun other inside => ?_) (ih later)
      obtain ⟨origin,length,l,rfl,after⟩ := rest.after later inside
      have bound := straight offset size index List.mem_cons_self
      refine behind offset size index origin length l (Nat.le_trans ?_ after)
      rw [UInt64.toNat_add]
      omega

theorem split_map {γ : Type} (f : β → γ) : splitVolume (fun offset size index => f (piece offset size index)) volumeSize maxSessionSize
    rounds offset index = (splitVolume piece volumeSize maxSessionSize rounds offset index).map (List.map f) := by
  induction rounds generalizing offset index with
  | zero => rfl
  | succ rounds ih =>
      simp only [splitVolume]
      split
      · simp only [ih,Option.map_map,Function.comp_def,List.map_cons]
      · rfl

theorem split_made {γ δ : Type} {piece : UInt64 → UInt64 → Nat → γ} {other : UInt64 → UInt64 → Nat → δ} {pieces : List γ}
    (made : splitVolume piece volumeSize maxSessionSize rounds offset index = some pieces) :
    ∃ others, splitVolume other volumeSize maxSessionSize rounds offset index = some others := by
  induction rounds generalizing offset index pieces with
  | zero => cases made
  | succ rounds ih =>
      rw [splitVolume] at made ⊢
      split at made
      · rename_i inside
        rw [if_pos inside]
        obtain ⟨rest,more,_⟩ := Option.map_eq_some_iff.mp made
        obtain ⟨others,found⟩ := ih more
        exact ⟨_,by simp only [found]; rfl⟩
      · rename_i past
        rw [if_neg past]
        exact ⟨_,rfl⟩

theorem resource_listed {config : VolumeBackupConfig} (split : config.split volumeSize piece = some pieces) :
    ∃ files, config.copyResource volumeSize = some files := by
  unfold VolumeBackupConfig.copyResource
  cases config.copyFormat with
  | BIN => exact split_made split
  | IMAGE => exact ⟨_,rfl⟩

section bytes
variable {config : VolumeTaskSharedConfig}

def Covers (config : VolumeTaskSharedConfig) (address : Nat) : Prop :=
  config.sessionOffset.toNat ≤ address ∧ address < config.sessionOffset.toNat+config.sessionSize.toNat

theorem covers_block (positive : 0 < config.blockSize.toNat) (covers : Covers config address) :
    ∃ index ≤ config.m_maxIndex, ∃ k < config.nBytesToRead index,
      address = config.sessionOffset.toNat+index*config.blockSize.toNat+k := by
  obtain ⟨lower,upper⟩ := covers
  obtain ⟨inside,start,stop⟩ := address_block positive
    (show address-config.sessionOffset.toNat < config.sessionSize.toNat by omega)
  exact ⟨_,inside,address-config.sessionOffset.toNat-(address-config.sessionOffset.toNat)/config.blockSize.toNat*
    config.blockSize.toNat,by omega,by omega⟩

theorem position_volume (inside : config.sessionOffset.toNat+index*config.blockSize.toNat+k < 2^64) :
    RawData.position ⟨0,0,device⟩ (config.consumeBlockOffset index)+k =
      config.sessionOffset.toNat+index*config.blockSize.toNat+k := by
  unfold RawData.position VolumeTaskSharedConfig.consumeBlockOffset
  rw [if_neg (show ¬(0 : Int) < 0 by decide),if_neg (show ¬(0 : Int) < 0 by decide)]
  omega

theorem position_part (inside : config.sessionOffset.toNat+index*config.blockSize.toNat+k < 2^64) :
    RawData.position ⟨-1,config.sessionOffset,device⟩ (config.consumeBlockOffset index)+k = index*config.blockSize.toNat+k := by
  unfold RawData.position VolumeTaskSharedConfig.consumeBlockOffset
  have bound := config.sessionOffset.toNat_lt
  rw [if_neg (show ¬(0 : Int) < -1 by decide),if_pos (show (-1 : Int) < 0 by decide)]
  dsimp only
  omega

theorem session_within (positive : 0 < config.blockSize.toNat) (some : 0 < config.sessionSize.toNat)
    (short : ∀ index ≤ config.m_maxIndex, config.consumeBlockOffset index+config.nBytesToRead index < 2^63) :
    (∀ index ≤ config.m_maxIndex, config.consumeBlockOffset index = index*config.blockSize.toNat+config.sessionOffset.toNat) ∧
      config.sessionOffset.toNat+config.sessionSize.toNat < 2^63 := by
  have straight : ∀ index ≤ config.m_maxIndex, index*config.blockSize.toNat+config.sessionOffset.toNat < 2^64 := by
    intro index
    induction index with
    | zero => exact fun _ => by have bound := config.sessionOffset.toNat_lt; omega
    | succ index ih =>
        intro inside
        have before := ih (by omega)
        have start := index_start inside
        have bound := short index (by omega)
        unfold VolumeTaskSharedConfig.consumeBlockOffset VolumeTaskSharedConfig.nBytesToRead at bound
        rw [Nat.succ_mul] at start ⊢
        omega
  have exact (index : Nat) (inside : index ≤ config.m_maxIndex) :
      config.consumeBlockOffset index = index*config.blockSize.toNat+config.sessionOffset.toNat :=
    Nat.mod_eq_of_lt (straight index inside)
  refine ⟨exact,?_⟩
  obtain ⟨inside,_,stop⟩ := address_block positive (show config.sessionSize.toNat-1 < config.sessionSize.toNat by omega)
  have bound := short _ inside
  rw [exact _ inside] at bound
  omega

end bytes

end VolumeBackup
