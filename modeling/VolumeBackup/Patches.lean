import VolumeBackup.ByteMemory

namespace ByteMemory

structure Patch where
  position : Nat
  length : Nat
  data : Memory

def Patch.Covers (patch : Patch) (address : Nat) : Prop :=
  patch.position ≤ address ∧ address < patch.position+patch.length

def Content.byteAt (content : Content) (address : Nat) : Option UInt8 :=
  if address < content.size then some (content.byte address) else none

structure Patched (patches : Patch → Prop) (before after : Content) : Prop where
  larger : before.size ≤ after.size
  reach : ∀ address < after.size, address < before.size ∨ ∃ patch, patches patch ∧ address < patch.position+patch.length
  byte : ∀ address, after.byte address = before.byte address ∨
    ∃ patch, patches patch ∧ patch.Covers address ∧ after.byte address = patch.data (address-patch.position)

structure AllPatched (patches : Patch → Prop) (before after : Content) : Prop extends Patched patches before after where
  held : ∀ patch, patches patch → after.Holds patch.position patch.length patch.data 0

-- A byte that reads as zero when all patches are written, without a patch of its own: some other patch has it, or it
-- is zero already and the content is, or becomes, long enough.
def ZeroWithout (patches : Patch → Prop) (before : Content) (address : Nat) : Prop :=
  (∃ patch, patches patch ∧ patch.Covers address) ∨ before.byte address = 0 ∧
    (address < before.size ∨ ∃ patch, patches patch ∧ address < patch.position+patch.length)

variable {patches fewer more : Patch → Prop} {patch : Patch} {before after other : Content} {address : Nat}

theorem Patch.Covers.inside (covers : patch.Covers address) : address-patch.position < patch.length := by
  have lower := covers.1
  have upper := covers.2
  omega

theorem Patched.refl : Patched patches before before where
  larger := Nat.le_refl _
  reach := fun _ inside => .inl inside
  byte := fun _ => .inl rfl

theorem Patched.write (patched : Patched patches before after) (known : patches patch) {data : Memory}
    (same : ∀ k < patch.length, data k = patch.data k) :
    Patched patches before (after.write patch.position patch.length data) where
  larger := Nat.le_trans patched.larger Content.size_write
  reach := by
    intro address inside
    by_cases far : address < patch.position+patch.length
    · exact .inr ⟨patch,known,far⟩
    · refine patched.reach address ?_
      unfold Content.write at inside
      dsimp only at inside
      split at inside <;> omega
  byte := by
    intro address
    by_cases covers : patch.Covers address
    · refine .inr ⟨patch,known,covers,?_⟩
      have inside : (after.write patch.position patch.length data).byte address = data (address-patch.position) :=
        store_inside covers.1 covers.2
      rw [inside,same _ covers.inside]
    · have outside : (after.write patch.position patch.length data).byte address = after.byte address := by
        unfold Patch.Covers at covers
        refine Content.write_outside ?_
        omega
      rw [outside]
      exact patched.byte address

theorem AllPatched.covered (all : AllPatched patches before after) (known : patches patch) (covers : patch.Covers address) :
    address < after.size ∧ after.byte address = patch.data (address-patch.position) := by
  obtain ⟨size,bytes⟩ := all.held patch known
  have place : patch.position+(address-patch.position) = address := Nat.add_sub_cancel' covers.1
  have byte := bytes _ covers.inside
  rw [place,Nat.zero_add] at byte
  exact ⟨Nat.lt_of_lt_of_le covers.2 size,byte⟩

theorem AllPatched.uncovered (all : AllPatched patches before after) (none : ∀ patch, patches patch → ¬patch.Covers address) :
    after.byte address = before.byte address := by
  rcases all.byte address with same | ⟨patch,known,covers,_⟩
  · exact same
  · exact absurd covers (none patch known)

theorem AllPatched.size (all : AllPatched patches before after) : address < after.size ↔
    address < before.size ∨ ∃ patch, patches patch ∧ address < patch.position+patch.length := by
  refine ⟨all.reach address,?_⟩
  rintro (inside | ⟨patch,known,inside⟩)
  · exact Nat.lt_of_lt_of_le inside all.larger
  · exact Nat.lt_of_lt_of_le inside (all.held patch known).1

section fewer
variable (left : AllPatched fewer before after) (right : AllPatched more before other)
  (some : ∀ patch, fewer patch → more patch)
  (zeros : ∀ patch, more patch → ¬fewer patch → 0 < patch.length ∧ ∀ k < patch.length, patch.data k = 0)
include left right some zeros

theorem AllPatched.same_size (clear : ∀ patch, more patch → ¬fewer patch → ∀ address, patch.Covers address →
    ZeroWithout fewer before address) : address < after.size ↔ address < other.size := by
  rw [left.size,right.size]
  constructor
  · rintro (inside | ⟨patch,known,inside⟩)
    · exact .inl inside
    · exact .inr ⟨patch,some patch known,inside⟩
  rintro (inside | ⟨patch,known,inside⟩)
  · exact .inl inside
  by_cases kept : fewer patch
  · exact .inr ⟨patch,kept,inside⟩
  have length := (zeros patch known kept).1
  have last : patch.Covers (patch.position+patch.length-1) := ⟨by omega,by omega⟩
  rcases clear patch known kept _ last with ⟨next,found,covers⟩ | ⟨_,long | ⟨next,found,far⟩⟩
  · exact .inr ⟨next,found,by have bound := covers.2; omega⟩
  · exact .inl (by omega)
  · exact .inr ⟨next,found,by omega⟩

omit some in
theorem AllPatched.zero_without (known : more patch) (omitted : ¬fewer patch) (covers : patch.Covers address)
    (same : after.byteAt address = other.byteAt address) : ZeroWithout fewer before address := by
  obtain ⟨inside,byte⟩ := right.covered known covers
  unfold Content.byteAt at same
  rw [if_pos inside] at same
  split at same
  · rename_i readable
    by_cases covered : ∃ patch, fewer patch ∧ patch.Covers address
    · exact .inl covered
    · refine .inr ⟨?_,left.size.mp readable⟩
      rw [← left.uncovered fun patch known covers => covered ⟨patch,known,covers⟩,Option.some.inj same,byte]
      exact (zeros patch known omitted).2 _ covers.inside
  · cases same

theorem AllPatched.same (clear : ∀ patch, more patch → ¬fewer patch → ∀ address, patch.Covers address →
    ZeroWithout fewer before address) : after = other := by
  have size (address : Nat) := @AllPatched.same_size _ _ _ _ _ address left right some zeros clear
  refine Content.ext (Nat.le_antisymm ?_ ?_) fun address inside => ?_
  · exact Nat.le_of_not_lt fun less => Nat.lt_irrefl _ ((size _).mp less)
  · exact Nat.le_of_not_lt fun less => Nat.lt_irrefl _ ((size _).mpr less)
  by_cases covered : ∃ patch, fewer patch ∧ patch.Covers address
  · obtain ⟨patch,known,covers⟩ := covered
    rw [(left.covered known covers).2,(right.covered (some patch known) covers).2]
  have kept : after.byte address = before.byte address :=
    left.uncovered fun patch known covers => covered ⟨patch,known,covers⟩
  by_cases omitted : ∃ patch, more patch ∧ patch.Covers address
  · obtain ⟨patch,known,covers⟩ := omitted
    have absent : ¬fewer patch := fun here => covered ⟨patch,here,covers⟩
    rcases clear patch known absent address covers with here | ⟨zero,_⟩
    · exact absurd here covered
    · rw [kept,zero,(right.covered known covers).2]
      exact ((zeros patch known absent).2 _ covers.inside).symm
  · rw [kept]
    exact (right.uncovered fun patch known covers => omitted ⟨patch,known,covers⟩).symm

end fewer

end ByteMemory
