import Mathlib.Data.Int.GCD
import Mathlib.Data.Finset.Card

-- Equal strides around a circle: where they lead, how far they get, and how soon.
namespace Strides

variable {modulus stride bound d : Nat}

def place (modulus stride d : Nat) : Nat := d*stride % modulus

theorem place_zero : place modulus stride 0 = 0 := by
  unfold place
  rw [Nat.zero_mul,Nat.zero_mod]

theorem place_succ : place modulus stride (d+1) = (place modulus stride d+stride) % modulus := by
  unfold place
  rw [Nat.succ_mul,Nat.mod_add_mod]

theorem gcd_dvd_place : Nat.gcd stride modulus ∣ place modulus stride d := by
  apply (Nat.dvd_mod_iff (Nat.gcd_dvd_right stride modulus)).mpr
  exact Dvd.dvd.mul_left (Nat.gcd_dvd_left stride modulus) d

theorem place_below (positive : 0 < modulus) : place modulus stride d+Nat.gcd stride modulus ≤ modulus := by
  have below : place modulus stride d < modulus := Nat.mod_lt _ positive
  obtain ⟨i,here⟩ : Nat.gcd stride modulus ∣ place modulus stride d := gcd_dvd_place
  obtain ⟨j,whole⟩ := Nat.gcd_dvd_right stride modulus
  have order : i < j := by
    apply Nat.lt_of_mul_lt_mul_left (a := Nat.gcd stride modulus)
    rw [← here,← whole]
    exact below
  calc place modulus stride d+Nat.gcd stride modulus
      = Nat.gcd stride modulus*(i+1) := by rw [here,Nat.mul_add,Nat.mul_one]
    _ ≤ Nat.gcd stride modulus*j := Nat.mul_le_mul_left _ order
    _ = modulus := whole.symm

theorem place_last (positive : 0 < modulus) : ∃ d, place modulus stride d+Nat.gcd stride modulus = modulus := by
  by_cases whole : Nat.gcd stride modulus < modulus
  · obtain ⟨m,_,turn⟩ := Nat.exists_mul_mod_eq_gcd whole
    obtain ⟨j,multiple⟩ := Nat.gcd_dvd_right stride modulus
    have several : 0 < j := by
      apply Nat.pos_of_ne_zero
      intro none
      rw [none,Nat.mul_zero] at multiple
      omega
    refine ⟨m*(j-1),?_⟩
    have product : Nat.gcd stride modulus*(j-1)+Nat.gcd stride modulus = modulus := by
      rw [← Nat.mul_succ,Nat.succ_eq_add_one,Nat.sub_add_cancel several]
      exact multiple.symm
    have common : 0 < Nat.gcd stride modulus := Nat.gcd_pos_of_pos_right _ positive
    have reached : place modulus stride (m*(j-1)) = Nat.gcd stride modulus*(j-1) := by
      unfold place
      rw [Nat.mul_comm m,Nat.mul_assoc,Nat.mul_comm m,Nat.mul_mod,turn,Nat.mul_comm (Nat.gcd stride modulus)]
      rw [Nat.mod_mul_mod]
      apply Nat.mod_eq_of_lt
      rw [Nat.mul_comm]
      omega
    rw [reached]
    exact product
  · refine ⟨0,?_⟩
    rw [place_zero,Nat.zero_add]
    exact Nat.le_antisymm (Nat.le_of_dvd positive (Nat.gcd_dvd_right stride modulus)) (Nat.le_of_not_lt whole)

theorem reaches_iff (positive : 0 < modulus) :
    (∃ d, bound ≤ place modulus stride d) ↔ bound+Nat.gcd stride modulus ≤ modulus := by
  constructor
  · rintro ⟨d,past⟩
    have below : place modulus stride d+Nat.gcd stride modulus ≤ modulus := place_below positive
    omega
  · intro room
    obtain ⟨d,last⟩ : ∃ d, place modulus stride d+Nat.gcd stride modulus = modulus := place_last positive
    exact ⟨d,by omega⟩

theorem places_differ (before : ∀ e < d, place modulus stride e < bound) (past : bound ≤ place modulus stride d)
    (early : i < d) (late : j < d) (same : place modulus stride i = place modulus stride j) : i = j := by
  have apart {i j : Nat} (order : i < j) (late : j < d) : place modulus stride i ≠ place modulus stride j := by
    intro same
    have sooner : place modulus stride (i+(d-j)) = place modulus stride (j+(d-j)) := by
      unfold place at same ⊢
      rw [Nat.add_mul,Nat.add_mul,Nat.add_mod,same,← Nat.add_mod]
    rw [Nat.add_sub_cancel' (Nat.le_of_lt late)] at sooner
    have short := before (i+(d-j)) (by omega)
    omega
  rcases Nat.lt_trichotomy i j with less | equal | more
  · exact absurd same (apart less late)
  · exact equal
  · exact absurd same.symm (apart more early)

-- The places before the first one past the bound are below it and differ, so that there are at most as many.
theorem first_soon (before : ∀ e < d, place modulus stride e < bound) (past : bound ≤ place modulus stride d) : d ≤ bound := by
  have maps : ∀ e ∈ Finset.range d, place modulus stride e ∈ Finset.range bound := by
    intro e inside
    exact Finset.mem_range.mpr (before e (Finset.mem_range.mp inside))
  have count := Finset.card_le_card_of_injOn (place modulus stride) maps (by
    intro i early j late same
    exact places_differ before past (Finset.mem_range.mp early) (Finset.mem_range.mp late) same)
  simpa using count

end Strides
