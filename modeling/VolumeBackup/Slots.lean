import Mathlib.Algebra.BigOperators.Group.Multiset.Basic
import Mathlib.Algebra.GroupWithZero.Nat
import Mathlib.Data.Multiset.OrderedMonoid

namespace Slots

-- A fixed row of threads, each in a state of its own. One thread moves at a time, from `old` to `new`.
variable {α : Type u} {β : Type v} {slots : List α} {k : Nat} {old new other : α}

theorem present (here : slots[k]? = some old) : old ∈ slots := List.mem_of_getElem? here

theorem of_set (found : other ∈ slots.set k new) : other = new ∨ other ∈ slots :=
  (List.mem_or_eq_of_mem_set found).symm

theorem all_set {holds : α → Prop} (all : ∀ x ∈ slots, holds x) (moved : holds new) :
    ∀ x ∈ slots.set k new, holds x := by
  intro x found
  rcases of_set found with rfl | earlier
  · exact moved
  · exact all x earlier

theorem countP_set (p : α → Bool) (here : slots[k]? = some old) (new : α) :
    (slots.set k new).countP p+(if p old then 1 else 0) = slots.countP p+(if p new then 1 else 0) := by
  obtain ⟨bound,same⟩ := List.getElem?_eq_some_iff.mp here
  subst same
  rw [List.countP_set bound]
  have positive : p slots[k] = true → 0 < slots.countP p := fun yes =>
    List.countP_pos_iff.mpr ⟨_,List.getElem_mem bound,yes⟩
  split
  · rename_i yes
    have := positive yes
    omega
  · omega

theorem sum_set (f : α → Nat) (here : slots[k]? = some old) (new : α) :
    ((slots.set k new).map f).sum+f old = (slots.map f).sum+f new := by
  induction slots generalizing k with
  | nil => simp at here
  | cons first rest ih =>
      cases k with
      | zero =>
          cases Option.some.inj here
          simp only [List.set_cons_zero,List.map_cons,List.sum_cons]
          omega
      | succ k =>
          have moved := ih (k := k) (by simpa using here)
          simp only [List.set_cons_succ,List.map_cons,List.sum_cons]
          omega

theorem sum_bound {f : α → Nat} {most : Nat} (each : ∀ x, f x ≤ most) : (slots.map f).sum ≤ slots.length*most := by
  induction slots with
  | nil => simp
  | cons first rest ih =>
      have here := each first
      simp only [List.map_cons,List.sum_cons,List.length_cons,Nat.succ_mul]
      omega

def gather (holds : α → Multiset β) (slots : List α) : Multiset β := (slots.map holds).sum

theorem gather_set (holds : α → Multiset β) (here : slots[k]? = some old) (new : α) :
    gather holds (slots.set k new)+holds old = gather holds slots+holds new := by
  induction slots generalizing k with
  | nil => simp at here
  | cons first rest ih =>
      cases k with
      | zero =>
          cases Option.some.inj here
          simp only [gather,List.set_cons_zero,List.map_cons,List.sum_cons]
          ac_rfl
      | succ k =>
          have tail := ih here
          simp only [gather,List.set_cons_succ,List.map_cons,List.sum_cons] at tail ⊢
          rw [add_assoc,tail,add_assoc]

theorem gather_keep (holds : α → Multiset β) (here : slots[k]? = some old) (new : α) (same : holds new = holds old) :
    gather holds (slots.set k new) = gather holds slots := by
  have moved := gather_set holds here new
  rw [same] at moved
  exact add_right_cancel moved

theorem gather_take (holds : α → Multiset β) {x : β} (here : slots[k]? = some old) (new : α) (before : holds old = 0)
    (after : holds new = {x}) : gather holds (slots.set k new) = x ::ₘ gather holds slots := by
  have moved := gather_set holds here new
  rw [before,after,add_zero] at moved
  rw [moved,add_comm,Multiset.singleton_add]

theorem gather_give (holds : α → Multiset β) {x : β} (here : slots[k]? = some old) (new : α) (before : holds old = {x})
    (after : holds new = 0) : gather holds slots = x ::ₘ gather holds (slots.set k new) := by
  have moved := gather_set holds here new
  rw [before,after,add_zero,add_comm,Multiset.singleton_add] at moved
  exact moved.symm

theorem gather_zero {holds : α → Multiset β} (none : ∀ x ∈ slots, holds x = 0) : gather holds slots = 0 := by
  induction slots with
  | nil => rfl
  | cons first rest ih =>
      simp only [gather,List.map_cons,List.sum_cons] at ih ⊢
      rw [none first (by simp),ih fun x inside => none x (by simp [inside]),add_zero]

theorem gather_add (holds also : α → Multiset β) : gather (fun x => holds x+also x) slots = gather holds slots+gather also slots := by
  induction slots with
  | nil => rfl
  | cons first rest ih =>
      simp only [gather,List.map_cons,List.sum_cons] at ih ⊢
      rw [ih]
      ac_rfl

theorem gather_map {γ : Type w} (holds : α → Multiset β) (f : β → γ) :
    gather (fun x => (holds x).map f) slots = (gather holds slots).map f := by
  induction slots with
  | nil => rfl
  | cons first rest ih =>
      simp only [gather,List.map_cons,List.sum_cons,Multiset.map_add] at ih ⊢
      rw [ih]

theorem mem_gather {holds : α → Multiset β} {x : β} : x ∈ gather holds slots ↔ ∃ s ∈ slots, x ∈ holds s := by
  induction slots with
  | nil => simp [gather]
  | cons first rest ih =>
      simp only [gather,List.map_cons,List.sum_cons,Multiset.mem_add] at ih ⊢
      simp [ih]

end Slots
