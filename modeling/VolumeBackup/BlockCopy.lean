import Mathlib.Data.Set.Defs
import VolumeBackup.LabelledRuns

namespace BlockCopy
open LabelledRuns

-- What a copier is for, apart from threads, queues and buffers. An image is to agree with a source on the pieces of
-- a plan; the pieces are taken in any order, each at most once, and one that is fine already may be kept. A piece
-- that could not be copied is spoiled, and from then on every other one is lost.
variable {ι : Type u} {Address : Type v} {Value : Type w}

structure Plan (ι : Type u) (Address : Type v) (Value : Type w) where
  piece : ι → Set Address
  wanted : ι → Address → Value
  fine : ι → Prop

structure State (ι : Type u) (Address : Type v) (Value : Type w) where
  pending : Set ι
  image : Address → Value
  broken : Prop

inductive Verdict (ι : Type u) where
  | copied (i : ι)
  | kept (i : ι)
  | spoiled (i : ι)
  | lost (i : ι)
  deriving DecidableEq

def Verdict.index : Verdict ι → ι
  | .copied i | .kept i | .spoiled i | .lost i => i

def State.without (s : State ι Address Value) (i : ι) : Set ι := {j | j ∈ s.pending ∧ j ≠ i}

inductive Move (plan : Plan ι Address Value) (s : State ι Address Value) : Verdict ι → State ι Address Value → Prop where
  | copy (due : i ∈ s.pending) (whole : ¬s.broken) (inside : ∀ a ∈ plan.piece i, image a = plan.wanted i a)
      (outside : ∀ a ∉ plan.piece i, image a = s.image a) : Move plan s (.copied i) ⟨s.without i,image,s.broken⟩
  | keep (due : i ∈ s.pending) (fine : ¬s.broken → plan.fine i) : Move plan s (.kept i) ⟨s.without i,s.image,s.broken⟩
  | spoil (due : i ∈ s.pending) (whole : ¬s.broken) (outside : ∀ a ∉ plan.piece i, image a = s.image a) :
      Move plan s (.spoiled i) ⟨s.without i,image,True⟩
  | lose (due : i ∈ s.pending) (broken : s.broken) : Move plan s (.lost i) ⟨s.without i,s.image,s.broken⟩

def Plan.Apart (plan : Plan ι Address Value) (pieces : Set ι) : Prop :=
  ∀ i ∈ pieces, ∀ j ∈ pieces, i ≠ j → ∀ a ∈ plan.piece i, a ∉ plan.piece j

structure Traces (plan : Plan ι Address Value) (s : State ι Address Value) (verdicts : List (Verdict ι)) (t : State ι Address Value) : Prop where
  once : (verdicts.map Verdict.index).Nodup
  due : ∀ i ∈ verdicts.map Verdict.index, i ∈ s.pending
  pending : ∀ i, i ∈ t.pending ↔ i ∈ s.pending ∧ i ∉ verdicts.map Verdict.index
  copied : ∀ i, .copied i ∈ verdicts → ∀ a ∈ plan.piece i, t.image a = plan.wanted i a
  kept : ¬t.broken → ∀ i, .kept i ∈ verdicts → plan.fine i
  broken : t.broken ↔ ∃ i, .spoiled i ∈ verdicts
  single : ∀ i j, .spoiled i ∈ verdicts → .spoiled j ∈ verdicts → i = j
  elsewhere : ∀ a, (∀ i, .copied i ∈ verdicts ∨ .spoiled i ∈ verdicts → a ∉ plan.piece i) → t.image a = s.image a

variable {plan : Plan ι Address Value} {s t u : State ι Address Value} {verdicts : List (Verdict ι)} {verdict : Verdict ι}

theorem Move.due (move : Move plan t verdict u) : verdict.index ∈ t.pending ∧ u.pending = t.without verdict.index := by
  cases move with
  | copy due | keep due | spoil due | lose due => exact ⟨due,rfl⟩

theorem Move.frame (move : Move plan t verdict u) (outside : a ∉ plan.piece verdict.index) : u.image a = t.image a := by
  cases move with
  | copy due whole inside frame | spoil due whole frame => exact frame a outside
  | keep | lose => rfl

theorem Traces.start (whole : ¬s.broken) : Traces plan s [] s where
  once := List.nodup_nil
  due := by simp
  pending := by simp
  copied := by simp
  kept := by simp
  broken := by simp [whole]
  single := by simp
  elsewhere := fun _ _ => rfl

theorem Traces.move (traces : Traces plan s verdicts t) (apart : plan.Apart s.pending) (move : Move plan t verdict u) :
    Traces plan s (verdicts++[verdict]) u := by
  obtain ⟨due,left⟩ := move.due
  obtain ⟨before,fresh⟩ := (traces.pending _).mp due
  have moved : ∀ i, .copied i ∈ verdicts → ∀ a ∈ plan.piece i, u.image a = plan.wanted i a := by
    intro i earlier a inside
    have taken : i ∈ verdicts.map Verdict.index := List.mem_map.mpr ⟨_,earlier,rfl⟩
    have differ : i ≠ verdict.index := fun same => fresh (same ▸ taken)
    rw [move.frame (apart i (traces.due i taken) _ before differ a inside)]
    exact traces.copied i earlier a inside
  refine ⟨?_,?_,?_,?_,?_,?_,?_,?_⟩
  · simp only [List.map_append,List.map_cons,List.map_nil]
    refine List.nodup_append.mpr ⟨traces.once,by simp,?_⟩
    rintro i inside j here rfl
    exact fresh (List.mem_singleton.mp here ▸ inside)
  · intro i inside
    simp only [List.map_append,List.map_cons,List.map_nil,List.mem_append,List.mem_singleton] at inside
    rcases inside with earlier | rfl
    · exact traces.due i earlier
    · exact before
  · intro i
    rw [left]
    change i ∈ t.pending ∧ i ≠ verdict.index ↔ _
    simp only [traces.pending,List.map_append,List.map_cons,List.map_nil,List.mem_append,List.mem_singleton,not_or,and_assoc,ne_eq]
  · intro i inside a here
    rcases List.mem_append.mp inside with earlier | now
    · exact moved i earlier a here
    · cases List.mem_singleton.mp now
      cases move with
      | copy due whole wanted outside => exact wanted a here
  · intro whole i inside
    rcases List.mem_append.mp inside with earlier | now
    · refine traces.kept (fun broken => whole ?_) i earlier
      cases move with
      | spoil => trivial
      | copy | keep | lose => exact broken
    · cases List.mem_singleton.mp now
      cases move with
      | keep due fine => exact fine whole
  · cases move with
    | spoil due whole outside => simp
    | copy | keep | lose => simp [traces.broken]
  · intro i j first second
    rcases List.mem_append.mp first with earlier | now
    · rcases List.mem_append.mp second with also | now
      · exact traces.single i j earlier also
      · cases List.mem_singleton.mp now
        cases move with
        | spoil due whole outside => exact absurd (traces.broken.mpr ⟨i,earlier⟩) whole
    · cases List.mem_singleton.mp now
      rcases List.mem_append.mp second with also | now
      · cases move with
        | spoil due whole outside => exact absurd (traces.broken.mpr ⟨j,also⟩) whole
      · cases List.mem_singleton.mp now
        rfl
  · intro a outside
    have earlier : t.image a = s.image a := traces.elsewhere a fun i inside =>
      outside i (inside.imp (List.mem_append_left _) (List.mem_append_left _))
    rw [← earlier]
    cases move with
    | copy due whole inside frame => exact frame a (outside _ (.inl (by simp)))
    | spoil due whole frame => exact frame a (outside _ (.inr (by simp)))
    | keep | lose => rfl

theorem traced_by (whole : ¬s.broken) (apart : plan.Apart s.pending) (path : Path (Move plan) s verdicts t) : Traces plan s verdicts t :=
  path.invariant (fun t verdicts => Traces plan s verdicts t) (.start whole) fun _ _ _ _ traces move => traces.move apart move

end BlockCopy
