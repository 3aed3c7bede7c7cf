import VolumeBackup.FlowTokens

namespace VolumeBackup
open ByteMemory

variable {env : SessionEnv} {source : Content} {o f g : Flow} {block : VolumeConsumeBlock} {before now : Bitmap}

@[simp] theorem settled_read : settled (.read index ok::history) = settled history := rfl
@[simp] theorem settled_hash : settled (.hash index::history) = settled history := rfl
@[simp] theorem settled_drop : settled (.drop index::history) = index::settled history := rfl
@[simp] theorem settled_skipEmpty : settled (.skipEmpty index::history) = index::settled history := rfl
@[simp] theorem settled_write : settled (.write index offset data ok::history) = index::settled history := rfl
@[simp] theorem settled_discard : settled (.discard index::history) = settled history := rfl
@[simp] theorem recorded_read : recorded (.read index ok::history) = recorded history := rfl
@[simp] theorem recorded_hash : recorded (.hash index::history) = recorded history := rfl
@[simp] theorem recorded_drop : recorded (.drop index::history) = recorded history := rfl
@[simp] theorem recorded_skipEmpty : recorded (.skipEmpty index::history) = index::recorded history := rfl
@[simp] theorem recorded_write : recorded (.write index offset data ok::history) = index::recorded history := rfl
@[simp] theorem recorded_discard : recorded (.discard index::history) = recorded history := rfl

theorem settled_done (inside : index ∈ settled history) : index ∈ done history := by
  obtain ⟨event,present,same⟩ := List.mem_filterMap.mp inside
  refine Multiset.mem_coe.mpr (List.mem_filterMap.mpr ⟨event,present,?_⟩)
  cases event <;> first | exact same | cases same

theorem recorded_settled (inside : index ∈ recorded history) : index ∈ settled history := by
  obtain ⟨event,present,same⟩ := List.mem_filterMap.mp inside
  refine List.mem_filterMap.mpr ⟨event,present,?_⟩
  cases event <;> first | exact same | cases same

theorem Tokens.done_read (tokens : Tokens env f) (left : index ∈ done f.history) : index ∈ haveRead f.history := by
  rw [← tokens.count]
  exact Multiset.mem_add.mpr (.inr left)

theorem Tokens.flight_read (tokens : Tokens env f) (flying : block ∈ f.inFlight) :
    block.index ∈ haveRead f.history := by
  rw [← tokens.count]
  exact Multiset.mem_add.mpr (.inl (Multiset.mem_map_of_mem _ flying))

structure Marking (before now : Bitmap) (due : List Nat) (waiting : Multiset Nat) : Prop where
  capacity : now.m_capacity = before.m_capacity
  kept : ∀ index, before.Test index = true → now.Test index = true
  justified : ∀ index, now.Test index = true → before.Test index = true ∨ index ∈ due
  pending : ∀ index ∈ waiting, index ∈ due
  marked : ∀ index ∈ due, now.Test index = true ∨ index ∈ waiting

theorem Marking.start (bitmap : Bitmap) : Marking bitmap bitmap [] 0 :=
  ⟨rfl,fun _ => id,fun _ => .inl,nofun,nofun⟩

theorem Marking.owe (marking : Marking before now due waiting) :
    Marking before now (index::due) (index ::ₘ waiting) := by
  refine ⟨marking.capacity,marking.kept,?_,?_,?_⟩
  · intro other set
    exact (marking.justified other set).imp_right (List.mem_cons_of_mem _)
  · intro other owed
    rcases Multiset.mem_cons.mp owed with rfl | earlier
    · exact List.mem_cons_self
    · exact List.mem_cons_of_mem _ (marking.pending other earlier)
  · intro other owed
    rcases List.mem_cons.mp owed with rfl | earlier
    · exact .inr (Multiset.mem_cons_self _ _)
    · exact (marking.marked other earlier).imp_right Multiset.mem_cons_of_mem

theorem Marking.set (marking : Marking before now due (index ::ₘ rest)) (room : index < before.m_capacity*8) :
    Marking before (now.Set index) due rest := by
  refine ⟨by rw [Bitmap.set_capacity,marking.capacity],fun other set => test_set_mono (marking.kept other set),?_,?_,?_⟩
  · intro other set
    rcases test_set_cases set with earlier | rfl
    · exact marking.justified other earlier
    · exact .inr (marking.pending _ (Multiset.mem_cons_self _ _))
  · exact fun other owed => marking.pending other (Multiset.mem_cons_of_mem owed)
  · intro other owed
    rcases marking.marked other owed with earlier | waiting
    · exact .inl (test_set_mono earlier)
    · rcases Multiset.mem_cons.mp waiting with rfl | later
      · exact .inl (test_set_self (by rw [marking.capacity]; exact room))
      · exact .inr later

structure Marks (o f : Flow) : Prop where
  processed : Marking o.processed f.processed (settled f.history) f.settling
  written : Marking o.written f.written (recorded f.history) f.recording

def Roomy (env : SessionEnv) (o : Flow) : Prop :=
  env.config.m_maxIndex < o.processed.m_capacity*8 ∧ env.config.m_maxIndex < o.written.m_capacity*8

theorem Marks.step (marks : Marks o f) (tokens : Tokens env f) (roomy : Roomy env o)
    (step : FlowStep env source f g) : Marks o g := by
  cases step with
  | read chosen held made done =>
      unfold Flow.accept
      split <;> exact ⟨marks.processed,marks.written⟩
  | hash held same =>
      unfold Flow.forward
      split <;> exact ⟨marks.processed,marks.written⟩
  | drop held equal => exact ⟨marks.processed.owe,marks.written⟩
  | write held needed done | tear torn held | empty held zeros => exact ⟨marks.processed.owe,marks.written.owe⟩
  | settle held =>
      rename_i index rest
      have owed := marks.processed
      rw [held] at owed
      have known := owed.pending index (Multiset.mem_cons_self _ _)
      have inside := tokens.inside index (tokens.done_read (settled_done known))
      exact ⟨owed.set (Nat.lt_of_le_of_lt inside roomy.1),marks.written⟩
  | record held =>
      rename_i index rest
      have owed := marks.written
      rw [held] at owed
      have known := owed.pending index (Multiset.mem_cons_self _ _)
      have inside := tokens.inside index (tokens.done_read (settled_done (recorded_settled known)))
      exact ⟨marks.processed,owed.set (Nat.lt_of_le_of_lt inside roomy.2)⟩
  | _ => exact ⟨marks.processed,marks.written⟩

structure Coverage (env : SessionEnv) (o f : Flow) : Prop where
  covered : ∀ index < f.progress, index ∈ haveRead f.history ∨
    env.config.checkpointEnabled = true ∧ o.processed.Test index = true
  fresh : ∀ index ∈ haveRead f.history, env.config.checkpointEnabled = true → o.processed.Test index = false
  chosen : f.chosen = true → env.config.checkpointEnabled = true → o.processed.Test f.progress = false

theorem Marks.ahead (marks : Marks o f) (tokens : Tokens env f) (set : f.processed.Test index = true)
    (ahead : f.progress ≤ index) : o.processed.Test index = true := by
  rcases marks.processed.justified index set with before | left
  · exact before
  · have passed := tokens.passed index (tokens.done_read (settled_done left))
    omega

theorem Coverage.step (coverage : Coverage env o f) (marks : Marks o f) (tokens : Tokens env f)
    (step : FlowStep env source f g) : Coverage env o g := by
  cases step with
  | begin unstarted idle =>
      refine ⟨?_,coverage.fresh,fun chosen => nomatch idle.symm.trans chosen⟩
      intro index below
      dsimp only at below
      split at below
      · rename_i checkpoint
        have set := below_FirstIndexUnset below
        exact .inr ⟨checkpoint,marks.ahead tokens set (by omega)⟩
      · cases below
  | skip idle checkpoint marked =>
      refine ⟨?_,coverage.fresh,fun chosen => nomatch idle.symm.trans chosen⟩
      intro index below
      rcases Nat.lt_succ_iff_lt_or_eq.mp below with less | rfl
      · exact coverage.covered index less
      · exact .inr ⟨checkpoint,marks.ahead tokens marked (Nat.le_refl _)⟩
  | choose inside unmarked =>
      refine ⟨coverage.covered,coverage.fresh,fun _ checkpoint => ?_⟩
      cases set : o.processed.Test f.progress with
      | false => rfl
      | true => exact (marks.processed.kept _ set).symm.trans (unmarked checkpoint)
  | giveUp => exact ⟨coverage.covered,coverage.fresh,nofun⟩
  | unread held => exact ⟨coverage.covered,coverage.fresh,nofun⟩
  | read chosen held made done =>
      subst made
      refine ⟨?_,?_,?_⟩
      · simp only [accept_progress,accept_history,haveRead_read,Multiset.mem_cons]
        intro index below
        rcases Nat.lt_succ_iff_lt_or_eq.mp below with less | rfl
        · exact (coverage.covered index less).imp_left .inr
        · exact .inl (.inl rfl)
      · simp only [accept_history,haveRead_read,Multiset.mem_cons]
        rintro index (rfl | earlier) checkpoint
        · exact coverage.chosen chosen checkpoint
        · exact coverage.fresh index earlier checkpoint
      · simp only [accept_chosen]
        exact nofun
  | hash held same =>
      refine ⟨?_,?_,?_⟩
      · simpa using coverage.covered
      · simpa using coverage.fresh
      · simpa using coverage.chosen
  | _ => exact ⟨coverage.covered,coverage.fresh,coverage.chosen⟩

end VolumeBackup
