import VolumeBackup.LabelledRuns
import VolumeBackup.FlowTarget

namespace VolumeBackup
open ByteMemory LabelledRuns

variable {env : SessionEnv} {source : Content} {o f g : Flow} {s t : Session}

theorem FlowStep.torn (step : FlowStep env source f g) (torn : Torn f.history) : Torn g.history := by
  cases step with
  | read chosen held made done =>
      rw [accept_history]
      exact torn.cons
  | hash held same =>
      rw [forward_history]
      exact torn.cons
  | unread | drop | write | tear | empty | discard => exact torn.cons
  | _ => exact torn

theorem FlowStep.previous (step : FlowStep env source f g) : g.previous = f.previous := by
  cases step with
  | read chosen held made done =>
      unfold Flow.accept
      split <;> rfl
  | hash held same =>
      unfold Flow.forward
      split <;> rfl
  | _ => rfl

-- The contents of the data while no write has failed. A failed write frees its buffer twice, and from
-- then on two blocks may share one.
structure Intact (env : SessionEnv) (source : Content) (o f : Flow) : Prop where
  buffers : Buffers env f
  carried : Carried env source f
  checksums : Checksums env source f
  stored : Stored env source o f

theorem Intact.step (intact : Intact env source o f) (pooled : Pooled env.config)
    (tokens : Tokens env f) (step : FlowStep env source f g) (whole : ¬Torn g.history) : Intact env source o g where
  buffers := intact.buffers.step pooled step whole
  carried := intact.carried.step intact.buffers pooled tokens step
  checksums := intact.checksums.step intact.carried step
  stored := intact.stored.step intact.carried tokens step whole

-- Everything that holds of the data flow of a session, however its threads interleave.
structure Sound (env : SessionEnv) (source : Content) (o : Flow) (s : Session) : Prop where
  order : FinishOrder env s
  known : Local env s
  tokens : Tokens env (s.flow env)
  marks : Marks o (s.flow env)
  coverage : Coverage env o (s.flow env)
  previous : s.hashingContext.previousTable = o.previous
  intact : Pooled env.config → ¬Torn s.history → Intact env source o (s.flow env)

theorem Sound.step (sound : Sound env source o s) (roomy : Roomy env o) (step : Step env source s action t) :
    Sound env source o t := by
  have order := sound.order.step step
  have known := sound.known.step step
  rcases s.flow_step sound.order sound.known step with same | moved
  · have history : t.history = s.history := congrArg Flow.history same
    refine ⟨order,known,?_,?_,?_,(congrArg Flow.previous same).trans sound.previous,?_⟩
    · rw [same]; exact sound.tokens
    · rw [same]; exact sound.marks
    · rw [same]; exact sound.coverage
    · rw [same,history]; exact sound.intact
  · refine ⟨order,known,sound.tokens.step moved,sound.marks.step sound.tokens roomy moved,
      sound.coverage.step sound.marks sound.tokens moved,moved.previous.trans sound.previous,fun pooled whole => ?_⟩
    exact (sound.intact pooled fun torn => whole (moved.torn torn)).step pooled sound.tokens moved whole

section start
variable {config : VolumeTaskSharedConfig} {context : BlockHashingContext} {processed written : Bitmap}
  {counter : SessionCounter} {target : Content}

theorem Sound.new : Sound env source ((Session.new env.config context processed written counter target).flow env)
    (.new env.config context processed written counter target) where
  order := .new
  known := .new
  tokens := ⟨by simp [Session.flow,Session.new,Flow.inFlight,done,haveRead,Slots.gather],by simp [Session.flow,Session.new,haveRead],
    fun index inside => absurd inside (Multiset.notMem_zero index),fun index inside => absurd inside (Multiset.notMem_zero index),
    Bool.noConfusion⟩
  marks := ⟨.start _,.start _⟩
  coverage := ⟨fun index before => absurd before (Nat.not_lt_zero index),
    fun index inside => absurd inside (Multiset.notMem_zero index),Bool.noConfusion⟩
  previous := rfl
  intact := by
    intro _ _
    refine ⟨⟨rfl,by simp [Session.flow,Session.new,VolumeBlockAllocator.new],?_,?_,.inr fun k set => ?_⟩,?_,?_,?_⟩
    · simp [Flow.buffers,Flow.inFlight,Session.flow,Session.new,Slots.gather]
    · simp [Flow.buffers,Flow.inFlight,Session.flow,Session.new,Slots.gather]
    · cases (List.mem_replicate.mp (List.mem_of_getElem? set)).2
    · simp [Carried,Flow.inFlight,Session.flow,Session.new,Slots.gather]
    · refine ⟨?_,?_,?_,?_,?_,?_,?_,?_⟩
      all_goals simp [Session.flow,Session.new,Slots.gather,done,recorded]
    · exact ⟨Nat.le_refl _,fun _ => rfl,by simp [Session.flow,Session.new],by simp [Session.flow,Session.new],fun _ _ => rfl⟩

theorem Sound.run (roomy : Roomy env o) (sound : Sound env source o s)
    (path : Runs (sessionStep env source) allowed s actions t) : Sound env source o t :=
  path.invariant (Sound env source o) sound fun _ _ _ known ran _ => known.step roomy (sessionStep_sound ran)

end start

end VolumeBackup
