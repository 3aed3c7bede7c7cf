import VolumeBackup.SessionEnd

namespace VolumeBackup
open ByteMemory LabelledRuns

def Event.block : Event → Nat
  | .read index _ | .hash index | .drop index | .skipEmpty index | .write index _ _ _ | .discard index => index

def Spared (env : SessionEnv) (o : Flow) (s : Session) : Prop :=
  env.config.checkpointEnabled = true → ∀ event ∈ s.history, o.processed.Test event.block = false

variable {env : SessionEnv} {source : Content} {o f g : Flow} {s t : Session}

theorem FlowStep.about (step : FlowStep env source f g) (tokens : Tokens env f) (happened : event ∈ g.history) :
    event ∈ f.history ∨ event = .read f.progress false ∨ event.block ∈ haveRead g.history := by
  have next := tokens.step step
  have flight {block : VolumeConsumeBlock} (inside : block ∈ f.inFlight) := tokens.flight_read inside
  cases step with
  | unread held =>
      rcases List.mem_cons.mp happened with rfl | earlier
      · exact .inr (.inl rfl)
      · exact .inl earlier
  | read chosen held made done =>
      subst made
      rw [accept_history] at happened ⊢
      rcases List.mem_cons.mp happened with rfl | earlier
      · exact .inr (.inr (by simp [Event.block]))
      · exact .inl earlier
  | hash held same =>
      rw [forward_history] at happened ⊢
      rcases List.mem_cons.mp happened with rfl | earlier
      · refine .inr (.inr ?_)
        rw [haveRead_hash]
        exact flight (by simp [Flow.inFlight,held])
      · exact .inl earlier
  | drop held | write held | tear _ held | empty held | discard held =>
      rcases List.mem_cons.mp happened with rfl | earlier
      · exact .inr (.inr (next.done_read (by simp [Event.block])))
      · exact .inl earlier
  | _ => exact .inl happened

theorem Step.unread (step : Step env source s action t) (happened : .read index false ∈ t.history) :
    .read index false ∈ s.history ∨ (s.flow env).chosen = true := by
  cases action with
  | reader outcome =>
      cases (step : ReaderStep env source outcome s t) with
      | unread here => exact .inr (by simp [Session.flow,here])
      | read => exact .inl (by simpa [Session.record,Session.reader] using happened)
      | _ => exact .inl happened
  | worker k => cases (step : WorkerStep env k s t) <;> exact .inl (by simpa [Session.record,Session.worker] using happened)
  | writer outcome => cases (step : WriterStep env outcome s t) <;> exact .inl (by simpa [Session.record,Session.writer] using happened)
  | start component => cases (step : ControlStep env _ s t) <;> exact .inl happened
  | pause paused => cases (step : ControlStep env _ s t); exact .inl happened
  | abort component | aborted component | aborting component =>
      cases (step : ControlStep env _ s t)
      exact .inl (by cases component <;> exact happened)

theorem Spared.new (none : s.history = []) : Spared env o s := by
  intro _ event inside
  rw [none] at inside
  cases inside

theorem Spared.step (spared : Spared env o s) (sound : Sound env source o s) (roomy : Roomy env o) (step : Step env source s action t) :
    Spared env o t := by
  intro checkpoint event happened
  have next := sound.step roomy step
  rcases s.flow_step sound.order sound.known step with same | moved
  · have history : t.history = s.history := congrArg Flow.history same
    exact spared checkpoint event (history ▸ happened)
  · rcases moved.about sound.tokens happened with earlier | rfl | read
    · exact spared checkpoint event earlier
    · rcases step.unread happened with earlier | chosen
      · exact spared checkpoint _ earlier
      · exact sound.coverage.chosen chosen checkpoint
    · exact next.coverage.fresh event.block read checkpoint

end VolumeBackup
