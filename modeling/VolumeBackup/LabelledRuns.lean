namespace LabelledRuns

-- A machine is its executable step. A run records its actions, and `allowed` restricts the steps
-- that it may take, so that an assumption on the schedule is an assumption on the recorded steps.
variable {σ : Type u} {α : Type v}

def Anything (_ : σ) (_ : α) : Prop := True

inductive Runs (next : σ → α → Option σ) (allowed : σ → α → Prop) : σ → List α → σ → Prop where
  | nil : Runs next allowed s [] s
  | step : Runs next allowed origin earlier middle → next middle action = some after →
      allowed middle action → Runs next allowed origin (earlier++[action]) after

def Reached (next : σ → α → Option σ) (allowed : σ → α → Prop) (origin s : σ) : Prop :=
  ∃ actions, Runs next allowed origin actions s

variable {next : σ → α → Option σ} {allowed permitted : σ → α → Prop} {origin before middle after s : σ}

theorem Runs.append (left : Runs next allowed before earlier middle)
    (right : Runs next allowed middle later after) : Runs next allowed before (earlier++later) after := by
  induction right with
  | nil => simpa using left
  | step prior ran guard ih => simpa only [List.append_assoc] using Runs.step ih ran guard

theorem Runs.cons (ran : next before action = some middle) (guard : allowed before action)
    (rest : Runs next allowed middle actions after) : Runs next allowed before (action::actions) after := by
  have first : Runs next allowed before [action] middle := .step .nil ran guard
  simpa using first.append rest

theorem Runs.weaken (path : Runs next allowed before actions after)
    (weaker : ∀ s action, allowed s action → permitted s action) :
    Runs next permitted before actions after := by
  induction path with
  | nil => exact .nil
  | step prior ran guard ih => exact .step ih ran (weaker _ _ guard)

theorem Runs.free (path : Runs next allowed before actions after) :
    Runs next Anything before actions after := path.weaken fun _ _ _ => trivial

-- The step lemma of an invariant gives its run lemma.
theorem Runs.invariant (holds : σ → Prop) (path : Runs next allowed before actions after)
    (initial : holds before)
    (preserved : ∀ s action t, holds s → next s action = some t → allowed s action → holds t) :
    holds after := by
  induction path with
  | nil => exact initial
  | step prior ran guard ih => exact preserved _ _ _ ih ran guard

theorem Runs.final {β : Type w} {holds : σ → Prop} (value : σ → β) (ended : β → Prop) (path : Runs next allowed before actions after)
    (initial : holds before)
    (preserved : ∀ s action t, holds s → next s action = some t → allowed s action → holds t)
    (kept : ∀ s action t, holds s → next s action = some t → allowed s action → ended (value s) → value t = value s)
    (now : ended (value before)) : value after = value before := by
  induction path with
  | nil => rfl
  | step prior ran guard ih =>
      have valid := prior.invariant holds initial preserved
      exact (kept _ _ _ valid ran guard (ih.symm ▸ now)).trans ih

-- Under an invariant every step of a run may be held to a stronger condition.
theorem Runs.strengthen (holds : σ → Prop) (path : Runs next allowed before actions after)
    (initial : holds before)
    (preserved : ∀ s action t, holds s → next s action = some t → allowed s action → holds t)
    (stronger : ∀ s action t, holds s → next s action = some t → allowed s action → permitted s action) :
    Runs next permitted before actions after := by
  induction path with
  | nil => exact .nil
  | step prior ran guard ih =>
      have valid := prior.invariant holds initial preserved
      exact .step ih ran (stronger _ _ _ valid ran guard)

theorem Reached.refl : Reached next allowed s s := ⟨[],.nil⟩

theorem Reached.step (path : Reached next allowed origin s) (ran : next s action = some after)
    (guard : allowed s action) : Reached next allowed origin after := by
  obtain ⟨actions,runs⟩ := path
  exact ⟨_,.step runs ran guard⟩

theorem Reached.trans (left : Reached next allowed before middle)
    (right : Reached next allowed middle after) : Reached next allowed before after := by
  obtain ⟨earlier,first⟩ := left
  obtain ⟨later,rest⟩ := right
  exact ⟨_,first.append rest⟩

-- Reachability for a condition that can be decided, so that a fixed schedule is run by evaluation.
def execute (next : σ → α → Option σ) (check : σ → α → Bool) : σ → List α → Option σ
  | s,[] => some s
  | s,action::rest =>
    if check s action then (next s action).bind (execute next check · rest) else none

theorem execute_runs {check : σ → α → Bool} (exact : ∀ s action, check s action = true → allowed s action)
    (done : execute next check before actions = some after) : Runs next allowed before actions after := by
  induction actions generalizing before with
  | nil =>
      cases Option.some.inj done
      exact .nil
  | cons action rest ih =>
      simp only [execute] at done
      split at done
      · rename_i passed
        obtain ⟨middle,first,tail⟩ := Option.bind_eq_some_iff.mp done
        exact .cons first (exact _ _ passed) (ih tail)
      · cases done

-- A fixed schedule with a test of the state that it ends in: one evaluation gives the run and the test.
theorem execute_ends {check : σ → α → Bool} {good : σ → Bool} (exact : ∀ s action, check s action = true → allowed s action)
    (done : (execute next check before actions).any good = true) : ∃ after, Runs next allowed before actions after ∧ good after = true := by
  obtain ⟨after,ended,passed⟩ := (Option.any_eq_true _ _).mp done
  exact ⟨after,execute_runs exact ended,passed⟩

def traced {β : Type w} (next : σ → α → Option σ) (emit : σ → α → List β) (s : σ × List β) (action : α) : Option (σ × List β) :=
  (next s.1 action).map fun t => (t,s.2++emit s.1 action)

theorem traced_step {β : Type w} {emit : σ → α → List β} {s t : σ × List β} {action : α} (ran : traced next emit s action = some t) :
    next s.1 action = some t.1 ∧ t.2 = s.2++emit s.1 action := by
  obtain ⟨inner,made,rfl⟩ := Option.map_eq_some_iff.mp ran
  exact ⟨made,rfl⟩

-- A machine whose runs break off and start again: what it is booted from is what the last run has left behind.
inductive Attempts {δ : Type w} (next : σ → α → Option σ) (allowed : σ → α → Prop) (boot : δ → σ) (leaves : σ → δ → Prop) (first : δ) :
    δ → Prop where
  | start : Attempts next allowed boot leaves first first
  | again {found left : δ} {ended : σ} : Attempts next allowed boot leaves first found →
      Runs next allowed (boot found) actions ended → leaves ended left →
      Attempts next allowed boot leaves first left

theorem Attempts.weaken {δ : Type w} {boot : δ → σ} {leaves remains : σ → δ → Prop} {first last : δ}
    (attempts : Attempts next allowed boot leaves first last) (weaker : ∀ s action, allowed s action → permitted s action)
    (more : ∀ s left, leaves s left → remains s left) : Attempts next permitted boot remains first last := by
  induction attempts with
  | start => exact .start
  | again prior path broken ih => exact .again ih (path.weaken weaker) (more _ _ broken)

-- What one attempt keeps, however it breaks off, any number of them keeps.
theorem Attempts.invariant {δ : Type w} {boot : δ → σ} {leaves : σ → δ → Prop} {first last : δ} (holds : δ → Prop)
    (attempts : Attempts next allowed boot leaves first last) (initial : holds first)
    (preserved : ∀ found actions s left, holds found → Runs next allowed (boot found) actions s → leaves s left → holds left) :
    holds last := by
  induction attempts with
  | start => exact initial
  | again prior path broken ih => exact preserved _ _ _ _ ih path broken

section potential
-- Termination by a potential: a counted step is paid for from it, and a step that hands something out may put
-- back a fixed refund for each thing. A run counts no more than what it began with and what it got back.
variable {β : Type w} {emit : σ → α → List β}

theorem Runs.paid {before after : σ × List β} (holds : σ → Prop) (potential : σ → Nat) (counted : α → Bool) (refund : Nat)
    (path : Runs (traced next emit) (fun s => allowed s.1) before actions after) (initial : holds before.1)
    (preserved : ∀ s action t, holds s → next s action = some t → allowed s action → holds t)
    (pays : ∀ s action t, holds s → next s action = some t → allowed s action →
      potential t+(counted action).toNat ≤ potential s+refund*(emit s action).length) :
    potential after.1+actions.countP counted+refund*before.2.length ≤ potential before.1+refund*after.2.length := by
  induction path with
  | nil => exact Nat.le_refl _
  | @step earlier middle action last prior ran guard ih =>
      have valid : holds middle.1 := prior.invariant (fun s => holds s.1) initial fun _ _ _ valid ran guard =>
        preserved _ _ _ valid (traced_step ran).1 guard
      obtain ⟨made,handed⟩ := traced_step ran
      have paid := pays _ _ _ valid made guard
      have single : [action].countP counted = (counted action).toNat := by cases given : counted action <;> simp [given]
      rw [List.countP_append,single,handed,List.length_append,Nat.mul_add]
      omega

end potential

section simulation
-- A specification is a relation that takes labelled moves. A machine refines it when every step is a move, whose
-- label is added to what the machine has handed out, or leaves what the specification sees as it was.
variable {τ : Type w} {β : Type x} {move : τ → β → τ → Prop}

inductive Path (move : τ → β → τ → Prop) : τ → List β → τ → Prop where
  | nil : Path move first [] first
  | step : Path move first labels passed → move passed label last → Path move first (labels++[label]) last

def Matched (move : τ → β → τ → Prop) (abstract : σ → τ) (handed : σ → List β) (s t : σ) : Prop :=
  (abstract t = abstract s ∧ handed t = handed s) ∨ ∃ label, move (abstract s) label (abstract t) ∧ handed t = handed s++[label]

theorem Runs.simulated (abstract : σ → τ) (handed : σ → List β) (holds : σ → Prop) (path : Runs next allowed before actions after)
    (initial : holds before) (none : handed before = [])
    (preserved : ∀ s action t, holds s → next s action = some t → allowed s action → holds t)
    (matched : ∀ s action t, holds s → next s action = some t → allowed s action → Matched move abstract handed s t) :
    Path move (abstract before) (handed after) (abstract after) := by
  induction path with
  | nil =>
      rw [none]
      exact .nil
  | step prior ran guard ih =>
      rcases matched _ _ _ (prior.invariant holds initial preserved) ran guard with ⟨same,kept⟩ | ⟨label,moved,more⟩
      · rw [same,kept]
        exact ih
      · rw [more]
        exact .step ih moved

theorem Path.invariant (holds : τ → List β → Prop) (path : Path move first labels last) (initial : holds first [])
    (preserved : ∀ s labels label t, holds s labels → move s label t → holds t (labels++[label])) : holds last labels := by
  induction path with
  | nil => exact initial
  | step prior moved ih => exact preserved _ _ _ _ ih moved

end simulation

end LabelledRuns
