import VolumeBackup.IsolatedCheckpoints

namespace VolumeBackup
open ByteMemory LabelledRuns

-- No save of a checkpoint breaks off in the middle, though the file may refuse to be opened, and no checkpoint is removed.
def Sparing (p : Process) : TaskAction → Prop
  | .thread reply => (p.pc.removes = true → reply.isYes = false) ∧
      ∀ running ∈ p.running, running.run.pc.saving.isSome = true → reply.opened = reply.isYes
  | .component _ | .request | .client _ => True

instance : Decidable (Sparing p action) :=
  match action with
  | .thread reply => inferInstanceAs (Decidable ((p.pc.removes = true → reply.isYes = false) ∧ ∀ running ∈ p.running, _))
  | .component _ | .request | .client _ => isTrue trivial

def Holding (config : VolumeTaskSharedConfig) (index : Nat) (session : VolumeTaskSharedConfig) (p : Polling) : Prop :=
  session = config → p.state.processedBitmap.Test index = true ∧ ∀ snapshot ∈ p.pc.snapshots, snapshot.processed.Test index = true

-- A block that the checkpoint of its session marks, and that no snapshot will unmark.
structure Secure (config : VolumeTaskSharedConfig) (index : Nat) (p : Process) : Prop where
  resumes : Resumes p.disk config index
  holding : Current (fun running polling => Holding config index running.config polling) p

def PassedOver (env : TaskEnv) (config : VolumeTaskSharedConfig) (index : Nat) (p : Process) : Prop :=
  Current (fun running polling => running.config = config → ∃ o, Snapping env running.config running.source o polling ∧
    o.processed.Test index = true) p

variable {env : TaskEnv} {config : VolumeTaskSharedConfig} {queue : List VolumeTaskSharedConfig} {disk : Disk}
  {p q : Process}

theorem Secure.new : Secure config index (.new disk) ↔ Resumes disk config index :=
  ⟨Secure.resumes,fun resumes => ⟨resumes,fun _ none => by cases none⟩⟩

section step
variable (secure : Secure config index p) (tracking : Tracking env p) (isolated : Isolated env queue) (member : config ∈ queue)
include secure tracking isolated member

theorem Secure.marked (step : TaskStep env p action q) (sparing : Sparing p action) : Checkpointed q.disk config index := by
  rcases tracking.checkpoint isolated member step with same | ⟨running,snapshot,reply,present,rfl,saving,rfl,saved⟩ |
      ⟨reply,removes,rfl,yes,_⟩
  · exact (marks_congr same).mpr secure.resumes.marked
  · obtain ⟨o,snapping⟩ := tracking.ongoing running present
    have inside := saving_taken saving
    rw [saved]
    rcases save_outcome (snapping.taken snapshot inside).1 p.disk reply with same | marks | ⟨torn,_⟩
    · exact (marks_congr same).mpr secure.resumes.marked
    · exact marks index ((secure.holding running present rfl).2 snapshot inside)
    · exact absurd (sparing.2 running present (by rw [saving]; rfl)) torn
  · cases (sparing.1 removes).symm.trans yes

theorem Secure.step (step : TaskStep env p action q) (sparing : Sparing p action) : Secure config index q where
  resumes := ⟨secure.resumes.enabled,secure.marked tracking isolated member step sparing,fun hasher =>
    tracking.table isolated member step (secure.resumes.table hasher)⟩
  holding := by
    have next : Current (fun running polling => (∃ o, Snapping env running.config running.source o polling) ∧
        Holding config index running.config polling) q := by
      refine @Current.step _ _ _ _ (fun session content polling => (∃ o, Snapping env session content o polling) ∧
        Holding config index session polling) (fun _ _ _ => True)
        (fun running present => ⟨tracking.ongoing running present,secure.holding running present⟩)
        tracking.queued.layout step ?_ (fun _ _ _ => trivial) ?_ ?_
      · cases action <;> simp [OnSession]
      · intro session reply running here made
        obtain ⟨context,content,target,found,_,_,rfl⟩ := open_parts made
        refine ⟨⟨_,.opened found⟩,?_⟩
        rintro rfl
        refine ⟨(resumes_exact isolated member found).mpr secure.resumes,fun snapshot inside => ?_⟩
        cases inside
      · rintro running inner polling present ⟨⟨o,snapping⟩,known⟩ ran _
        have step := pollNext_sound ran
        refine ⟨⟨o,snapping.step step⟩,fun same => ?_⟩
        obtain ⟨set,taken⟩ := known same
        refine ⟨snapping.grows step set,fun snapshot inside => ?_⟩
        rcases step.snapshots inside with earlier | rfl
        · exact taken snapshot earlier
        · rw [snapping.takes.2]
          exact set
    exact fun running present => (next running present).2

theorem PassedOver.step (passed : PassedOver env config index p) (step : TaskStep env p action q) : PassedOver env config index q := by
  refine @Current.step _ _ _ _ (fun session content polling => session = config → ∃ o, Snapping env session content o polling ∧
    o.processed.Test index = true) (fun _ _ _ => True) passed tracking.queued.layout step ?_ (fun _ _ _ => trivial) ?_ ?_
  · cases action <;> simp [OnSession]
  · intro session reply running here made
    obtain ⟨context,content,target,found,_,_,rfl⟩ := open_parts made
    rintro rfl
    exact ⟨_,.opened found,(resumes_exact isolated member found).mpr secure.resumes⟩
  · rintro running inner polling present known ran _ same
    obtain ⟨o,snapping,set⟩ := known same
    exact ⟨o,snapping.step (pollNext_sound ran),set⟩

end step

theorem PassedOver.untouched (passed : PassedOver env config index p) (enabled : config.checkpointEnabled = true)
    (present : p.running = some running) (same : running.config = config) :
    ∀ event ∈ running.run.state.history, event.block ≠ index := by
  obtain ⟨o,snapping,set⟩ := passed running present same
  subst same
  rintro event happened rfl
  have unset := snapping.spared enabled event happened
  rw [set] at unset
  cases unset

section attempts
variable (sessions : env.task.sessions = some queue) (checkpointing : Checkpointing env queue) (member : config ∈ queue)
include sessions checkpointing member

end attempts

theorem refresh_saved (layout : Layout p) (present : p.running = some running) (here : running.run.pc = .saveSnapshot taken)
    (ran : taskNext env p (.thread .yes) = some q) :
    q = p.polled running ((p.polling running).saveCheckpoint running.config taken .yes .resume) := by
  have line : p.pc = .session := layout.mp (by rw [present]; rfl)
  simp only [taskNext,taskStep,line,present,here] at ran
  obtain ⟨polling,stepped,rfl⟩ := Option.map_eq_some_iff.mp ran
  simp only [pollStep,Process.polling,here] at stepped
  rw [← Option.some.inj stepped]
  rfl

def PollPc.began : PollPc → Option CheckpointSnapshot
  | .refreshTable taken | .refreshWriter taken | .refreshBitmap taken | .saveBitmap taken _ | .saveSnapshot taken => some taken
  | _ => none

-- What the task does within one call of RefreshSessionCheckpoint.
def Refreshes (_ : Running) (polling : Polling) : PollAction → Prop
  | .client _ => True
  | .thread _ | .component _ => polling.pc.refreshing = true

instance : Decidable (Refreshes running polling action) :=
  match action with
  | .client _ => isTrue trivial
  | .thread _ | .component _ => inferInstanceAs (Decidable (polling.pc.refreshing = true))

def Catches (config : VolumeTaskSharedConfig) (index : Nat) (session : VolumeTaskSharedConfig) (polling : Polling) : Prop :=
  polling.pc.refreshing = true → session = config ∧
    ((polling.pc = .snapshot ∧ polling.state.processedBitmap.Test index = true) ∨
      ∃ taken, polling.pc.began = some taken ∧ taken.processed.Test index = true)

theorem Catches.step {x y : Polling} {session : VolumeTaskSharedConfig} {source : Content} {o : Flow} {running : Running}
    (catches : Catches config index session x) (snapping : Snapping env session source o x)
    (step : PollStep env session source x action y) (inside : Refreshes running x action) : Catches config index session y := by
  intro later
  have outside {pc : PollPc} (here : x.pc = pc) (now : x.pc.refreshing = true) (out : pc.refreshing = false) : False := by
    rw [here,out] at now
    cases now
  -- The snapshot that is carried on from one line to the next.
  have carried {pc : PollPc} {taken : CheckpointSnapshot} (here : x.pc = pc) (now : x.pc.refreshing = true) (own : pc ≠ .snapshot)
      (began : pc.began = some taken) : session = config ∧ taken.processed.Test index = true := by
    obtain ⟨same,⟨line,_⟩ | ⟨first,begun,set⟩⟩ := catches now
    · exact absurd (here.symm.trans line) own
    · rw [here,began] at begun
      exact ⟨same,Option.some.inj begun ▸ set⟩
  -- The snapshot is taken of what the session has processed.
  have catching (here : x.pc = .snapshot) (now : x.pc.refreshing = true) :
      session = config ∧ (TakeSessionCheckpointSnapshot x.state).processed.Test index = true := by
    obtain ⟨same,⟨_,set⟩ | ⟨first,begun,_⟩⟩ := catches now
    · exact ⟨same,by rw [snapping.takes.2]; exact set⟩
    · rw [here] at begun
      cases begun
  cases step with
  | move moves =>
      cases moves with
      | taken here | takenPlain here =>
          obtain ⟨same,set⟩ := catching here inside
          exact ⟨same,.inr ⟨_,rfl,set⟩⟩
      | fresh here =>
          obtain ⟨same,set⟩ := carried here inside nofun rfl
          exact ⟨same,.inr ⟨_,rfl,set⟩⟩
      | unsynced here => cases later
      | started here | aborts here | goOn here | noneFailed here | failed here | notFailed here | allTerminated here | terminated here
      | running here | due here | notDue here | noTable here | final here | noBitmap here | reads here | left here =>
          exact (outside here inside rfl).elim
  | drive drives ran =>
      cases drives with
      | paused here =>
          obtain ⟨same,⟨line,_⟩ | ⟨first,begun,_⟩⟩ := catches inside
          · cases here.symm.trans line
          · rw [here] at begun
            cases begun
      | resumed here | started here | startFailed here | assigned here => exact (outside here inside rfl).elim
  | table here | sync here | bitmap here =>
      obtain ⟨same,set⟩ := carried here inside nofun rfl
      exact ⟨same,.inr ⟨_,rfl,set⟩⟩
  | tableLost | bitmapLost | snapshot => cases later
  | statistics here | finalTable here | finalSync here | finalBitmap here | completed here | concluded here =>
      exact (outside here inside rfl).elim
  | component inner ran =>
      obtain ⟨same,⟨line,set⟩ | begun⟩ := catches inside
      · exact ⟨same,.inl ⟨line,snapping.grows (.component inner ran) set⟩⟩
      · exact ⟨same,.inr begun⟩
  | client => exact catches later

theorem refresh_catches {s : Process} {before : Running} (tracking : Tracking env s) (present : s.running = some before)
    (paused : before.run.pc = .snapshot) (set : before.run.state.processedBitmap.Test index = true)
    (refresh : Runs (taskNext env) (OnSession Refreshes) s actions p) : Tracking env p ∧
      Current (fun running polling => Catches before.config index running.config polling) p := by
  refine refresh.invariant (fun p => Tracking env p ∧ Current (fun running polling => Catches before.config index running.config polling) p)
    ⟨tracking,?_⟩ fun s action t known ran inside => ?_
  · intro running here _
    cases present.symm.trans here
    exact ⟨rfl,.inl ⟨paused,set⟩⟩
  · obtain ⟨tracking,catches⟩ := known
    have step := taskNext_sound ran
    refine ⟨tracking.step step,?_⟩
    have next : Current (fun running polling => (∃ o, Snapping env running.config running.source o polling) ∧
        Catches before.config index running.config polling) t := by
      refine @Current.step _ _ _ _ (fun session content polling => (∃ o, Snapping env session content o polling) ∧
        Catches before.config index session polling) Refreshes
        (fun running present => ⟨tracking.ongoing running present,catches running present⟩)
        tracking.queued.layout step inside (fun _ _ _ => trivial) ?_ ?_
      · intro session reply running here made
        obtain ⟨context,content,target,found,_,_,rfl⟩ := open_parts made
        exact ⟨⟨_,.opened found⟩,fun now => Bool.noConfusion now⟩
      · rintro running inner polling present ⟨⟨o,snapping⟩,known⟩ ran inside
        have step := pollNext_sound ran
        exact ⟨⟨o,snapping.step step⟩,known.step snapping step inside⟩
    exact fun running present => (next running present).2

theorem marked_sessions : markedEnv.task.sessions = some [markedConfig] := by decide +kernel

def writtenActions : List TaskAction := threads 14++readers 10++writers 5++threads 11

def refreshActions : List TaskAction := threads 2++writers 2++threads 2

theorem marked_resumes : Resumes crashedDisk markedConfig 0 := by
  have set : (InitSessionContext crashedDisk markedConfig markedEnv.task).any (fun context => context.processedBitmap.Test 0) = true := by
    decide +kernel
  obtain ⟨context,found,set⟩ := (Option.any_eq_true _ _).mp set
  exact (resumes_exact (.backup marked_sessions rfl) List.mem_cons_self found).mp set

end VolumeBackup
