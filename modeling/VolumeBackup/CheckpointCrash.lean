import VolumeBackup.CheckpointProgress

namespace VolumeBackup
open ByteMemory LabelledRuns

structure Retaining (env : TaskEnv) (config : VolumeTaskSharedConfig) (source : Content) (first : Disk) (o : Flow) (p : Polling) : Prop
    extends Snapping env config source o p where
  kept : ∀ index, Resumes first config index → o.processed.Test index = true
  saving : ∀ snapshot ∈ p.pc.snapshots, ∀ index, Resumes first config index → snapshot.processed.Test index = true

-- A task, seen from the disk on which it was started. A session that is still to be opened finds its checkpoint as it was; what
-- the others leave marks as much as before, or nothing.
structure Guarding (env : TaskEnv) (first : Disk) (queue : List VolumeTaskSharedConfig) (p : Process) : Prop where
  tracking : Tracking env p
  outcome : ∀ config ∈ queue, (∀ index, Resumes first config index → Resumes p.disk config index) ∨ Blank p.disk config
  before : ∀ config ∈ queue, p.expects config → p.disk config.checkpointFilePath = first config.checkpointFilePath
  tables : ∀ config ∈ queue, IsFileExists first config.lastestChecksumBinPath = true →
    IsFileExists p.disk config.lastestChecksumBinPath = true
  ongoing : Current (fun running polling => ∃ o, Retaining env running.config running.source first o polling) p

variable {env : TaskEnv} {config : VolumeTaskSharedConfig} {queue : List VolumeTaskSharedConfig} {first disk after : Disk}
  {p q : Process} {x y : Polling} {source : Content} {o : Flow}

theorem Retaining.step (retaining : Retaining env config source first o x) (step : PollStep env config source x action y) :
    Retaining env config source first o y where
  toSnapping := retaining.toSnapping.step step
  kept := retaining.kept
  saving := by
    intro snapshot inside index resumes
    rcases step.snapshots inside with earlier | rfl
    · exact retaining.saving snapshot earlier index resumes
    · rw [retaining.toSnapping.takes.2]
      exact retaining.valid.marks.processed.kept index (retaining.kept index resumes)

theorem Guarding.new : Guarding env first queue (.new first) where
  tracking := .new
  outcome := fun _ _ => .inl fun _ => id
  before := fun _ _ _ => rfl
  tables := fun _ _ => id
  ongoing := fun _ none => by cases none

section step
variable (guarding : Guarding env first queue p) (isolated : Isolated env queue)
include guarding isolated

theorem Guarding.kept (member : config ∈ queue) (step : TaskStep env p action q) :
    (∀ index, Resumes first config index → Resumes q.disk config index) ∨ Blank q.disk config := by
  have table := guarding.tracking.table isolated member step
  have unchanged (same : q.disk config.checkpointFilePath = p.disk config.checkpointFilePath) :
      (∀ index, Resumes first config index → Resumes q.disk config index) ∨ Blank q.disk config := by
    rcases guarding.outcome config member with kept | blank
    · exact .inl fun index resumes => (kept index resumes).frame same table
    · exact .inr fun index marked => blank index ((marks_congr same).mp marked)
  rcases guarding.tracking.checkpoint isolated member step with same | ⟨running,snapshot,reply,present,rfl,saving,_,saved⟩ |
      ⟨_,_,_,_,removed⟩
  · exact unchanged same
  · obtain ⟨o,retaining⟩ := guarding.ongoing running present
    have inside := saving_taken saving
    have outcome := save_outcome (retaining.taken snapshot inside).1 p.disk reply
    rw [← saved] at outcome
    rcases outcome with same | marks | ⟨_,blank⟩
    · exact unchanged same
    · refine .inl fun index resumes => ⟨resumes.enabled,marks index (retaining.saving snapshot inside index resumes),fun hasher => ?_⟩
      exact table (guarding.tables _ member (resumes.table hasher))
    · exact .inr blank
  · exact .inr fun index => marks_absent removed

theorem Guarding.step (step : TaskStep env p action q) : Guarding env first queue q where
  tracking := guarding.tracking.step step
  outcome := fun config member => guarding.kept isolated member step
  before := by
    intro config member expected
    have earlier := step.expects expected
    rcases guarding.tracking.checkpoint isolated member step with same | ⟨running,_,_,present,rfl,_⟩ | ⟨_,removes,_⟩
    · exact same.trans (guarding.before config member earlier)
    · exact (guarding.tracking.behind isolated present earlier).elim
    · cases here : p.pc <;> simp [here,TaskPc.removes,Process.expects,Process.waiting,TaskPc.preparing] at removes earlier
  tables := fun config member present => guarding.tracking.table isolated member step (guarding.tables config member present)
  ongoing := by
    refine @Current.step _ _ _ _ (fun config content polling => ∃ o, Retaining env config content first o polling) (fun _ _ _ => True)
      guarding.ongoing guarding.tracking.queued.layout step ?_ (fun _ _ _ => trivial) ?_ ?_
    · cases action <;> simp [OnSession]
    · intro config reply running here made
      obtain ⟨context,content,target,found,_,_,rfl⟩ := open_parts made
      obtain ⟨member,expected⟩ := guarding.tracking.opening isolated here
      refine ⟨_,.opened found,fun index resumes => (resumes_exact isolated member found).mpr ?_,?_⟩
      · exact resumes.frame (guarding.before config member expected) (guarding.tables config member)
      · intro snapshot inside
        cases inside
    · rintro running inner polling present ⟨o,retaining⟩ ran _
      exact ⟨o,retaining.step (pollNext_sound ran)⟩

end step

-- Wherever an attempt breaks off, be it in the middle of a save: the next one resumes with all that this one has resumed with, or
-- it finds a checkpoint that marks no block at all.
theorem crash_keeps_all_or_nothing (sessions : env.task.sessions = some queue) (checkpointing : Checkpointing env queue)
    (member : config ∈ queue) (path : Runs (taskNext env) Anything (.new disk) actions p) (broken : Breaks env Anything p after) :
    (∀ index, Resumes disk config index → Resumes after config index) ∨ Blank after config := by
  have isolated := checkpointing.isolated sessions
  have guarding : Guarding env disk queue p := path.invariant (Guarding env disk queue) .new
    fun _ _ _ known ran _ => known.step isolated (taskNext_sound ran)
  rcases broken with rfl | ⟨action,q,ran,_,rfl⟩
  · exact guarding.outcome config member
  · exact (guarding.step isolated (taskNext_sound ran)).outcome config member

-- A crash in the middle of its last save leaves a file that marks nothing.
theorem torn_save_loses : ∃ after, Resumes crashedDisk markedConfig 0 ∧ Blank after markedConfig := by
  have died : (execute (taskNext markedEnv) (fun _ _ => true) (.new crashedDisk) (resumedActions.take 31)).any (fun p =>
      (taskNext markedEnv p (.thread (.no (some 1)))).any fun q => (InitSessionContext q.disk markedConfig markedEnv.task).any
        fun context => !context.processedBitmap.Test 0) = true := by decide +kernel
  obtain ⟨p,path,torn⟩ := execute_ends (fun _ _ _ => trivial) died
  obtain ⟨q,ran,lost⟩ := (Option.any_eq_true _ _).mp torn
  obtain ⟨context,found,unset⟩ := (Option.any_eq_true _ _).mp lost
  have outcome := crash_keeps_all_or_nothing marked_sessions (.backup rfl) List.mem_cons_self path (.inr ⟨_,q,ran,trivial,rfl⟩)
  refine ⟨q.disk,marked_resumes,outcome.resolve_left fun kept => ?_⟩
  have set := (resumes_exact (.backup marked_sessions rfl) List.mem_cons_self found).mpr (kept 0 marked_resumes)
  rw [set] at unset
  cases unset

end VolumeBackup
