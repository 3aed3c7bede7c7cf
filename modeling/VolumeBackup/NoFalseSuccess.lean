import VolumeBackup.PollingVerdict
import VolumeBackup.CheckpointRestore
import VolumeBackup.TaskQueue

namespace VolumeBackup
open ByteMemory LabelledRuns

def Clean (history : List Event) : Prop := ¬Unread history ∧ ¬Torn history

def Asked (env : TaskEnv) (config : VolumeTaskSharedConfig) (source : Content) (polling : Polling) : Prop :=
  ∃ o, Roomy (env.sessionEnv config) o ∧ Polled env config source o polling

structure Honest (env : TaskEnv) (p : Process) : Prop where
  queued : Queued env p
  asked : Current (fun running => Asked env running.config running.source) p
  completed : ∀ running ∈ p.completed, Clean running.run.state.history

variable {env : TaskEnv} {config : VolumeTaskSharedConfig} {p q : Process}

theorem Asked.clean {source : Content} {polling : Polling} (asked : Asked env config source polling)
    (ended : polling.pc.unsampled = some []) : Clean polling.state.history := by
  obtain ⟨o,_,polled⟩ := asked
  exact (polled.finished ended).2

theorem asked_opened {shared : TaskState} (made : env.openSession disk config reply = some running) :
    Asked env running.config running.source {toTaskState := shared,toSessionRun := running.run} := by
  obtain ⟨context,source,target,found,_,_,rfl⟩ := open_parts made
  exact ⟨_,opened_roomy found,opened_valid found,fun _ => steady_new,nofun⟩

theorem Honest.new {disk : Disk} : Honest env (.new disk) where
  queued := .new
  asked := fun _ none => by cases none
  completed := fun _ inside => by cases inside

theorem Honest.step (honest : Honest env p) (step : TaskStep env p action q) (clean : OnSession (fun _ => CleanPoll) p action) :
    Honest env q := by
  refine ⟨honest.queued.step step,?_,?_⟩
  · refine honest.asked.step honest.queued.layout step clean (fun _ _ _ => trivial) ?_ ?_
    · exact fun _ _ _ _ made => asked_opened made
    · rintro running inner polling _ ⟨o,roomy,polled⟩ ran condition
      exact ⟨o,roomy,polled.step roomy (pollNext_sound ran) condition⟩
  · cases step with
    | completed here present left =>
        rintro running inside
        rcases List.mem_cons.mp inside with rfl | earlier
        · exact (honest.asked _ present).clean (by rw [show (p.polling _).pc = _ from left]; rfl)
        · exact honest.completed running earlier
    | _ => exact honest.completed

-- Where the status of no component was read as FAILED behind IsFailed's back, nor the writer's provisional
-- SUCCEED, a session of which WaitSessionTerminate has found the end had no failed read or write, and a task
-- that has succeeded had none in any of its sessions.
theorem no_false_success (path : Runs (taskNext env) (OnSession fun _ => CleanPoll) (.new disk) actions p) :
    (∀ running, p.running = some running → running.run.pc.unsampled = some [] → Clean running.run.state.history) ∧
    (p.task.m_status = .SUCCEED → env.task.sessions = some (p.completed.reverse.map Running.config) ∧
      ∀ running ∈ p.completed, Clean running.run.state.history) := by
  have honest : Honest env p := path.invariant (Honest env) .new fun _ _ _ known ran clean =>
    known.step (taskNext_sound ran) clean
  exact ⟨fun running present ended => (honest.asked running present).clean ended,
    fun status => ⟨honest.queued.finished status,honest.completed⟩⟩

-- A full backup of the volume of the one byte 'a' to an image, without hasher and checkpoints.
def plainBackup : VolumeBackupConfig where
  copyFormat := .IMAGE
  copyName := "c"
  volumePath := "/dev/sda1"
  prevCopyMetaDirPath := ""
  outputCopyDataDirPath := "/copy"
  outputCopyMetaDirPath := "/meta"
  blockSize := 1
  sessionSize := 1
  hasherEnabled := false
  enableCheckpoint := false
  checkpointDirPath := "/checkpoint"

def plainEnv : TaskEnv where
  task := .backup plainBackup 1
  sha256 := fun _ _ => 0
  json := CopyMetaFile.recordLibrary []
  device := fun path => path = "/dev/sda1"

def plainDisk : Disk := fun path => if path = "/dev/sda1" then some letter else none

def threads (n : Nat) : List TaskAction := .replicate n (.thread .yes)
def readers (n : Nat) : List TaskAction := .replicate n (.component (.reader .ok))
def hashers (n : Nat) : List TaskAction := .replicate n (.component (.worker 0))
def writers (n : Nat) : List TaskAction := .replicate n (.component (.writer .ok))

def plainActions : List TaskAction := threads 14++readers 10++writers 10++threads 18

theorem no_false_success_plain : ∃ p : Process, p.task.m_status = .SUCCEED ∧ p.completed.length = 1 ∧
    ∀ running ∈ p.completed, Clean running.run.state.history := by
  have run : (execute (taskNext plainEnv) (fun p action => decide (OnSession (fun _ => CleanPoll) p action)) (.new plainDisk)
      plainActions).any (fun p => decide (p.task.m_status = .SUCCEED ∧ p.completed.length = 1)) = true := by decide +kernel
  obtain ⟨p,path,good⟩ := execute_ends (fun _ _ => of_decide_eq_true) run
  obtain ⟨succeeded,one⟩ := of_decide_eq_true good
  exact ⟨p,succeeded,one,((no_false_success path).2 succeeded).2⟩

-- IsFailed reads every status before the writer, whose only Write fails, has published anything; IsTerminated
-- then reads the SUCCEED that the writer takes back one line later.
def hastyActions : List TaskAction := threads 14++readers 10++threads 5++writers 2++
  [.component (.writer (.fail ⟨fun _ => false,0⟩))]++writers 7++threads 4++writers 2++threads 9

theorem success_after_failed_write : ¬∀ p, Reached (taskNext plainEnv) Anything (.new plainDisk) p →
    p.task.m_status = .SUCCEED → ∀ running ∈ p.completed, Clean running.run.state.history := by
  intro always
  have run : (execute (taskNext plainEnv) (fun _ _ => true) (.new plainDisk) hastyActions).any (fun p =>
      decide (p.task.m_status = .SUCCEED ∧ ∃ running ∈ p.completed, Torn running.run.state.history)) = true := by decide +kernel
  obtain ⟨p,path,good⟩ := execute_ends (fun _ _ _ => trivial) run
  obtain ⟨succeeded,running,inside,torn⟩ := of_decide_eq_true good
  exact (always p ⟨_,path⟩ succeeded running inside).2 torn

end VolumeBackup
