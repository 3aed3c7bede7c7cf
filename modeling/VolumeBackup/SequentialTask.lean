import VolumeBackup.FinalReport
import VolumeBackup.TargetFile
import VolumeBackup.CheckpointWindow
import VolumeBackup.AttemptExactness

namespace VolumeBackup
open ByteMemory LabelledRuns

section sequential
variable (env : TaskEnv)

-- A session without threads: opened, copied block by block and, in a backup, its checksum table saved.
def copySession (config : VolumeTaskSharedConfig) (reply : Reply) (disk : Disk) : Option Disk :=
  (env.openSession disk config .yes).map fun opened =>
    let context := opened.run.state.hashingContext
    let copied := opened.run.state.effects.copyAll (env.sessionEnv config) opened.source context.previousTable
    let target := disk.put (env.targetPath config) copied.target
    if env.task.isBackup && config.hasherEnabled then
      WriteBinaryBuffer target config.lastestChecksumBinPath copied.lastestTable context.lastestSize reply
    else target

def copySessions : List (VolumeTaskSharedConfig × Reply) → Disk → Option Disk
  | [],disk => some disk
  | (config,reply)::rest,disk => (copySession env config reply disk).bind (copySessions rest)

structure Serial (config : VolumeTaskSharedConfig) : Prop where
  pooled : Pooled config
  comparable : Comparable (env.sessionEnv config)
  apart : env.targetPath config ≠ config.lastestChecksumBinPath

end sequential

variable {env : TaskEnv} {config : VolumeTaskSharedConfig} {source : Content} {polling next : Polling} {p q : Process}
  {opened : Running} {base disk : Disk}

theorem copySessions_then {served : List (VolumeTaskSharedConfig × Reply)} (before : copySessions env served disk = some base)
    (last : copySession env config reply base = some after) : copySessions env (served++[(config,reply)]) disk = some after := by
  induction served generalizing disk with
  | nil =>
      cases Option.some.inj before
      simp [copySessions,last]
  | cons first rest ih =>
      obtain ⟨middle,one,others⟩ := Option.bind_eq_some_iff.mp before
      exact Option.bind_eq_some_iff.mpr ⟨middle,one,ih others⟩

def PollPc.refreshes : PollPc → Bool
  | .pause | .snapshot | .refreshTable _ | .refreshWriter _ | .refreshBitmap _ | .saveBitmap _ _ | .saveSnapshot _ | .resume
  | .saveFinal _ => true
  | _ => false

def PollPc.flushed : PollPc → Bool
  | .flushWriter | .flushBitmap | .completed | .leave true | .left true => true
  | _ => false

-- While a session without checkpoints runs, the disk is the one it was opened on but for its target; behind the last line it is the
-- one that a session without threads would leave.
structure Placed (env : TaskEnv) (base : Disk) (opened : Running) (polling : Polling) : Prop where
  plain : polling.pc.refreshes = false
  size : polling.state.hashingContext.lastestSize = opened.run.state.hashingContext.lastestSize
  tabling : polling.pc = .flushTable → env.task.isBackup = true
  copying : polling.pc.flushed = false → polling.disk = base.put (env.targetPath opened.config) polling.state.target
  copied : polling.pc.flushed = true → ∃ reply, copySession env opened.config reply base = some polling.disk

theorem flushed_ended {pc : PollPc} (flushed : pc.flushed = true) : pc.unsampled = some [] := by
  cases pc with
  | leave returned | left returned => cases returned <;> first | rfl | cases flushed
  | _ => first | rfl | cases flushed

theorem abortFrom_plain (status : TaskStatus) (components : List Component) :
    (abortFrom status components).refreshes = false ∧ (abortFrom status components).flushed = false ∧
      abortFrom status components ≠ .flushTable := by
  cases components <;> exact ⟨rfl,rfl,nofun⟩

theorem aborts_plain {pc : PollPc} {component : Component} {rest : List Component}
    (next : (∃ later, pc = .abort later component rest status) ∨ pc = abortFrom status rest) :
    pc.refreshes = false ∧ pc.flushed = false ∧ pc ≠ .flushTable := by
  rcases next with ⟨later,rfl⟩ | rfl
  · exact ⟨rfl,rfl,nofun⟩
  · exact abortFrom_plain _ _

theorem Followed.effects (followed : Followed env opened polling) (serial : Serial env opened.config)
    (made : env.openSession base opened.config .yes = some opened) (ended : polling.pc.unsampled = some []) :
    polling.state.effects = opened.run.state.effects.copyAll (env.sessionEnv opened.config) opened.source
      opened.run.state.hashingContext.previousTable := by
  obtain ⟨context,source,target,found,same⟩ := opened_parts made
  obtain ⟨_,_,first⟩ := init_opened found
  have none : opened.run.state.counter.blockesWriteFailed = 0 := by
    rw [same]
    exact first.failed
  obtain ⟨finished,_,whole⟩ := followed.polled.finished ended
  have concluded : Concluded (env.sessionEnv opened.config) opened.source
      (opened.run.state.flow (env.sessionEnv opened.config)) opened.run.state.counter polling.state :=
    {followed.known.toReplaying with pooled := serial.pooled,finished,whole}
  exact concluded.effects serial.comparable none

theorem Placed.copySession (placed : Placed env base opened polling) (followed : Followed env opened polling)
    (serial : Serial env opened.config) (made : env.openSession base opened.config .yes = some opened)
    (ended : polling.pc.unsampled = some []) (early : polling.pc.flushed = false) (reply : Reply) :
    copySession env opened.config reply base = some (if env.task.isBackup && opened.config.hasherEnabled then
      WriteBinaryBuffer polling.disk opened.config.lastestChecksumBinPath polling.state.hashingContext.lastestTable
        polling.state.hashingContext.lastestSize reply
      else polling.disk) := by
  have effects := followed.effects serial made ended
  unfold VolumeBackup.copySession
  rw [made,Option.map_some]
  dsimp only
  rw [← effects,placed.copying early,placed.size]
  rfl

theorem Placed.keep (placed : Placed env base opened polling) (disk : next.disk = polling.disk)
    (target : next.state.target = polling.state.target)
    (size : next.state.hashingContext.lastestSize = polling.state.hashingContext.lastestSize) (plain : next.pc.refreshes = false)
    (flushed : next.pc.flushed = polling.pc.flushed) (elsewhere : next.pc ≠ .flushTable) : Placed env base opened next where
  plain := plain
  size := size.trans placed.size
  tabling := fun here => absurd here elsewhere
  copying := fun early => by
    rw [disk,target]
    exact placed.copying (flushed ▸ early)
  copied := fun late => by
    rw [disk]
    exact placed.copied (flushed ▸ late)

theorem Placed.done (plain : next.pc.refreshes = false)
    (size : next.state.hashingContext.lastestSize = opened.run.state.hashingContext.lastestSize) (late : next.pc.flushed = true)
    (saved : VolumeBackup.copySession env opened.config reply base = some next.disk) : Placed env base opened next where
  plain := plain
  size := size
  tabling := fun here => by
    rw [here] at late
    cases late
  copying := fun early => by cases late.symm.trans early
  copied := fun _ => ⟨reply,saved⟩

theorem put_again {disk : Disk} {content : Content} (present : disk path = some content) : disk.put path content = disk := by
  funext other
  by_cases same : other = path
  · rw [same,put_same,present]
  · exact put_other same

theorem copySession_target (serial : Serial env config) (made : env.openSession base config .yes = some opened)
    (saved : copySession env config reply base = some disk) :
    disk (env.targetPath config) = some (opened.run.state.effects.copyAll (env.sessionEnv config) opened.source
      opened.run.state.hashingContext.previousTable).target := by
  unfold copySession at saved
  rw [made] at saved
  cases Option.some.inj saved
  dsimp only
  split
  · exact (save_other serial.apart).trans put_same
  · exact put_same

theorem Placed.step (placed : Placed env base opened polling) (followed : Followed env opened polling) (after : Followed env opened next)
    (serial : Serial env opened.config) (fresh : opened.config.checkpointEnabled = false)
    (made : env.openSession base opened.config .yes = some opened) (step : PollStep env opened.config opened.source polling action next) : Placed env base opened next := by
  have keep {pc : PollPc} (plain : pc.refreshes = false) (flushed : pc.flushed = polling.pc.flushed) (elsewhere : pc ≠ .flushTable) :
      Placed env base opened {polling with pc := pc} := placed.keep rfl rfl rfl plain flushed elsewhere
  have refreshing {pc : PollPc} (here : polling.pc = pc) (refreshes : pc.refreshes = true) {goal : Prop} : goal := by
    have plain := placed.plain
    rw [here,refreshes] at plain
    cases plain
  have disabled (enabled : opened.config.checkpointEnabled = true) {goal : Prop} : goal := by
    cases fresh.symm.trans enabled
  cases step with
  | move moves =>
      cases moves with
      | started here | goOn here | noneFailed here | failed here | notFailed here | terminated here | running here | notDue here =>
          exact keep rfl (by rw [here]; rfl) nofun
      | aborts here =>
          obtain ⟨plain,early,elsewhere⟩ := abortFrom_plain .ABORTED env.task.components
          exact keep plain (by rw [here,early]; rfl) elsewhere
      | allTerminated here =>
          cases backup : env.task.isBackup with
          | true =>
              have early : polling.pc.flushed = false := by rw [here]; rfl
              exact ⟨rfl,placed.size,fun _ => backup,fun _ => placed.copying early,fun late => Bool.noConfusion late⟩
          | false =>
              have saved := placed.copySession followed serial made (by rw [here]; rfl) (by rw [here]; rfl) .yes
              rw [backup] at saved
              exact .done rfl placed.size rfl saved
      | noTable here plain =>
          have saved := placed.copySession followed serial made (by rw [here]; rfl) (by rw [here]; rfl) .yes
          rw [plain,Bool.and_false] at saved
          exact .done rfl placed.size rfl saved
      | noBitmap here => exact keep rfl (by rw [here]; rfl) nofun
      | reads here next =>
          obtain ⟨plain,early,elsewhere⟩ := aborts_plain next
          exact keep plain (by rw [here,early]; rfl) elsewhere
      | left here joined =>
          rename_i returned
          cases returned <;> exact keep rfl (by rw [here]; rfl) nofun
      | due here enabled | final here enabled => exact disabled enabled
      | taken here | takenPlain here | unsynced here | fresh here => exact refreshing here rfl
  | drive drives ran =>
      rename_i state driven pc reply
      have stays := sessionStep_sound ran
      have size := (step_marks stays).1
      cases drives with
      | started here => exact placed.keep rfl (control_target stays rfl) size rfl (by rw [here]; rfl) nofun
      | startFailed here =>
          obtain ⟨plain,early,elsewhere⟩ := abortFrom_plain .FAILED env.task.components
          exact placed.keep rfl (control_target stays rfl) size plain (by rw [here]; exact early) elsewhere
      | paused here | resumed here => exact refreshing here rfl
      | assigned here assigns next =>
          obtain ⟨plain,early,elsewhere⟩ := aborts_plain next
          have foreign : driven.ofComponent = false := by rcases assigns with rfl | rfl | rfl <;> rfl
          exact placed.keep rfl (control_target stays foreign) size plain (by rw [here]; exact early) elsewhere
  | statistics here | finalSync here | completed here | concluded here => exact placed.keep rfl rfl rfl rfl (by rw [here]; rfl) nofun
  | finalTable here hasher =>
      rename_i reply
      have saved := placed.copySession followed serial made (by rw [here]; rfl) (by rw [here]; rfl) reply
      rw [placed.tabling here,hasher] at saved
      exact .done rfl placed.size rfl saved
  | table here | tableLost here | sync here | bitmap here | bitmapLost here | snapshot here | finalBitmap here => exact refreshing here rfl
  | component own ran =>
      have size := (step_marks (sessionStep_sound ran)).1.trans placed.size
      cases late : polling.pc.flushed with
      | false =>
          refine ⟨placed.plain,size,placed.tabling,fun _ => ?_,fun other => by cases late.symm.trans other⟩
          change polling.disk.put _ _ = _
          rw [placed.copying late,put_put]
      | true =>
          -- the target has its last content already
          obtain ⟨reply,saved⟩ := placed.copied late
          refine .done placed.plain size late (saved.trans (congrArg some (put_again ?_).symm))
          rw [copySession_target serial made saved,← after.effects serial made (flushed_ended late)]
          rfl
  | client => exact ⟨placed.plain,placed.size,placed.tabling,placed.copying,placed.copied⟩

def Aboard (env : TaskEnv) (base : Disk) (config : VolumeTaskSharedConfig) (source : Content) (polling : Polling) : Prop :=
  ∃ opened, opened.config = config ∧ opened.source = source ∧ env.openSession base config .yes = some opened ∧
    Followed env opened polling ∧ Placed env base opened polling

theorem Aboard.step (aboard : Aboard env base config source polling) (serial : Serial env config)
    (fresh : config.checkpointEnabled = false) (step : PollStep env config source polling action next) (clean : CleanPoll polling action) : Aboard env base config source next := by
  obtain ⟨opened,rfl,rfl,made,followed,placed⟩ := aboard
  have after := followed.step step clean
  exact ⟨opened,rfl,rfl,made,after,placed.step followed after serial fresh made step⟩

theorem open_granted (made : env.openSession base config reply = some opened) : env.openSession base config .yes = some opened := by
  unfold TaskEnv.openSession at made ⊢
  split at made
  · split at made
    · exact made
    · cases made
  · cases made

theorem aboard_opened {shared : TaskState} (here : shared.disk = base) (made : env.openSession base config reply = some opened) :
    Aboard env base opened.config opened.source {toTaskState := shared,toSessionRun := opened.run} := by
  have followed : Followed env opened {toTaskState := shared,toSessionRun := opened.run} := followed_opened made
  have granted := open_granted made
  obtain ⟨context,source,target,_,_,present,rfl⟩ := open_parts made
  refine ⟨_,rfl,rfl,granted,followed,rfl,rfl,PollPc.noConfusion,fun _ => ?_,Bool.noConfusion⟩
  exact here.trans (put_again present).symm

structure Serves (env : TaskEnv) (start base : Disk) (p : Process) : Prop where
  chain : ∃ prepared served, Reached (taskNext env) Anything (.new start) prepared ∧ prepared.pc = .prepared ∧
    served.map Prod.fst = p.completed.reverse.map Running.config ∧ copySessions env served prepared.disk = some base
  idle : p.running = none → p.disk = base
  busy : ∀ running, p.running = some running → Aboard env base running.config running.source (p.polling running)

def Process.serving (p : Process) : Prop := p.pc.working = true ∨ p.pc.clearing = true ∨ p.task.m_status = .SUCCEED

structure Serving (env : TaskEnv) (start : Disk) (p : Process) : Prop where
  queued : Queued env p
  reached : Reached (taskNext env) Anything (.new start) p
  kept : ∀ files, p.pc = .clear files → files = []
  serves : p.serving → ∃ base, Serves env start base p

section serving
variable {start : Disk}

theorem Serves.pass (serves : Serves env start base p) (idle : p.running = none) (running : q.running = none)
    (disk : q.disk = p.disk) (completed : q.completed = p.completed) : Serves env start base q where
  chain := completed ▸ serves.chain
  idle := fun _ => disk.trans (serves.idle idle)
  busy := fun _ present => by cases running.symm.trans present

theorem Serves.fresh (reached : Reached (taskNext env) Anything (.new start) p) (here : p.pc = .prepared)
    (completed : p.completed = []) (idle : p.running = none) : Serves env start p.disk p where
  chain := ⟨p,[],reached,here,by rw [completed]; rfl,rfl⟩
  idle := fun _ => rfl
  busy := fun _ present => by cases idle.symm.trans present

theorem Serves.poll (serves : Serves env start base p) (present : p.running = some running) (serial : Serial env running.config)
    (fresh : running.config.checkpointEnabled = false) (step : PollStep env running.config running.source (p.polling running) action polling) (clean : CleanPoll (p.polling running) action) :
    Serves env start base (p.polled running polling) where
  chain := serves.chain
  idle := fun none => by cases none
  busy := by
    intro other same
    cases Option.some.inj same
    exact (serves.busy running present).step serial fresh step clean

theorem Serves.complete (serves : Serves env start base p) (present : p.running = some running) (left : running.run.pc = .left true) :
    Serves env start p.disk {p with running := none,completed := running::p.completed,pc := .loop} where
  chain := by
    obtain ⟨prepared,served,reached,here,all,copied⟩ := serves.chain
    obtain ⟨opened,same,_,_,_,placed⟩ := serves.busy running present
    have flushed : (p.polling running).pc.flushed = true := by rw [show (p.polling running).pc = _ from left]; rfl
    obtain ⟨reply,saved⟩ := placed.copied flushed
    rw [same] at saved
    exact ⟨prepared,served++[(running.config,reply)],reached,here,by simp [all],copySessions_then copied saved⟩
  idle := fun _ => rfl
  busy := fun _ present => by cases present

theorem clears_nothing {task : ProtectTask} (disabled : task.enableCheckpoint = false) : task.clearsCheckpoints = false := by
  cases task with
  | backup config volumeSize | restore config volumeCopyMeta =>
      have off : config.enableCheckpoint = false := disabled
      simp [ProtectTask.clearsCheckpoints,off]

theorem TaskMove.serving (moves : TaskMove env p pc) (queued : Queued env p) (after : ({p with pc := pc} : Process).serving) :
    p.serving := by
  have status := queued.unfinished moves.alive
  cases moves with
  | drained here => exact .inl (by rw [here]; rfl)
  | cleared here => exact .inr (.inl (by rw [here]; rfl))
  | _ =>
      rcases after with working | clearing | succeeded
      · cases working
      · cases clearing
      · exact absurd succeeded status

theorem kept_step (kept : ∀ files, p.pc = .clear files → files = []) (disabled : env.task.enableCheckpoint = false)
    (step : TaskStep env p action q) : ∀ files, q.pc = .clear files → files = [] := by
  intro files here
  cases step with
  | move moves =>
      cases moves with
      | drained =>
          rw [clears_nothing disabled] at here
          cases here
          rfl
      | _ => cases here
  | assign assigned =>
      rcases assigns_cases assigned with ⟨_,_,rfl⟩ | ⟨_,_,rfl⟩ | ⟨_,rfl⟩ | ⟨_,_,rfl⟩ <;> cases here
  | splitBackup =>
      dsimp only at here
      split at here <;> cases here
  | clear earlier => cases kept _ earlier
  | poll | component | request | client => exact kept files here
  | _ => cases here

theorem Serving.step (serving : Serving env start p)
    (serial : ∀ sessions, env.task.sessions = some sessions → ∀ config ∈ sessions, Serial env config)
    (disabled : env.task.enableCheckpoint = false) (stepped : taskNext env p action = some q)
    (clean : OnSession (fun _ => CleanPoll) p action) : Serving env start q := by
  have step := taskNext_sound stepped
  have queued := serving.queued.step step
  have reached := serving.reached.step stepped trivial
  refine ⟨queued,reached,kept_step serving.kept disabled step,fun after => ?_⟩
  have layout := serving.queued.layout
  have run {running : Running} (present : p.running = some running) :
      Serial env running.config ∧ running.config.checkpointEnabled = false := by
    have queue := serving.queued.working (by rw [layout.mp (by rw [present]; rfl)]; rfl)
    have inside := serving.queued.member queue present
    exact ⟨serial _ queue _ inside,(sessions_checkpoint queue inside).trans disabled⟩
  have busy {running : Running} (present : p.running = some running) : p.serving :=
    .inl (by rw [layout.mp (by rw [present]; rfl)]; rfl)
  -- a line before the sessions, and one that gives the task up
  have early {goal : Prop} (live : p.pc ≠ .exited) (status : q.task.m_status = p.task.m_status) (idle : q.pc.working = false)
      (before : q.pc.clearing = false) : goal := by
    rcases after with working | clearing | succeeded
    · cases idle.symm.trans working
    · cases before.symm.trans clearing
    · exact absurd (status.symm.trans succeeded) (serving.queued.unfinished live)
  cases step with
  | move moves =>
      obtain ⟨base,serves⟩ := serving.serves (moves.serving serving.queued after)
      have idle := layout.idle rfl moves.elsewhere.1
      exact ⟨base,serves.pass idle idle rfl rfl⟩
  | assign here =>
      have idle := layout.idle rfl (assigns_elsewhere here).1
      have before : p.serving := by
        rcases assigns_cases here with ⟨line,rfl,rfl⟩ | ⟨line,rfl,rfl⟩ | ⟨line,rfl⟩ | ⟨line,rfl,rfl⟩
        · rcases after with working | clearing | succeeded <;> contradiction
        · exact .inl (by rw [line]; rfl)
        · rcases after with working | clearing | succeeded
          · cases working
          · cases clearing
          · exact absurd succeeded (serving.queued.conclude _ line).unfinished
        · exact .inr (.inl (by rw [line]; rfl))
      obtain ⟨base,serves⟩ := serving.serves before
      exact ⟨base,serves.pass idle idle rfl rfl⟩
  | create here | truncate here => exact early (by rw [here]; nofun) rfl rfl rfl
  | splitBackup here task sessions record =>
      rename_i reply
      have idle := layout.idle here nofun
      have completed := serving.queued.fresh (by rw [here]; rfl)
      rcases Bool.eq_false_or_eq_true reply.opened with opened | opened
      · exact ⟨_,Serves.fresh reached (if_pos opened) completed idle⟩
      · exact early (by rw [here]; nofun) rfl (by dsimp only; rw [opened]; rfl) (by dsimp only; rw [opened]; rfl)
  | splitRestore here => exact ⟨_,Serves.fresh reached rfl (serving.queued.fresh (by rw [here]; rfl)) (layout.idle here nofun)⟩
  | pop here =>
      have idle := layout.idle here nofun
      obtain ⟨base,serves⟩ := serving.serves (.inl (by rw [here]; rfl))
      exact ⟨base,serves.pass idle idle rfl rfl⟩
  | opened here positive made =>
      obtain ⟨base,serves⟩ := serving.serves (.inl (by rw [here]; rfl))
      have same := serves.idle (layout.idle here nofun)
      refine ⟨base,serves.chain,fun none => (by cases none),?_⟩
      rintro running ⟨⟩
      exact aboard_opened same (same ▸ made)
  | poll here present ran =>
      obtain ⟨base,serves⟩ := serving.serves (busy present)
      exact ⟨base,serves.poll present (run present).1 (run present).2 (pollNext_sound ran) (clean _ present)⟩
  | completed here present left =>
      obtain ⟨base,serves⟩ := serving.serves (busy present)
      exact ⟨_,serves.complete present left⟩
  | failed here => exact early (by rw [here]; nofun) rfl rfl rfl
  | clear here => cases serving.kept _ here
  | component present ran =>
      obtain ⟨base,serves⟩ := serving.serves (busy present)
      exact ⟨base,serves.poll present (run present).1 (run present).2 (pollNext_sound ran) (clean _ present)⟩
  | request =>
      obtain ⟨base,serves⟩ := serving.serves after
      exact ⟨base,serves.chain,serves.idle,serves.busy⟩
  | client =>
      obtain ⟨base,serves⟩ := serving.serves (after.imp_right fun rest => rest.imp_right assign_succeed)
      refine ⟨base,serves.chain,serves.idle,fun running present => ?_⟩
      exact (serves.busy running present).step (run present).1 (run present).2 .client trivial

theorem Serving.new : Serving env start (.new start) where
  queued := .new
  reached := .refl
  kept := fun _ here => TaskPc.noConfusion here
  serves := by rintro (working | clearing | succeeded) <;> contradiction

-- A task without checkpoints that has succeeded leaves the disk that one thread would leave which prepares the copy alike and then
-- copies session by session and block by block: however its threads took turns, however often it was polled, and whichever of the
-- checksum tables could be saved.
theorem task_sequential (disabled : env.task.enableCheckpoint = false)
    (serial : ∀ sessions, env.task.sessions = some sessions → ∀ config ∈ sessions, Serial env config)
    (path : Runs (taskNext env) (OnSession fun _ => CleanPoll) (.new start) actions p) (succeeded : p.task.m_status = .SUCCEED) :
    ∃ prepared served, Reached (taskNext env) Anything (.new start) prepared ∧ prepared.pc = .prepared ∧
      env.task.sessions = some (served.map Prod.fst) ∧ copySessions env served prepared.disk = some p.disk := by
  have serving : Serving env start p := path.invariant (Serving env start) .new fun _ _ _ known ran clean =>
    known.step serial disabled ran clean
  have ended : p.pc = .exited := Decidable.byContradiction fun live => serving.queued.unfinished live succeeded
  obtain ⟨base,serves⟩ := serving.serves (.inr (.inr succeeded))
  obtain ⟨prepared,served,reached,here,all,copied⟩ := serves.chain
  refine ⟨prepared,served,reached,here,?_,?_⟩
  · rw [all]
    exact serving.queued.finished succeeded
  · rw [copied,serves.idle (serving.queued.layout.idle ended nofun)]

end serving

theorem plain_serial (queue : plainEnv.task.sessions = some sessions) (inside : config ∈ sessions) : Serial plainEnv config := by
  cases Option.some.inj queue
  cases List.mem_singleton.mp inside
  exact ⟨⟨by decide,by decide⟩,fun _ => by decide,by decide⟩

theorem task_sequential_plain : ∃ (p prepared : Process) (served : List (VolumeTaskSharedConfig × Reply)), p.task.m_status = .SUCCEED ∧
    served.length = 1 ∧ copySessions plainEnv served prepared.disk = some p.disk := by
  have run : (execute (taskNext plainEnv) (fun p action => decide (OnSession (fun _ => CleanPoll) p action)) (.new plainDisk)
      plainActions).any (fun p => decide (p.task.m_status = .SUCCEED)) = true := by decide +kernel
  obtain ⟨p,path,good⟩ := execute_ends (fun _ _ => of_decide_eq_true) run
  have succeeded := of_decide_eq_true good
  obtain ⟨prepared,served,_,_,queue,copied⟩ := task_sequential rfl (fun _ queue _ inside => plain_serial queue inside) path succeeded
  have one : served.length = 1 := by
    have length := congrArg (Option.map List.length) queue
    exact (Option.some.inj ((show some 1 = _ from length).trans (congrArg some (List.length_map _)))).symm
  exact ⟨p,prepared,served,succeeded,one,copied⟩

end VolumeBackup
