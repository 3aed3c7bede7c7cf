import VolumeBackup.ExactTables
import VolumeBackup.DeadlockFreedom

namespace VolumeBackup
open ByteMemory LabelledRuns

def Crew (config : VolumeTaskSharedConfig) : Prop := config.hasherWorkerNum ≠ 0 ∧ config.hasherWorkerNum ≤ MAX_HASHER_WORKER_NUM

theorem start_crew {env : SessionEnv} {s t : Session} (hasher : env.config.hasherEnabled = true) (ran : s.start env .hasherTask = some t) :
    t.hasherTask.task.m_status ≠ .FAILED ↔ Crew env.config := by
  dsimp only [Session.start] at ran
  split at ran
  · cases ran
  · split at ran
    · rename_i disabled
      simp [hasher] at disabled
    · unfold Crew
      split at ran
      · rename_i refused
        cases Option.some.inj ran
        refine ⟨fun working => absurd rfl working,fun crew => ?_⟩
        rcases refused with none | many
        · exact absurd none crew.1
        · exact absurd many (UInt32.not_lt.mpr crew.2)
      · rename_i accepted
        cases Option.some.inj ran
        rw [not_or,UInt32.not_lt] at accepted
        exact ⟨fun _ => accepted,fun _ => nofun⟩

def PollPc.starting : PollPc → Option (List Component)
  | .start rest => some rest
  | _ => none

def Crewed (config : VolumeTaskSharedConfig) (p : Polling) : Prop :=
  p.pc.doomed = false → (∀ rest, p.pc.starting = some rest → .hasherTask ∉ rest) → Crew config

section polling
variable {env : TaskEnv} {config : VolumeTaskSharedConfig} {source : Content} {p q : Polling}

theorem Crewed.step (crewed : Crewed config p) (hasher : config.hasherEnabled = true) (step : PollStep env config source p action q) :
    Crewed config q := by
  intro live past
  have before := crewed (step.live live)
  have behind {pc : PollPc} (here : p.pc = pc) (none : pc.starting = none) : Crew config := by
    apply before
    intro rest same
    rw [here,none] at same
    cases same
  cases step with
  | move moves =>
      cases moves with
      | started here =>
          apply before
          intro rest same
          rw [here] at same
          cases same
          nofun
      | _ here => exact behind here rfl
  | drive drives ran =>
      cases drives with
      | started here running =>
          rename_i component rest
          by_cases mine : component = .hasherTask
          · subst mine
            exact (@start_crew (env.sessionEnv config) _ _ hasher ran).mp running
          · apply before
            intro whole same inside
            rw [here] at same
            cases same
            rcases List.mem_cons.mp inside with equal | later
            · exact mine equal.symm
            · exact past rest rfl later
      | startFailed => cases (abortFrom_doomed _ _).symm.trans live
      | paused here | resumed here | assigned here => exact behind here rfl
  | component | client => exact before past
  | _ here => exact behind here rfl

end polling

section task
variable {env : TaskEnv} {queue : List VolumeTaskSharedConfig} {path : String} {p q : Process}

theorem TaskStep.untouched (queued : Queued env p) (filed : Filed env p) (sessions : env.task.sessions = some queue)
    (step : TaskStep env p action q) (late : p.pc.preparing = false) (apart : ∀ config ∈ queue, path ∉ env.writes config) :
    q.disk path = p.disk path := by
  have early {pc : TaskPc} (here : p.pc = pc) (preparing : pc.preparing = true) : False := by
    rw [here] at late
    cases preparing.symm.trans late
  cases step with
  | create here | truncate here | splitBackup here => exact (early here rfl).elim
  | poll here present ran | component present ran =>
      exact (pollNext_sound ran).untouched (apart _ (queued.member sessions present))
  | clear here =>
      exact filed.cleared sessions here (fun config member => (unwritten.mp (apart config member)).2.2) _
  | _ => rfl

structure Staffed (env : TaskEnv) (p : Process) : Prop where
  queued : Queued env p
  current : Current (fun running => Crewed running.config) p
  completed : ∀ running ∈ p.completed, Crew running.config

variable (backup : env.task.isBackup = true) (sessions : env.task.sessions = some queue)
  (hasher : ∀ config ∈ queue, config.hasherEnabled = true)
include backup sessions hasher

theorem Staffed.step (staffed : Staffed env p) (step : TaskStep env p action q) : Staffed env q := by
  refine ⟨staffed.queued.step step,?_,?_⟩
  · refine @Current.step _ _ _ _ (fun config _ => Crewed config) (fun _ _ _ => True) staffed.current staffed.queued.layout step ?_
      (fun _ _ _ => trivial) ?_ ?_
    · cases action with
      | thread | component => exact fun _ _ => trivial
      | request | client => trivial
    · intro config reply running here made live past
      obtain ⟨context,content,target,_,_,_,rfl⟩ := open_parts made
      refine absurd ?_ (past _ rfl)
      cases task : env.task with
      | backup => simp [ProtectTask.components]
      | restore =>
          rw [task] at backup
          cases backup
    · intro running inner polling present crewed ran _
      exact crewed.step (hasher _ (staffed.queued.member sessions present)) (pollNext_sound ran)
  · cases step with
    | completed here present left =>
        rename_i running
        intro other inside
        rcases List.mem_cons.mp inside with rfl | earlier
        · have line : (p.polling other).pc = .left true := left
          apply staffed.current other present
          · rw [line]
            rfl
          · rw [line]
            intro rest starting
            cases starting
        · exact staffed.completed other earlier
    | _ => exact staffed.completed

theorem staffed_run {disk : Disk} {allowed : Process → TaskAction → Prop} (path : Runs (taskNext env) allowed (.new disk) actions p)
    (status : p.task.m_status = .SUCCEED) (member : config ∈ queue) : Crew config := by
  have first : Staffed env (.new disk) := ⟨.new,(fun _ none => by cases none),fun _ inside => by cases inside⟩
  have staffed := path.invariant (Staffed env) first fun _ _ _ known ran _ => known.step backup sessions hasher (taskNext_sound ran)
  have order := staffed.queued.finished status
  rw [sessions] at order
  rw [Option.some.inj order] at member
  obtain ⟨running,done,rfl⟩ := List.mem_map.mp member
  exact staffed.completed running (List.mem_reverse.mp done)

end task

section law
variable (env : TaskEnv) (backup : VolumeBackupConfig) (volumeSize : UInt64) (queue : List VolumeTaskSharedConfig) (volume : Content)
  (disk : Disk)

def Recorded : Prop := ∃ volumeCopyMeta, backup.volumeCopyMeta volumeSize = some volumeCopyMeta ∧
  disk (GetVolumeCopyMetaPath backup.outputCopyMetaDirPath backup.copyName) = some (env.Serialize volumeCopyMeta)

structure LeftBehind : Prop where
  table : ∀ config ∈ queue, ExactTable env config volume disk
  copy : ∀ config ∈ queue, (disk config.copyFilePath).isSome = true
  record : Recorded env backup volumeSize disk
  crew : ∀ config ∈ queue, Crew config

end law

theorem Recorded.file {env : TaskEnv} {backup : VolumeBackupConfig} {volumeSize : UInt64} {disk : Disk} {volumeCopyMeta : VolumeCopyMeta}
    (recorded : Recorded env backup volumeSize disk) (record : backup.volumeCopyMeta volumeSize = some volumeCopyMeta) :
    disk (GetVolumeCopyMetaPath backup.outputCopyMetaDirPath backup.copyName) = some (env.Serialize volumeCopyMeta) := by
  obtain ⟨other,made,saved⟩ := recorded
  cases made.symm.trans record
  exact saved

section sources
variable {env : TaskEnv} {queue : List VolumeTaskSharedConfig} {source : VolumeTaskSharedConfig → Content} {path : String} {disk : Disk}
  {p q : Process} {actions : List TaskAction} (sessions : env.task.sessions = some queue)
include sessions

theorem TaskStep.leaves (queued : Queued env p) (filed : Filed env p) (making : Making env p) (step : TaskStep env p action q)
    (data : ¬env.MakesData path) (record : ¬env.MakesRecord path) (apart : ∀ config ∈ queue, path ∉ env.writes config) :
    q.disk path = p.disk path := by
  cases early : p.pc.preparing with
  | true => exact step.prepares making queued.layout early data record
  | false => exact step.untouched queued filed sessions early apart

theorem run_leaves {allowed : Process → TaskAction → Prop} (data : ¬env.MakesData path) (record : ¬env.MakesRecord path)
    (apart : ∀ config ∈ queue, path ∉ env.writes config) (run : Runs (taskNext env) allowed (.new disk) actions p) :
    p.disk path = disk path := by
  have kept := run.invariant (fun p => Queued env p ∧ Filed env p ∧ Making env p ∧ p.disk path = disk path) ⟨.new,.new,.new,rfl⟩ ?_
  · exact kept.2.2.2
  · rintro p action q ⟨queued,filed,making,same⟩ ran _
    have step := taskNext_sound ran
    exact ⟨queued.step step,filed.step step,making.step queued.layout step,
      (step.leaves sessions queued filed making data record apart).trans same⟩

theorem sources_smooth (made : ∀ config ∈ queue, ¬env.MakesData (env.sourcePath config) ∧ ¬env.MakesRecord (env.sourcePath config))
    (apart : ∀ config ∈ queue, ∀ other ∈ queue, env.sourcePath config ∉ env.writes other)
    (present : ∀ config ∈ queue, disk (env.sourcePath config) = some (source config))
    (run : Runs (taskNext env) Grants (.new disk) actions p) : Runs (taskNext env) (Smooth env source) (.new disk) actions p := by
  refine run.strengthen (fun p => Queued env p ∧ Filed env p ∧ Making env p ∧
    ∀ config ∈ queue, p.disk (env.sourcePath config) = some (source config)) ⟨.new,.new,.new,present⟩ ?_ ?_
  · rintro p action q ⟨queued,filed,making,there⟩ ran _
    have step := taskNext_sound ran
    refine ⟨queued.step step,filed.step step,making.step queued.layout step,fun config member => ?_⟩
    obtain ⟨data,record⟩ := made config member
    exact (step.leaves sessions queued filed making data record (apart config member)).trans (there config member)
  · rintro p action q ⟨queued,filed,making,there⟩ ran granted
    refine ⟨granted,fun config opening => ?_⟩
    have here : p.pc = .init config := by
      unfold TaskPc.opening at opening
      split at opening
      · rename_i line
        cases opening
        exact line
      · cases opening
    apply there
    exact queued.waiting_member sessions (by simp [Process.waiting,here] : config ∈ p.waiting)

end sources

section backup
variable {env : TaskEnv} {backup : VolumeBackupConfig} {volumeSize : UInt64} {queue : List VolumeTaskSharedConfig} {volume : Content}
  {config : VolumeTaskSharedConfig} {disk : Disk} {p q : Process} {source : VolumeTaskSharedConfig → Content}
  (task : env.task = .backup backup volumeSize)
include task

theorem TaskStep.records (layout : Layout p) (step : TaskStep env p action q) (early : p.pc.preparing = true) (now : q.pc = .prepared)
    (smooth : Smooth env source p action) : Recorded env backup volumeSize q.disk := by
  have absent {pc : TaskPc} (here : p.pc = pc) (late : pc.preparing = false) : False := preparing_absent early here late
  cases step with
  | splitBackup here known sessions record =>
      cases task.symm.trans known
      cases smooth.answer fun running present => by cases (layout.idle here nofun).symm.trans present
      exact ⟨_,record,put_same⟩
  | splitRestore here known => cases task.symm.trans known
  | move moves => cases moves <;> cases now
  | assign here =>
      rcases assigns_cases here with ⟨_,_,rfl⟩ | ⟨_,_,rfl⟩ | ⟨_,rfl⟩ | ⟨_,_,rfl⟩ <;> cases now
  | poll here => exact (absent here rfl).elim
  | component present => exact (absent (layout.mp (by rw [present]; rfl)) rfl).elim
  | request | client => exact (absent now rfl).elim
  | _ => cases now

variable (sessions : env.task.sessions = some queue)
include sessions

theorem record_apart (dir : String) (member : config ∈ queue) : GetVolumeCopyMetaPath dir backup.copyName ∉ env.writes config := by
  obtain ⟨i,start,size,_,rfl⟩ := backup_member task sessions member
  rw [unwritten,backup_target task]
  exact ⟨copy_meta.symm,checksum_meta.symm,checkpoint_meta.symm⟩

theorem recorded_run (path : Runs (taskNext env) (Smooth env source) (.new disk) actions p) (status : p.task.m_status = .SUCCEED) :
    Recorded env backup volumeSize p.disk := by
  have standing := path.invariant (fun p => Queued env p ∧ Filed env p ∧
    (p.pc.preparing = true ∨ (p.pc = .exited ∧ p.task.m_status ≠ .SUCCEED) ∨ Recorded env backup volumeSize p.disk))
    ⟨.new,.new,.inl rfl⟩ ?_
  · obtain ⟨queued,_,early | ⟨_,failed⟩ | recorded⟩ := standing
    · refine absurd status (queued.unfinished fun gone => ?_)
      rw [gone] at early
      cases early
    · exact absurd status failed
    · exact recorded
  · rintro p action q ⟨queued,filed,known⟩ ran smooth
    have step := taskNext_sound ran
    refine ⟨queued.step step,filed.step step,?_⟩
    by_cases early : p.pc.preparing = true
    · rcases step.early queued.layout early with again | now | given
      · exact .inl again
      · exact .inr (.inr (step.records task queued.layout early now smooth))
      · exact .inr (.inl given)
    · rcases known.resolve_left early with ⟨gone,failed⟩ | ⟨volumeCopyMeta,record,present⟩
      · exact .inr (.inl (step.stays queued.layout gone failed))
      · have same := step.untouched queued filed sessions (Bool.eq_false_iff.mpr early) fun config =>
          record_apart task sessions backup.outputCopyMetaDirPath
        exact .inr (.inr ⟨volumeCopyMeta,record,same.trans present⟩)

omit sessions in
theorem prepare_leaves {after : Disk} (frame : ∀ file, ¬env.MakesData file → ¬env.MakesRecord file → after file = disk file) (dir : String)
    (k : Nat) : after (GetWriterBitmapFilePath dir backup.copyName k) = disk (GetWriterBitmapFilePath dir backup.copyName k) ∧
      after (GetChecksumBinPath dir backup.copyName k) = disk (GetChecksumBinPath dir backup.copyName k) := by
  constructor
  · apply frame
    · rintro ⟨other,size,known,_,format,l,same⟩
      cases task.symm.trans known
      exact copy_checkpoint same.symm
    · rintro ⟨other,size,known,same⟩
      cases task.symm.trans known
      exact checkpoint_meta same
  · apply frame
    · rintro ⟨other,size,known,_,format,l,same⟩
      cases task.symm.trans known
      exact copy_checksum same.symm
    · rintro ⟨other,size,known,same⟩
      cases task.symm.trans known
      exact checksum_meta same

theorem checksums_kept {allowed : Process → TaskAction → Prop} (differ : dir ≠ backup.outputCopyMetaDirPath)
    (run : Runs (taskNext env) allowed (.new disk) actions p) (k : Nat) :
    p.disk (GetChecksumBinPath dir backup.copyName k) = disk (GetChecksumBinPath dir backup.copyName k) := by
  refine run_leaves sessions ?_ ?_ ?_ run
  · rintro ⟨config,size,known,_,format,l,same⟩
    cases task.symm.trans known
    exact copy_checksum same.symm
  · rintro ⟨config,size,known,same⟩
    cases task.symm.trans known
    exact checksum_meta same
  · intro config member
    obtain ⟨i,start,size,_,rfl⟩ := backup_member task sessions member
    rw [unwritten,backup_target task]
    exact ⟨copy_checksum.symm,fun same => differ (checksum_inj same).1,checksum_checkpoint⟩

theorem grants_smooth (data : ¬env.MakesData backup.volumePath) (record : ¬env.MakesRecord backup.volumePath)
    (apart : ∀ config ∈ queue, backup.volumePath ∉ env.writes config) (present : disk backup.volumePath = some volume)
    (path : Runs (taskNext env) Grants (.new disk) actions p) : Runs (taskNext env) (Smooth env fun _ => volume) (.new disk) actions p := by
  have source (config : VolumeTaskSharedConfig) (member : config ∈ queue) : env.sourcePath config = backup.volumePath := by
    obtain ⟨i,start,size,_,rfl⟩ := backup_member task sessions member
    exact backup_source task _
  refine sources_smooth sessions (fun config member => ?_) (fun config member other second => ?_) (fun config member => ?_) path
  · rw [source config member]
    exact ⟨data,record⟩
  · rw [source config member]
    exact apart other second
  · rw [source config member]
    exact present

section leaves
variable (hasher : backup.hasherEnabled = true) (positive : 1 ≤ backup.blockSize.toNat) (addresses : 32*backup.blockSize.toNat < 2^32)
  (few : backup.IsIncrementBackup = true → ∀ config ∈ queue, config.m_maxIndex < 2^27)
include hasher positive addresses few

theorem backup_leaves (path : Runs (taskNext env) (Smooth env fun _ => volume) (.new disk) actions p) (status : p.task.m_status = .SUCCEED)
    (vetted : ∀ after : Disk, (∀ file, ¬env.MakesData file → ¬env.MakesRecord file → after file = disk file) →
      ∀ config ∈ queue, ∀ context ∈ InitSessionContext after config env.task, Vetted env config volume context) :
    LeftBehind env backup volumeSize queue volume p.disk := by
  obtain ⟨r,earlier,later,before,here,frame,rest⟩ := prepared_between (smooth_observed path) status
  have arrangement : Arrangement env (fun _ => volume) queue := backup_arrangement task sessions positive addresses few
  have keeping : Keeping env r.disk queue := backup_keeping task sessions hasher
  have start : Archiving env (fun _ => volume) r.disk queue r := .start ⟨_,before.free⟩ here
  have archiving := start.run arrangement keeping (vetted r.disk frame) (rest.weaken fun _ _ allowed => allowed.2)
  refine ⟨fun config member => (archiving.left arrangement status member).1,fun config member => ?_,
    recorded_run task sessions path status,fun config member => staffed_run (by rw [task]; rfl) sessions keeping.hasher path status member⟩
  rw [← backup_target task]
  exact (archiving.left arrangement status member).2

theorem fresh_leaves (path : Runs (taskNext env) (Smooth env fun _ => volume) (.new disk) actions p) (status : p.task.m_status = .SUCCEED)
    (fresh : backup.enableCheckpoint = true → ∀ config ∈ queue, disk config.checkpointFilePath = none) :
    LeftBehind env backup volumeSize queue volume p.disk := by
  apply backup_leaves task sessions hasher positive addresses few path status
  intro after frame config member context found index inside marked
  obtain ⟨hashing,_,opened⟩ := init_opened found
  obtain ⟨enabled,marks,_⟩ := opened.marked index marked
  obtain ⟨i,start,size,_,rfl⟩ := backup_member task sessions member
  refine absurd marks (marks_absent ?_)
  exact (prepare_leaves task frame backup.checkpointDirPath i).1.trans (fresh enabled _ member)

end leaves

end backup

end VolumeBackup
