import VolumeBackup.FlawlessRun

namespace VolumeBackup
open ByteMemory LabelledRuns

section present
variable {env : TaskEnv} {queue : List VolumeTaskSharedConfig} {disk : Disk} {path other : String} {p q : Process}

theorem put_present {content : Content} (present : (disk path).isSome = true) : (disk.put other content path).isSome = true := by
  unfold Disk.put
  split
  · rfl
  · exact present

theorem save_present {content : Content} {reply : Reply} (present : (disk path).isSome = true) :
    (disk.save other content reply path).isSome = true := by
  unfold Disk.save
  split
  · exact put_present present
  · exact present
  · exact put_present present

theorem PollStep.present {x y : Polling} (step : PollStep env config source x action y) (present : (x.disk path).isSome = true) :
    (y.disk path).isSome = true := by
  cases step with
  | table | tableLost | bitmap | bitmapLost | snapshot | finalTable | finalBitmap => exact save_present present
  | component => exact put_present present
  | _ => exact present

theorem TaskStep.present (filed : Filed env p) (sessions : env.task.sessions = some queue) (step : TaskStep env p action q)
    (apart : ∀ config ∈ queue, path ≠ config.checkpointFilePath) (present : (p.disk path).isSome = true) :
    (q.disk path).isSome = true := by
  cases step with
  | create | truncate => exact put_present present
  | splitBackup => exact save_present present
  | poll here known ran | component known ran => exact (pollNext_sound ran).present present
  | clear here =>
      rename_i reply
      have kept := filed.cleared sessions here apart reply
      rwa [← kept] at present
  | _ => exact present

end present

def TaskPc.readies : TaskPc → Bool
  | .notStarted | .resource | .validate | .split => true
  | _ => false

-- What an incremental backup needs to come to its end: the record of the copy, the copy, workers, and for each session the
-- previous checksums and those of the blocks that it does not read.
structure Provided (env : TaskEnv) (backup : VolumeBackupConfig) (queue : List VolumeTaskSharedConfig) (volume : Content) (disk : Disk) :
    Prop where
  validates : ValidateIncrementBackup env disk backup .yes = true
  copy : ∀ config ∈ queue, (disk config.copyFilePath).isSome = true
  crew : ∀ config ∈ queue, Crew config
  opens : ∀ after : Disk, (∀ file, ¬env.MakesData file → ¬env.MakesRecord file → after file = disk file) →
    ∀ config ∈ queue, ∃ context, InitSessionContext after config env.task = some context ∧ Vetted env config volume context

inductive Course (env : TaskEnv) (queue : List VolumeTaskSharedConfig) (volume : Content) (disk : Disk) (p : Process) : Prop where
  | early (here : p.pc.readies = true) (same : p.disk = disk)
  | late (after : Disk) (frame : ∀ file, ¬env.MakesData file → ¬env.MakesRecord file → after file = disk file)
      (archiving : Archiving env (fun _ => volume) after queue p) (copy : ∀ config ∈ queue, (p.disk config.copyFilePath).isSome = true)

section increment
variable {env : TaskEnv} {backup : VolumeBackupConfig} {volumeSize : UInt64} {queue : List VolumeTaskSharedConfig} {volume : Content}
  {disk : Disk} {p q : Process}

theorem TaskStep.hindered (step : TaskStep env p action q) (course : p.pc ≠ .unprepared ∧ ∀ status, p.pc ≠ .conclude status)
    (hindered : q.pc = .unprepared ∨ q.pc = .conclude .FAILED) : p.pc.preparing = true ∨ ∃ config, p.pc = .init config := by
  cases step with
  | move moves =>
      cases moves with
      | unopened here => exact .inr ⟨_,here⟩
      | drained | aborted | cleared => rcases hindered with same | same <;> cases same
      | _ here => exact .inl (by rw [here]; rfl)
  | assign here =>
      rcases assigns_cases here with ⟨same,_⟩ | ⟨same,rfl,rfl⟩ | ⟨same,_⟩ | ⟨same,rfl,rfl⟩
      · exact absurd same course.1
      · exact .inl (by rcases hindered with same | same <;> cases same)
      · exact absurd same (course.2 _)
      · exact .inl (by rcases hindered with same | same <;> cases same)
  | create here | truncate here | splitBackup here | splitRestore here => exact .inl (by rw [here]; rfl)
  | poll | component | request | client => exact hindered.elim (fun same => absurd same course.1) fun same => absurd same (course.2 _)
  | _ => rcases hindered with same | same <;> cases same

variable (task : env.task = .backup backup volumeSize) (increment : backup.IsIncrementBackup = true)
include task increment

theorem readies_unhindered (validates : ValidateIncrementBackup env p.disk backup .yes = true) (here : p.pc.readies = true)
    (ran : taskNext env p (.thread .yes) = some q) : q.pc ≠ .unprepared ∧ q.pc ≠ .conclude .FAILED := by
  have full : backup.backupType ≠ .FULL := by
    intro same
    simp [VolumeBackupConfig.IsIncrementBackup,same] at increment
  unfold taskNext taskStep at ran
  cases pc : p.pc with
  | notStarted =>
      simp only [pc] at ran
      split at ran
      · cases Option.some.inj ran
        exact ⟨nofun,nofun⟩
      · cases ran
  | resource =>
      simp only [pc,prepareStep,task] at ran
      obtain ⟨files,_,rfl⟩ := Option.map_eq_some_iff.mp ran
      simp [full]
  | validate =>
      simp only [pc,prepareStep,task] at ran
      cases Option.some.inj ran
      simp [validates]
  | split =>
      simp only [pc,prepareStep,task] at ran
      obtain ⟨sessions,_,rest⟩ := Option.bind_eq_some_iff.mp ran
      obtain ⟨volumeCopyMeta,_,rfl⟩ := Option.map_eq_some_iff.mp rest
      simp [Reply.opened]
  | _ =>
      rw [pc] at here
      cases here

omit task increment in
theorem opening_unhindered (opens : env.openSession p.disk config .yes = some running) (here : p.pc = .init config)
    (ran : taskNext env p (.thread .yes) = some q) : q.pc ≠ .unprepared ∧ q.pc ≠ .conclude .FAILED := by
  unfold taskNext taskStep at ran
  simp only [here,opens] at ran
  split at ran
  · cases ran
  · cases Option.some.inj ran
    exact ⟨nofun,nofun⟩

section course
variable (sessions : env.task.sessions = some queue) (hasher : backup.hasherEnabled = true) (positive : 1 ≤ backup.blockSize.toNat)
  (addresses : 32*backup.blockSize.toNat < 2^32) (few : ∀ config ∈ queue, config.m_maxIndex < 2^27)
  (provided : Provided env backup queue volume disk)
include sessions hasher positive addresses few provided

omit hasher positive addresses few in
theorem Course.unhindered (course : Course env queue volume disk p) (flawless : Flawless p) (smooth : Smooth env (fun _ => volume) p action)
    (ran : taskNext env p action = some q) : q.pc ≠ .unprepared ∧ q.pc ≠ .conclude .FAILED := by
  apply Decidable.byContradiction
  intro failing
  have hindered : q.pc = .unprepared ∨ q.pc = .conclude .FAILED := by simpa only [not_and_or,not_not] using failing
  have step := taskNext_sound ran
  have place := step.hindered flawless.course hindered
  have idle : p.running = none := by
    apply flawless.layout.idle rfl
    intro here
    rcases place with early | ⟨config,there⟩
    · rw [here] at early
      cases early
    · cases here.symm.trans there
  have thread : action = .thread .yes := by
    cases action with
    | thread reply => rw [smooth.answer fun running present => by cases idle.symm.trans present]
    | component action => cases step with | component present => cases idle.symm.trans present
    | request => exact smooth.1.elim
    | client k =>
        cases step with
        | client calling =>
            rw [flawless.alone] at calling
            cases calling
  subst thread
  cases course with
  | early here same =>
      apply failing
      apply readies_unhindered task increment _ here ran
      rw [same]
      exact provided.validates
  | late after frame archiving copy =>
      rcases place with early | ⟨config,here⟩
      · cases archiving.rewriting.begun.symm.trans early
      · have first : config ∈ p.waiting := by simp [Process.waiting,here]
        have member := archiving.rewriting.queued.waiting_member sessions first
        obtain ⟨context,found,_⟩ := provided.opens after frame config member
        rw [← archiving.rewriting.contexts config first] at found
        have read : p.disk (env.sourcePath config) = some volume := smooth.2 config (by rw [here]; rfl)
        obtain ⟨target,there⟩ := Option.isSome_iff_exists.mp (copy config member)
        rw [← backup_target task] at there
        have opens : env.openSession p.disk config .yes = some (env.newSession config context volume target) := by
          unfold TaskEnv.openSession
          rw [found,read,there]
          rfl
        exact failing (opening_unhindered opens here ran)

theorem Course.step (course : Course env queue volume disk p) (flawless : Flawless p) (reached : Reached (taskNext env) Anything (.new disk) q)
    (smooth : Smooth env (fun _ => volume) p action) (ran : taskNext env p action = some q) (next : Flawless q) :
    Course env queue volume disk q := by
  have step := taskNext_sound ran
  have arrangement : Arrangement env (fun _ => volume) queue := backup_arrangement task sessions positive addresses fun _ => few
  have checkpoint (config : VolumeTaskSharedConfig) (member : config ∈ queue) (other : VolumeTaskSharedConfig) (second : other ∈ queue) :
      config.copyFilePath ≠ other.checkpointFilePath := by
    obtain ⟨i,start,size,_,rfl⟩ := backup_member task sessions member
    obtain ⟨j,origin,length,_,rfl⟩ := backup_member task sessions second
    exact copy_checkpoint
  cases course with
  | late after frame archiving copy =>
      have keeping : Keeping env after queue := backup_keeping task sessions hasher
      have vetted : ∀ config ∈ queue, ∀ context ∈ InitSessionContext after config env.task, Vetted env config volume context := by
        intro config member context found
        obtain ⟨taken,opened,vetted⟩ := provided.opens after frame config member
        cases opened.symm.trans found
        exact vetted
      refine .late after frame (archiving.step arrangement keeping vetted step (flawless.observed smooth) smooth.flushed) ?_
      exact fun config member => step.present archiving.rewriting.filed sessions (checkpoint config member) (copy config member)
  | early here same =>
      have absent {pc : TaskPc} (there : p.pc = pc) (late : pc.readies = false) : False := by
        rw [there] at here
        cases late.symm.trans here
      cases step with
      | move moves =>
          cases moves with
          | begun | present | valid => exact .early rfl same
          | absent _ known full =>
              cases task.symm.trans known
              simp [VolumeBackupConfig.IsIncrementBackup,full] at increment
          | restorable _ known => cases task.symm.trans known
          | missing | invalid => exact absurd rfl next.course.1
          | created there | uncreated there | untruncated there | drained there | aborted there | unopened there | cleared there =>
              exact (absent there rfl).elim
      | assign there =>
          rcases assigns_cases there with ⟨known,_⟩ | ⟨known,_⟩ | ⟨known,_⟩ | ⟨known,_⟩ <;> exact (absent known rfl).elim
      | @splitBackup config size queue record reply there known cut made =>
          cases task.symm.trans known
          have opened : reply.opened = true := by
            apply Decidable.byContradiction
            exact fun lost => next.course.1 (if_neg lost)
          refine .late _ (fun file data other => ?_) (.start reached (if_pos opened)) fun config member => ?_
          · rw [← same]
            exact save_other fun equal => other ⟨_,_,known,equal⟩
          · apply save_present
            rw [same]
            exact provided.copy config member
      | splitRestore _ known => cases task.symm.trans known
      | create there | truncate there | pop there | opened there | poll there | completed there | failed there | clear there =>
          exact (absent there rfl).elim
      | component present => exact (absent (flawless.layout.mp (by rw [present]; rfl)) rfl).elim
      | request | client => exact .early here same

theorem Provided.run (path : Runs (taskNext env) (Smooth env fun _ => volume) (.new disk) actions p) :
    Flawless p ∧ Course env queue volume disk p := by
  have hashers : ∀ config ∈ queue, Crew config := provided.crew
  refine (path.invariant (fun p => (Queued env p ∧ Reached (taskNext env) Anything (.new disk) p) ∧ Flawless p ∧ Course env queue volume disk p)
    ⟨⟨.new,.refl⟩,.new,.early rfl rfl⟩ ?_).2
  rintro p action q ⟨⟨queued,reached⟩,flawless,course⟩ ran smooth
  have step := taskNext_sound ran
  have unhindered := course.unhindered task increment sessions provided flawless smooth ran
  have next := flawless.step step smooth (fun running present _ => hashers _ (queued.member sessions present)) unhindered
  have later := reached.step ran trivial
  exact ⟨⟨queued.step step,later⟩,next,course.step task increment sessions hasher positive addresses few provided flawless later smooth ran next⟩

end course

end increment

end VolumeBackup
