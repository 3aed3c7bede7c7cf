import VolumeBackup.SessionSplit
import VolumeBackup.TaskQueue

namespace VolumeBackup
open ByteMemory LabelledRuns

section files
variable (env : TaskEnv) (path : String)

def TaskEnv.MakesData : Prop := ∃ backup volumeSize, env.task = .backup backup volumeSize ∧ backup.backupType = .FULL ∧
  ∃ format k, path = GetCopyDataFilePath backup.outputCopyDataDirPath backup.copyName format k

def TaskEnv.MakesRecord : Prop := ∃ backup volumeSize, env.task = .backup backup volumeSize ∧
  path = GetVolumeCopyMetaPath backup.outputCopyMetaDirPath backup.copyName

end files

structure Making (env : TaskEnv) (p : Process) : Prop where
  create : ∀ fragments, p.pc = .create fragments → ∀ file ∈ fragments, env.MakesData file.1
  truncate : ∀ path size rest, p.pc = .truncate path size rest →
    env.MakesData path ∧ p.disk path = some .empty ∧ ∀ file ∈ rest, env.MakesData file.1

variable {env : TaskEnv} {p q : Process}

theorem resource_made (task : env.task = .backup config volumeSize) (full : config.backupType = .FULL) (files : config.copyResource volumeSize = some fragments) :
    ∀ file ∈ fragments, env.MakesData file.1 := by
  intro file inside
  refine ⟨config,volumeSize,task,full,config.copyFormat,0,?_⟩
  unfold VolumeBackupConfig.copyResource at files
  cases format : config.copyFormat with
  | IMAGE =>
      rw [format] at files
      cases Option.some.inj files
      cases List.mem_singleton.mp inside
      rfl
  | BIN =>
      rw [format] at files
      obtain ⟨_,_,_,_,rfl⟩ := split_member files inside
      rfl

theorem Making.new {disk : Disk} : Making env (.new disk) := ⟨nofun,nofun⟩

theorem Making.step (making : Making env p) (layout : Layout p) (step : TaskStep env p action q) : Making env q := by
  have elsewhere {pc : TaskPc} (here : q.pc = pc) (create : ∀ fragments, pc ≠ .create fragments)
      (truncate : ∀ path size rest, pc ≠ .truncate path size rest) : Making env q :=
    ⟨fun _ same => absurd (here.symm.trans same) (create _),fun _ _ _ same => absurd (here.symm.trans same) (truncate _ _ _)⟩
  cases step with
  | move moves =>
      cases moves with
      | absent here task full files =>
          refine ⟨fun fragments same => ?_,nofun⟩
          cases same
          exact resource_made task full files
      | _ => exact elsewhere rfl nofun nofun
  | assign here =>
      rcases assigns_cases here with ⟨_,_,rfl⟩ | ⟨_,_,rfl⟩ | ⟨_,rfl⟩ | ⟨_,_,rfl⟩ <;> exact elsewhere rfl nofun nofun
  | create here fresh =>
      refine ⟨nofun,fun path size rest same => ?_⟩
      cases same
      have made := making.create _ here
      exact ⟨made _ List.mem_cons_self,put_same,fun file inside => made file (List.mem_cons_of_mem _ inside)⟩
  | truncate here present =>
      refine ⟨fun fragments same => ?_,nofun⟩
      cases same
      exact (making.truncate _ _ _ here).2.2
  | @splitBackup _ _ _ _ reply here =>
      by_cases opened : reply.opened = true
      · exact elsewhere (if_pos opened) nofun nofun
      · exact elsewhere (if_neg opened) nofun nofun
  | poll here => exact elsewhere here nofun nofun
  | component present => exact elsewhere (layout.mp (by rw [present]; rfl)) nofun nofun
  | request | client => exact ⟨making.create,making.truncate⟩
  | _ => exact elsewhere rfl nofun nofun

theorem preparing_absent {pc : TaskPc} (early : p.pc.preparing = true) (here : p.pc = pc) (late : pc.preparing = false) : False := by
  rw [here] at early
  cases late.symm.trans early

theorem TaskStep.prepares (making : Making env p) (layout : Layout p) (step : TaskStep env p action q)
    (early : p.pc.preparing = true) (data : ¬env.MakesData path) (record : ¬env.MakesRecord path) :
    q.disk path = p.disk path := by
  have absent {pc : TaskPc} (here : p.pc = pc) (late : pc.preparing = false) : False := preparing_absent early here late
  cases step with
  | create here fresh =>
      refine put_other fun same => data ?_
      rw [same]
      exact making.create _ here _ List.mem_cons_self
  | truncate here present =>
      refine put_other fun same => data ?_
      rw [same]
      exact (making.truncate _ _ _ here).1
  | splitBackup here task sessions recorded =>
      refine save_other fun same => record ?_
      exact ⟨_,_,task,same⟩
  | poll here | completed here | failed here | clear here | pop here | opened here => exact (absent here rfl).elim
  | component present => exact (absent (layout.mp (by rw [present]; rfl)) rfl).elim
  | move | assign | splitRestore | request | client => rfl

theorem TaskStep.early (layout : Layout p) (step : TaskStep env p action q) (early : p.pc.preparing = true) :
    q.pc.preparing = true ∨ q.pc = .prepared ∨ q.pc = .exited ∧ q.task.m_status ≠ .SUCCEED := by
  have absent {pc : TaskPc} (here : p.pc = pc) (late : pc.preparing = false) : False := preparing_absent early here late
  cases step with
  | move moves =>
      cases moves with
      | drained here | aborted here | unopened here | cleared here => exact (absent here rfl).elim
      | _ => exact .inl rfl
  | assign here =>
      rcases assigns_cases here with ⟨_,rfl,rfl⟩ | ⟨same,_,_⟩ | ⟨same,_⟩ | ⟨same,_,_⟩
      · exact .inr (.inr ⟨rfl,nofun⟩)
      · exact (absent same rfl).elim
      · exact (absent same rfl).elim
      · exact (absent same rfl).elim
  | @splitBackup _ _ _ _ reply here =>
      by_cases opened : reply.opened = true
      · exact .inr (.inl (if_pos opened))
      · exact .inl (by simp [opened,TaskPc.preparing])
  | splitRestore => exact .inr (.inl rfl)
  | poll here | completed here | failed here | clear here | pop here | opened here => exact (absent here rfl).elim
  | component present => exact (absent (layout.mp (by rw [present]; rfl)) rfl).elim
  | create | truncate => exact .inl rfl
  | request | client => exact .inl early

theorem TaskStep.stays (layout : Layout p) (step : TaskStep env p action q) (gone : p.pc = .exited) (status : p.task.m_status ≠ .SUCCEED) :
    q.pc = .exited ∧ q.task.m_status ≠ .SUCCEED := by
  have absent {pc : TaskPc} (here : p.pc = pc) (other : pc ≠ .exited) : False := other (here.symm.trans gone)
  cases step with
  | move moves => exact (moves.alive gone).elim
  | assign here => rcases assigns_cases here with ⟨same,_⟩ | ⟨same,_⟩ | ⟨same,_⟩ | ⟨same,_⟩ <;> exact (absent same nofun).elim
  | component present => exact (absent (layout.mp (by rw [present]; rfl)) nofun).elim
  | request => exact ⟨gone,status⟩
  | client => exact ⟨gone,fun succeeded => status (assign_succeed succeeded)⟩
  | create here | truncate here | splitBackup here | splitRestore here | pop here | opened here | poll here | completed here
  | failed here | clear here => exact (absent here nofun).elim

theorem prepared_between {disk : Disk} {allowed : Process → TaskAction → Prop} (path : Runs (taskNext env) allowed (.new disk) actions p)
    (status : p.task.m_status = .SUCCEED) : ∃ r earlier later, Runs (taskNext env) allowed (.new disk) earlier r ∧ r.pc = .prepared ∧
      (∀ file, ¬env.MakesData file → ¬env.MakesRecord file → r.disk file = disk file) ∧ Runs (taskNext env) allowed r later p := by
  have split : (p.pc.preparing = true ∧ Making env p ∧ ∀ file, ¬env.MakesData file → ¬env.MakesRecord file → p.disk file = disk file) ∨
      (p.pc = .exited ∧ p.task.m_status ≠ .SUCCEED) ∨ ∃ r earlier later,
        Runs (taskNext env) allowed (.new disk) earlier r ∧ r.pc = .prepared ∧
        (∀ file, ¬env.MakesData file → ¬env.MakesRecord file → r.disk file = disk file) ∧ Runs (taskNext env) allowed r later p := by
    clear status
    generalize start : Process.new disk = first at path
    induction path with
    | nil =>
        subst start
        exact .inl ⟨rfl,.new,fun _ _ _ => rfl⟩
    | @step actions p action q prior ran guard ih =>
        subst start
        have layout : Layout p := (Queued.new.run prior).layout
        have step := taskNext_sound ran
        rcases ih with ⟨early,making,frame⟩ | ⟨gone,failed⟩ | ⟨r,earlier,later,before,here,frame,rest⟩
        · have kept (file : String) (data : ¬env.MakesData file) (record : ¬env.MakesRecord file) : q.disk file = disk file :=
            (step.prepares making layout early data record).trans (frame file data record)
          rcases step.early layout early with again | now | given
          · exact .inl ⟨again,making.step layout step,kept⟩
          · exact .inr (.inr ⟨q,_,[],.step prior ran guard,now,kept,.nil⟩)
          · exact .inr (.inl given)
        · exact .inr (.inl (step.stays layout gone failed))
        · exact .inr (.inr ⟨r,earlier,_,before,here,frame,.step rest ran guard⟩)
  rcases split with ⟨early,_⟩ | ⟨_,failed⟩ | found
  · have queued : Queued env p := Queued.new.run path
    refine absurd status (queued.unfinished fun gone => ?_)
    rw [gone] at early
    cases early
  · exact absurd status failed
  · exact found

end VolumeBackup
