import VolumeBackup.CheckpointInvariant

namespace VolumeBackup
open ByteMemory LabelledRuns

variable {env : TaskEnv} {config : VolumeTaskSharedConfig} {source target : Content} {shared : TaskState}
  {context : VolumeTaskSharedContext} {p : Polling}

def TaskEnv.opening (env : TaskEnv) (config : VolumeTaskSharedConfig) (shared : TaskState) (context : VolumeTaskSharedContext)
    (source target : Content) : Polling :=
  {toTaskState := shared,toSessionRun := (env.newSession config context source target).run}

theorem hashing_size (made : InitHashingContext disk config (.backup backup volumeSize) = some hashing) :
    hashing.lastestSize = config.TotalBlocks*32 := by
  unfold InitHashingContext at made
  dsimp only at made
  split at made
  · obtain ⟨table,_,rfl⟩ := Option.map_eq_some_iff.mp made
    rfl
  · cases Option.some.inj made
    rfl

theorem init_table (made : InitSessionContext disk config (.backup backup volumeSize) = some context) :
    LoadedTable disk config context.hashingContext.lastestTable := by
  unfold InitSessionContext at made
  obtain ⟨hashing,found,rfl⟩ := Option.map_eq_some_iff.mp made
  have size := hashing_size found
  have zero : hashing.lastestTable = zeros := by
    unfold InitHashingContext at found
    dsimp only at found
    split at found
    · obtain ⟨table,_,rfl⟩ := Option.map_eq_some_iff.mp found
      rfl
    · cases Option.some.inj found
      rfl
  have fresh : Opened disk config hashing
      {processedBitmap := .new config.TotalBlocks,writtenBitmap := .new config.TotalBlocks,counter := {},
        hashingContext := hashing} := .fresh rfl rfl rfl rfl rfl
  have loaded : LoadedTable disk config hashing.lastestTable := by
    rw [zero]
    exact fun index _ => .inl rfl
  exact (LoadedTable.restore loaded size).restore (fresh.restore.size.trans size)

theorem Opened.taken_over {hashing : BlockHashingContext} (opened : Opened shared.disk config hashing context)
    (size : hashing.lastestSize = config.TotalBlocks*32) (hasher : config.hasherEnabled = true)
    (inside : index < config.TotalBlocks) (set : context.processedBitmap.Test index = true)
    (known : HashOnDisk env config source shared.disk index) :
    entry context.hashingContext.lastestTable index = blockDigest (env.sessionEnv config) source index := by
  obtain ⟨_,_,read⟩ := opened.marked index set
  obtain ⟨file,found,same⟩ := read hasher
  obtain ⟨content,present,_,digest⟩ := known
  cases found.symm.trans present
  rw [← digest]
  funext k
  have byte := same (index*32+k) (by have bound := k.isLt; omega)
  simpa only [entry,Nat.zero_add] using byte

theorem init_marks (made : InitSessionContext shared.disk config (.backup backup volumeSize) = some context)
    (enabled : config.checkpointEnabled = true) (inside : index < config.TotalBlocks)
    (marks : Checkpointed shared.disk config index) (known : HashOnDisk env config source shared.disk index) :
    context.processedBitmap.Test index = true := by
  obtain ⟨content,present,_⟩ := known
  unfold InitSessionContext at made
  obtain ⟨hashing,found,rfl⟩ := Option.map_eq_some_iff.mp made
  have fresh : Opened shared.disk config hashing
      {processedBitmap := .new config.TotalBlocks,writtenBitmap := .new config.TotalBlocks,counter := {},
        hashingContext := hashing} := .fresh rfl rfl rfl rfl rfl
  have size := hashing_size found
  exact fresh.restore.accepts enabled marks fun _ => ⟨content,present,by omega⟩

section start
variable {backup : VolumeBackupConfig} (task : env.task = .backup backup volumeSize) (hasher : config.hasherEnabled = true)
  (enabled : config.checkpointEnabled = true) (made : InitSessionContext shared.disk config env.task = some context)
  (before : ∀ index < config.TotalBlocks, Checkpointed shared.disk config index → HashOnDisk env config source shared.disk index)
include made

theorem Begun.opening : Begun env config ((env.opening config shared context source target).state.flow (env.sessionEnv config))
    (Checkpointed shared.disk config) := by
  obtain ⟨hashing,_,opened⟩ := init_opened made
  exact ⟨@opened_roomy _ _ _ _ source _ made,opened.processed,opened.written,fun index set => (opened.marked index set).2.1⟩

include task hasher enabled before

theorem Consistent.opening : Consistent env config source
    ((env.opening config shared context source target).state.flow (env.sessionEnv config)) (Checkpointed shared.disk config)
    (env.opening config shared context source target) := by
  have valid : Valid (env.sessionEnv config) source _ (env.opening config shared context source target).state := opened_valid made
  rw [task] at made
  obtain ⟨hashing,found,opened⟩ := init_opened made
  have size := hashing_size found
  refine ⟨⟨valid.toSound,nofun⟩,opened.size.trans size,List.Subset.refl _,List.Subset.refl _,List.Subset.refl _,?_,?_,?_,nofun,nofun⟩
  · exact fun index inside marks => opened.taken_over size hasher inside (init_marks made enabled inside marks (before index inside marks))
      (before index inside marks)
  · exact fun index inside known => before index inside (known.resolve_right nofun)
  · exact fun index inside marks => .inl marks

end start

-- Every step of a session keeps its files consistent, where no call fails and FlushSessionBitmap's own
-- snapshot has nothing that the table and the sync before it have missed.
def InTime (p : Polling) (action : PollAction) : Prop := NoFailure p action ∧ Timely p action

-- What the checkpoint file marks has its SHA-256 in the checksum file, and was dropped or was in the copy when
-- that was last synced before the checkpoint was written. What an earlier attempt has left is taken over.
theorem checkpoint_consistent {backup : VolumeBackupConfig} (task : env.task = .backup backup volumeSize)
    (session : config = backup.NewVolumeTaskSession offset size number) (hasher : backup.hasherEnabled = true)
    (enabled : backup.enableCheckpoint = true) (pooled : Pooled config)
    (made : InitSessionContext shared.disk config env.task = some context)
    (before : ∀ index < config.TotalBlocks, Checkpointed shared.disk config index → HashOnDisk env config source shared.disk index)
    (path : Runs (pollNext env config source) InTime (env.opening config shared context source target) actions p)
    (inside : index < config.TotalBlocks) (marks : Checkpointed p.disk config index) :
    HashOnDisk env config source p.disk index ∧
      (Checkpointed shared.disk config index ∨ .drop index ∈ p.state.history ∨ Stands env config source p.covered index) := by
  subst session
  have begun : Begun env _ ((env.opening _ shared context source target).state.flow _) _ := Begun.opening made
  have first : Consistent env _ source ((env.opening _ shared context source target).state.flow _) _
      (env.opening _ shared context source target) := Consistent.opening task hasher enabled made before
  have kept := path.invariant (Consistent env _ source _ _) first fun _ _ _ known ran condition =>
    known.step begun pooled hasher (separate_backup task) (by rw [task]; rfl) (pollNext_sound ran) condition.1 condition.2
  have stored := (kept.marked.sound.intact pooled kept.marked.whole).stored
  rcases kept.file index inside marks with origin | ⟨hash,place⟩
  · exact ⟨kept.table index inside (.inl origin),.inl origin⟩
  refine ⟨kept.table index inside (.inr hash),.inr (place.imp_right fun known => ?_)⟩
  obtain ⟨event,present,same⟩ := List.mem_filterMap.mp known
  have happened := kept.synced (kept.covered present)
  cases event with
  | skipEmpty other =>
      cases Option.some.inj same
      exact .inr ⟨present,stored.empty index happened⟩
  | write other offset data ok =>
      cases Option.some.inj same
      cases ok with
      | false => exact absurd ⟨_,_,_,happened⟩ kept.marked.whole
      | true => exact .inl ⟨offset,data,present⟩
  | _ => cases same

instance : Decidable (NoFailure p action) :=
  match action with
  | .thread reply => inferInstanceAs (Decidable (p.pc.saves = true → reply.isYes = true))
  | .component _ => inferInstanceAs (Decidable (WriteReturns _ _))
  | .client _ => isTrue trivial

instance : Decidable (Timely p action) :=
  match action with
  | .component action => inferInstanceAs (Decidable (∀ index ∈ p.state.marking action, _))
  | .thread _ | .client _ => isTrue trivial

instance : Decidable (InTime p action) := inferInstanceAs (Decidable (_ ∧ _))

instance : Decidable (Checkpointed disk config index) :=
  decidable_of_iff (∃ snapshot ∈ CheckpointSnapshot.LoadFrom disk config.checkpointFilePath,
    snapshot.bitmapBufferBytesLength = (Bitmap.new config.TotalBlocks).m_capacity ∧ snapshot.processed.Test index = true) (by
      simp [Checkpointed])

def savedBackup : VolumeBackupConfig where
  copyFormat := .IMAGE
  copyName := "c"
  volumePath := "/dev/sda1"
  prevCopyMetaDirPath := ""
  outputCopyDataDirPath := "/copy"
  outputCopyMetaDirPath := "/meta"
  blockSize := 1
  sessionSize := 1
  hasherNum := 1
  checkpointDirPath := "/checkpoint"

def savedEnv : TaskEnv where
  task := .backup savedBackup 1
  sha256 := fun _ _ => 1
  json := CopyMetaFile.recordLibrary []
  device := fun path => path = "/dev/sda1"

def savedConfig : VolumeTaskSharedConfig := savedBackup.NewVolumeTaskSession 0 1 0

def savedStart : Polling := savedEnv.opening savedConfig
  {disk := fun path => if path = "/dev/sda1" then some letter else none}
  {processedBitmap := .new 1,writtenBitmap := .new 1,counter := {},hashingContext := {lastestSize := 32,previousSize := 0}}
  letter (.of 1 zeros)

def polls (n : Nat) : List PollAction := .replicate n (.thread .yes)
def reads (n : Nat) : List PollAction := .replicate n (.component (.reader .ok))
def hashes (n : Nat) : List PollAction := .replicate n (.component (.worker 0))
def writes (n : Nat) : List PollAction := .replicate n (.component (.writer .ok))

def savedActions : List PollAction := polls 4++reads 7++hashes 5++writes 5++polls 15

theorem checkpoint_consistent_letter : ∃ p : Polling, Checkpointed p.disk savedConfig 0 ∧
    HashOnDisk savedEnv savedConfig letter p.disk 0 := by
  have run : (execute (pollNext savedEnv savedConfig letter) (fun p action => decide (InTime p action)) savedStart savedActions).any
      (fun p => decide (Checkpointed p.disk savedConfig 0)) = true := by decide +kernel
  obtain ⟨p,path,good⟩ := execute_ends (fun _ _ => of_decide_eq_true) run
  have saved := of_decide_eq_true good
  refine ⟨p,saved,(checkpoint_consistent rfl rfl rfl rfl ⟨by decide,by decide⟩ rfl ?_ path (by decide) saved).1⟩
  exact fun _ _ marks => absurd marks (marks_absent rfl)

-- The only block is hashed, written and marked between the sync and FlushSessionBitmap's snapshot: the checkpoint file marks it, and
-- the checksum file is the one from before.
def lateHash : List PollAction := polls 4++reads 7++polls 12++hashes 5++writes 5++polls 2

theorem checkpoint_before_hash : ¬∀ p, Reached (pollNext savedEnv savedConfig letter) NoFailure savedStart p →
    ∀ index < savedConfig.TotalBlocks, Checkpointed p.disk savedConfig index → HashOnDisk savedEnv savedConfig letter p.disk index ∧
      (.drop index ∈ p.state.history ∨ Stands savedEnv savedConfig letter p.covered index) := by
  intro always
  have run : (execute (pollNext savedEnv savedConfig letter) (fun p action => decide (NoFailure p action)) savedStart lateHash).any (fun p =>
      decide (Checkpointed p.disk savedConfig 0 ∧
        (p.disk savedConfig.lastestChecksumBinPath).map (fun file => file.byte 0) = some 0)) = true := by decide +kernel
  obtain ⟨p,path,good⟩ := execute_ends (fun _ _ => of_decide_eq_true) run
  obtain ⟨marked,zero⟩ := of_decide_eq_true good
  obtain ⟨⟨content,present,_,digest⟩,_⟩ := always p ⟨_,path⟩ 0 (by decide) marked
  rw [present] at zero
  cases (Option.some.inj zero).symm.trans (congrFun digest 0)

end VolumeBackup
