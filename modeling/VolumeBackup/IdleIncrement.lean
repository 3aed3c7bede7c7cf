import VolumeBackup.IncrementCourse
import VolumeBackup.IncrementValidation

namespace VolumeBackup
open ByteMemory LabelledRuns
open CopyMetaFile (ofMeta recordLibrary record_documented spaced_missed)

-- The same backup once more, as an increment of what it has left, with its metadata in this directory.
def VolumeBackupConfig.again (config : VolumeBackupConfig) (dir : String) : VolumeBackupConfig :=
  {config with backupType := .FOREVER_INC,prevCopyMetaDirPath := config.outputCopyMetaDirPath,outputCopyMetaDirPath := dir}

def TaskEnv.again (env : TaskEnv) (config : VolumeBackupConfig) (volumeSize : UInt64) (dir : String) : TaskEnv :=
  env.on (.backup (config.again dir) volumeSize)

def Process.taken (p : Process) : List Running := p.running.toList++p.completed

section law
variable (env : TaskEnv) (volume : Content) (disk : Disk) (queue : List VolumeTaskSharedConfig)

def LoadsTables : Prop := ∀ config ∈ queue, ∃ table, LoadSessionPreviousCopyChecksum disk config = some table ∧
  ∀ index < config.TotalBlocks, entry table index = blockDigest (env.sessionEnv config) volume index

-- Wherever the task has got to, the sessions so far have had all checksums and have written nothing. If the task is at
-- its end it has succeeded, and then its checksum files are the previous ones.
structure Unmoved (p : Process) : Prop where
  loaded : ∀ running ∈ p.taken, ∀ index < running.config.TotalBlocks,
    entry running.run.state.hashingContext.previousTable index = blockDigest (env.sessionEnv running.config) volume index
  silent : ∀ running ∈ p.taken, ∀ index offset data ok, .write index offset data ok ∉ running.run.state.history
  ends : p.pc = .exited → p.task.m_status = .SUCCEED
  same : p.task.m_status = .SUCCEED → ∀ config ∈ queue, ∃ content, disk config.prevChecksumBinPath = some content ∧
    p.disk config.lastestChecksumBinPath = some content

def DoesNothing : Prop := ∃ queue, env.task.sessions = some queue ∧ LoadsTables env volume disk queue ∧
  ∀ actions p, Runs (taskNext env) (Smooth env fun _ => volume) (.new disk) actions p → Unmoved env volume disk queue p

end law

def EvenSession (config : VolumeTaskSharedConfig) : Prop :=
  config.sessionSize.toNat % config.blockSize.toNat = 0 ∧ config.TotalBlocks < 2^27

section loading
variable {disk : Disk} {config : VolumeTaskSharedConfig} {content : Content} {digest : Nat → Digest}

theorem even_blocks (even : config.sessionSize.toNat % config.blockSize.toNat = 0) :
    config.TotalBlocks = config.sessionSize.toNat/config.blockSize.toNat := by
  unfold VolumeTaskSharedConfig.TotalBlocks
  simp [even]

theorem load_even (even : EvenSession config) (some : 0 < config.TotalBlocks) (present : disk config.prevChecksumBinPath = .some content) :
    ∃ table, LoadSessionPreviousCopyChecksum disk config = .some table ∧
      ∀ index < config.TotalBlocks, entry table index = entry content.byte index := by
  obtain ⟨whole,few⟩ := even
  have size : config.sessionSize.toNat/config.blockSize.toNat % 2^32*SHA256_CHECKSUM_SIZE % 2^32 = config.TotalBlocks*32 := by
    rw [even_blocks whole] at few ⊢
    unfold SHA256_CHECKSUM_SIZE
    omega
  have positive : config.TotalBlocks*32 ≠ 0 := by omega
  refine ⟨store zeros 0 (config.TotalBlocks*32) content.byte,?_,fun index inside => entry_store (by omega)⟩
  unfold LoadSessionPreviousCopyChecksum ReadBinaryBuffer
  simp only [size,if_neg positive,present,Option.map_some]

-- Loading misses the tail of a session that ends within a block, and the tables of 2^32 bytes and more.
theorem load_whole (some : 0 < config.sessionSize.toNat)
    (nonzero : ∀ index < config.TotalBlocks, digest index ≠ fun _ => 0) (loaded : LoadSessionPreviousCopyChecksum disk config = .some table)
    (entries : ∀ index < config.TotalBlocks, entry table index = digest index) : EvenSession config := by
  have blocks := totalBlocks_positive some
  have last := entries (config.TotalBlocks-1) (by omega)
  unfold LoadSessionPreviousCopyChecksum at loaded
  dsimp only at loaded
  obtain ⟨buffer,_,rfl⟩ := Option.map_eq_some_iff.mp loaded
  have reaches : (config.TotalBlocks-1)*32 < config.sessionSize.toNat/config.blockSize.toNat % 2^32*SHA256_CHECKSUM_SIZE % 2^32 := by
    apply Nat.lt_of_not_le
    intro short
    rw [entry_behind short] at last
    exact nonzero _ (by omega) last.symm
  unfold SHA256_CHECKSUM_SIZE at reaches
  have whole : config.sessionSize.toNat % config.blockSize.toNat = 0 := by
    apply Decidable.byContradiction
    intro part
    have more : config.TotalBlocks = config.sessionSize.toNat/config.blockSize.toNat+1 := by
      unfold VolumeTaskSharedConfig.TotalBlocks
      simp [part]
    rw [more] at reaches
    omega
  refine ⟨whole,?_⟩
  rw [even_blocks whole] at reaches ⊢
  omega

end loading

section opening
variable {env : TaskEnv} {disk : Disk} {config : VolumeTaskSharedConfig} {context : VolumeTaskSharedContext} {table : Memory}
  (compares : env.task.compares = true) (loaded : LoadSessionPreviousCopyChecksum disk config = some table)
include compares loaded

theorem hashing_loads : InitHashingContext disk config env.task = some
    {lastestSize := config.TotalBlocks*SHA256_CHECKSUM_SIZE,previousSize := config.TotalBlocks*SHA256_CHECKSUM_SIZE,previousTable := table} := by
  unfold InitHashingContext
  cases task : env.task with
  | restore =>
      rw [task] at compares
      cases compares
  | backup backup volumeSize =>
      rw [task] at compares
      have increment : backup.IsIncrementBackup = true := compares
      simp only [increment,loaded,if_true,Option.map_some]

theorem init_loads : ∃ context, InitSessionContext disk config env.task = some context := by
  unfold InitSessionContext
  rw [hashing_loads compares loaded]
  exact ⟨_,rfl⟩

theorem init_compares (found : InitSessionContext disk config env.task = some context) : context.hashingContext.previousTable = table := by
  obtain ⟨hashing,made,opened⟩ := init_opened found
  rw [hashing_loads compares loaded] at made
  cases Option.some.inj made
  exact opened.previous

end opening

theorem Compared.unmoved {env : TaskEnv} {running : Running} {context : VolumeTaskSharedContext} (compared : Compared env context running)
    (compares : env.task.compares = true) (blocks : 0 < running.config.TotalBlocks)
    (complete : ∀ index < running.config.TotalBlocks, entry context.hashingContext.previousTable index =
      blockDigest (env.sessionEnv running.config) running.source index) :
    ∀ index offset data ok, .write index offset data ok ∉ running.run.state.history := by
  intro index offset data ok wrote
  cases ok with
  | false => exact compared.whole ⟨_,_,_,wrote⟩
  | true =>
      obtain ⟨inside,differs⟩ := compared.differs compares index offset data wrote
      apply differs
      apply complete
      unfold VolumeTaskSharedConfig.m_maxIndex at inside
      omega

section again
variable {env : TaskEnv} {config : VolumeBackupConfig} {volumeSize : UInt64} {dir : String} {queue following : List VolumeTaskSharedConfig}
  {volume : Content} {session : VolumeTaskSharedConfig} {disk : Disk}

theorem again_sessions (sessions : (ProtectTask.backup config volumeSize).sessions = some queue) :
    ∃ following, (ProtectTask.backup (config.again dir) volumeSize).sessions = some following := split_made sessions

section task
variable (task : env.task = .backup config volumeSize)
include task

theorem again_digest (start size : UInt64) (k index : Nat) :
    blockDigest ((env.again config volumeSize dir).sessionEnv ((config.again dir).NewVolumeTaskSession start size k)) volume index =
      blockDigest (env.sessionEnv (config.NewVolumeTaskSession start size k)) volume index := by
  have reader : (env.sessionEnv (config.NewVolumeTaskSession start size k)).dataReader =
      env.volumeData (config.NewVolumeTaskSession start size k) := by
    unfold TaskEnv.sessionEnv
    rw [task]
  unfold blockDigest blockBytes readPosition
  rw [reader]
  rfl

variable (sessions : env.task.sessions = some queue) (later : (ProtectTask.backup (config.again dir) volumeSize).sessions = some following)
include sessions later

theorem again_member (member : session ∈ following) : ∃ start size k, session = (config.again dir).NewVolumeTaskSession start size k ∧
    config.NewVolumeTaskSession start size k ∈ queue := by
  rw [task] at sessions
  exact split_both sessions later member

section left
variable (left : LeftBehind env config volumeSize queue volume disk)
include left

theorem again_table (member : session ∈ following) : ∃ content, disk session.prevChecksumBinPath = some content ∧
    content.size = session.TotalBlocks*32 ∧ ∀ index < session.TotalBlocks, entry content.byte index =
      blockDigest ((env.again config volumeSize dir).sessionEnv session) volume index := by
  obtain ⟨start,size,k,rfl,earlier⟩ := again_member task sessions later member
  obtain ⟨content,present,whole,entries⟩ := left.table _ earlier
  have same : ((config.again dir).NewVolumeTaskSession start size k).prevChecksumBinPath =
      (config.NewVolumeTaskSession start size k).lastestChecksumBinPath := rfl
  refine ⟨content,by rw [same]; exact present,whole,fun index inside => ?_⟩
  rw [again_digest task]
  exact entries index inside

theorem even_loads (even : ∀ session ∈ following, EvenSession session) :
    LoadsTables (env.again config volumeSize dir) volume disk following := by
  intro session member
  obtain ⟨content,present,_,entries⟩ := again_table task sessions later left member
  obtain ⟨start,size,k,same,some⟩ := split_some later member
  have blocks : 0 < session.TotalBlocks := totalBlocks_positive (by rw [same]; exact some)
  obtain ⟨table,loaded,equal⟩ := load_even (even session member) blocks present
  exact ⟨table,loaded,fun index inside => (equal index inside).trans (entries index inside)⟩

section idle
variable (hasher : config.hasherEnabled = true) (even : ∀ session ∈ following, EvenSession session)
  (place : dir = config.outputCopyMetaDirPath ∨ ∀ k, disk (GetChecksumBinPath dir config.copyName k) = none)
include hasher even place

theorem again_context {after : Disk} (frame : ∀ file, ¬(env.again config volumeSize dir).MakesData file →
      ¬(env.again config volumeSize dir).MakesRecord file → after file = disk file) (member : session ∈ following) :
    ∃ context, InitSessionContext after session (env.again config volumeSize dir).task = some context ∧
      (∀ index < session.TotalBlocks, entry context.hashingContext.previousTable index =
        blockDigest ((env.again config volumeSize dir).sessionEnv session) volume index) ∧
      Vetted (env.again config volumeSize dir) session volume context := by
  obtain ⟨content,present,whole,entries⟩ := again_table task sessions later left member
  obtain ⟨start,size,k,same,some⟩ := split_some later member
  have blocks : 0 < session.TotalBlocks := totalBlocks_positive (by rw [same]; exact some)
  have own : (env.again config volumeSize dir).task = .backup (config.again dir) volumeSize := rfl
  have kept (other : String) (k : Nat) : after (GetChecksumBinPath other config.copyName k) = disk (GetChecksumBinPath other config.copyName k) :=
    (prepare_leaves own frame other k).2
  have previous : session.prevChecksumBinPath = GetChecksumBinPath config.outputCopyMetaDirPath config.copyName k := by
    rw [same]
    rfl
  have latest : session.lastestChecksumBinPath = GetChecksumBinPath dir config.copyName k := by
    rw [same]
    rfl
  have found : after session.prevChecksumBinPath = .some content := by
    rw [previous,kept,← previous]
    exact present
  obtain ⟨table,loaded,equal⟩ := load_even (even session member) blocks found
  have compares : (env.again config volumeSize dir).task.compares = true := rfl
  obtain ⟨context,opened⟩ := init_loads compares loaded
  refine ⟨context,opened,fun index inside => ?_,fun index inside marked => ?_⟩
  · rw [init_compares compares loaded opened]
    exact (equal index inside).trans (entries index inside)
  · obtain ⟨hashing,made,restored⟩ := init_opened opened
    have length : hashing.lastestSize = session.TotalBlocks*32 := hashing_size made
    have enabled : session.hasherEnabled = true := by
      rw [same]
      exact hasher
    obtain ⟨_,_,read⟩ := restored.marked index marked
    obtain ⟨file,there,_⟩ := read enabled
    rcases place with together | fresh
    · have known : HashOnDisk (env.again config volumeSize dir) session volume after index := by
        refine ⟨content,?_,by omega,entries index inside⟩
        rw [latest,together,← previous]
        exact found
      let shared : TaskState := {disk := after}
      exact @Opened.taken_over _ _ _ shared _ _ _ restored length enabled inside marked known
    · rw [latest,kept,fresh k] at there
      cases there

variable {volumeCopyMeta : VolumeCopyMeta} {verbatim : UInt8 → Bool} (record : config.volumeCopyMeta volumeSize = some volumeCopyMeta)
  (known : env.json.Documented (ofMeta volumeCopyMeta) verbatim) (plain : (ofMeta volumeCopyMeta).Plain verbatim)
  (blocks : config.blockSize = DEFAULT_BLOCK_SIZE)
include record known plain blocks

theorem again_provided : Provided (env.again config volumeSize dir) (config.again dir) following volume disk := by
  refine ⟨?_,?_,?_,?_⟩
  · have accepts : ValidateIncrementBackup (env.again config volumeSize dir) disk (config.again dir) .yes = true ↔
        (ofMeta volumeCopyMeta).Plain verbatim ∧ (config.again dir).blockSize = DEFAULT_BLOCK_SIZE :=
      validates_default record (left.record.file record) known
    exact accepts.mpr ⟨plain,blocks⟩
  · intro session member
    obtain ⟨start,size,k,rfl,earlier⟩ := again_member task sessions later member
    have copied := left.copy _ earlier
    exact copied
  · intro session member
    obtain ⟨start,size,k,rfl,earlier⟩ := again_member task sessions later member
    have crew := left.crew _ earlier
    exact crew
  · intro after frame session member
    obtain ⟨context,opened,_,vetted⟩ := again_context task sessions later left hasher even place frame member
    exact ⟨context,opened,vetted⟩

theorem again_unmoved {actions : List TaskAction} {p : Process} (path : Runs (taskNext (env.again config volumeSize dir))
    (Smooth (env.again config volumeSize dir) fun _ => volume) (.new disk) actions p) :
    Unmoved (env.again config volumeSize dir) volume disk following p := by
  have own : (env.again config volumeSize dir).task = .backup (config.again dir) volumeSize := rfl
  have positive : 1 ≤ config.blockSize.toNat := by rw [blocks]; decide
  have addresses : 32*config.blockSize.toNat < 2^32 := by rw [blocks]; decide
  have few : ∀ session ∈ following, session.m_maxIndex < 2^27 := by
    intro session member
    exact Nat.lt_of_le_of_lt (Nat.sub_le _ _) (even session member).2
  have provided := again_provided task sessions later left hasher even place record known plain blocks
  have arrangement : Arrangement (env.again config volumeSize dir) (fun _ => volume) following :=
    backup_arrangement own later positive addresses fun _ => few
  obtain ⟨flawless,course⟩ := provided.run own rfl later hasher positive addresses few path
  cases course with
  | early here same =>
      have queued : Queued (env.again config volumeSize dir) p := Queued.new.run path
      have preparing : p.pc.preparing = true := by
        cases pc : p.pc <;> rw [pc] at here <;> first | rfl | cases here
      have none : p.running = none := queued.layout.idle rfl fun there => by rw [there] at here; cases here
      have taken : p.taken = [] := by simp [Process.taken,none,queued.fresh preparing]
      have live : p.pc ≠ .exited := fun gone => by rw [gone] at here; cases here
      refine ⟨?_,?_,flawless.ends,fun status => absurd status (queued.unfinished live)⟩ <;>
        (intro running inside; rw [taken] at inside; cases inside)
  | late after frame archiving copy =>
      have known (running : Running) (inside : running ∈ p.taken) : running.config ∈ following ∧ running.source = volume ∧ ∃ context,
          InitSessionContext after running.config (env.again config volumeSize dir).task = some context ∧
          Compared (env.again config volumeSize dir) context running := by
        rcases List.mem_append.mp inside with present | done
        · have present : p.running = some running := by simpa using present
          have member := archiving.rewriting.queued.member arrangement.sessions present
          obtain ⟨source,context,o,found,underway⟩ := archiving.rewriting.ongoing running present
          have keeping : Keeping (env.again config volumeSize dir) after following := backup_keeping own arrangement.sessions hasher
          have enabled := keeping.hasher _ member
          exact ⟨member,source,context,found,underway.compared (arrangement.pooled _ member) (arrangement.comparable _ member) enabled⟩
        · obtain ⟨member,_,context,found,source,compared⟩ := archiving.completed running done
          exact ⟨member,source,context,found,compared⟩
      refine ⟨fun running inside => ?_,fun running inside => ?_,flawless.ends,fun status session member => ?_⟩
      · obtain ⟨member,_,context,found,compared⟩ := known running inside
        obtain ⟨taken,opened,complete,_⟩ := again_context task sessions later left hasher even place frame member
        cases opened.symm.trans found
        rw [compared.previous]
        exact complete
      · obtain ⟨member,source,context,found,compared⟩ := known running inside
        obtain ⟨taken,opened,complete,_⟩ := again_context task sessions later left hasher even place frame member
        cases opened.symm.trans found
        obtain ⟨start,size,k,same,some⟩ := split_some later member
        refine compared.unmoved rfl (totalBlocks_positive (by rw [same]; exact some)) ?_
        rw [source]
        exact complete
      · obtain ⟨content,present,whole,entries⟩ := again_table task sessions later left member
        obtain ⟨saved,there,size,checksums⟩ := (archiving.left arrangement status member).1
        have same : saved = content := table_unique size whole fun index inside =>
          (checksums index inside).trans (entries index inside).symm
        exact ⟨content,present,same ▸ there⟩

end idle

end left

theorem again_even : (∀ session ∈ following, EvenSession session) ↔ ∀ session ∈ queue, EvenSession session := by
  constructor
  · intro even session member
    rw [task] at sessions
    obtain ⟨start,size,k,rfl,other⟩ := split_both later sessions member
    have whole := even _ other
    exact whole
  · intro even session member
    obtain ⟨start,size,k,rfl,earlier⟩ := again_member task sessions later member
    have whole := even _ earlier
    exact whole

theorem loads_even (nonzero : ∀ session ∈ queue, ∀ index < session.TotalBlocks, blockDigest (env.sessionEnv session) volume index ≠ fun _ => 0)
    (loads : LoadsTables (env.again config volumeSize dir) volume disk following) : ∀ session ∈ following, EvenSession session := by
  intro session member
  obtain ⟨table,loaded,entries⟩ := loads session member
  obtain ⟨start,size,k,same,some⟩ := split_some later member
  obtain ⟨origin,length,l,rfl,earlier⟩ := again_member task sessions later member
  refine load_whole ?_ (fun index inside => ?_) loaded entries
  · rw [same]
    exact some
  · rw [again_digest task]
    exact nonzero _ earlier index inside

end task

theorem again_refused {volumeCopyMeta : VolumeCopyMeta} {verbatim : UInt8 → Bool} (record : config.volumeCopyMeta volumeSize = some volumeCopyMeta)
    (recorded : Recorded env config volumeSize disk) (known : env.json.Documented (ofMeta volumeCopyMeta) verbatim)
    (spaced : ¬(ofMeta volumeCopyMeta).Plain verbatim) : ∃ actions p, Runs (taskNext (env.again config volumeSize dir))
      (Smooth (env.again config volumeSize dir) fun _ => volume) (.new disk) actions p ∧ p.pc = .exited ∧ p.task.m_status = .FAILED := by
  have missed : ValidateIncrementBackup (env.again config volumeSize dir) disk (config.again dir) .yes = false := by
    have accepts : ValidateIncrementBackup (env.again config volumeSize dir) disk (config.again dir) .yes = true ↔
        (ofMeta volumeCopyMeta).Plain verbatim ∧ (config.again dir).blockSize = DEFAULT_BLOCK_SIZE :=
      validates_default record (recorded.file record) known
    exact Bool.eq_false_iff.mpr fun accepted => spaced (accepts.mp accepted).1
  have own : (env.again config volumeSize dir).task = .backup (config.again dir) volumeSize := rfl
  have cut : ∃ queue, (config.again dir).split volumeSize (config.again dir).NewVolumeTaskSession = some queue := by
    obtain ⟨segments,split,_⟩ := Option.map_eq_some_iff.mp record
    exact split_made split
  obtain ⟨queue,split⟩ := cut
  obtain ⟨files,listed⟩ := resource_listed split
  have yes (p : Process) (quiet : p.pc.opening = none) :
      Smooth (env.again config volumeSize dir) (fun _ => volume) p (.thread .yes) := ⟨.inl rfl,by rw [quiet]; nofun⟩
  let started : Process := {Process.new disk with pc := .resource}
  let listing : Process := {started with pc := .validate}
  let refused : Process := {listing with pc := .unprepared}
  have start : taskNext (env.again config volumeSize dir) (.new disk) (.thread .yes) = some started := rfl
  have list : taskNext (env.again config volumeSize dir) started (.thread .yes) = some listing := by
    have later : (config.again dir).backupType ≠ .FULL := nofun
    simp [taskNext,taskStep,prepareStep,started,listing,own,listed,later]
  have refuse : taskNext (env.again config volumeSize dir) listing (.thread .yes) = some refused := by
    have increment : (config.again dir).IsIncrementBackup = true := rfl
    simp [taskNext,taskStep,prepareStep,listing,started,refused,own,increment,Process.new,missed]
  have exit : taskNext (env.again config volumeSize dir) refused (.thread .yes) = some (refused.assign .FAILED .exited) := rfl
  exact ⟨_,_,(((Runs.nil.step start (yes _ rfl)).step list (yes _ rfl)).step refuse (yes _ rfl)).step exit (yes _ rfl),rfl,rfl⟩

end again

def wholeBackup : VolumeBackupConfig where
  copyName := "c"
  volumePath := "/dev/sda1"
  prevCopyMetaDirPath := ""
  outputCopyDataDirPath := "/copy"
  outputCopyMetaDirPath := "/meta"
  hasherNum := 1
  enableCheckpoint := false
  checkpointDirPath := "/checkpoint"

def segmentMeta (backup : VolumeBackupConfig) (volumeSize : UInt64) : VolumeCopyMeta where
  copyName := backup.copyName
  backupType := backup.backupType
  copyFormat := backup.copyFormat
  volumeSize := volumeSize
  blockSize := DEFAULT_BLOCK_SIZE
  segments := [backup.NewCopySegment 0 volumeSize 0]
  volumePath := backup.volumePath

def wholeEnv (volumeSize : UInt64) : TaskEnv where
  task := .backup wholeBackup volumeSize
  sha256 := fun _ _ => 1
  json := recordLibrary ((wholeBackup.volumeCopyMeta volumeSize).toList.map ofMeta)
  device := fun path => path = "/dev/sda1"

def letters (size : Nat) : Content := .of size fun _ => 97

def wholeDisk (size : Nat) : Disk := fun path => if path = "/dev/sda1" then some (letters size) else none

def wholeActions (blocks : Nat) : List TaskAction :=
  threads 14++readers (4+6*blocks)++hashers (7+4*blocks)++writers (4+6*blocks)++threads 18

theorem whole_apart {dir rest : String} (differ : dir.toList.take 2 ≠ "/dev/sda1".toList.take 2) (long : 2 ≤ dir.length) :
    "/dev/sda1" ≠ PathJoin dir rest := by
  intro same
  have text := congrArg (fun path => path.toList.take 2) same
  apply differ
  simp only [PathJoin,String.toList_append,List.append_assoc] at text
  rw [List.take_append_of_le_length (by rw [String.length_toList]; exact long)] at text
  exact text.symm

theorem dirs_smooth {env : TaskEnv} {backup : VolumeBackupConfig} {volumeSize : UInt64} {queue : List VolumeTaskSharedConfig}
    {volume : Content} {disk : Disk} {p : Process} {actions : List TaskAction} (task : env.task = .backup backup volumeSize)
    (sessions : env.task.sessions = some queue) (path : backup.volumePath = "/dev/sda1")
    (apart : ∀ dir ∈ [backup.outputCopyDataDirPath,backup.outputCopyMetaDirPath,backup.checkpointDirPath],
      dir.toList.take 2 ≠ "/dev/sda1".toList.take 2 ∧ 2 ≤ dir.length) (present : disk "/dev/sda1" = some volume)
    (run : Runs (taskNext env) Grants (.new disk) actions p) : Runs (taskNext env) (Smooth env fun _ => volume) (.new disk) actions p := by
  simp only [List.forall_mem_cons] at apart
  obtain ⟨data,record,checkpoint,_⟩ := apart
  refine grants_smooth task sessions ?_ ?_ ?_ (by rw [path]; exact present) run
  · rintro ⟨config,size,known,_,format,k,same⟩
    cases task.symm.trans known
    rw [path] at same
    exact whole_apart data.1 data.2 same
  · rintro ⟨config,size,known,same⟩
    cases task.symm.trans known
    rw [path] at same
    exact whole_apart record.1 record.2 same
  · intro config member
    obtain ⟨i,start,size,_,rfl⟩ := backup_member task sessions member
    rw [unwritten,backup_target task,path]
    exact ⟨whole_apart data.1 data.2,whole_apart record.1 record.2,whole_apart checkpoint.1 checkpoint.2⟩

def wholeSession (size : UInt64) : VolumeTaskSharedConfig := wholeBackup.NewVolumeTaskSession 0 size 0

theorem whole_sessions : (wholeEnv 4194304).task.sessions = some [wholeSession 4194304] := rfl

theorem pair_sessions : (wholeEnv 8388608).task.sessions = some [wholeSession 8388608] := rfl

theorem pair_leaves : ∃ p : Process, Runs (taskNext (wholeEnv 8388608)) (Smooth (wholeEnv 8388608) fun _ => letters 8388608)
    (.new (wholeDisk 8388608)) (wholeActions 2) p ∧ p.task.m_status = .SUCCEED := by
  have run : (execute (taskNext (wholeEnv 8388608)) (fun p action => decide (Grants p action)) (.new (wholeDisk 8388608))
      (wholeActions 2)).any (fun p => decide (p.task.m_status = .SUCCEED)) = true := by decide +kernel
  obtain ⟨p,path,good⟩ := execute_ends (fun _ _ => of_decide_eq_true) run
  have own : (wholeEnv 8388608).task = .backup wholeBackup 8388608 := rfl
  exact ⟨p,dirs_smooth own pair_sessions rfl (by decide) rfl path,of_decide_eq_true good⟩

theorem tail_some : (execute (taskNext (wholeEnv 1)) (fun p action => decide (Smooth (wholeEnv 1) (fun _ => letter) p action))
    (.new plainDisk) (wholeActions 1)).isSome = true := by decide +kernel

def tailLeft : Process := (execute (taskNext (wholeEnv 1)) (fun p action => decide (Smooth (wholeEnv 1) (fun _ => letter) p action))
    (.new plainDisk) (wholeActions 1)).get tail_some

theorem tail_leaves : Runs (taskNext (wholeEnv 1)) (Smooth (wholeEnv 1) fun _ => letter) (.new plainDisk) (wholeActions 1) tailLeft ∧
    tailLeft.task.m_status = .SUCCEED :=
  ⟨execute_runs (fun _ _ => of_decide_eq_true) (Option.some_get tail_some).symm,by decide +kernel⟩

end VolumeBackup
