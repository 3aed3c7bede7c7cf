import VolumeBackup.NoFalseSuccess

namespace VolumeBackup
open ByteMemory LabelledRuns

def RawData.shift (raw : RawData) (offset : UInt64) : UInt64 :=
  if 0 < raw.m_flag then offset+raw.m_shiftOffset
  else if raw.m_flag < 0 then offset-raw.m_shiftOffset
  else offset

-- What the operating system does with one Write. On POSIX lseek() may fail and leave the file position where it is, and write() returns
-- the number of bytes that it has accepted; on Windows WriteFile() returns a status and stores that number.
inductive OsReply where
  | posix (stuck : Option UInt64) (ret : Int)
  | win32 (status : Bool) (bytesWrited : UInt32)
  deriving DecidableEq, Repr

-- Both take the length as an int, which WriteFile() and the comparison with a DWORD turn back.
def PosixRawDataWriter.Write (length : UInt32) (ret : Int) : Bool := !(ret ≤ 0 ∨ ret ≠ length.toInt32.toInt)

def Win32RawDataWriter.Write (length : UInt32) (status : Bool) (bytesWrited : UInt32) : Bool := !(status = false ∧ bytesWrited ≠ length)

def OsReply.Write (length : UInt32) : OsReply → Bool
  | .posix _ ret => PosixRawDataWriter.Write length ret
  | .win32 status bytesWrited => Win32RawDataWriter.Write length status bytesWrited

structure AcceptedBytes where
  offset : UInt64
  count : Nat
  deriving DecidableEq, Repr

def OsReply.accepted (offset : UInt64) : OsReply → AcceptedBytes
  | .posix stuck ret => ⟨stuck.getD offset,ret.toNat⟩
  | .win32 _ bytesWrited => ⟨offset,bytesWrited.toNat⟩

structure WriteCall where
  block : VolumeConsumeBlock
  reply : OsReply

def WriteCall.volumeOffset (call : WriteCall) : UInt64 := .ofNat call.block.volumeOffset
def WriteCall.length (call : WriteCall) : UInt32 := .ofNat call.block.length

-- A session whose writer meets the operating system itself. The blocks that were popped, those of them that needed no write and the
-- calls for the others are kept besides, newest first.
structure RawSession where
  session : Session
  popped : List VolumeConsumeBlock := []
  spared : List VolumeConsumeBlock := []
  calls : List WriteCall := []

inductive RawAction where
  | writer (reply : OsReply)
  | other (action : SessionAction)

def SessionAction.isWriter : SessionAction → Bool
  | .writer _ => true
  | _ => false

section machine
variable (env : SessionEnv)

def WriteCall.accepted (call : WriteCall) : AcceptedBytes := call.reply.accepted (env.dataWriter.shift call.volumeOffset)

def RawSession.write (r : RawSession) (block : VolumeConsumeBlock) (reply : OsReply) : RawSession :=
  let s := r.session
  let call : WriteCall := ⟨block,reply⟩
  let accepted := call.accepted env
  let ok := reply.Write call.length
  {r with
    session := {(s.writer (if ok then .markWritten block else .failed block)).record
      (.write block.index block.volumeOffset (ByteMemory.read s.pool block.ptr block.length) ok) with
        target := s.target.write accepted.offset.toNat accepted.count fun k => s.pool (block.ptr+k)}
    calls := call::r.calls}

def rawNext (source : Content) (r : RawSession) : RawAction → Option RawSession
  | .writer reply =>
    match r.session.writerTask.pc with
    | .write block =>
      if NeedToWrite env r.session.pool block.ptr block.length then some (r.write env block reply)
      else some {r with
        session := (r.session.writer (.markWritten block)).record (.skipEmpty block.index),spared := block::r.spared}
    | .pop => (writerStep env .ok r.session).map fun s => {r with
        session := s
        popped := match s.writerTask.pc with
          | .write block | .discard block => block::r.popped
          | _ => r.popped}
    | _ => (writerStep env .ok r.session).map fun s => {r with session := s}
  | .other action => if action.isWriter then none else (sessionStep env source r.session action).map fun s => {r with session := s}

inductive RawStep (source : Content) (r : RawSession) : RawAction → RawSession → Prop where
  | call (here : r.session.writerTask.pc = .write block)
      (needed : NeedToWrite env r.session.pool block.ptr block.length = true) :
      RawStep source r (.writer reply) (r.write env block reply)
  | spare (here : r.session.writerTask.pc = .write block) : RawStep source r (.writer reply)
      {r with session := (r.session.writer (.markWritten block)).record (.skipEmpty block.index),spared := block::r.spared}
  | pop (here : r.session.writerTask.pc = .pop) (taken : pc = .write block ∨ pc = .discard block) : RawStep source r (.writer reply)
      {r with session := {r.session.writer pc with writeQueue := queue},popped := block::r.popped}
  | writer (step : WriterStep env .ok r.session s) (quiet : ∀ block, r.session.writerTask.pc ≠ .write block) :
      RawStep source r (.writer reply) {r with session := s}
  | other (step : Step env source r.session action s) (foreign : action.isWriter = false) :
      RawStep source r (.other action) {r with session := s}

end machine

variable {env : SessionEnv} {source : Content} {r q : RawSession}

theorem rawNext_sound (ran : rawNext env source r action = some q) : RawStep env source r action q := by
  cases action with
  | writer reply =>
      simp only [rawNext] at ran
      split at ran
      · split at ran
        · cases Option.some.inj ran
          exact .call ‹_› ‹_›
        · cases Option.some.inj ran
          exact .spare ‹_›
      · rename_i here
        obtain ⟨s,stepped,rfl⟩ := Option.map_eq_some_iff.mp ran
        have step := writerStep_sound stepped
        have quiet (block : VolumeConsumeBlock) : r.session.writerTask.pc ≠ .write block := by rw [here]; exact WriterPc.noConfusion
        cases step with
        | taken => exact .pop here (.inl rfl)
        | refused => exact .pop here (.inr rfl)
        | drained there empty finished => exact .writer (.drained there empty finished) quiet
        | _ other => cases here.symm.trans other
      · rename_i unwritten _
        obtain ⟨s,stepped,rfl⟩ := Option.map_eq_some_iff.mp ran
        exact .writer (writerStep_sound stepped) fun block here => unwritten block here
  | other action =>
      simp only [rawNext] at ran
      split at ran
      · cases ran
      · obtain ⟨s,stepped,rfl⟩ := Option.map_eq_some_iff.mp ran
        exact .other (sessionStep_sound stepped) (Bool.eq_false_iff.mpr ‹_›)

def Spoilt (s : Session) : Prop :=
  (∃ block, s.writerTask.pc = .failed block) ∨ (∃ block, s.writerTask.pc = .discard block) ∨ s.counter.blockesWriteFailed ≠ 0

structure RawOutcome (r : RawSession) : Prop where
  final : r.session.writerTask.pc = .exited → r.session.writerTask.task.m_status = .SUCCEED → r.session.counter.blockesWriteFailed = 0
  accepted : ∀ call ∈ r.calls, call.reply.Write call.length = true ∨ Spoilt r.session
  handled : ∀ block ∈ r.popped, r.session.writerTask.pc = .write block ∨ block ∈ r.spared ∨ (∃ call ∈ r.calls, call.block = block) ∨
    Spoilt r.session

section session
variable {s t : Session}

theorem foreign_writer (step : Step env source s action t) (foreign : action.isWriter = false) :
    t.counter.blockesWriteFailed = s.counter.blockesWriteFailed ∧ (t.writerTask.pc = s.writerTask.pc ∧
      (t.writerTask.task.m_status = .SUCCEED → s.writerTask.task.m_status = .SUCCEED) ∨
      s.writerTask.pc = .notStarted ∧ t.writerTask.pc = .check) := by
  cases action with
  | reader outcome => cases (step : ReaderStep env source outcome s t) <;> exact ⟨rfl,.inl ⟨rfl,id⟩⟩
  | worker k => cases (step : WorkerStep env k s t) <;> exact ⟨rfl,.inl ⟨rfl,id⟩⟩
  | writer outcome => cases foreign
  | start component =>
      cases (step : ControlStep env _ s t) with
      | startWriter here => exact ⟨rfl,.inr ⟨here,rfl⟩⟩
      | _ => exact ⟨rfl,.inl ⟨rfl,id⟩⟩
  | pause paused =>
      cases (step : ControlStep env _ s t)
      exact ⟨rfl,.inl ⟨rfl,id⟩⟩
  | abort component =>
      cases (step : ControlStep env _ s t)
      cases component <;> exact ⟨rfl,.inl ⟨rfl,id⟩⟩
  | aborted component | aborting component =>
      cases (step : ControlStep env _ s t)
      cases component <;> exact ⟨rfl,.inl ⟨rfl,by first | exact id | nofun⟩⟩

theorem Spoilt.counted (spoilt : Spoilt s) (clear : ∀ block, s.writerTask.pc ≠ .failed block ∧ s.writerTask.pc ≠ .discard block)
    (count : t.counter.blockesWriteFailed = s.counter.blockesWriteFailed) : Spoilt t := by
  rcases spoilt with ⟨block,here⟩ | ⟨block,here⟩ | some
  · exact absurd here (clear block).1
  · exact absurd here (clear block).2
  · exact .inr (.inr (count ▸ some))

theorem Spoilt.foreign (spoilt : Spoilt s) (count : t.counter.blockesWriteFailed = s.counter.blockesWriteFailed)
    (pc : t.writerTask.pc = s.writerTask.pc ∨ s.writerTask.pc = .notStarted) : Spoilt t := by
  rcases pc with same | fresh
  · rcases spoilt with ⟨block,here⟩ | ⟨block,here⟩ | some
    · exact .inl ⟨block,same.trans here⟩
    · exact .inr (.inl ⟨block,same.trans here⟩)
    · exact .inr (.inr (count ▸ some))
  · apply spoilt.counted _ count
    intro block
    rw [fresh]
    exact ⟨nofun,nofun⟩

theorem Spoilt.writer (spoilt : Spoilt s) (step : WriterStep env .ok s t) : Spoilt t := by
  rcases spoilt with ⟨block,there⟩ | ⟨block,there⟩ | some
  · cases step with
    | failed => exact .inr (.inr (Nat.succ_ne_zero _))
    | _ here => cases there.symm.trans here
  · cases step with
    | discarded => exact .inr (.inr (Nat.succ_ne_zero _))
    | _ here => cases there.symm.trans here
  · cases step with
    | discarded | failed => exact .inr (.inr (Nat.succ_ne_zero _))
    | _ => exact .inr (.inr some)

end session

theorem RawOutcome.call (outcome : RawOutcome r) (here : r.session.writerTask.pc = .write block) (reply : OsReply) :
    RawOutcome (r.write env block reply) := by
  have kept (spoilt : Spoilt r.session) : Spoilt (r.write env block reply).session :=
    spoilt.counted (fun other => by rw [here]; exact ⟨nofun,nofun⟩) rfl
  refine ⟨fun exited => ?_,fun call inside => ?_,fun other inside => ?_⟩
  · change (if reply.Write _ then WriterPc.markWritten block else .failed block) = _ at exited
    split at exited <;> cases exited
  · rcases List.mem_cons.mp inside with rfl | earlier
    · cases ok : reply.Write (WriteCall.length ⟨block,reply⟩) with
      | true => exact .inl rfl
      | false =>
          refine .inr (.inl ⟨block,?_⟩)
          change (if reply.Write _ then WriterPc.markWritten block else .failed block) = _
          rw [ok]
          rfl
    · exact (outcome.accepted call earlier).imp_right kept
  · rcases outcome.handled other inside with same | spared | ⟨call,made,same⟩ | spoilt
    · cases here.symm.trans same
      exact .inr (.inr (.inl ⟨_,List.mem_cons_self,rfl⟩))
    · exact .inr (.inl spared)
    · exact .inr (.inr (.inl ⟨call,List.mem_cons_of_mem _ made,same⟩))
    · exact .inr (.inr (.inr (kept spoilt)))

theorem RawOutcome.spare (outcome : RawOutcome r) (here : r.session.writerTask.pc = .write block) :
    RawOutcome {r with
      session := (r.session.writer (.markWritten block)).record (.skipEmpty block.index),spared := block::r.spared} := by
  have kept (spoilt : Spoilt r.session) : Spoilt ((r.session.writer (.markWritten block)).record (.skipEmpty block.index)) :=
    spoilt.counted (fun other => by rw [here]; exact ⟨nofun,nofun⟩) rfl
  refine ⟨nofun,fun call made => (outcome.accepted call made).imp_right kept,fun other inside => ?_⟩
  rcases outcome.handled other inside with same | spared | called | spoilt
  · cases here.symm.trans same
    exact .inr (.inl List.mem_cons_self)
  · exact .inr (.inl (List.mem_cons_of_mem _ spared))
  · exact .inr (.inr (.inl called))
  · exact .inr (.inr (.inr (kept spoilt)))

theorem RawOutcome.pop (outcome : RawOutcome r) (here : r.session.writerTask.pc = .pop) (taken : pc = .write block ∨ pc = .discard block) :
    RawOutcome {r with session := {r.session.writer pc with writeQueue := queue},popped := block::r.popped} := by
  have kept (spoilt : Spoilt r.session) : Spoilt {r.session.writer pc with writeQueue := queue} :=
    spoilt.counted (fun other => by rw [here]; exact ⟨nofun,nofun⟩) rfl
  refine ⟨fun exited => ?_,fun call made => (outcome.accepted call made).imp_right kept,fun other inside => ?_⟩
  · rcases taken with rfl | rfl <;> cases exited
  · rcases List.mem_cons.mp inside with rfl | earlier
    · exact taken.imp id fun discarded => .inr (.inr (.inr (.inl ⟨_,discarded⟩)))
    · rcases outcome.handled other earlier with same | spared | called | spoilt
      · cases here.symm.trans same
      · exact .inr (.inl spared)
      · exact .inr (.inr (.inl called))
      · exact .inr (.inr (.inr (kept spoilt)))

theorem RawOutcome.writer {s : Session} (outcome : RawOutcome r) (step : WriterStep env .ok r.session s)
    (quiet : ∀ block, r.session.writerTask.pc ≠ .write block) : RawOutcome {r with session := s} := by
  refine ⟨?_,fun call made => (outcome.accepted call made).imp_right fun spoilt => spoilt.writer step,fun other inside => ?_⟩
  · cases step with
    | reviewed here final => exact fun _ => final
    | _ => nofun
  · rcases outcome.handled other inside with same | spared | called | spoilt
    · exact absurd same (quiet other)
    · exact .inr (.inl spared)
    · exact .inr (.inr (.inl called))
    · exact .inr (.inr (.inr (spoilt.writer step)))

theorem RawOutcome.foreign {s : Session} (outcome : RawOutcome r) (step : Step env source r.session action s)
    (foreign : action.isWriter = false) : RawOutcome {r with session := s} := by
  obtain ⟨count,moved⟩ := foreign_writer step foreign
  have stays : s.writerTask.pc = r.session.writerTask.pc ∨ r.session.writerTask.pc = .notStarted := moved.imp And.left And.left
  have kept (spoilt : Spoilt r.session) : Spoilt s := spoilt.foreign count stays
  refine ⟨fun exited succeeded => ?_,fun call made => (outcome.accepted call made).imp_right kept,fun other inside => ?_⟩
  · rcases moved with ⟨same,status⟩ | ⟨_,fresh⟩
    · exact count.trans (outcome.final (same.symm.trans exited) (status succeeded))
    · cases fresh.symm.trans exited
  · rcases outcome.handled other inside with here | spared | called | spoilt
    · rcases stays with same | fresh
      · exact .inl (same.trans here)
      · cases here.symm.trans fresh
    · exact .inr (.inl spared)
    · exact .inr (.inr (.inl called))
    · exact .inr (.inr (.inr (kept spoilt)))

theorem RawOutcome.step (outcome : RawOutcome r) (step : RawStep env source r action q) : RawOutcome q := by
  cases step with
  | call here => exact outcome.call here _
  | spare here => exact outcome.spare here
  | pop here taken => exact outcome.pop here taken
  | writer step quiet => exact outcome.writer step quiet
  | other step foreign => exact outcome.foreign step foreign

-- A reply that does not deceive: bytes that write() has accepted all are where they were to go, and WriteFile() has accepted them all
-- where it returns TRUE.
def OsReply.Honest (offset : UInt64) (length : UInt32) : OsReply → Prop
  | .posix stuck ret => ret = length.toInt32.toInt → ∀ place ∈ stuck, place = offset
  | .win32 status bytesWrited => status = true → bytesWrited = length

instance (reply : OsReply) : Decidable (reply.Honest offset length) :=
  match reply with
  | .posix stuck ret =>
    have : Decidable (∀ place ∈ stuck, place = offset) := Option.decidableForallMem stuck
    inferInstanceAs (Decidable (ret = length.toInt32.toInt → ∀ place ∈ stuck, place = offset))
  | .win32 status bytesWrited => inferInstanceAs (Decidable (status = true → bytesWrited = length))

def WriteCall.Honest (env : SessionEnv) (call : WriteCall) : Prop :=
  call.reply.Honest (env.dataWriter.shift call.volumeOffset) call.length

theorem positive_int {length : UInt32} (positive : 0 < length.toInt32.toInt) : length.toInt32.toInt = length.toNat := by
  have known : length.toInt32.toInt = length.toBitVec.toInt := rfl
  rw [known,BitVec.toInt_eq_toNat_cond] at positive ⊢
  split at positive
  · rename_i small
    rw [if_pos small]
    rfl
  · have bound := length.toBitVec.isLt
    omega

theorem accepted_whole {reply : OsReply} (ok : reply.Write length = true) (honest : reply.Honest offset length) :
    reply.accepted offset = ⟨offset,length.toNat⟩ := by
  cases reply with
  | posix stuck ret =>
      have done : ¬(ret ≤ 0 ∨ ret ≠ length.toInt32.toInt) := by simpa [OsReply.Write,PosixRawDataWriter.Write] using ok
      obtain ⟨some,same⟩ := not_or.mp done
      have all : ret = length.toInt32.toInt := not_not.mp same
      have place : stuck.getD offset = offset := by
        cases stuck with
        | none => rfl
        | some place => exact honest all place rfl
      have count : ret.toNat = length.toNat := by
        rw [all,positive_int (by omega)]
        rfl
      rw [OsReply.accepted,place,count]
  | win32 status bytesWrited =>
      have all : bytesWrited = length := by
        cases status with
        | true => exact honest rfl
        | false => simpa [OsReply.Write,Win32RawDataWriter.Write] using ok
      rw [all]
      rfl

theorem accepted_exact {reply : OsReply} (ok : reply.Write length = true) :
    reply.accepted offset = ⟨offset,length.toNat⟩ ↔ reply.Honest offset length := by
  refine ⟨fun whole => ?_,accepted_whole ok⟩
  obtain ⟨place,count⟩ := AcceptedBytes.mk.inj whole
  cases reply with
  | posix stuck ret =>
      intro _ elsewhere inside
      cases inside
      exact place
  | win32 status bytesWrited => exact fun _ => UInt32.toNat_inj.mp count

theorem RawOutcome.run {config : VolumeTaskSharedConfig} {context : BlockHashingContext} {processed written : Bitmap}
    {counter : SessionCounter} {target : Content}
    (path : Runs (rawNext env source) allowed ⟨.new config context processed written counter target,[],[],[]⟩ actions r) : RawOutcome r :=
  path.invariant RawOutcome ⟨nofun,nofun,nofun⟩ fun _ _ _ known ran _ => known.step (rawNext_sound ran)

theorem shift_position (raw : RawData) (inside : offset < 2^64) : (raw.shift (.ofNat offset)).toNat = raw.position offset := by
  have same : (UInt64.ofNat offset).toNat = offset := UInt64.toNat_ofNat_of_lt' inside
  have bound := raw.m_shiftOffset.toNat_lt
  unfold RawData.shift RawData.position
  split
  · rw [UInt64.toNat_add,same]
  · split
    · rw [UInt64.toNat_sub,same]
      congr 1
      omega
    · exact same

-- A Write whose bytes have all arrived is the writer's step with a Write that succeeds, and one that was refused a step with one that
-- tears: what the other modules prove of the writer holds where the operating system deceives nobody.
theorem write_whole (here : r.session.writerTask.pc = .write block) (needed : NeedToWrite env r.session.pool block.ptr block.length = true)
    (inside : block.volumeOffset < 2^64) (small : block.length < 2^32) (ok : reply.Write (WriteCall.length ⟨block,reply⟩) = true)
    (honest : WriteCall.Honest env ⟨block,reply⟩)
    (stored : env.dataWriter.Write r.session.target block.volumeOffset block.length (fun k => r.session.pool (block.ptr+k)) = some target) :
    writerStep env .ok r.session = some (r.write env block reply).session := by
  have whole : WriteCall.accepted env ⟨block,reply⟩ = ⟨env.dataWriter.shift (.ofNat block.volumeOffset),block.length⟩ :=
    (accepted_whole ok honest).trans (congrArg _ (UInt32.toNat_ofNat_of_lt' small))
  have place := shift_position env.dataWriter inside
  have result : target = r.session.target.write (env.dataWriter.position block.volumeOffset) block.length
      fun k => r.session.pool (block.ptr+k) := by
    unfold RawData.Write at stored
    split at stored
    · exact (Option.some.inj stored).symm
    · cases stored
  simp only [writerStep,here,needed,if_true,stored,Option.map_some]
  rw [RawSession.write,whole,ok,result,place]
  rfl

theorem write_refused (here : r.session.writerTask.pc = .write block)
    (needed : NeedToWrite env r.session.pool block.ptr block.length = true) (inside : block.volumeOffset < 2^64)
    (refused : reply.Write (WriteCall.length ⟨block,reply⟩) = false)
    (placed : (WriteCall.accepted env ⟨block,reply⟩).offset = env.dataWriter.shift (.ofNat block.volumeOffset))
    (short : (WriteCall.accepted env ⟨block,reply⟩).count ≤ block.length) :
    writerStep env (.fail ⟨fun _ => true,(WriteCall.accepted env ⟨block,reply⟩).count⟩) r.session =
      some (r.write env block reply).session := by
  have place := shift_position env.dataWriter inside
  simp only [writerStep,here,needed,if_true,Content.tear,Nat.min_eq_right short]
  rw [RawSession.write,placed,refused,place]
  rfl

theorem copy_shift (task : TaskEnv) (config : VolumeTaskSharedConfig) (offset : UInt64) : (task.copyData config).shift offset =
    match config.copyFormat with
    | .BIN => offset-config.sessionOffset
    | .IMAGE => offset := by
  unfold TaskEnv.copyData
  cases config.copyFormat <;> rfl

theorem volume_shift (task : TaskEnv) (config : VolumeTaskSharedConfig) (offset : UInt64) : (task.volumeData config).shift offset = offset := rfl

-- A writer that has exited with SUCCEED has made a call for every block that it popped and needed to write, and the operating system has
-- accepted all bytes of each at its place exactly if no reply was deceptive: a WriteFile() that returns TRUE for a short write is, and
-- so is an lseek() that fails under a write().
theorem whole_writes {config : VolumeTaskSharedConfig} {context : BlockHashingContext} {processed written : Bitmap}
    {counter : SessionCounter} {target : Content}
    (path : Runs (rawNext env source) Anything ⟨.new config context processed written counter target,[],[],[]⟩ actions r)
    (exited : r.session.writerTask.pc = .exited) (succeeded : r.session.writerTask.task.m_status = .SUCCEED) :
    (∀ block ∈ r.popped, block ∈ r.spared ∨ ∃ call ∈ r.calls, call.block = block) ∧
    ((∀ call ∈ r.calls, call.accepted env = ⟨env.dataWriter.shift call.volumeOffset,call.length.toNat⟩) ↔
      ∀ call ∈ r.calls, call.Honest env) ∧
    ∀ (task : TaskEnv) (opened : VolumeTaskSharedConfig) (offset : UInt64),
      (task.copyData opened).shift offset = (match opened.copyFormat with
        | .BIN => offset-opened.sessionOffset
        | .IMAGE => offset) ∧
      (task.volumeData opened).shift offset = offset := by
  have outcome := RawOutcome.run path
  have clean : ¬Spoilt r.session := by
    rintro (⟨block,here⟩ | ⟨block,here⟩ | some)
    · cases exited.symm.trans here
    · cases exited.symm.trans here
    · exact some (outcome.final exited succeeded)
  have exact (call : WriteCall) (made : call ∈ r.calls) :
      call.accepted env = ⟨env.dataWriter.shift call.volumeOffset,call.length.toNat⟩ ↔ call.Honest env :=
    accepted_exact ((outcome.accepted call made).resolve_right clean)
  refine ⟨fun block inside => ?_,?_,fun task opened offset => ⟨copy_shift task opened offset,volume_shift task opened offset⟩⟩
  · rcases outcome.handled block inside with here | spared | called | spoilt
    · cases exited.symm.trans here
    · exact .inl spared
    · exact .inr called
    · exact absurd spoilt clean
  · exact forall₂_congr exact

instance (call : WriteCall) : Decidable (call.Honest env) :=
  inferInstanceAs (Decidable (call.reply.Honest (env.dataWriter.shift call.volumeOffset) call.length))

def rawStart : RawSession := ⟨letterStart,[],[],[]⟩

def rawActions (reply : OsReply) : List RawAction := letterActions.map fun action =>
  if action.isWriter then .writer reply else .other action

def RawSession.succeeded (r : RawSession) : Bool :=
  r.session.writerTask.pc = .exited ∧ r.session.writerTask.task.m_status = .SUCCEED ∧ r.calls.length = 1

def pairRaw : RawSession := ⟨pairStart zeros,[],[],[]⟩

def pairReplies : List RawAction := ([.start .readerTask,.start .hasherTask,.start .writerTask]++.replicate 16 (.reader .ok)++
  .replicate 17 (.worker 0)).map .other++.replicate 16 (.writer (.posix none 1))

theorem whole_writes_pair : ∃ r : RawSession, r.session.writerTask.task.m_status = .SUCCEED ∧ r.calls.length = 2 ∧
    ∀ call ∈ r.calls, call.accepted pairBlocks = ⟨pairBlocks.dataWriter.shift call.volumeOffset,call.length.toNat⟩ := by
  have run : (execute (rawNext pairBlocks pair) (fun _ _ => true) pairRaw pairReplies).any (fun r =>
      decide (r.session.writerTask.pc = .exited ∧ r.session.writerTask.task.m_status = .SUCCEED ∧ r.calls.length = 2) &&
        decide (∀ call ∈ r.calls, call.Honest pairBlocks)) = true := by decide +kernel
  obtain ⟨r,path,good⟩ := execute_ends (fun _ _ _ => trivial) run
  obtain ⟨ended,honest⟩ := Bool.and_eq_true_iff.mp good
  obtain ⟨exited,succeeded,both⟩ := of_decide_eq_true ended
  exact ⟨r,succeeded,both,(whole_writes path exited succeeded).2.1.mpr (of_decide_eq_true honest)⟩

-- WriteFile() returns TRUE and has accepted nothing.
theorem short_write_succeeds : ¬∀ r, Reached (rawNext letterEnv letter) Anything rawStart r → r.session.writerTask.pc = .exited →
    r.session.writerTask.task.m_status = .SUCCEED →
    ∀ call ∈ r.calls, call.accepted letterEnv = ⟨letterEnv.dataWriter.shift call.volumeOffset,call.length.toNat⟩ := by
  intro always
  have run : (execute (rawNext letterEnv letter) (fun _ _ => true) rawStart (rawActions (.win32 true 0))).any
      (fun r => r.succeeded && decide (∃ call ∈ r.calls,
        call.accepted letterEnv ≠ ⟨letterEnv.dataWriter.shift call.volumeOffset,call.length.toNat⟩)) = true := by decide +kernel
  obtain ⟨r,path,good⟩ := execute_ends (fun _ _ _ => trivial) run
  obtain ⟨ended,short⟩ := Bool.and_eq_true_iff.mp good
  obtain ⟨exited,succeeded,_⟩ := of_decide_eq_true ended
  obtain ⟨call,made,lost⟩ := of_decide_eq_true short
  exact lost (always r ⟨_,path⟩ exited succeeded call made)

end VolumeBackup
