import VolumeBackup.BlockCopy
import VolumeBackup.BufferOwnership

namespace VolumeBackup
open ByteMemory LabelledRuns

section abstraction
variable (env : SessionEnv) (source : Content)

-- The block of an index as a piece of the target, the bytes that belong there, and when it may stay as it is: its
-- checksum is the one of the previous backup, or it is a block of zeros that need not be written.
def sessionPlan (previous : Memory) : BlockCopy.Plan Nat Nat UInt8 where
  piece index := {address | writePosition env index ≤ address ∧ address < writePosition env index+env.config.nBytesToRead index}
  wanted index address := source.byte (readPosition env index+(address-writePosition env index))
  fine index := entry previous index = blockDigest env source index ∨
    env.config.skipEmptyBlock = true ∧ ∀ k < env.config.nBytesToRead index, source.byte (readPosition env index+k) = 0

def Event.verdict : Event → Option (BlockCopy.Verdict Nat)
  | .read _ _ | .hash _ => none
  | .drop index | .skipEmpty index => some (.kept index)
  | .write index _ _ true => some (.copied index)
  | .write index _ _ false => some (.spoiled index)
  | .discard index => some (.lost index)

def verdicts (history : List Event) : List (BlockCopy.Verdict Nat) := (history.filterMap Event.verdict).reverse

-- The blocks of the session that no earlier run has processed, and of which nothing has become yet.
def Session.copying (processed : Bitmap) (s : Session) : BlockCopy.State Nat Nat UInt8 where
  pending := {index | index ≤ env.config.m_maxIndex ∧ (env.config.checkpointEnabled = true → processed.Test index = false) ∧
    index ∉ done s.history}
  image := s.target.byte
  broken := Torn s.history

end abstraction

variable {env : SessionEnv} {source : Content} {o : Flow} {s t : Session}

theorem verdicts_cons : verdicts (event::history) = verdicts history++event.verdict.toList := by
  unfold verdicts
  cases made : event.verdict <;> simp [made]

theorem undecided {processed : Bitmap} (left : done t.history = done s.history) (same : verdicts t.history = verdicts s.history)
    (torn : Torn t.history ↔ Torn s.history) (target : t.target = s.target) :
    Matched (BlockCopy.Move plan) (Session.copying env processed) (fun s => verdicts s.history) s t := by
  refine .inl ⟨?_,same⟩
  unfold Session.copying
  rw [left,target,propext torn]

theorem Sound.due (sound : Sound env source o s) (flying : block ∈ (s.flow env).inFlight) :
    block.index ∈ (s.copying env o.processed).pending := by
  have read := sound.tokens.flight_read flying
  exact ⟨sound.tokens.inside _ read,sound.coverage.fresh _ read,sound.tokens.flying_fresh flying⟩

theorem decided {processed : Bitmap} (left : done t.history = verdict.index ::ₘ done s.history)
    (told : verdicts t.history = verdicts s.history++[verdict])
    (move : BlockCopy.Move plan (s.copying env processed) verdict
      ⟨(s.copying env processed).without verdict.index,t.target.byte,Torn t.history⟩) :
    Matched (BlockCopy.Move plan) (Session.copying env processed) (fun s => verdicts s.history) s t := by
  refine .inr ⟨verdict,?_,told⟩
  have rest : (t.copying env processed).pending = (s.copying env processed).without verdict.index := by
    ext j
    change _ ∧ _ ∧ j ∉ done t.history ↔ (_ ∧ _ ∧ j ∉ done s.history) ∧ j ≠ verdict.index
    rw [left,Multiset.mem_cons,not_or]
    tauto
  rw [← rest] at move
  exact move

theorem matched_reader (step : ReaderStep env source outcome s t) :
    Matched (BlockCopy.Move plan) (Session.copying env o.processed) (fun s => verdicts s.history) s t := by
  cases step with
  | read | unread => exact undecided rfl (by simp [Session.record,Session.reader,verdicts_cons,Event.verdict]) (torn_cons (by simp)) rfl
  | _ => exact undecided rfl rfl .rfl rfl

theorem Valid.matched_worker (valid : Valid env source o s) (pooled : Pooled env.config) (comparable : Comparable env)
    (step : WorkerStep env k s t) :
    Matched (BlockCopy.Move (sessionPlan env source o.previous)) (Session.copying env o.processed) (fun s => verdicts s.history) s t := by
  cases step with
  | hashed here same => exact undecided rfl (by simp [Session.record,Session.worker,verdicts_cons,Event.verdict]) (torn_cons (by simp)) rfl
  | unchanged here equal =>
      rename_i block
      obtain ⟨rest,held⟩ : ∃ rest, (s.flow env).hashed = block ::ₘ rest :=
        Multiset.exists_cons_of_mem (Slots.mem_gather.mpr ⟨_,Slots.present here,by simp⟩)
      refine decided rfl verdicts_cons ?_
      have same : Torn (.drop block.index::s.history) = Torn s.history := propext (torn_cons (by simp))
      refine same ▸ BlockCopy.Move.keep (valid.due (by simp [Flow.inFlight,held])) fun whole => .inl ?_
      have intact := valid.intact pooled whole
      obtain ⟨_,_,_,compared⟩ := intact.checksums.compare intact.carried held
      exact valid.previous ▸ (compared comparable).mp equal
  | _ => exact undecided rfl rfl .rfl rfl

theorem writer_flies (here : s.writerTask.pc = .write block ∨ s.writerTask.pc = .discard block) : block ∈ (s.flow env).inFlight := by
  rcases here with here | here <;> simp [Flow.inFlight,Session.flow,here]

theorem Valid.matched_writer (valid : Valid env source o s) (bounded : Bounded s) (pooled : Pooled env.config)
    (step : WriterStep env outcome s t) :
    Matched (BlockCopy.Move (sessionPlan env source o.previous)) (Session.copying env o.processed) (fun s => verdicts s.history) s t := by
  -- Only a writer that has not failed writes, and it has failed wherever a write has.
  have sane {block : VolumeConsumeBlock} (here : s.writerTask.pc = .write block) : ¬Torn s.history := fun torn => by
    have failed := (valid.writer.shown here (by simp) torn).1
    exact Bool.noConfusion (failed.symm.trans (bounded.working ⟨_,.inl here⟩))
  cases step with
  | written here needed done =>
      rename_i target block
      have carries := (valid.intact pooled (sane here)).carried block (writer_flies (.inl here))
      obtain ⟨some,_,_,rfl⟩ := write_some done
      have place : env.dataWriter.position block.volumeOffset = writePosition env block.index := by rw [carries.offset]; rfl
      rw [place]
      refine decided rfl verdicts_cons ?_
      have same : Torn (.write block.index block.volumeOffset (read s.pool block.ptr block.length) true::s.history) =
        Torn s.history := propext (torn_cons (by simp))
      refine same ▸ BlockCopy.Move.copy (valid.due (writer_flies (.inl here))) (sane here) ?_ ?_
      · rintro address ⟨lower,upper⟩
        rw [← carries.length] at upper
        change store s.target.byte (writePosition env block.index) block.length (fun k => s.pool (block.ptr+k)) address = _
        rw [store_inside lower upper]
        exact carries.bytes (address-writePosition env block.index) (by omega)
      · intro address outside
        refine Content.write_outside ?_
        rw [carries.length]
        by_contra inside
        exact outside ⟨by omega,by omega⟩
  | torn here needed failed =>
      rename_i part block
      have carries := (valid.intact pooled (sane here)).carried block (writer_flies (.inl here))
      have place : env.dataWriter.position block.volumeOffset = writePosition env block.index := by rw [carries.offset]; rfl
      rw [place]
      refine decided rfl verdicts_cons ?_
      refine eq_true torn_now ▸ BlockCopy.Move.spoil (valid.due (writer_flies (.inl here))) (sane here) ?_
      intro address outside
      refine Content.write_outside ?_
      have short := Nat.min_le_left block.length part.reach
      by_contra inside
      exact outside ⟨by omega,by rw [← carries.length]; omega⟩
  | empty here zeros =>
      rename_i block
      refine decided rfl verdicts_cons ?_
      have same : Torn (.skipEmpty block.index::s.history) = Torn s.history := propext (torn_cons (by simp))
      refine same ▸ BlockCopy.Move.keep (valid.due (writer_flies (.inl here))) fun whole => .inr ?_
      have carries := (valid.intact pooled whole).carried block (writer_flies (.inl here))
      obtain ⟨skip,clear⟩ := unneeded_zeros zeros
      refine ⟨skip,fun k bound => ?_⟩
      rw [← carries.length] at bound
      exact (carries.bytes k bound).symm.trans (clear k bound)
  | discarded here free =>
      rename_i allocator block
      refine decided rfl verdicts_cons ?_
      have same : Torn (.discard block.index::s.history) = Torn s.history := propext (torn_cons (by simp))
      exact same ▸ BlockCopy.Move.lose (valid.due (writer_flies (.inr here))) (valid.writer.discard _ here)
  | _ => exact undecided rfl rfl .rfl rfl

theorem Valid.matched (valid : Valid env source o s) (bounded : Bounded s) (pooled : Pooled env.config) (comparable : Comparable env)
    (step : Step env source s action t) :
    Matched (BlockCopy.Move (sessionPlan env source o.previous)) (Session.copying env o.processed) (fun s => verdicts s.history) s t := by
  cases action with
  | reader outcome => exact matched_reader step
  | worker k => exact valid.matched_worker pooled comparable step
  | writer outcome => exact valid.matched_writer bounded pooled step
  | start component =>
      cases (step : ControlStep env _ s t) with
      | _ => exact undecided rfl rfl .rfl rfl
  | pause paused =>
      cases (step : ControlStep env _ s t)
      exact undecided rfl rfl .rfl rfl
  | abort component | aborted component | aborting component =>
      cases (step : ControlStep env _ s t)
      cases component <;> exact undecided rfl rfl .rfl rfl

section runs
variable {context : BlockHashingContext} {processed written : Bitmap} {counter : SessionCounter} {target : Content}

-- However the threads of a session take turns, whatever fails and whoever aborts.
theorem session_refines (pooled : Pooled env.config) (comparable : Comparable env) (none : counter.blockesWriteFailed = 0)
    (room : env.config.m_maxIndex < processed.m_capacity*8 ∧ env.config.m_maxIndex < written.m_capacity*8)
    (path : Runs (sessionStep env source) Anything (.new env.config context processed written counter target) actions s) :
    Path (BlockCopy.Move (sessionPlan env source context.previousTable))
      ((Session.new env.config context processed written counter target).copying env processed) (verdicts s.history)
      (s.copying env processed) := by
  refine path.simulated (Session.copying env processed) (fun s => verdicts s.history)
    (fun s => Valid env source ((Session.new env.config context processed written counter target).flow env) s ∧ Bounded s) ⟨.new none,.new⟩ rfl ?_ ?_
  · intro s action t known ran _
    have step := sessionStep_sound ran
    exact ⟨known.1.step room step,known.2.step step⟩
  · intro s action t known ran _
    exact known.1.matched known.2 pooled comparable (sessionStep_sound ran)

-- The target at any time, also behind a write that failed, and nothing is left when the threads have done their part.
theorem session_traces (pooled : Pooled env.config) (comparable : Comparable env) (none : counter.blockesWriteFailed = 0)
    (room : env.config.m_maxIndex < processed.m_capacity*8 ∧ env.config.m_maxIndex < written.m_capacity*8)
    (path : Runs (sessionStep env source) Anything (.new env.config context processed written counter target) actions s) :
    BlockCopy.Traces (sessionPlan env source context.previousTable)
        ((Session.new env.config context processed written counter target).copying env processed) (verdicts s.history)
        (s.copying env processed) ∧
      (Finished env s → (s.copying env processed).pending = ∅) := by
  constructor
  · refine BlockCopy.traced_by ?_ ?_ (session_refines pooled comparable none room path)
    · rintro ⟨_,_,_,inside⟩
      cases inside
    · rintro i ⟨inside,_⟩ j ⟨within,_⟩ differ address ⟨lower,upper⟩ ⟨also,below⟩
      have apart : Apart (writePosition env i) (env.config.nBytesToRead i) (writePosition env j) (env.config.nBytesToRead j) :=
        blocks_apart differ inside within
      rcases apart with before | behind <;> omega
  · intro finished
    have valid : Valid env source _ s := Valid.run (.new none) room path
    refine Set.eq_empty_iff_forall_notMem.mpr ?_
    rintro index ⟨inside,fresh,left⟩
    rcases valid.all_done finished inside with done | ⟨checkpoint,marked⟩
    · exact left done
    · exact Bool.noConfusion ((fresh checkpoint).symm.trans marked)

end runs

-- The only write fails.
theorem session_refines_letter : ∃ s : Session, verdicts s.history = [.spoiled 0] ∧ Path (BlockCopy.Move (sessionPlan letterEnv letter zeros))
    (letterStart.copying letterEnv (.new letterEnv.config.TotalBlocks)) (verdicts s.history)
    (s.copying letterEnv (.new letterEnv.config.TotalBlocks)) := by
  have run : (execute (sessionStep letterEnv letter) (fun _ _ => true) letterStart failedWrite).any (fun s =>
      decide (verdicts s.history = [.spoiled 0])) = true := by decide +kernel
  obtain ⟨s,path,good⟩ := execute_ends (fun _ _ _ => trivial) run
  exact ⟨s,of_decide_eq_true good,session_refines ⟨by decide,by decide⟩ (fun _ => by decide) rfl ⟨by decide,by decide⟩ path⟩

theorem session_traces_letter : ∃ s : Session, verdicts s.history = [.copied 0] ∧
    BlockCopy.Traces (sessionPlan letterEnv letter zeros) (letterStart.copying letterEnv (.new letterEnv.config.TotalBlocks))
      (verdicts s.history) (s.copying letterEnv (.new letterEnv.config.TotalBlocks)) ∧
    (s.copying letterEnv (.new letterEnv.config.TotalBlocks)).pending = ∅ := by
  have run : (execute (sessionStep letterEnv letter) (fun _ _ => true) letterStart letterActions).any (fun s =>
      decide (verdicts s.history = [.copied 0] ∧ letterEnv.config.m_maxIndex < s.readerTask.m_currentIndex ∧ AllExited s ∧
        s.writeQueue.m_queue = [] ∧ s.writeQueue.m_finished = true ∧ s.hasherTask.task.m_abort = false)) = true := by decide +kernel
  obtain ⟨s,path,good⟩ := execute_ends (fun _ _ _ => trivial) run
  obtain ⟨copied,past,⟨reader,_,writer⟩,empty,finished,running⟩ := of_decide_eq_true good
  obtain ⟨traces,complete⟩ := session_traces ⟨by decide,by decide⟩ (fun _ => by decide) rfl ⟨by decide,by decide⟩ path
  exact ⟨s,copied,traces,complete ⟨past,.inr reader,.inr (.inr writer),⟨empty,finished⟩,running⟩⟩

end VolumeBackup
