import VolumeBackup.PipelineExactness

namespace VolumeBackup
open ByteMemory LabelledRuns

def WriteReturns (s : Session) : SessionAction → Prop
  | .writer outcome => ∀ block, s.writerTask.pc = .write block → outcome.isOk = true
  | _ => True

section marks
variable (env : SessionEnv) (source : Content)

def HoldsBlock (target : Content) (index : Nat) : Prop :=
  target.Holds (writePosition env index) (env.config.nBytesToRead index) source.byte (readPosition env index)

def InTarget (s : Session) (index : Nat) : Prop :=
  (∃ offset data, .write index offset data true ∈ s.history) ∧ HoldsBlock env source s.target index

def FoundUnchanged (previous : Memory) (s : Session) (index : Nat) : Prop :=
  .drop index ∈ s.history ∧ Unchanged env source previous index = true

end marks

variable {env : SessionEnv} {source : Content} {o f g : Flow} {s t m : Session}

theorem whole_step (step : Step env source s action t) (returns : WriteReturns s action) (whole : ¬Torn s.history) :
    ¬Torn t.history := by
  cases action with
  | reader outcome =>
      cases (step : ReaderStep env source outcome s t) with
      | read | unread => exact fun torn => whole ((torn_cons (by simp)).mp torn)
      | _ => exact whole
  | worker k =>
      cases (step : WorkerStep env k s t) with
      | hashed | unchanged => exact fun torn => whole ((torn_cons (by simp)).mp torn)
      | _ => exact whole
  | writer outcome =>
      cases (step : WriterStep env outcome s t) with
      | torn here needed failed => cases failed ▸ returns _ here
      | discarded | written | empty => exact fun torn => whole ((torn_cons (by simp)).mp torn)
      | _ => exact whole
  | start | pause =>
      cases (step : ControlStep env _ s t) <;> exact whole
  | abort component | aborted component | aborting component =>
      cases (step : ControlStep env _ s t)
      cases component <;> exact whole

theorem FlowStep.bits (step : FlowStep env source f g) : (∀ index, f.processed.Test index = true → g.processed.Test index = true) ∧
    (∀ index, f.written.Test index = true → g.written.Test index = true) := by
  cases step with
  | read chosen held made done =>
      unfold Flow.accept
      split <;> exact ⟨fun _ => id,fun _ => id⟩
  | hash held same =>
      unfold Flow.forward
      split <;> exact ⟨fun _ => id,fun _ => id⟩
  | settle held => exact ⟨fun _ => test_set_mono,fun _ => id⟩
  | record held => exact ⟨fun _ => id,fun _ => test_set_mono⟩
  | _ => exact ⟨fun _ => id,fun _ => id⟩

theorem Sound.bits (sound : Sound env source o s) (step : Step env source s action t) :
    (∀ index, s.processedBitmap.Test index = true → t.processedBitmap.Test index = true) ∧
    (∀ index, s.writtenBitmap.Test index = true → t.writtenBitmap.Test index = true) := by
  rcases s.flow_step sound.order sound.known step with same | moved
  · have processed : t.processedBitmap = s.processedBitmap := congrArg Flow.processed same
    have written : t.writtenBitmap = s.writtenBitmap := congrArg Flow.written same
    rw [processed,written]
    exact ⟨fun _ => id,fun _ => id⟩
  · exact moved.bits

structure Marked (env : SessionEnv) (source : Content) (o : Flow) (s : Session) : Prop where
  sound : Sound env source o s
  whole : ¬Torn s.history

theorem Marked.step (marked : Marked env source o s) (roomy : Roomy env o) (step : Step env source s action t)
    (returns : WriteReturns s action) : Marked env source o t :=
  ⟨marked.sound.step roomy step,whole_step step returns marked.whole⟩

theorem Marked.run (marked : Marked env source o s) (roomy : Roomy env o)
    (path : Runs (sessionStep env source) WriteReturns s actions t) : Marked env source o t :=
  path.invariant (Marked env source o) marked fun _ _ _ known ran returns => known.step roomy (sessionStep_sound ran) returns

theorem Marked.bits (marked : Marked env source o s) (roomy : Roomy env o)
    (path : Runs (sessionStep env source) WriteReturns s actions t) :
    (∀ index, s.processedBitmap.Test index = true → t.processedBitmap.Test index = true) ∧
    (∀ index, s.writtenBitmap.Test index = true → t.writtenBitmap.Test index = true) := by
  have both := path.invariant (fun x => Marked env source o x ∧
    (∀ index, s.processedBitmap.Test index = true → x.processedBitmap.Test index = true) ∧
    (∀ index, s.writtenBitmap.Test index = true → x.writtenBitmap.Test index = true))
    ⟨marked,fun _ => id,fun _ => id⟩ fun _ _ _ known ran returns => by
      have step := sessionStep_sound ran
      have more := known.1.sound.bits step
      exact ⟨known.1.step roomy step returns,fun index set => more.1 index (known.2.1 index set),
        fun index set => more.2 index (known.2.2 index set)⟩
  exact both.2

section meaning
variable (marked : Marked env source o s) (pooled : Pooled env.config) (plain : env.config.skipEmptyBlock = false)
include marked pooled plain

theorem Marked.recorded (left : index ∈ recorded s.history) : InTarget env source s index := by
  have intact := marked.sound.intact pooled marked.whole
  obtain ⟨event,present,same⟩ := List.mem_filterMap.mp left
  cases event with
  | skipEmpty other => cases plain.symm.trans (intact.stored.empty other present).1
  | write other offset data ok =>
      cases Option.some.inj same
      cases ok with
      | false => exact absurd ⟨_,_,_,present⟩ marked.whole
      | true => exact ⟨⟨offset,data,present⟩,(intact.stored.written index offset data present).2.2.2⟩
  | _ => cases same

theorem Marked.settled (comparable : Comparable env) (left : index ∈ settled s.history) :
    InTarget env source s index ∨ FoundUnchanged env source o.previous s index := by
  have intact := marked.sound.intact pooled marked.whole
  rcases settled_cases left with drop | empty | ⟨offset,data,ok,wrote⟩
  · obtain ⟨enabled,diff,equal⟩ := intact.checksums.dropped comparable index drop
    have same : entry o.previous index = blockDigest env source index := marked.sound.previous ▸ equal
    exact .inr ⟨drop,by simp [Unchanged,enabled,diff,same]⟩
  · cases plain.symm.trans (intact.stored.empty index empty).1
  · exact .inl (marked.recorded pooled plain (write_recorded wrote))

end meaning

-- A block that the target held is still held: other blocks lie apart, and a write of its own is the same bytes.
theorem Marked.keeps (marked : Marked env source o s) (pooled : Pooled env.config)
    (inside : index ≤ env.config.m_maxIndex) (held : HoldsBlock env source o.target index) :
    HoldsBlock env source s.target index := by
  have stored := (marked.sound.intact pooled marked.whole).stored
  by_cases mine : ∃ offset data, .write index offset data true ∈ s.history
  · obtain ⟨offset,data,wrote⟩ := mine
    exact (stored.written index offset data wrote).2.2.2
  · refine ⟨Nat.le_trans held.1 stored.larger,fun k bound => (stored.elsewhere _ ?_).trans (held.2 k bound)⟩
    rintro other offset data (_ | _) wrote
    · exact absurd ⟨_,_,_,wrote⟩ marked.whole
    · have differ : other ≠ index := fun same => mine ⟨offset,data,same ▸ wrote⟩
      have within := marked.sound.tokens.inside other (marked.sound.tokens.done_read (write_done wrote))
      have apart : Apart (writePosition env other) (env.config.nBytesToRead other) (writePosition env index)
          (env.config.nBytesToRead index) := blocks_apart differ within inside
      rcases apart with before | behind
      · exact .inr (by omega)
      · exact .inl (by omega)

section session
variable {context : BlockHashingContext} {processed written : Bitmap} {counter : SessionCounter} {target : Content}

theorem roomy_capacity (first : processed.m_capacity = (Bitmap.new env.config.TotalBlocks).m_capacity)
    (second : written.m_capacity = (Bitmap.new env.config.TotalBlocks).m_capacity) :
    Roomy env ((Session.new env.config context processed written counter target).flow env) := by
  have room : Roomy env ((Session.new env.config context _ _ counter target).flow env) := roomy_new
  exact ⟨first ▸ room.1,second ▸ room.2⟩

-- While every Write returns true, a bit that is set, or was set in a snapshot taken earlier, was in the
-- bitmap that the session began with, or its block is in the target or was found unchanged. What the
-- target held of the session when it began, it still holds.
theorem processed_mark (plain : env.config.skipEmptyBlock = false) (pooled : Pooled env.config) (comparable : Comparable env)
    (first : processed.m_capacity = (Bitmap.new env.config.TotalBlocks).m_capacity)
    (second : written.m_capacity = (Bitmap.new env.config.TotalBlocks).m_capacity)
    (past : Runs (sessionStep env source) WriteReturns (.new env.config context processed written counter target) actions m)
    (rest : Runs (sessionStep env source) WriteReturns m later s) :
    (∀ index, m.processedBitmap.Test index = true → processed.Test index = true ∨ InTarget env source s index ∨
      FoundUnchanged env source context.previousTable s index) ∧
    (∀ index, m.writtenBitmap.Test index = true → written.Test index = true ∨ InTarget env source s index) ∧
    (∀ index ≤ env.config.m_maxIndex, HoldsBlock env source target index → HoldsBlock env source s.target index) := by
  have roomy : Roomy env ((Session.new env.config context processed written counter target).flow env) :=
    roomy_capacity first second
  have start : Marked env source _ (.new env.config context processed written counter target) := ⟨Sound.new,nofun⟩
  have taken := start.run roomy past
  have marked := taken.run roomy rest
  have kept := taken.bits roomy rest
  refine ⟨?_,?_,fun index inside held => marked.keeps pooled inside held⟩
  · intro index set
    exact (marked.sound.marks.processed.justified index (kept.1 index set)).imp_right
      fun left => marked.settled pooled plain comparable left
  · intro index set
    exact (marked.sound.marks.written.justified index (kept.2 index set)).imp_right
      fun left => marked.recorded pooled plain left

end session

instance : Decidable (WriteReturns s action) :=
  match action with
  | .writer outcome =>
    match here : s.writerTask.pc with
    | .write block => decidable_of_iff (outcome.isOk = true) (by simp [WriteReturns,here])
    | .notStarted | .check | .pop | .discard _ | .failed _ | .markWritten _ | .markProcessed _ | .free _ | .terminate _
    | .review | .revise | .exited => isTrue (by simp [WriteReturns,here])
  | .reader _ | .worker _ | .start _ | .pause _ | .abort _ | .aborted _ | .aborting _ => isTrue trivial

theorem processed_mark_letter : ∃ s, s.processedBitmap.Test 0 = true ∧ InTarget letterEnv letter s 0 := by
  have run : (execute (sessionStep letterEnv letter) (fun s action => decide (WriteReturns s action)) letterStart letterActions).any
      (fun s => decide (s.processedBitmap.Test 0 = true ∧ s.writtenBitmap.Test 0 = true)) = true := by decide +kernel
  obtain ⟨s,path,good⟩ := execute_ends (fun _ _ => of_decide_eq_true) run
  obtain ⟨marked,written⟩ := of_decide_eq_true good
  have mark := processed_mark rfl ⟨by decide,by decide⟩ (fun _ => by decide) rfl rfl path .nil
  have fresh : ¬(Bitmap.new letterEnv.config.TotalBlocks).Test 0 = true := by decide +kernel
  exact ⟨s,marked,(mark.2.1 0 written).resolve_left fresh⟩

-- A Write that returns false is followed by the lines that set both bits.
def lostActions : List SessionAction :=
  [.start .readerTask,.start .hasherTask,.start .writerTask]++.replicate 7 (.reader .ok)++.replicate 6 (.worker 0)++
    .replicate 5 (.writer (.fail ⟨fun _ => false,0⟩))++[.writer .ok]

theorem mark_without_write : ¬∀ s, Reached (sessionStep letterEnv letter) Anything letterStart s → ∀ index,
    s.processedBitmap.Test index = true → InTarget letterEnv letter s index ∨ FoundUnchanged letterEnv letter zeros s index := by
  intro always
  have run : (execute (sessionStep letterEnv letter) (fun _ _ => true) letterStart lostActions).any (fun s =>
      decide (s.processedBitmap.Test 0 = true ∧ s.target.byte 0 = 0)) = true := by decide +kernel
  obtain ⟨s,path,good⟩ := execute_ends (fun _ _ _ => trivial) run
  obtain ⟨marked,zero⟩ := of_decide_eq_true good
  rcases always s ⟨_,path⟩ 0 marked with ⟨_,_,same⟩ | found
  · cases zero.symm.trans (same 0 (by decide +kernel))
  · have changed : Unchanged letterEnv letter zeros 0 ≠ true := by decide +kernel
    exact changed found.2

end VolumeBackup
