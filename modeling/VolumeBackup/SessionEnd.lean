import VolumeBackup.SessionOutcome

namespace VolumeBackup
open ByteMemory LabelledRuns

structure Valid (env : SessionEnv) (source : Content) (o : Flow) (s : Session) : Prop extends Sound env source o s where
  reader : ReaderOutcome env s
  writer : WriterOutcome s

variable {env : SessionEnv} {source : Content} {o : Flow} {s t : Session}

theorem Valid.step (valid : Valid env source o s) (roomy : Roomy env o) (step : Step env source s action t) :
    Valid env source o t :=
  {valid.toSound.step roomy step with reader := valid.reader.step step,writer := valid.writer.step valid.known step}

theorem Valid.run (valid : Valid env source o s) (roomy : Roomy env o)
    (path : Runs (sessionStep env source) allowed s actions t) : Valid env source o t :=
  path.invariant (Valid env source o) valid fun _ _ _ known ran _ => known.step roomy (sessionStep_sound ran)

theorem Valid.new {context : BlockHashingContext} {processed written : Bitmap} {counter : SessionCounter} {target : Content}
    (none : counter.blockesWriteFailed = 0) :
    Valid env source ((Session.new env.config context processed written counter target).flow env)
      (.new env.config context processed written counter target) :=
  {Sound.new with reader := .new,writer := .new none}

-- The threads have done their part: the reader is past the last block, the writer has found its queue
-- drained and left the loop, and no abort has stopped the workers.
structure Finished (env : SessionEnv) (s : Session) : Prop where
  past : env.config.m_maxIndex < s.readerTask.m_currentIndex
  reader : s.readerTask.pc = .finish ∨ s.readerTask.pc = .exited
  writer : s.writerTask.pc = .review ∨ s.writerTask.pc = .revise ∨ s.writerTask.pc = .exited
  drained : s.writeQueue.Drained
  hasher : s.hasherTask.task.m_abort = false

theorem Finished.of_status (valid : Valid env source o s) (reader : s.readerTask.task.m_status = .SUCCEED)
    (writer : s.writerTask.task.m_status = .SUCCEED) (hasher : s.hasherTask.task.m_abort = false) : Finished env s where
  past := (valid.reader.succeeded reader).2
  reader := (valid.reader.succeeded reader).1
  writer := (valid.writer.succeeded writer).1
  drained := (valid.writer.succeeded writer).2
  hasher := hasher

theorem Valid.idle (valid : Valid env source o s) (drained : s.writeQueue.Drained) (running : s.hasherTask.task.m_abort = false) :
    (∀ pc ∈ s.hasherTask.m_workers, pc.busy = false) ∧ s.hashingQueue.m_queue = [] := by
  cases enabled : env.config.hasherEnabled with
  | false =>
      rw [valid.order.unused enabled]
      exact ⟨nofun,valid.known.plain enabled⟩
  | true =>
      obtain ⟨_,idle,ended⟩ := valid.order.closed enabled (.inl drained.2)
      rcases ended with drained | ⟨abort,_⟩
      · exact ⟨idle,drained.1⟩
      · cases running.symm.trans abort

theorem Valid.hasher_idle (valid : Valid env source o s) (finished : Finished env s) :
    (∀ pc ∈ s.hasherTask.m_workers, pc.busy = false) ∧ s.hashingQueue.m_queue = [] := valid.idle finished.drained finished.hasher

theorem idle_gather {β : Type} {workers : List WorkerPc} (idle : ∀ pc ∈ workers, pc.busy = false)
    (holds : WorkerPc → Multiset β) (none : ∀ pc : WorkerPc, pc.busy = false → holds pc = 0) :
    Slots.gather holds workers = 0 := Slots.gather_zero fun pc inside => none pc (idle pc inside)

structure Empty (f : Flow) : Prop where
  inFlight : f.inFlight = 0
  loose : f.loose = 0
  settling : f.settling = 0
  recording : f.recording = 0

theorem Valid.empty (valid : Valid env source o s) (finished : Finished env s) : Empty (s.flow env) := by
  obtain ⟨idle,queue⟩ := valid.hasher_idle finished
  have unhashed := idle_gather idle WorkerPc.unhashed fun pc none => by cases pc <;> first | rfl | cases none
  have hashed := idle_gather idle WorkerPc.hashed fun pc none => by cases pc <;> first | rfl | cases none
  have unwritten := idle_gather idle WorkerPc.unwritten fun pc none => by cases pc <;> first | rfl | cases none
  have loose := idle_gather idle WorkerPc.loose fun pc none => by cases pc <;> first | rfl | cases none
  have settling := idle_gather idle WorkerPc.settling fun pc none => by cases pc <;> first | rfl | cases none
  have reader : s.readerTask.pc.block = 0 ∧ s.readerTask.pc.loose = 0 := by
    rcases finished.reader with here | here <;> rw [here] <;> exact ⟨rfl,rfl⟩
  have writer : s.writerTask.pc.unwritten = 0 ∧ s.writerTask.pc.loose = 0 ∧ s.writerTask.pc.settling = 0 ∧
      s.writerTask.pc.recording = 0 := by
    rcases finished.writer with here | here | here <;> rw [here] <;> exact ⟨rfl,rfl,rfl,rfl⟩
  refine ⟨?_,?_,?_,?_⟩
  · simp only [Flow.inFlight,Session.flow,unhashed,hashed,unwritten,reader.1,writer.1,queue,finished.drained.1]
    simp
  · simp only [Session.flow,loose,reader.2,writer.2.1,add_zero]
  · simp only [Session.flow,settling,writer.2.2.1,add_zero]
  · exact writer.2.2.2

theorem Finished.progress (finished : Finished env s) : (s.flow env).progress = s.readerTask.m_currentIndex := by
  show s.readerTask.progress = _
  unfold VolumeBlockReader.progress
  rcases finished.reader with here | here <;> rw [here]

theorem Valid.all_done (valid : Valid env source o s) (finished : Finished env s) (inside : index ≤ env.config.m_maxIndex) :
    index ∈ done s.history ∨ env.config.checkpointEnabled = true ∧ o.processed.Test index = true := by
  have below : index < (s.flow env).progress := by
    rw [finished.progress]
    exact Nat.lt_of_le_of_lt inside finished.past
  refine (valid.coverage.covered index below).imp_left fun read => ?_
  have count := valid.tokens.count
  rw [(valid.empty finished).inFlight,Multiset.map_zero,Multiset.zero_add] at count
  exact count.symm ▸ read

theorem done_cases (left : index ∈ done history) (kept : ¬Discarded history) : index ∈ settled history := by
  obtain ⟨event,present,same⟩ := List.mem_filterMap.mp (Multiset.mem_coe.mp left)
  refine List.mem_filterMap.mpr ⟨event,present,?_⟩
  cases event <;> first | exact same | exact absurd ⟨_,present⟩ kept

theorem settled_cases (left : index ∈ settled history) : .drop index ∈ history ∨ .skipEmpty index ∈ history ∨
    ∃ offset data ok, .write index offset data ok ∈ history := by
  obtain ⟨event,present,same⟩ := List.mem_filterMap.mp left
  cases event with
  | drop => cases Option.some.inj same; exact .inl present
  | skipEmpty => cases Option.some.inj same; exact .inr (.inl present)
  | write => cases Option.some.inj same; exact .inr (.inr ⟨_,_,_,present⟩)
  | read | hash | discard => cases same

theorem Valid.all_settled (valid : Valid env source o s) (whole : ¬Torn s.history) (left : index ∈ done s.history) :
    .drop index ∈ s.history ∨ .skipEmpty index ∈ s.history ∨ ∃ offset data, .write index offset data true ∈ s.history := by
  refine (settled_cases (done_cases left fun some => whole (valid.writer.discarded some))).imp_right
    fun rest => rest.imp_right ?_
  rintro ⟨offset,data,ok,wrote⟩
  cases ok with
  | true => exact ⟨offset,data,wrote⟩
  | false => exact absurd ⟨_,_,_,wrote⟩ whole

end VolumeBackup
