import VolumeBackup.SessionInvariant

namespace VolumeBackup
open ByteMemory LabelledRuns

variable {env : SessionEnv} {source : Content} {o : Flow} {s t : Session} {event : Event} {history : List Event}

theorem kind_cons {kind : Nat → Event} (other : ∀ index, event ≠ kind index) :
    (∃ index, kind index ∈ event::history) ↔ ∃ index, kind index ∈ history := by
  constructor
  · rintro ⟨index,inside⟩
    exact ⟨index,(List.mem_cons.mp inside).resolve_left (other index).symm⟩
  · rintro ⟨index,inside⟩
    exact ⟨index,List.mem_cons_of_mem _ inside⟩

theorem unread_cons (other : ∀ index, event ≠ .read index false) : Unread (event::history) ↔ Unread history := kind_cons other

theorem torn_cons (other : ∀ index offset data, event ≠ .write index offset data false) :
    Torn (event::history) ↔ Torn history := by
  constructor
  · rintro ⟨index,offset,data,inside⟩
    rcases List.mem_cons.mp inside with same | earlier
    · exact absurd same.symm (other index offset data)
    · exact ⟨index,offset,data,earlier⟩
  · exact Torn.cons

def Event.lost : Event → Bool
  | .write _ _ _ ok => !ok
  | _ => false

instance : Decidable (Torn history) := decidable_of_iff (∃ event ∈ history, event.lost = true) (by
  constructor
  · rintro ⟨event,inside,lost⟩
    cases event with
    | write index offset data ok =>
        cases ok with
        | false => exact ⟨_,_,_,inside⟩
        | true => cases lost
    | _ => cases lost
  · rintro ⟨index,offset,data,inside⟩
    exact ⟨_,inside,rfl⟩)

theorem torn_now : Torn (.write index offset data false::history) := ⟨_,_,_,List.mem_cons_self⟩

-- A reader that reports success has handed on or passed over every block, and has failed at none.
structure ReaderOutcome (env : SessionEnv) (s : Session) : Prop where
  past : s.readerTask.pc = .terminate .SUCCEED → env.config.m_maxIndex < s.readerTask.m_currentIndex
  succeeded : s.readerTask.task.m_status = .SUCCEED →
    (s.readerTask.pc = .finish ∨ s.readerTask.pc = .exited) ∧ env.config.m_maxIndex < s.readerTask.m_currentIndex
  unread : Unread s.history → s.readerTask.pc = .terminate .FAILED ∨
    (s.readerTask.pc = .finish ∨ s.readerTask.pc = .exited) ∧ s.readerTask.task.m_status ≠ .SUCCEED

theorem ReaderOutcome.frame (outcome : ReaderOutcome env s) (reader : t.readerTask = s.readerTask)
    (history : Unread t.history → Unread s.history) : ReaderOutcome env t := by
  refine ⟨?_,?_,?_⟩
  · rw [reader]; exact outcome.past
  · rw [reader]; exact outcome.succeeded
  · rw [reader]; exact fun unread => outcome.unread (history unread)

theorem ReaderOutcome.loop (outcome : ReaderOutcome env s) (loop : ∀ status, s.readerTask.pc ≠ .terminate status)
    (live : s.readerTask.pc ≠ .finish) (here : s.readerTask.pc ≠ .exited) :
    s.readerTask.task.m_status ≠ .SUCCEED ∧ ¬Unread s.history := by
  refine ⟨fun done => ?_,fun unread => ?_⟩
  · rcases (outcome.succeeded done).1 with same | same <;> contradiction
  · rcases outcome.unread unread with same | ⟨same | same,_⟩
    · exact loop _ same
    · exact live same
    · exact here same

theorem ReaderOutcome.reader (outcome : ReaderOutcome env s) (step : ReaderStep env source result s t) :
    ReaderOutcome env t := by
  have loop {pc : ReaderPc} (here : s.readerTask.pc = pc) (live : ∀ status, pc ≠ .terminate status)
      (unfinished : pc ≠ .finish) (present : pc ≠ .exited) :=
    outcome.loop (fun status same => live status (here.symm.trans same)) (fun same => unfinished (here.symm.trans same))
      (fun same => present (here.symm.trans same))
  cases step with
  | begin here | stopped here | aborted here | goOn here | paused here | unpaused here | skipped here | needed here
  | fetched here | timeout here | pushHashing here | pushWrite here =>
      obtain ⟨running,clean⟩ := loop here nofun nofun nofun
      exact ⟨nofun,fun done => absurd done running,fun unread => absurd unread clean⟩
  | completed here past =>
      obtain ⟨running,clean⟩ := loop here nofun nofun nofun
      exact ⟨fun _ => past,fun done => absurd done running,fun unread => absurd unread clean⟩
  | retried here => exact outcome
  | read here same done =>
      obtain ⟨running,clean⟩ := loop here nofun nofun nofun
      exact ⟨nofun,fun done => absurd done running,fun unread => absurd ((unread_cons (by simp)).mp unread) clean⟩
  | unread here same =>
      obtain ⟨running,clean⟩ := loop here nofun nofun nofun
      exact ⟨nofun,fun done => absurd done running,fun _ => .inl rfl⟩
  | terminate here =>
      rename_i status
      refine ⟨nofun,?_,?_⟩
      · rintro rfl
        exact ⟨.inl rfl,outcome.past here⟩
      · intro unread
        rcases outcome.unread unread with same | ⟨same | same,_⟩
        · cases here.symm.trans same
          exact .inr ⟨.inl rfl,nofun⟩
        · cases here.symm.trans same
        · cases here.symm.trans same
  | finishHashing here hasher | finishWrite here plain =>
      refine ⟨nofun,fun done => ⟨.inr rfl,(outcome.succeeded done).2⟩,fun unread => ?_⟩
      rcases outcome.unread unread with same | ⟨_,status⟩
      · cases here.symm.trans same
      · exact .inr ⟨.inr rfl,status⟩

theorem ReaderOutcome.control (outcome : ReaderOutcome env s) (step : ControlStep env action s t) : ReaderOutcome env t := by
  cases step with
  | startReader here =>
      have clean := (outcome.loop (by simp [here]) (by simp [here]) (by simp [here])).2
      exact ⟨nofun,nofun,fun unread => absurd unread clean⟩
  | pause paused => exact ⟨outcome.past,outcome.succeeded,outcome.unread⟩
  | abort component => cases component <;> exact ⟨outcome.past,outcome.succeeded,outcome.unread⟩
  | aborted component | aborting component =>
      cases component with
      | readerTask => exact ⟨outcome.past,nofun,fun unread => (outcome.unread unread).imp_right fun known => ⟨known.1,nofun⟩⟩
      | hasherTask | writerTask => exact ⟨outcome.past,outcome.succeeded,outcome.unread⟩
  | _ => exact ⟨outcome.past,outcome.succeeded,outcome.unread⟩

theorem ReaderOutcome.step (outcome : ReaderOutcome env s) (step : Step env source s action t) :
    ReaderOutcome env t := by
  cases action with
  | reader result => exact outcome.reader step
  | worker k =>
      cases (step : WorkerStep env k s t) with
      | hashed | unchanged => exact outcome.frame rfl (unread_cons (by simp)).mp
      | _ => exact outcome.frame rfl id
  | writer result =>
      cases (step : WriterStep env result s t) with
      | discarded | written | torn | empty => exact outcome.frame rfl (unread_cons (by simp)).mp
      | _ => exact outcome.frame rfl id
  | start | pause | abort | aborted | aborting => exact outcome.control step

def Discarded (history : List Event) : Prop := ∃ index, .discard index ∈ history

theorem discarded_cons (other : ∀ index, event ≠ .discard index) : Discarded (event::history) ↔ Discarded history := kind_cons other

-- The writer publishes SUCCEED once the queue is drained, and takes it back where a write has failed.
structure WriterOutcome (s : Session) : Prop where
  past : s.writerTask.pc = .terminate .SUCCEED → s.writeQueue.Drained
  succeeded : s.writerTask.task.m_status = .SUCCEED →
    (s.writerTask.pc = .review ∨ s.writerTask.pc = .revise ∨ s.writerTask.pc = .exited) ∧ s.writeQueue.Drained
  torn : Torn s.history → (∃ block, s.writerTask.pc = .failed block) ∨
    s.writerTask.task.m_failed = true ∧ s.counter.blockesWriteFailed ≠ 0
  counted : s.counter.blockesWriteFailed ≠ 0 → Torn s.history
  failed : s.writerTask.task.m_failed = true → Torn s.history
  discard : ∀ block, s.writerTask.pc = .discard block → Torn s.history
  discarded : Discarded s.history → Torn s.history
  final : s.writerTask.pc = .exited → s.writerTask.task.m_status = .SUCCEED → s.counter.blockesWriteFailed = 0

theorem WriterOutcome.frame (outcome : WriterOutcome s) (writer : t.writerTask = s.writerTask)
    (counter : t.counter.blockesWriteFailed = s.counter.blockesWriteFailed)
    (queue : s.writeQueue.Drained → t.writeQueue.Drained) (history : Torn t.history ↔ Torn s.history)
    (discards : Discarded t.history → Discarded s.history) : WriterOutcome t := by
  refine ⟨?_,?_,?_,?_,?_,?_,?_,?_⟩
  · rw [writer]; exact fun past => queue (outcome.past past)
  · rw [writer]; exact fun done => (outcome.succeeded done).imp_right queue
  · rw [writer,history,counter]; exact outcome.torn
  · rw [history,counter]; exact outcome.counted
  · rw [writer,history]; exact outcome.failed
  · rw [writer,history]; exact outcome.discard
  · rw [history]; exact fun some => outcome.discarded (discards some)
  · rw [writer,counter]; exact outcome.final

theorem drained_push {queue next : BlockingQueue} (pushed : queue.BlockingPush block = some next)
    (drained : queue.Drained) : next.Drained := by
  rw [push_drained pushed drained]
  exact drained

theorem WriterOutcome.reader (outcome : WriterOutcome s) (step : ReaderStep env source result s t) : WriterOutcome t := by
  cases step with
  | read here same done | unread here same =>
      exact outcome.frame rfl rfl id (torn_cons (by simp)) (discarded_cons (by simp)).mp
  | pushWrite here plain pushed => exact outcome.frame rfl rfl (drained_push pushed) .rfl id
  | finishWrite here plain => exact outcome.frame rfl rfl (fun drained => ⟨drained.1,rfl⟩) .rfl id
  | _ => exact outcome.frame rfl rfl id .rfl id

theorem WriterOutcome.worker (outcome : WriterOutcome s) (step : WorkerStep env k s t) : WriterOutcome t := by
  cases step with
  | hashed here same | unchanged here equal =>
      exact outcome.frame rfl rfl id (torn_cons (by simp)) (discarded_cons (by simp)).mp
  | pushed here push => exact outcome.frame rfl rfl (drained_push push) .rfl id
  | finish here => exact outcome.frame rfl rfl (fun drained => ⟨drained.1,rfl⟩) .rfl id
  | _ => exact outcome.frame rfl rfl id .rfl id

theorem WriterOutcome.control (outcome : WriterOutcome s) (step : ControlStep env action s t) : WriterOutcome t := by
  cases step with
  | startWriter here =>
      refine ⟨nofun,nofun,?_,outcome.counted,outcome.failed,nofun,outcome.discarded,nofun⟩
      intro torn
      refine (outcome.torn torn).imp_left ?_
      rintro ⟨block,same⟩
      cases here.symm.trans same
  | aborted component | aborting component =>
      cases component with
      | writerTask =>
          exact ⟨outcome.past,nofun,outcome.torn,outcome.counted,outcome.failed,outcome.discard,outcome.discarded,nofun⟩
      | readerTask | hasherTask => exact outcome.frame rfl rfl id .rfl id
  | abort component =>
      cases component with
      | writerTask =>
          exact ⟨outcome.past,outcome.succeeded,outcome.torn,outcome.counted,outcome.failed,outcome.discard,
            outcome.discarded,outcome.final⟩
      | readerTask | hasherTask => exact outcome.frame rfl rfl id .rfl id
  | _ => exact outcome.frame rfl rfl id .rfl id

theorem WriterOutcome.loop (outcome : WriterOutcome s) (here : s.writerTask.pc = pc) (review : pc ≠ .review)
    (revise : pc ≠ .revise) (exited : pc ≠ .exited) : s.writerTask.task.m_status ≠ .SUCCEED := by
  subst here
  intro done
  rcases (outcome.succeeded done).1 with same | same | same
  · exact review same
  · exact revise same
  · exact exited same

theorem WriterOutcome.shown (outcome : WriterOutcome s) (here : s.writerTask.pc = pc) (elsewhere : ∀ block, pc ≠ .failed block)
    (torn : Torn s.history) : s.writerTask.task.m_failed = true ∧ s.counter.blockesWriteFailed ≠ 0 := by
  subst here
  refine (outcome.torn torn).resolve_left ?_
  rintro ⟨block,same⟩
  exact elsewhere block same

theorem WriterOutcome.writer (outcome : WriterOutcome s) (known : Local env s) (step : WriterStep env result s t) :
    WriterOutcome t := by
  cases step with
  | aborted here | goOn here | markWritten here | markProcessed here | freed here =>
      have running := outcome.loop here nofun nofun nofun
      exact ⟨nofun,fun done => absurd done running,fun torn => .inr (outcome.shown here nofun torn),outcome.counted,
        outcome.failed,nofun,outcome.discarded,nofun⟩
  | drained here empty finished =>
      have running := outcome.loop here nofun nofun nofun
      exact ⟨fun _ => ⟨empty,finished⟩,fun done => absurd done running,fun torn => .inr (outcome.shown here nofun torn),
        outcome.counted,outcome.failed,nofun,outcome.discarded,nofun⟩
  | taken here first working =>
      have running := outcome.loop here nofun nofun nofun
      exact ⟨nofun,fun done => absurd done running,fun torn => .inr (outcome.shown here nofun torn),outcome.counted,
        outcome.failed,nofun,outcome.discarded,nofun⟩
  | refused here first failed =>
      have running := outcome.loop here nofun nofun nofun
      exact ⟨nofun,fun done => absurd done running,fun torn => .inr (outcome.shown here nofun torn),outcome.counted,
        outcome.failed,fun _ _ => outcome.failed failed,outcome.discarded,nofun⟩
  | discarded here free =>
      have running := outcome.loop here nofun nofun nofun
      have torn := outcome.discard _ here
      exact ⟨nofun,fun done => absurd done running,
        fun _ => .inr ⟨(outcome.shown here nofun torn).1,Nat.succ_ne_zero _⟩,
        fun _ => torn.cons,fun _ => torn.cons,nofun,fun _ => torn.cons,nofun⟩
  | written here needed done | empty here zeros =>
      have running := outcome.loop here nofun nofun nofun
      refine ⟨nofun,fun done => absurd done running,fun torn => .inr (outcome.shown here nofun ?_),
        fun some => (outcome.counted some).cons,fun failed => (outcome.failed failed).cons,nofun,?_,nofun⟩
      · exact (torn_cons (by simp)).mp torn
      · exact fun some => (outcome.discarded ((discarded_cons (by simp)).mp some)).cons
  | torn here needed =>
      have running := outcome.loop here nofun nofun nofun
      exact ⟨nofun,fun done => absurd done running,fun _ => .inl ⟨_,rfl⟩,fun _ => torn_now,fun _ => torn_now,nofun,
        fun _ => torn_now,nofun⟩
  | failed here free =>
      have running := outcome.loop here nofun nofun nofun
      have torn := known.torn here
      exact ⟨nofun,fun done => absurd done running,fun _ => .inr ⟨rfl,Nat.succ_ne_zero _⟩,fun _ => torn,fun _ => torn,
        nofun,fun _ => torn,nofun⟩
  | terminate here =>
      refine ⟨nofun,?_,fun torn => .inr (outcome.shown here nofun torn),outcome.counted,outcome.failed,nofun,
        outcome.discarded,nofun⟩
      rintro rfl
      exact ⟨.inl rfl,outcome.past here⟩
  | provisional here failed =>
      exact ⟨nofun,fun done => ⟨.inr (.inl rfl),(outcome.succeeded done).2⟩,fun torn => .inr (outcome.shown here nofun torn),
        outcome.counted,outcome.failed,nofun,outcome.discarded,nofun⟩
  | reviewed here final =>
      exact ⟨nofun,fun done => ⟨.inr (.inr rfl),(outcome.succeeded done).2⟩,fun torn => .inr (outcome.shown here nofun torn),
        outcome.counted,outcome.failed,nofun,outcome.discarded,fun _ => final⟩
  | revised here =>
      exact ⟨nofun,nofun,fun torn => .inr (outcome.shown here nofun torn),
        outcome.counted,outcome.failed,nofun,outcome.discarded,nofun⟩

theorem WriterOutcome.step (outcome : WriterOutcome s) (known : Local env s) (step : Step env source s action t) :
    WriterOutcome t := by
  cases action with
  | reader result => exact outcome.reader step
  | worker k => exact outcome.worker step
  | writer result => exact outcome.writer known step
  | start | pause | abort | aborted | aborting => exact outcome.control step

section start
variable {config : VolumeTaskSharedConfig} {context : BlockHashingContext} {processed written : Bitmap}
  {target : Content}

theorem ReaderOutcome.new {counter : SessionCounter} :
    ReaderOutcome env (.new config context processed written counter target) := ⟨nofun,nofun,nofun⟩

theorem WriterOutcome.new {counter : SessionCounter} (none : counter.blockesWriteFailed = 0) :
    WriterOutcome (.new config context processed written counter target) :=
  ⟨nofun,nofun,nofun,fun some => absurd none some,nofun,nofun,nofun,nofun⟩

end start

end VolumeBackup
