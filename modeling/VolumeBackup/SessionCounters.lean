import VolumeBackup.SessionEnd

namespace VolumeBackup
open ByteMemory LabelledRuns

def Event.hashIndex : Event → Option Nat
  | .hash index => some index
  | _ => none

def Event.discardIndex : Event → Option Nat
  | .discard index => some index
  | _ => none

def haveHashed (history : List Event) : Multiset Nat := history.filterMap Event.hashIndex
def thrownAway (history : List Event) : Multiset Nat := history.filterMap Event.discardIndex

def VolumeTaskSharedConfig.bytes (config : VolumeTaskSharedConfig) (indices : Multiset Nat) : Nat :=
  (indices.map config.nBytesToRead).sum

def lengths (blocks : Multiset VolumeConsumeBlock) : Nat := (blocks.map VolumeConsumeBlock.length).sum

@[simp] theorem bytes_zero {config : VolumeTaskSharedConfig} : config.bytes 0 = 0 := rfl
@[simp] theorem bytes_cons {config : VolumeTaskSharedConfig} {indices : Multiset Nat} :
    config.bytes (index ::ₘ indices) = config.nBytesToRead index+config.bytes indices := by simp [VolumeTaskSharedConfig.bytes]
@[simp] theorem bytes_add {config : VolumeTaskSharedConfig} {left right : Multiset Nat} :
    config.bytes (left+right) = config.bytes left+config.bytes right := by simp [VolumeTaskSharedConfig.bytes]
@[simp] theorem lengths_zero : lengths 0 = 0 := rfl
@[simp] theorem lengths_singleton {block : VolumeConsumeBlock} : lengths {block} = block.length := by simp [lengths]
@[simp] theorem lengths_nil : lengths (([] : List VolumeConsumeBlock) : Multiset VolumeConsumeBlock) = 0 := rfl
@[simp] theorem lengths_first {block : VolumeConsumeBlock} {rest : List VolumeConsumeBlock} :
    lengths ((block::rest : List VolumeConsumeBlock) : Multiset VolumeConsumeBlock) = block.length+lengths rest := by
  simp [lengths]
@[simp] theorem lengths_last {block : VolumeConsumeBlock} {rest : List VolumeConsumeBlock} :
    lengths ((rest++[block] : List VolumeConsumeBlock) : Multiset VolumeConsumeBlock) = lengths rest+block.length := by
  simp [lengths]

section history
variable {history : List Event}

@[simp] theorem haveHashed_read : haveHashed (.read index ok::history) = haveHashed history := rfl
@[simp] theorem haveHashed_hash : haveHashed (.hash index::history) = index ::ₘ haveHashed history := rfl
@[simp] theorem haveHashed_drop : haveHashed (.drop index::history) = haveHashed history := rfl
@[simp] theorem haveHashed_skipEmpty : haveHashed (.skipEmpty index::history) = haveHashed history := rfl
@[simp] theorem haveHashed_write : haveHashed (.write index offset data ok::history) = haveHashed history := rfl
@[simp] theorem haveHashed_discard : haveHashed (.discard index::history) = haveHashed history := rfl
@[simp] theorem thrownAway_read : thrownAway (.read index ok::history) = thrownAway history := rfl
@[simp] theorem thrownAway_hash : thrownAway (.hash index::history) = thrownAway history := rfl
@[simp] theorem thrownAway_drop : thrownAway (.drop index::history) = thrownAway history := rfl
@[simp] theorem thrownAway_skipEmpty : thrownAway (.skipEmpty index::history) = thrownAway history := rfl
@[simp] theorem thrownAway_write : thrownAway (.write index offset data ok::history) = thrownAway history := rfl
@[simp] theorem thrownAway_discard : thrownAway (.discard index::history) = index ::ₘ thrownAway history := rfl

end history

@[simp] def WriterPc.unpaid : WriterPc → Multiset VolumeConsumeBlock
  | .failed block | .markWritten block | .markProcessed block | .free block => {block}
  | _ => 0

section ledger
variable (env : SessionEnv)

def Formed (block : VolumeConsumeBlock) : Prop := block.length = env.config.nBytesToRead block.index

structure Passage (f : Flow) : Prop where
  formed : ∀ block ∈ f.inFlight, Formed env block
  some : ∀ index ∈ haveRead f.history, 0 < env.config.nBytesToRead index
  hashed : env.config.hasherEnabled = true → f.unhashed.map VolumeConsumeBlock.index+haveHashed f.history = haveRead f.history

-- The counters of a session that began with some of its own: each is ahead by the blocks that have passed.
structure Ledger (first : SessionCounter) (s : Session) : Prop where
  toRead : s.readerTask.pc = .notStarted ∨ s.counter.bytesToRead = env.config.sessionSize.toNat
  read : s.counter.bytesRead = first.bytesRead+env.config.bytes (haveRead s.history)
  toHash : env.config.hasherEnabled = true →
    s.counter.blocksToHash+s.readerTask.pc.block.card = first.blocksToHash+(haveRead s.history).card
  hashed : s.counter.blocksHashed = first.blocksHashed+(haveHashed s.history).card
  toWrite : s.counter.bytesToWrite = first.bytesToWrite+lengths s.writeQueue.m_queue+lengths s.writerTask.pc.unwritten+
    env.config.bytes (recorded s.history)+env.config.bytes (thrownAway s.history)
  written : s.counter.bytesWritten+lengths s.writerTask.pc.unpaid = first.bytesWritten+env.config.bytes (recorded s.history)

end ledger

variable {env : SessionEnv} {source : Content} {o f g : Flow} {s t : Session} {first : SessionCounter}

theorem Passage.step (passage : Passage env f) (step : FlowStep env source f g) : Passage env g := by
  have fewer {h : Flow} (held : ∀ block ∈ h.inFlight, block ∈ f.inFlight) : ∀ block ∈ h.inFlight, Formed env block :=
    fun block flying => passage.formed block (held block flying)
  cases step with
  | read chosen held made done =>
      rename_i ptr others data block
      refine ⟨?_,?_,fun enabled => ?_⟩
      · intro other flying
        simp only [accept_inFlight,Multiset.mem_cons] at flying
        rcases flying with rfl | earlier
        · rw [made]
          rfl
        · exact passage.formed other earlier
      · intro index inside
        rw [accept_history,haveRead_read,Multiset.mem_cons] at inside
        rcases inside with rfl | earlier
        · rw [made] at done
          exact made ▸ (read_some done).1
        · exact passage.some index earlier
      · have known := passage.hashed enabled
        simp only [Flow.accept,if_pos enabled,Multiset.map_cons,Multiset.cons_add,haveRead_read,haveHashed_read,known]
  | hash held same =>
      rename_i block rest digest
      refine ⟨fewer ?_,?_,fun enabled => ?_⟩
      · intro other flying
        rw [forward_inFlight] at flying
        simpa [Flow.inFlight,held] using flying
      · rw [forward_history]
        exact passage.some
      · have known := passage.hashed enabled
        rw [held] at known
        unfold Flow.forward
        split <;> simpa [← Multiset.cons_add,Multiset.add_cons] using known
  | drop held | write held | tear torn held | empty held | discard held | pass held =>
      refine ⟨fewer ?_,passage.some,passage.hashed⟩
      intro other flying
      simp only [Flow.inFlight,held,Multiset.mem_add,Multiset.mem_cons] at flying ⊢
      grind
  | _ => exact ⟨passage.formed,passage.some,passage.hashed⟩

theorem Ledger.reader (ledger : Ledger env first s) (order : FinishOrder env s) (step : ReaderStep env source outcome s t) :
    Ledger env first t := by
  obtain ⟨toRead,read,toHash,hashed,toWrite,written⟩ := ledger
  cases step with
  | retried here => exact ⟨toRead,read,toHash,hashed,toWrite,written⟩
  | read here same done =>
      subst same
      refine ⟨.inr (toRead.resolve_left (by simp [here])),?_,fun enabled => ?_,hashed,toWrite,written⟩
      · simp only [Session.record,Session.reader,haveRead_read,bytes_cons,read,consumeBlock]
        omega
      · have known := toHash enabled
        simp only [here,ReaderPc.block,Multiset.card_zero] at known
        simp only [Session.record,Session.reader,haveRead_read,ReaderPc.block,Multiset.card_cons,Multiset.card_singleton]
        omega
  | pushHashing here hasher pushed =>
      refine ⟨.inr (toRead.resolve_left (by simp [here])),read,fun enabled => ?_,hashed,toWrite,written⟩
      have known := toHash enabled
      simp only [here,ReaderPc.block,Multiset.card_singleton] at known
      simp only [ReaderPc.block,Multiset.card_zero]
      omega
  | pushWrite here plain pushed =>
      rw [push_open pushed (order.readerOpen here plain)]
      refine ⟨.inr (toRead.resolve_left (by simp [here])),read,fun enabled => absurd (plain.symm.trans enabled) Bool.noConfusion,hashed,?_,written⟩
      simp only [lengths_last]
      omega
  | unread here | begin here | completed here | stopped here | aborted here | goOn here | paused here | unpaused here | skipped here
  | needed here | fetched here | timeout here | terminate here | finishHashing here | finishWrite here =>
      refine ⟨.inr (toRead.resolve_left (by simp [here])),read,fun enabled => ?_,hashed,toWrite,written⟩
      simpa [Session.reader,Session.record,here] using toHash enabled

theorem Ledger.worker (ledger : Ledger env first s) (order : FinishOrder env s) (step : WorkerStep env k s t) :
    Ledger env first t := by
  obtain ⟨toRead,read,toHash,hashed,toWrite,written⟩ := ledger
  cases step with
  | hashed here same =>
      refine ⟨toRead,read,toHash,?_,toWrite,written⟩
      simp only [Session.record,Session.worker,haveHashed_hash,Multiset.card_cons,hashed]
      omega
  | pushed here push =>
      rw [push_open push (order.workerOpen here)]
      refine ⟨toRead,read,toHash,hashed,?_,written⟩
      simp only [Session.worker,lengths_last]
      omega
  | _ => exact ⟨toRead,read,toHash,hashed,toWrite,written⟩

theorem Ledger.writer (ledger : Ledger env first s) (passage : Passage env (s.flow env)) (step : WriterStep env outcome s t) :
    Ledger env first t := by
  obtain ⟨toRead,read,toHash,hashed,toWrite,written⟩ := ledger
  have formed {pc : WriterPc} {block : VolumeConsumeBlock} (here : s.writerTask.pc = pc) (holds : pc.unwritten = {block}) :
      block.length = env.config.nBytesToRead block.index :=
    passage.formed block (Multiset.mem_add.mpr (.inr (s.flow_unwritten env here holds ▸ Multiset.mem_cons_self _ _)))
  cases step with
  | taken here first working | refused here first failed =>
      refine ⟨toRead,read,toHash,hashed,?_,by simpa [Session.writer,here] using written⟩
      simp only [here,first,lengths_first,WriterPc.unwritten,lengths_zero] at toWrite
      simp only [Session.writer,WriterPc.unwritten,lengths_singleton]
      omega
  | discarded here free =>
      have size := formed here rfl
      refine ⟨toRead,read,toHash,hashed,?_,by simpa [Session.writer,Session.record,here] using written⟩
      simp only [here,WriterPc.unwritten,lengths_singleton] at toWrite
      simp only [Session.writer,Session.record,WriterPc.unwritten,lengths_zero,recorded_discard,thrownAway_discard,bytes_cons]
      omega
  | written here needed done | torn here needed failed | empty here zeros =>
      have size := formed here rfl
      refine ⟨toRead,read,toHash,hashed,?_,?_⟩
      · simp only [here,WriterPc.unwritten,lengths_singleton] at toWrite
        simp only [Session.writer,Session.record,WriterPc.unwritten,lengths_zero,recorded_write,recorded_skipEmpty,
          thrownAway_write,thrownAway_skipEmpty,← Multiset.cons_coe,bytes_cons]
        omega
      · simp only [here,WriterPc.unpaid,lengths_zero] at written
        simp only [Session.writer,Session.record,WriterPc.unpaid,lengths_singleton,recorded_write,recorded_skipEmpty,
          ← Multiset.cons_coe,bytes_cons]
        omega
  | freed here free =>
      refine ⟨toRead,read,toHash,hashed,by simpa [Session.writer,here] using toWrite,?_⟩
      simp only [here,WriterPc.unpaid,lengths_singleton] at written
      simp only [Session.writer,WriterPc.unpaid,lengths_zero]
      omega
  | aborted here | goOn here | drained here | failed here | markWritten here | markProcessed here | terminate here
  | provisional here | reviewed here | revised here =>
      exact ⟨toRead,read,toHash,hashed,by simpa [Session.writer,here] using toWrite,by simpa [Session.writer,here] using written⟩

theorem Ledger.step (ledger : Ledger env first s) (order : FinishOrder env s) (passage : Passage env (s.flow env))
    (step : Step env source s action t) : Ledger env first t := by
  cases action with
  | reader outcome => exact ledger.reader order step
  | worker k => exact ledger.worker order step
  | writer outcome => exact ledger.writer passage step
  | start component =>
      obtain ⟨toRead,read,toHash,hashed,toWrite,written⟩ := ledger
      cases (step : ControlStep env _ s t) with
      | startReader here => exact ⟨.inr rfl,read,fun enabled => by simpa [here] using toHash enabled,hashed,toWrite,written⟩
      | startWriter here =>
          exact ⟨toRead,read,toHash,hashed,by simpa [here] using toWrite,by simpa [here] using written⟩
      | hasherIdle | startHasher => exact ⟨toRead,read,toHash,hashed,toWrite,written⟩
  | pause | abort component | aborted component | aborting component =>
      obtain ⟨toRead,read,toHash,hashed,toWrite,written⟩ := ledger
      cases (step : ControlStep env _ s t)
      first | cases component | skip
      all_goals exact ⟨toRead,read,toHash,hashed,toWrite,written⟩

structure Audited (env : SessionEnv) (source : Content) (o : Flow) (first : SessionCounter) (s : Session) : Prop
    extends Valid env source o s where
  passage : Passage env (s.flow env)
  ledger : Ledger env first s

theorem Audited.step (audited : Audited env source o first s) (roomy : Roomy env o) (step : Step env source s action t) :
    Audited env source o first t where
  toValid := audited.toValid.step roomy step
  ledger := audited.ledger.step audited.order audited.passage step
  passage := by
    rcases s.flow_step audited.order audited.known step with same | moved
    · exact same ▸ audited.passage
    · exact audited.passage.step moved

theorem Audited.run (audited : Audited env source o first s) (roomy : Roomy env o)
    (path : Runs (sessionStep env source) allowed s actions t) : Audited env source o first t :=
  path.invariant (Audited env source o first) audited fun _ _ _ known ran _ => known.step roomy (sessionStep_sound ran)

theorem Audited.new {context : BlockHashingContext} {processed written : Bitmap} {target : Content}
    (none : first.blockesWriteFailed = 0) :
    Audited env source ((Session.new env.config context processed written first target).flow env) first
      (.new env.config context processed written first target) where
  toValid := .new none
  passage := by
    refine ⟨?_,nofun,fun _ => ?_⟩
    · simp [Flow.inFlight,Session.flow,Session.new,Slots.gather]
    · simp [Session.flow,Session.new,Slots.gather,haveHashed,haveRead]
  ledger := ⟨.inl rfl,by simp [Session.new,haveRead],by simp [Session.new,haveRead],by simp [Session.new,haveHashed],
    by simp [Session.new,recorded,thrownAway],by simp [Session.new,recorded]⟩

end VolumeBackup
