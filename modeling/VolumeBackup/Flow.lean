import VolumeBackup.FinishOrder

namespace VolumeBackup
open ByteMemory

-- A session without its threads: what is on its way, and the data that the steps work on. Blocks go
-- from unhashed to hashed to unwritten; a loose buffer is one that a thread holds without a block in
-- flight; settling and recording are the indices whose processed or written bit is still to be set.
-- A block is chosen once the reader has found it unmarked.
structure Flow where
  progress : Nat
  chosen : Bool
  unhashed : Multiset VolumeConsumeBlock
  hashed : Multiset VolumeConsumeBlock
  unwritten : Multiset VolumeConsumeBlock
  loose : Multiset Nat
  settling : Multiset Nat
  recording : Multiset Nat
  allocator : VolumeBlockAllocator
  pool : Memory
  lastest : Memory
  previous : Memory
  processed : Bitmap
  written : Bitmap
  target : Content
  history : List Event

section abstraction

@[simp] def ReaderPc.block : ReaderPc → Multiset VolumeConsumeBlock
  | .push block => {block}
  | _ => 0

@[simp] def ReaderPc.loose : ReaderPc → Multiset Nat
  | .read ptr => {ptr}
  | _ => 0

def VolumeBlockReader.progress (reader : VolumeBlockReader) : Nat :=
  match reader.pc with
  | .notStarted | .start => 0
  | .push _ => reader.m_currentIndex+1
  | _ => reader.m_currentIndex

@[simp] def ReaderPc.chosen : ReaderPc → Bool
  | .fetch | .read _ => true
  | _ => false

@[simp] def WorkerPc.unhashed : WorkerPc → Multiset VolumeConsumeBlock
  | .hash block => {block}
  | _ => 0

@[simp] def WorkerPc.hashed : WorkerPc → Multiset VolumeConsumeBlock
  | .diff block => {block}
  | _ => 0

@[simp] def WorkerPc.unwritten : WorkerPc → Multiset VolumeConsumeBlock
  | .push block => {block}
  | _ => 0

@[simp] def WorkerPc.loose : WorkerPc → Multiset Nat
  | .free block => {block.ptr}
  | _ => 0

@[simp] def WorkerPc.settling : WorkerPc → Multiset Nat
  | .free block | .mark block => {block.index}
  | _ => 0

@[simp] def WriterPc.unwritten : WriterPc → Multiset VolumeConsumeBlock
  | .write block | .discard block => {block}
  | _ => 0

@[simp] def WriterPc.loose : WriterPc → Multiset Nat
  | .failed block | .markWritten block | .markProcessed block | .free block => {block.ptr}
  | _ => 0

@[simp] def WriterPc.settling : WriterPc → Multiset Nat
  | .failed block | .markWritten block | .markProcessed block => {block.index}
  | _ => 0

@[simp] def WriterPc.recording : WriterPc → Multiset Nat
  | .failed block | .markWritten block => {block.index}
  | _ => 0

variable (env : SessionEnv) (source : Content)

def Session.flow (s : Session) : Flow where
  progress := s.readerTask.progress
  chosen := s.readerTask.pc.chosen
  unhashed := (if env.config.hasherEnabled then s.readerTask.pc.block else 0)+s.hashingQueue.m_queue+
    Slots.gather WorkerPc.unhashed s.hasherTask.m_workers
  hashed := Slots.gather WorkerPc.hashed s.hasherTask.m_workers
  unwritten := (if env.config.hasherEnabled then 0 else s.readerTask.pc.block)+
    Slots.gather WorkerPc.unwritten s.hasherTask.m_workers+s.writeQueue.m_queue+s.writerTask.pc.unwritten
  loose := s.readerTask.pc.loose+Slots.gather WorkerPc.loose s.hasherTask.m_workers+s.writerTask.pc.loose
  settling := Slots.gather WorkerPc.settling s.hasherTask.m_workers+s.writerTask.pc.settling
  recording := s.writerTask.pc.recording
  allocator := s.allocator
  pool := s.pool
  lastest := s.hashingContext.lastestTable
  previous := s.hashingContext.previousTable
  processed := s.processedBitmap
  written := s.writtenBitmap
  target := s.target
  history := s.history

def Flow.accept (f : Flow) (block : VolumeConsumeBlock) : Flow :=
  if env.config.hasherEnabled then {f with unhashed := block ::ₘ f.unhashed}
  else {f with unwritten := block ::ₘ f.unwritten}

def Flow.forward (f : Flow) (block : VolumeConsumeBlock) : Flow :=
  match env.m_forwardMode with
  | .DIRECT => {f with unwritten := block ::ₘ f.unwritten}
  | .DIFF => {f with hashed := block ::ₘ f.hashed}

def Torn (history : List Event) : Prop := ∃ index offset data, .write index offset data false ∈ history

def Unread (history : List Event) : Prop := ∃ index, .read index false ∈ history

inductive FlowStep : Flow → Flow → Prop where
  | begin (unstarted : f.progress = 0) (idle : f.chosen = false) :
      FlowStep f {f with progress := if env.config.checkpointEnabled then f.processed.FirstIndexUnset else 0}
  | skip (idle : f.chosen = false) (checkpoint : env.config.checkpointEnabled = true)
      (marked : f.processed.Test f.progress = true) :
      FlowStep f {f with progress := f.progress+1}
  | choose (inside : f.progress ≤ env.config.m_maxIndex)
      (unmarked : env.config.checkpointEnabled = true → f.processed.Test f.progress = false) :
      FlowStep f {f with chosen := true}
  | giveUp : FlowStep f {f with chosen := false}
  | allocate (found : f.allocator.BlockAlloc = some (ptr,allocator)) :
      FlowStep f {f with loose := ptr ::ₘ f.loose,allocator := allocator}
  | read (chosen : f.chosen = true) (held : f.loose = ptr ::ₘ others)
      (made : block = ⟨ptr,f.progress,env.config.consumeBlockOffset f.progress,env.config.nBytesToRead f.progress⟩)
      (done : env.dataReader.Read source block.volumeOffset block.length = some data) :
      FlowStep f (Flow.accept env {f with
        progress := f.progress+1,chosen := false,loose := others,pool := store f.pool ptr block.length data,
        history := .read block.index true::f.history} block)
  | unread (held : f.loose = ptr ::ₘ others) :
      FlowStep f {f with chosen := false,loose := others,history := .read f.progress false::f.history}
  | hash (held : f.unhashed = block ::ₘ rest)
      (same : digest = env.sha256 (ByteMemory.read f.pool block.ptr block.length)) :
      FlowStep f (Flow.forward env {f with
        unhashed := rest,lastest := setEntry f.lastest block.index digest,
        history := .hash block.index::f.history} block)
  | drop (held : f.hashed = block ::ₘ rest) (equal : memcmp f.previous (diffOffset block.index) f.lastest
        (diffOffset block.index) SHA256_CHECKSUM_SIZE = true) :
      FlowStep f {f with
        hashed := rest,loose := block.ptr ::ₘ f.loose,settling := block.index ::ₘ f.settling,
        history := .drop block.index::f.history}
  | pass (held : f.hashed = block ::ₘ rest) (differ : memcmp f.previous (diffOffset block.index) f.lastest
        (diffOffset block.index) SHA256_CHECKSUM_SIZE = false) :
      FlowStep f {f with hashed := rest,unwritten := block ::ₘ f.unwritten}
  | write (held : f.unwritten = block ::ₘ rest) (needed : NeedToWrite env f.pool block.ptr block.length = true)
      (done : env.dataWriter.Write f.target block.volumeOffset block.length (fun k => f.pool (block.ptr+k)) = some target) :
      FlowStep f {f with
        unwritten := rest,loose := block.ptr ::ₘ f.loose,settling := block.index ::ₘ f.settling,
        recording := block.index ::ₘ f.recording,target := target,
        history := .write block.index block.volumeOffset (ByteMemory.read f.pool block.ptr block.length) true::f.history}
  | tear (torn : Tear) (held : f.unwritten = block ::ₘ rest) :
      FlowStep f {f with
        unwritten := rest,loose := block.ptr ::ₘ f.loose,settling := block.index ::ₘ f.settling,
        recording := block.index ::ₘ f.recording,
        target := f.target.tear (env.dataWriter.position block.volumeOffset) block.length (fun k => f.pool (block.ptr+k)) torn,
        history := .write block.index block.volumeOffset (ByteMemory.read f.pool block.ptr block.length) false::f.history}
  | empty (held : f.unwritten = block ::ₘ rest) (zeros : NeedToWrite env f.pool block.ptr block.length = false) :
      FlowStep f {f with
        unwritten := rest,loose := block.ptr ::ₘ f.loose,settling := block.index ::ₘ f.settling,
        recording := block.index ::ₘ f.recording,history := .skipEmpty block.index::f.history}
  | discard (held : f.unwritten = block ::ₘ rest) (free : f.allocator.BlockFree block.ptr = some allocator) :
      FlowStep f {f with unwritten := rest,allocator := allocator,history := .discard block.index::f.history}
  | free (held : f.loose = ptr ::ₘ others) (free : f.allocator.BlockFree ptr = some allocator) :
      FlowStep f {f with loose := others,allocator := allocator}
  | freeEarly (free : f.allocator.BlockFree ptr = some allocator)
      (failed : Torn f.history) :
      FlowStep f {f with allocator := allocator}
  | settle (held : f.settling = index ::ₘ rest) :
      FlowStep f {f with settling := rest,processed := f.processed.Set index}
  | record (held : f.recording = index ::ₘ rest) :
      FlowStep f {f with recording := rest,written := f.written.Set index}

end abstraction

structure Local (env : SessionEnv) (s : Session) : Prop where
  inside : s.readerTask.pc = .pause ∨ s.readerTask.pc = .skip → s.readerTask.m_currentIndex ≤ env.config.m_maxIndex
  torn : s.writerTask.pc = .failed block → Torn s.history
  plain : env.config.hasherEnabled = false → s.hashingQueue.m_queue = []

variable {env : SessionEnv} {source : Content} {s t : Session}

theorem Torn.cons (torn : Torn history) : Torn (event::history) := by
  obtain ⟨index,offset,data,inside⟩ := torn
  exact ⟨index,offset,data,List.mem_cons_of_mem _ inside⟩

theorem Unread.cons (unread : Unread history) : Unread (event::history) := by
  obtain ⟨index,inside⟩ := unread
  exact ⟨index,List.mem_cons_of_mem _ inside⟩

theorem Local.step (known : Local env s) (step : Step env source s action t) : Local env t := by
  cases action with
  | reader outcome =>
      cases (step : ReaderStep env source outcome s t) with
      | goOn here inside running => exact ⟨fun _ => inside,known.torn,known.plain⟩
      | unpaused here => exact ⟨fun _ => known.inside (.inl here),known.torn,known.plain⟩
      | retried here => exact known
      | read here same done | unread here same => exact ⟨nofun,fun failed => (known.torn failed).cons,known.plain⟩
      | pushHashing here hasher pushed =>
          exact ⟨nofun,known.torn,fun disabled => Bool.noConfusion (hasher.symm.trans disabled)⟩
      | _ => exact ⟨nofun,known.torn,known.plain⟩
  | worker k =>
      cases (step : WorkerStep env k s t) with
      | hashed here same | unchanged here equal => exact ⟨known.inside,fun failed => (known.torn failed).cons,known.plain⟩
      | popped here first =>
          exact ⟨known.inside,known.torn,fun disabled => nomatch first.symm.trans (known.plain disabled)⟩
      | _ => exact ⟨known.inside,known.torn,known.plain⟩
  | writer outcome =>
      cases (step : WriterStep env outcome s t) with
      | torn here needed => exact ⟨known.inside,fun _ => ⟨_,_,_,List.mem_cons_self⟩,known.plain⟩
      | _ => exact ⟨known.inside,nofun,known.plain⟩
  | start component =>
      cases (step : ControlStep env _ s t) with
      | startReader here => exact ⟨nofun,known.torn,known.plain⟩
      | hasherIdle | startHasher => exact ⟨known.inside,known.torn,known.plain⟩
      | startWriter here => exact ⟨known.inside,nofun,known.plain⟩
  | pause paused =>
      cases (step : ControlStep env _ s t)
      exact ⟨known.inside,known.torn,known.plain⟩
  | abort component | aborted component | aborting component =>
      cases (step : ControlStep env _ s t)
      cases component <;> exact ⟨known.inside,known.torn,known.plain⟩

theorem Local.new : Local env (.new config context processed written counter target) := ⟨nofun,nofun,fun _ => rfl⟩

theorem FlowStep.reach {f g h : Flow} (step : FlowStep env source f g) (same : h = g) : FlowStep env source f h := same ▸ step

-- Queues and hands are sums, whichever end a block enters or leaves at.
theorem coe_first (first : α) (rest : List α) : ((first::rest : List α) : Multiset α) = {first}+rest := rfl

theorem coe_last (last : α) (rest : List α) : ((rest++[last] : List α) : Multiset α) = rest+{last} := rfl

theorem Session.flow_reader (order : FinishOrder env s) (known : Local env s) (step : ReaderStep env source outcome s t) :
    t.flow env = s.flow env ∨ FlowStep env source (s.flow env) (t.flow env) := by
  cases step with
  | begin here =>
      refine .inr ((FlowStep.begin ?_ ?_).reach ?_)
      · simp [Session.flow,VolumeBlockReader.progress,here]
      · simp [Session.flow,here]
      · simp [Session.flow,VolumeBlockReader.progress,here,InitCurrentIndex]
  | completed here past | stopped here failed | aborted here abort | goOn here inside running | paused here | unpaused here
  | terminate here =>
      left
      simp [Session.flow,VolumeBlockReader.progress,here,Session.reader]
  | retried here => exact .inl rfl
  | finishHashing here hasher | finishWrite here plain =>
      left
      simp [Session.flow,VolumeBlockReader.progress,here,Session.reader,BlockingQueue.Finish]
  | skipped here marked =>
      simp only [SkipReadingBlock,Bool.and_eq_true] at marked
      refine .inr ((FlowStep.skip ?_ marked.1 ?_).reach ?_)
      · simp [Session.flow,here]
      · simpa [Session.flow,VolumeBlockReader.progress,here] using marked.2
      · simp [Session.flow,VolumeBlockReader.progress,here]
  | needed here unmarked =>
      simp only [SkipReadingBlock,Bool.and_eq_false_imp] at unmarked
      refine .inr ((FlowStep.choose ?_ ?_).reach ?_)
      · simpa [Session.flow,VolumeBlockReader.progress,here] using known.inside (.inr here)
      · simpa [Session.flow,VolumeBlockReader.progress,here] using unmarked
      · simp [Session.flow,VolumeBlockReader.progress,here,Session.reader]
  | timeout here none =>
      refine .inr (FlowStep.giveUp.reach ?_)
      simp [Session.flow,VolumeBlockReader.progress,here,Session.reader]
  | fetched here found =>
      refine .inr ((FlowStep.allocate (f := s.flow env) found).reach ?_)
      simp [Session.flow,VolumeBlockReader.progress,here,Session.reader]
  | read here same done =>
      rename_i block ptr data
      have held : (s.flow env).loose = ptr ::ₘ (Slots.gather WorkerPc.loose s.hasherTask.m_workers+s.writerTask.pc.loose) := by
        simp [Session.flow,here,add_assoc]
      refine .inr ((FlowStep.read ?_ held ?_ done).reach ?_)
      · simp [Session.flow,here]
      · simpa [Session.flow,VolumeBlockReader.progress,here,consumeBlock] using same
      · cases flag : env.config.hasherEnabled <;>
          simp [Session.flow,VolumeBlockReader.progress,here,Session.reader,Session.record,Flow.accept,flag,
            ← Multiset.singleton_add,add_assoc]
  | unread here same failed =>
      rename_i block ptr
      have held : (s.flow env).loose = ptr ::ₘ (Slots.gather WorkerPc.loose s.hasherTask.m_workers+s.writerTask.pc.loose) := by
        simp [Session.flow,here,add_assoc]
      refine .inr ((FlowStep.unread held).reach ?_)
      simp [Session.flow,VolumeBlockReader.progress,here,Session.record,same,consumeBlock]
  | pushHashing here hasher pushed =>
      left
      rw [push_open pushed (order.hashingOpen here hasher)]
      simp [Session.flow,VolumeBlockReader.progress,here,hasher]
  | pushWrite here plain pushed =>
      rename_i queue block
      left
      rw [push_open pushed (order.readerOpen here plain)]
      have moved (a b : Multiset VolumeConsumeBlock) : a+(↑(s.writeQueue.m_queue++[block])+b) = {block}+(a+(↑s.writeQueue.m_queue+b)) := by
        rw [coe_last]
        ac_rfl
      simp [Session.flow,VolumeBlockReader.progress,here,plain,moved,add_assoc]
structure Hands where
  unhashed : Multiset VolumeConsumeBlock
  hashed : Multiset VolumeConsumeBlock
  unwritten : Multiset VolumeConsumeBlock
  loose : Multiset Nat
  settling : Multiset Nat

def WorkerPc.hands (pc : WorkerPc) : Hands := ⟨pc.unhashed,pc.hashed,pc.unwritten,pc.loose,pc.settling⟩

theorem Session.flow_worker (order : FinishOrder env s) (step : WorkerStep env k s t) :
    t.flow env = s.flow env ∨ FlowStep env source (s.flow env) (t.flow env) := by
  have keep {old new : WorkerPc} (here : s.hasherTask.m_workers[k]? = some old) (same : new.hands = old.hands) :
      (s.worker k new).flow env = s.flow env := by
    simp only [WorkerPc.hands,Hands.mk.injEq] at same
    obtain ⟨unhashed,hashed,unwritten,loose,settling⟩ := same
    simp only [Session.flow,Session.worker,Slots.gather_keep _ here _ unhashed,Slots.gather_keep _ here _ hashed,
      Slots.gather_keep _ here _ unwritten,Slots.gather_keep _ here _ loose,Slots.gather_keep _ here _ settling]
  cases step with
  | start here | aborted here | goOn here | drained here | terminate here | leave here | others here | last here
  | finish here => exact .inl (keep here rfl)
  | popped here first =>
      rename_i block rest
      left
      have unhashed := Slots.gather_take WorkerPc.unhashed here (.hash block) rfl rfl
      have hashed := Slots.gather_keep WorkerPc.hashed here (.hash block) rfl
      have unwritten := Slots.gather_keep WorkerPc.unwritten here (.hash block) rfl
      have loose := Slots.gather_keep WorkerPc.loose here (.hash block) rfl
      have settling := Slots.gather_keep WorkerPc.settling here (.hash block) rfl
      simp only [Session.flow,Session.worker,unhashed,hashed,unwritten,loose,settling,first,coe_first]
      rw [← Multiset.singleton_add]
      congr 1
      ac_rfl
  | hashed here same =>
      rename_i digest block
      cases mode : env.m_forwardMode with
      | DIRECT =>
          have unhashed := Slots.gather_give WorkerPc.unhashed here (.push block) rfl rfl
          have hashed := Slots.gather_keep WorkerPc.hashed here (.push block) rfl
          have unwritten := Slots.gather_take WorkerPc.unwritten here (.push block) rfl rfl
          have loose := Slots.gather_keep WorkerPc.loose here (.push block) rfl
          have settling := Slots.gather_keep WorkerPc.settling here (.push block) rfl
          have held : (s.flow env).unhashed = block ::ₘ ((s.worker k (.push block)).flow env).unhashed := by
            simp only [Session.flow,Session.worker,unhashed,Multiset.add_cons]
          refine .inr ((FlowStep.hash held same).reach ?_)
          simp only [Session.flow,Session.worker,Session.record,Flow.forward,hashedPc,mode,hashed,unwritten,loose,settling,
            Multiset.add_cons,Multiset.cons_add]
      | DIFF =>
          have unhashed := Slots.gather_give WorkerPc.unhashed here (.diff block) rfl rfl
          have hashed := Slots.gather_take WorkerPc.hashed here (.diff block) rfl rfl
          have unwritten := Slots.gather_keep WorkerPc.unwritten here (.diff block) rfl
          have loose := Slots.gather_keep WorkerPc.loose here (.diff block) rfl
          have settling := Slots.gather_keep WorkerPc.settling here (.diff block) rfl
          have held : (s.flow env).unhashed = block ::ₘ ((s.worker k (.diff block)).flow env).unhashed := by
            simp only [Session.flow,Session.worker,unhashed,Multiset.add_cons]
          refine .inr ((FlowStep.hash held same).reach ?_)
          simp only [Session.flow,Session.worker,Session.record,Flow.forward,hashedPc,mode,hashed,unwritten,loose,settling]
  | unchanged here equal =>
      rename_i block
      have unhashed := Slots.gather_keep WorkerPc.unhashed here (.free block) rfl
      have hashed := Slots.gather_give WorkerPc.hashed here (.free block) rfl rfl
      have unwritten := Slots.gather_keep WorkerPc.unwritten here (.free block) rfl
      have loose := Slots.gather_take WorkerPc.loose here (.free block) rfl rfl
      have settling := Slots.gather_take WorkerPc.settling here (.free block) rfl rfl
      refine .inr ((FlowStep.drop hashed equal).reach ?_)
      simp only [Session.flow,Session.worker,Session.record,unhashed,unwritten,loose,settling,Multiset.add_cons,Multiset.cons_add]
  | changed here differ =>
      rename_i block
      have unhashed := Slots.gather_keep WorkerPc.unhashed here (.push block) rfl
      have hashed := Slots.gather_give WorkerPc.hashed here (.push block) rfl rfl
      have unwritten := Slots.gather_take WorkerPc.unwritten here (.push block) rfl rfl
      have loose := Slots.gather_keep WorkerPc.loose here (.push block) rfl
      have settling := Slots.gather_keep WorkerPc.settling here (.push block) rfl
      refine .inr ((FlowStep.pass hashed differ).reach ?_)
      simp only [Session.flow,Session.worker,unhashed,unwritten,loose,settling,Multiset.add_cons,Multiset.cons_add]
  | freed here free =>
      rename_i allocator block
      have unhashed := Slots.gather_keep WorkerPc.unhashed here (.mark block) rfl
      have hashed := Slots.gather_keep WorkerPc.hashed here (.mark block) rfl
      have unwritten := Slots.gather_keep WorkerPc.unwritten here (.mark block) rfl
      have loose := Slots.gather_give WorkerPc.loose here (.mark block) rfl rfl
      have settling := Slots.gather_keep WorkerPc.settling here (.mark block) rfl
      have held : (s.flow env).loose = block.ptr ::ₘ ((s.worker k (.mark block)).flow env).loose := by
        simp only [Session.flow,Session.worker,loose,Multiset.add_cons,Multiset.cons_add]
      refine .inr ((FlowStep.free held free).reach ?_)
      simp only [Session.flow,Session.worker,unhashed,hashed,unwritten,settling]
  | marked here =>
      rename_i block
      have unhashed := Slots.gather_keep WorkerPc.unhashed here .check rfl
      have hashed := Slots.gather_keep WorkerPc.hashed here .check rfl
      have unwritten := Slots.gather_keep WorkerPc.unwritten here .check rfl
      have loose := Slots.gather_keep WorkerPc.loose here .check rfl
      have settling := Slots.gather_give WorkerPc.settling here .check rfl rfl
      have held : (s.flow env).settling = block.index ::ₘ ((s.worker k .check).flow env).settling := by
        simp only [Session.flow,Session.worker,settling,Multiset.cons_add]
      refine .inr ((FlowStep.settle held).reach ?_)
      simp only [Session.flow,Session.worker,unhashed,hashed,unwritten,loose]
  | pushed here push =>
      rename_i block queue
      left
      have unhashed := Slots.gather_keep WorkerPc.unhashed here .check rfl
      have hashed := Slots.gather_keep WorkerPc.hashed here .check rfl
      have unwritten := Slots.gather_give WorkerPc.unwritten here .check rfl rfl
      have loose := Slots.gather_keep WorkerPc.loose here .check rfl
      have settling := Slots.gather_keep WorkerPc.settling here .check rfl
      simp only [Session.flow,Session.worker,push_open push (order.workerOpen here),unhashed,hashed,unwritten,loose,settling,
        coe_last,← Multiset.singleton_add]
      congr 1
      ac_rfl

theorem Session.flow_unwritten (env : SessionEnv) (s : Session) (here : s.writerTask.pc = pc)
    (holds : pc.unwritten = {block}) : (s.flow env).unwritten = block ::ₘ ((if env.config.hasherEnabled then 0 else s.readerTask.pc.block)+
      Slots.gather WorkerPc.unwritten s.hasherTask.m_workers+s.writeQueue.m_queue) := by
  simp only [Session.flow,here,holds]
  rw [add_comm,Multiset.singleton_add]

theorem Session.flow_writer (known : Local env s) (step : WriterStep env outcome s t) :
    t.flow env = s.flow env ∨ FlowStep env source (s.flow env) (t.flow env) := by
  cases step with
  | aborted here | goOn here | drained here | terminate here | provisional here | reviewed here | revised here =>
      left
      simp [Session.flow,Session.writer,here]
  | taken here first working | refused here first failed =>
      left
      simp [Session.flow,Session.writer,here,first,coe_first,add_assoc,add_comm]
  | discarded here free =>
      have held := s.flow_unwritten env here rfl
      refine .inr ((FlowStep.discard held free).reach ?_)
      simp [Session.flow,Session.writer,Session.record,here]
  | written here needed done =>
      have held := s.flow_unwritten env here rfl
      refine .inr ((FlowStep.write held needed done).reach ?_)
      simp [Session.flow,Session.writer,Session.record,here,← Multiset.singleton_add,add_comm]
  | torn here needed failed =>
      rename_i part block
      have held := s.flow_unwritten env here rfl
      refine .inr ((FlowStep.tear part held).reach ?_)
      simp [Session.flow,Session.writer,Session.record,here,← Multiset.singleton_add,add_comm]
  | empty here zeros =>
      have held := s.flow_unwritten env here rfl
      refine .inr ((FlowStep.empty held zeros).reach ?_)
      simp [Session.flow,Session.writer,Session.record,here,← Multiset.singleton_add,add_comm]
  | failed here free =>
      refine .inr ((FlowStep.freeEarly free (known.torn here)).reach ?_)
      simp [Session.flow,here]
  | markWritten here =>
      rename_i block
      have held : (s.flow env).recording = block.index ::ₘ 0 := by simp [Session.flow,here]
      refine .inr ((FlowStep.record held).reach ?_)
      simp [Session.flow,Session.writer,here]
  | markProcessed here =>
      rename_i block
      have held : (s.flow env).settling = block.index ::ₘ Slots.gather WorkerPc.settling s.hasherTask.m_workers := by
        simp [Session.flow,here,add_comm]
      refine .inr ((FlowStep.settle held).reach ?_)
      simp [Session.flow,Session.writer,here]
  | freed here free =>
      rename_i allocator block
      have held : (s.flow env).loose = block.ptr ::ₘ (s.readerTask.pc.loose+Slots.gather WorkerPc.loose s.hasherTask.m_workers) := by
        simp [Session.flow,here,add_comm]
      refine .inr ((FlowStep.free held free).reach ?_)
      simp [Session.flow,Session.writer,here]
theorem Session.flow_control (step : ControlStep env action s t) : t.flow env = s.flow env := by
  cases step with
  | startReader here => simp [Session.flow,VolumeBlockReader.progress,here]
  | startHasher here hasher =>
      have none {β : Type} (holds : WorkerPc → Multiset β) (idle : holds .start = 0) :
          Slots.gather holds (List.replicate env.config.hasherWorkerNum.toNat .start) = Slots.gather holds [] := by
        refine (Slots.gather_zero fun pc inside => ?_).trans rfl
        rw [List.eq_of_mem_replicate inside,idle]
      simp only [Session.flow,here,none WorkerPc.unhashed rfl,none WorkerPc.hashed rfl,none WorkerPc.unwritten rfl,
        none WorkerPc.loose rfl,none WorkerPc.settling rfl]
  | startWriter here => simp [Session.flow,here]
  | hasherIdle | pause => rfl
  | abort component | aborted component | aborting component => cases component <;> rfl

theorem Session.flow_step (order : FinishOrder env s) (known : Local env s) (step : Step env source s action t) :
    t.flow env = s.flow env ∨ FlowStep env source (s.flow env) (t.flow env) := by
  cases action with
  | reader outcome => exact s.flow_reader order known step
  | worker k => exact s.flow_worker order step
  | writer outcome => exact s.flow_writer known step
  | start | pause | abort | aborted | aborting => exact .inl (s.flow_control step)

end VolumeBackup
