import VolumeBackup.PipelineExactness
import VolumeBackup.QueueBound

namespace VolumeBackup
open ByteMemory LabelledRuns

@[simp] def WorkerPc.freeing : WorkerPc → Multiset Nat
  | .free block => {block.ptr}
  | _ => 0

@[simp] def WriterPc.freeing : WriterPc → Multiset Nat
  | .discard block | .failed block | .free block => {block.ptr}
  | _ => 0

def Session.freeing (s : Session) : Multiset Nat :=
  Slots.gather WorkerPc.freeing s.hasherTask.m_workers+s.writerTask.pc.freeing

-- Every buffer in use is in one pair of hands, which the allocator's table agrees with, only such a buffer is
-- freed, and a block that is still to be hashed or written has the bytes that were read for it.
structure Owned (env : SessionEnv) (source : Content) (s : Session) : Prop where
  apart : s.held.Nodup
  marked : ∀ k < DEFAULT_ALLOCATOR_BLOCK_NUM, s.allocator.m_allocTable[k]? = some true ↔ s.allocator.address k ∈ s.held
  freed : ∀ ptr ∈ s.freeing, ∃ k, ptr = s.allocator.address k ∧ s.allocator.m_allocTable[k]? = some true
  bytes : ∀ block ∈ (s.flow env).inFlight, Same block.length s.pool block.ptr source.byte (readPosition env block.index)

def ReaderPc.reading : ReaderPc → Bool
  | .read _ => true
  | _ => false

def Session.writing (env : SessionEnv) (s : Session) : Bool :=
  match s.writerTask.pc with
  | .write block => NeedToWrite env s.pool block.ptr block.length
  | _ => false

def Unfailing (env : SessionEnv) (s : Session) : SessionAction → Prop
  | .reader outcome => s.readerTask.pc.reading = true → outcome.isOk = true
  | .writer outcome => s.writing env = true → outcome.isOk = true
  | _ => True

instance (env : SessionEnv) (s : Session) : (action : SessionAction) → Decidable (Unfailing env s action)
  | .reader outcome => inferInstanceAs (Decidable (s.readerTask.pc.reading = true → outcome.isOk = true))
  | .writer outcome => inferInstanceAs (Decidable (s.writing env = true → outcome.isOk = true))
  | .worker _ | .start _ | .pause _ | .abort _ | .aborted _ | .aborting _ => isTrue trivial

structure Undisturbed (env : SessionEnv) (source : Content) (s : Session) : Prop where
  order : FinishOrder env s
  known : Local env s
  tokens : Tokens env (s.flow env)
  buffers : Buffers env (s.flow env)
  carried : Carried env source (s.flow env)
  whole : ¬Torn s.history
  clean : ¬Unread s.history

variable {env : SessionEnv} {source : Content} {s t : Session}

theorem Step.whole (step : Step env source s action t) (unfailing : Unfailing env s action) (torn : Torn t.history) :
    Torn s.history := by
  cases action with
  | reader outcome =>
      cases (step : ReaderStep env source outcome s t) with
      | read | unread => exact (torn_cons (by simp)).mp torn
      | _ => exact torn
  | worker k =>
      cases (step : WorkerStep env k s t) with
      | hashed | unchanged => exact (torn_cons (by simp)).mp torn
      | _ => exact torn
  | writer outcome =>
      cases (step : WriterStep env outcome s t) with
      | torn here needed failed =>
          subst failed
          cases unfailing (by simp [Session.writing,here,needed])
      | discarded | written | empty => exact (torn_cons (by simp)).mp torn
      | _ => exact torn
  | start | pause =>
      cases (step : ControlStep env _ s t) <;> exact torn
  | abort component | aborted component | aborting component =>
      cases (step : ControlStep env _ s t)
      cases component <;> exact torn

theorem Step.clean (step : Step env source s action t) (unfailing : Unfailing env s action) (unread : Unread t.history) :
    Unread s.history := by
  cases action with
  | reader outcome =>
      cases (step : ReaderStep env source outcome s t) with
      | read => exact (unread_cons (by simp)).mp unread
      | unread here same failed => cases failed.symm.trans (unfailing (by simp [ReaderPc.reading,here]))
      | _ => exact unread
  | worker k =>
      cases (step : WorkerStep env k s t) with
      | hashed | unchanged => exact (unread_cons (by simp)).mp unread
      | _ => exact unread
  | writer outcome =>
      cases (step : WriterStep env outcome s t) with
      | torn | discarded | written | empty => exact (unread_cons (by simp)).mp unread
      | _ => exact unread
  | start | pause =>
      cases (step : ControlStep env _ s t) <;> exact unread
  | abort component | aborted component | aborting component =>
      cases (step : ControlStep env _ s t)
      cases component <;> exact unread

theorem Undisturbed.step (undisturbed : Undisturbed env source s) (pooled : Pooled env.config) (step : Step env source s action t)
    (unfailing : Unfailing env s action) : Undisturbed env source t := by
  have whole : ¬Torn t.history := fun torn => undisturbed.whole (step.whole unfailing torn)
  have clean : ¬Unread t.history := fun unread => undisturbed.clean (step.clean unfailing unread)
  have order := undisturbed.order.step step
  have known := undisturbed.known.step step
  rcases s.flow_step undisturbed.order undisturbed.known step with same | moved
  · refine ⟨order,known,?_,?_,?_,whole,clean⟩ <;> rw [same]
    · exact undisturbed.tokens
    · exact undisturbed.buffers
    · exact undisturbed.carried
  · exact ⟨order,known,undisturbed.tokens.step moved,undisturbed.buffers.step pooled moved whole,
      undisturbed.carried.step undisturbed.buffers pooled undisturbed.tokens moved,whole,clean⟩

theorem held_buffers : s.held = (s.flow env).buffers := by
  have workers : Slots.gather WorkerPc.held s.hasherTask.m_workers =
      (Slots.gather WorkerPc.unhashed s.hasherTask.m_workers).map VolumeConsumeBlock.ptr+
        (Slots.gather WorkerPc.hashed s.hasherTask.m_workers).map VolumeConsumeBlock.ptr+
        (Slots.gather WorkerPc.unwritten s.hasherTask.m_workers).map VolumeConsumeBlock.ptr+
        Slots.gather WorkerPc.loose s.hasherTask.m_workers := by
    rw [← Slots.gather_map,← Slots.gather_map,← Slots.gather_map,← Slots.gather_add,← Slots.gather_add,← Slots.gather_add]
    congr 1
    funext pc
    cases pc <;> rfl
  have reader : s.readerTask.pc.held = s.readerTask.pc.block.map VolumeConsumeBlock.ptr+s.readerTask.pc.loose := by
    cases s.readerTask.pc <;> rfl
  have writer : s.writerTask.pc.held = s.writerTask.pc.unwritten.map VolumeConsumeBlock.ptr+s.writerTask.pc.loose := by
    cases s.writerTask.pc <;> rfl
  have queue (queue : BlockingQueue) : queue.held = (queue.m_queue : Multiset VolumeConsumeBlock).map VolumeConsumeBlock.ptr := rfl
  unfold Session.held Flow.buffers Flow.inFlight Session.flow
  rw [workers,reader,writer,queue,queue]
  simp only [Multiset.map_add]
  cases hasher : env.config.hasherEnabled with
  | false =>
      rw [if_neg (by simp),if_neg (by simp),Multiset.map_zero]
      ac_rfl
  | true =>
      rw [if_pos rfl,if_pos rfl,Multiset.map_zero]
      ac_rfl

theorem freeing_held (inside : ptr ∈ s.freeing) : ptr ∈ s.held := by
  unfold Session.freeing at inside
  unfold Session.held
  simp only [Multiset.mem_add] at inside ⊢
  rcases inside with worker | writer
  · obtain ⟨pc,here,mine⟩ := Slots.mem_gather.mp worker
    refine .inl (.inl (.inr (Slots.mem_gather.mpr ⟨pc,here,?_⟩)))
    cases pc with
    | free block => exact mine
    | _ => simp at mine
  · refine .inr ?_
    cases here : s.writerTask.pc with
    | discard block | failed block | free block =>
        rw [here] at writer
        exact writer
    | _ =>
        rw [here] at writer
        simp at writer

theorem Undisturbed.owned (undisturbed : Undisturbed env source s) (pooled : Pooled env.config) : Owned env source s := by
  obtain ⟨_,_,_,buffers,carried,_,clean⟩ := undisturbed
  have marked := buffers.marked.resolve_left clean
  have address (k : Nat) (below : k < DEFAULT_ALLOCATOR_BLOCK_NUM) : s.allocator.address k = k*env.config.blockSize.toNat := by
    have fits := pooled.fits
    have size : s.allocator.m_blockSize = env.config.blockSize := buffers.size
    have short : k*env.config.blockSize.toNat ≤ DEFAULT_ALLOCATOR_BLOCK_NUM*env.config.blockSize.toNat :=
      Nat.mul_le_mul_right _ (Nat.le_of_lt below)
    unfold VolumeBlockAllocator.address
    rw [size,Nat.mul_comm,Nat.mod_eq_of_lt (by omega)]
  have below {k : Nat} (set : s.allocator.m_allocTable[k]? = some true) : k < DEFAULT_ALLOCATOR_BLOCK_NUM := by
    obtain ⟨bound,_⟩ := List.getElem?_eq_some_iff.mp set
    exact buffers.table ▸ bound
  refine ⟨?_,?_,?_,?_⟩
  · rw [held_buffers]
    exact buffers.apart
  · intro k inside
    rw [held_buffers,address k inside]
    constructor
    · exact marked k
    · intro held
      obtain ⟨j,same,set⟩ := buffers.taken _ held
      rw [Nat.eq_of_mul_eq_mul_right pooled.positive same]
      exact set
  · intro ptr freed
    obtain ⟨k,same,set⟩ := buffers.taken ptr (held_buffers ▸ freeing_held freed)
    exact ⟨k,same.trans (address k (below set)).symm,set⟩
  · intro block flying
    exact (carried block flying).bytes

section runs
variable {context : BlockHashingContext} {processed written : Bitmap} {counter : SessionCounter} {target : Content}

theorem Undisturbed.new (pooled : Pooled env.config) :
    Undisturbed env source (.new env.config context processed written counter target) := by
  have sound : Sound env source ((Session.new env.config context processed written counter target).flow env)
    (.new env.config context processed written counter target) := .new
  have whole : ¬Torn (Session.new env.config context processed written counter target).history := by
    rintro ⟨_,_,_,inside⟩
    cases inside
  have clean : ¬Unread (Session.new env.config context processed written counter target).history := by
    rintro ⟨_,inside⟩
    cases inside
  have intact := sound.intact pooled whole
  exact ⟨sound.order,sound.known,sound.tokens,intact.buffers,intact.carried,whole,clean⟩

theorem buffers_owned (pooled : Pooled env.config) (path : Runs (sessionStep env source) (Unfailing env)
    (.new env.config context processed written counter target) actions s) : Owned env source s :=
  (path.invariant (Undisturbed env source) (.new pooled) fun _ _ _ known ran unfailing =>
    known.step pooled (sessionStep_sound ran) unfailing).owned pooled

end runs

def abortedHasher : List SessionAction :=
  [.start .readerTask,.start .hasherTask,.start .writerTask]++.replicate 7 (.reader .ok)++.replicate 3 (.worker 0)++
    [.abort .hasherTask,.aborting .hasherTask]

theorem buffers_owned_letter : ∃ s, s.held = {0} ∧ Owned letterEnv letter s := by
  have run : (execute (sessionStep letterEnv letter) (fun s action => decide (Unfailing letterEnv s action)) letterStart abortedHasher).any
      (fun s => decide (s.held = {0})) = true := by decide +kernel
  obtain ⟨s,path,held⟩ := execute_ends (fun _ _ => of_decide_eq_true) run
  exact ⟨s,of_decide_eq_true held,buffers_owned ⟨by decide,by decide⟩ path⟩

-- The write of the block fails, and its buffer, free again, is about to be freed once more.
def failedWrite : List SessionAction :=
  [.start .readerTask,.start .hasherTask,.start .writerTask]++.replicate 7 (.reader .ok)++.replicate 6 (.worker 0)++
    .replicate 2 (.writer .ok)++[.writer (.fail ⟨fun _ => false,0⟩)]++.replicate 3 (.writer .ok)

theorem buffer_freed_twice : ¬∀ s, Reached (sessionStep letterEnv letter) Anything letterStart s → Owned letterEnv letter s := by
  intro always
  have run : (execute (sessionStep letterEnv letter) (fun _ _ => true) letterStart failedWrite).any (fun s =>
      decide (0 ∈ s.freeing ∧ ∀ slot ∈ s.allocator.m_allocTable, slot = false)) = true := by decide +kernel
  obtain ⟨s,path,good⟩ := execute_ends (fun _ _ _ => trivial) run
  obtain ⟨freeing,none⟩ := of_decide_eq_true good
  obtain ⟨k,_,marked⟩ := (always s ⟨_,path⟩).freed 0 freeing
  cases none _ (List.mem_of_getElem? marked)

end VolumeBackup
