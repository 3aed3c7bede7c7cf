import Mathlib.Data.List.Sort
import VolumeBackup.ProcessedMark

namespace VolumeBackup
open ByteMemory LabelledRuns

def Unhindered (_ : Session) : SessionAction → Prop
  | .reader outcome => outcome.isOk = true
  | .abort component | .aborted component | .aborting component => component ≠ .readerTask
  | _ => True

instance unhindered_decidable : Decidable (Unhindered s action) :=
  match action with
  | .reader outcome => inferInstanceAs (Decidable (outcome.isOk = true))
  | .abort component | .aborted component | .aborting component => inferInstanceAs (Decidable (component ≠ .readerTask))
  | .worker _ | .writer _ | .start _ | .pause _ => isTrue trivial

@[simp] def ReaderPc.pushing : ReaderPc → List VolumeConsumeBlock
  | .push block => [block]
  | _ => []

-- The queue behind the reader, and what a step of the reader adds to it.
def SessionEnv.forwards (env : SessionEnv) (s : Session) : List VolumeConsumeBlock :=
  if env.config.hasherEnabled then s.hashingQueue.m_queue else s.writeQueue.m_queue

def handedOn (env : SessionEnv) (source : Content) (s : Session) (action : SessionAction) : List VolumeConsumeBlock :=
  match action,sessionStep env source s action with
  | .reader _,some t => (env.forwards t).drop (env.forwards s).length
  | _,_ => []

variable {env : SessionEnv} {source : Content} {o : Flow} {s t : Session} {pushed : List VolumeConsumeBlock}

structure Handing (env : SessionEnv) (s : Session) (pushed : List VolumeConsumeBlock) : Prop where
  indices : (pushed++s.readerTask.pc.pushing).map VolumeConsumeBlock.index = (s.history.filterMap Event.readIndex).reverse
  increasing : (pushed++s.readerTask.pc.pushing).Pairwise fun block other => block.index < other.index
  formed : ∀ block ∈ pushed++s.readerTask.pc.pushing, block.volumeOffset = env.config.consumeBlockOffset block.index ∧
    block.length = env.config.nBytesToRead block.index ∧ 0 < block.length

theorem Handing.frame (handing : Handing env s pushed) (pc : t.readerTask.pc.pushing = s.readerTask.pc.pushing)
    (history : t.history.filterMap Event.readIndex = s.history.filterMap Event.readIndex) : Handing env t pushed := by
  refine ⟨?_,?_,?_⟩ <;> rw [pc]
  · rw [history]; exact handing.indices
  · exact handing.increasing
  · exact handing.formed

-- A push of the reader is never refused, because the queue is finished behind the last one only.
theorem ReaderStep.forwards (order : FinishOrder env s) (step : ReaderStep env source outcome s t) :
    env.forwards t = env.forwards s++s.readerTask.pc.pushing := by
  unfold SessionEnv.forwards
  cases step with
  | pushHashing here hasher pushed =>
      rw [push_open pushed (order.hashingOpen here hasher)]
      simp [hasher,here]
  | pushWrite here plain pushed =>
      rw [push_open pushed (order.readerOpen here plain)]
      simp [plain,here]
  | finishHashing here hasher => simp [hasher,here,BlockingQueue.Finish]
  | finishWrite here plain => simp [plain,here,BlockingQueue.Finish]
  | begin here | completed here | stopped here | aborted here | goOn here | paused here | unpaused here | skipped here | needed here
  | fetched here | timeout here | retried here | read here | unread here | terminate here =>
      simp [here,Session.reader,Session.record]

theorem handedOn_reader (order : FinishOrder env s) (ran : sessionStep env source s (.reader outcome) = some t) :
    handedOn env source s (.reader outcome) = s.readerTask.pc.pushing := by
  have added : env.forwards t = env.forwards s++s.readerTask.pc.pushing := ReaderStep.forwards order (sessionStep_sound ran)
  simp only [handedOn,ran,added,List.drop_left]

theorem Handing.quiet (handing : Handing env s pushed) (none : handedOn env source s action = [])
    (pc : t.readerTask.pc.pushing = s.readerTask.pc.pushing)
    (history : t.history.filterMap Event.readIndex = s.history.filterMap Event.readIndex) : Handing env t (pushed++handedOn env source s action) := by
  rw [none,List.append_nil]
  exact handing.frame pc history

theorem read_positive {raw : RawData} (done : raw.Read source offset length = some data) : 0 < length := by
  unfold RawData.Read at done
  split at done
  · rename_i accepted
    have lengths := accepted.1
    simp only [lengthAccepted,decide_eq_true_eq] at lengths
    exact lengths.1
  · cases done

theorem Handing.reader (handing : Handing env s pushed) (tokens : Tokens env (s.flow env)) (step : ReaderStep env source outcome s t) :
    Handing env t (pushed++s.readerTask.pc.pushing) := by
  cases step with
  | read here same done =>
      rename_i block ptr data
      have before : s.readerTask.pc.pushing = [] := by rw [here]; rfl
      obtain ⟨indices,increasing,formed⟩ := handing
      rw [before,List.append_nil] at indices increasing formed ⊢
      -- What has been read before is behind the block that is read now.
      have behind : ∀ other ∈ pushed, other.index < block.index := by
        intro other inside
        have read : other.index ∈ (s.history.filterMap Event.readIndex).reverse := indices ▸ List.mem_map_of_mem inside
        have passed := tokens.passed other.index (Multiset.mem_coe.mpr (List.mem_reverse.mp read))
        rw [same]
        simpa [consumeBlock,Session.flow,VolumeBlockReader.progress,here] using passed
      refine ⟨?_,?_,?_⟩
      · simp [Session.reader,Session.record,Event.readIndex,indices]
      · apply List.pairwise_append.mpr
        refine ⟨increasing,List.pairwise_singleton _ _,?_⟩
        intro other inside last found
        cases List.mem_singleton.mp found
        exact behind other inside
      · intro other inside
        rcases List.mem_append.mp inside with earlier | now
        · exact formed other earlier
        · cases List.mem_singleton.mp now
          refine ⟨?_,?_,read_positive done⟩ <;> rw [same] <;> rfl
  | pushHashing here hasher pushed | pushWrite here plain pushed =>
      obtain ⟨indices,increasing,formed⟩ := handing
      refine ⟨?_,?_,?_⟩
      · simpa using indices
      · simpa using increasing
      · simpa using formed
  | unread here same failed =>
      have before : s.readerTask.pc.pushing = [] := by rw [here]; rfl
      rw [before,List.append_nil]
      exact handing.frame (by rw [before]; rfl) rfl
  | retried here =>
      have before : s.readerTask.pc.pushing = [] := by rw [here]; rfl
      rw [before,List.append_nil]
      exact handing
  | begin here | completed here | stopped here | aborted here | goOn here | paused here | unpaused here | skipped here | needed here
  | fetched here | timeout here | terminate here | finishHashing here | finishWrite here =>
      have before : s.readerTask.pc.pushing = [] := by rw [here]; rfl
      rw [before,List.append_nil]
      exact handing.frame (by rw [before]; rfl) rfl

theorem Handing.step (handing : Handing env s pushed) (order : FinishOrder env s) (tokens : Tokens env (s.flow env))
    (ran : sessionStep env source s action = some t) : Handing env t (pushed++handedOn env source s action) := by
  have step := sessionStep_sound ran
  cases action with
  | reader outcome =>
      rw [handedOn_reader order ran]
      exact handing.reader tokens step
  | worker k => cases (step : WorkerStep env k s t) <;> exact handing.quiet rfl rfl rfl
  | writer outcome => cases (step : WriterStep env outcome s t) <;> exact handing.quiet rfl rfl rfl
  | start component =>
      cases (step : ControlStep env _ s t) with
      | startReader here => exact handing.quiet rfl (by rw [here]; rfl) rfl
      | hasherIdle | startHasher | startWriter => exact handing.quiet rfl rfl rfl
  | pause paused =>
      cases (step : ControlStep env _ s t)
      exact handing.quiet rfl rfl rfl
  | abort component | aborted component | aborting component =>
      cases (step : ControlStep env _ s t)
      cases component <;> exact handing.quiet rfl rfl rfl

structure Unstopped (s : Session) : Prop where
  abort : s.readerTask.task.m_abort = false
  failed : s.readerTask.task.m_failed = false
  status : ∀ status, s.readerTask.pc = .terminate status → status = .SUCCEED
  gone : s.readerTask.pc = .finish ∨ s.readerTask.pc = .exited → s.readerTask.task.m_status = .SUCCEED
  current : s.readerTask.pc = .push block → block.index = s.readerTask.m_currentIndex

theorem Unstopped.frame (unstopped : Unstopped s) (reader : t.readerTask = s.readerTask) : Unstopped t := by
  refine ⟨?_,?_,?_,?_,?_⟩ <;> rw [reader]
  · exact unstopped.abort
  · exact unstopped.failed
  · exact unstopped.status
  · exact unstopped.gone
  · exact unstopped.current

theorem Unstopped.reader (unstopped : Unstopped s) (step : ReaderStep env source outcome s t) (quiet : outcome.isOk = true) : Unstopped t := by
  obtain ⟨abort,failed,status,gone,current⟩ := unstopped
  cases step with
  | stopped here stop => cases failed.symm.trans stop
  | aborted here aborted => cases abort.symm.trans aborted
  | timeout here none failed | unread here same failed => cases failed.symm.trans quiet
  | retried here => exact ⟨abort,failed,status,gone,current⟩
  | read here same done =>
      refine ⟨abort,failed,nofun,nofun,?_⟩
      rintro block pushed
      cases pushed
      rw [same]
      rfl
  | completed here past =>
      refine ⟨abort,failed,?_,nofun,nofun⟩
      rintro status same
      cases same
      rfl
  | terminate here =>
      cases status _ here
      exact ⟨abort,failed,nofun,fun _ => rfl,nofun⟩
  | finishHashing here hasher | finishWrite here plain => exact ⟨abort,failed,nofun,fun _ => gone (.inl here),nofun⟩
  | _ => exact ⟨abort,failed,nofun,nofun,nofun⟩

theorem Unstopped.step (unstopped : Unstopped s) (step : Step env source s action t) (quiet : Unhindered s action) : Unstopped t := by
  cases action with
  | reader outcome => exact unstopped.reader step quiet
  | worker k => cases (step : WorkerStep env k s t) <;> exact unstopped.frame rfl
  | writer outcome => cases (step : WriterStep env outcome s t) <;> exact unstopped.frame rfl
  | start component =>
      cases (step : ControlStep env _ s t) with
      | startReader here => exact ⟨unstopped.abort,unstopped.failed,nofun,nofun,nofun⟩
      | hasherIdle | startHasher | startWriter => exact unstopped.frame rfl
  | pause paused =>
      cases (step : ControlStep env _ s t)
      exact ⟨unstopped.abort,unstopped.failed,unstopped.status,unstopped.gone,unstopped.current⟩
  | abort component | aborted component | aborting component =>
      cases (step : ControlStep env _ s t)
      cases component with
      | readerTask => exact absurd rfl quiet
      | hasherTask | writerTask => exact unstopped.frame rfl

def missing (config : VolumeTaskSharedConfig) (processed : Bitmap) (index : Nat) : Bool :=
  !(config.checkpointEnabled && processed.Test index)

def VolumeBlockReader.remaining (config : VolumeTaskSharedConfig) (reader : VolumeBlockReader) : Nat :=
  let left := config.m_maxIndex+1-reader.m_currentIndex
  match reader.pc with
  | .notStarted | .start => 8*(config.m_maxIndex+2)
  | .check => 8*left+6
  | .pause => 8*left+5
  | .skip => 8*left+4
  | .fetch => 8*left+3
  | .read _ => 8*left+2
  | .push _ => 8*left+1
  | .terminate _ => 3
  | .finish => 2
  | .exited => 1

-- A reader waits while it is paused, for a buffer, for room in the queue, or at a read that does not succeed.
def ReaderWaits (env : SessionEnv) (source : Content) (s : Session) : Prop :=
  match s.readerTask.pc with
  | .pause => s.readerTask.m_pause = true
  | .fetch => s.allocator.BlockAlloc = none
  | .read ptr => env.dataReader.Read source (consumeBlock env s ptr).volumeOffset (consumeBlock env s ptr).length = none
  | .push block => BlockingPushForward env s block = none
  | _ => False

-- What a resumed reader pushes: blocks of the session that are missing, each once and in order, where they
-- lie in the volume. While it does not wait it comes closer to its end, and there it has pushed all of them.
structure ReadsMissing (env : SessionEnv) (source : Content) (processed : Bitmap) (pushed : List VolumeConsumeBlock) (s : Session) : Prop where
  blocks : ∀ block ∈ pushed, block.index < env.config.TotalBlocks ∧ missing env.config processed block.index = true ∧
    block.length = min env.config.blockSize.toNat (env.config.sessionSize.toNat-block.index*env.config.blockSize.toNat) ∧
    block.volumeOffset = (env.config.sessionOffset.toNat+block.index*env.config.blockSize.toNat) % 2^64 ∧
    (env.config.sessionOffset.toNat+env.config.sessionSize.toNat ≤ 2^64 →
      block.volumeOffset = env.config.sessionOffset.toNat+block.index*env.config.blockSize.toNat)
  increasing : pushed.Pairwise fun block other => block.index < other.index
  ended : s.readerTask.pc = .exited → s.readerTask.task.m_status = .SUCCEED ∧
    pushed.map VolumeConsumeBlock.index = (List.range env.config.TotalBlocks).filter (missing env.config processed)
  goesOn : s.readerTask.pc ≠ .notStarted → s.readerTask.pc ≠ .exited → ReaderWaits env source s ∨
    ∃ t, sessionStep env source s (.reader .ok) = some t ∧ t.readerTask.remaining env.config < s.readerTask.remaining env.config

section readings
variable {block : VolumeConsumeBlock} (handing : Handing env s pushed)
include handing

theorem Handing.have_read (inside : block ∈ pushed) : block.index ∈ haveRead s.history := by
  have listed : block.index ∈ (s.history.filterMap Event.readIndex).reverse := by
    rw [← handing.indices]
    exact List.mem_map_of_mem (List.mem_append_left _ inside)
  exact Multiset.mem_coe.mpr (List.mem_reverse.mp listed)

variable (valid : Valid env source o s)
include valid

theorem Handing.shape (inside : block ∈ pushed) : block.index < env.config.TotalBlocks ∧
    missing env.config o.processed block.index = true ∧
    block.length = min env.config.blockSize.toNat (env.config.sessionSize.toNat-block.index*env.config.blockSize.toNat) ∧
    block.volumeOffset = (env.config.sessionOffset.toNat+block.index*env.config.blockSize.toNat) % 2^64 ∧
    (env.config.sessionOffset.toNat+env.config.sessionSize.toNat ≤ 2^64 →
      block.volumeOffset = env.config.sessionOffset.toNat+block.index*env.config.blockSize.toNat) := by
  obtain ⟨offset,length,positive⟩ := handing.formed block (List.mem_append_left _ inside)
  have read := handing.have_read inside
  have within := valid.tokens.inside _ read
  rw [length] at positive
  have start := index_end within
  have wrapped : block.volumeOffset = (env.config.sessionOffset.toNat+block.index*env.config.blockSize.toNat) % 2^64 := by
    rw [offset,VolumeTaskSharedConfig.consumeBlockOffset,Nat.add_comm]
  refine ⟨index_counted within positive,?_,length,wrapped,fun ends => ?_⟩
  · cases checkpoint : env.config.checkpointEnabled with
    | false => simp [missing,checkpoint]
    | true => simp [missing,valid.coverage.fresh _ read checkpoint]
  · rw [wrapped]
    apply Nat.mod_eq_of_lt
    omega

theorem Handing.all (gone : s.readerTask.pc = .exited) (past : env.config.m_maxIndex < s.readerTask.m_currentIndex) :
    pushed.map VolumeConsumeBlock.index = (List.range env.config.TotalBlocks).filter (missing env.config o.processed) := by
  have last : s.readerTask.pc.pushing = [] := by rw [gone]; rfl
  have indices := handing.indices
  have increasing := handing.increasing
  rw [last,List.append_nil] at indices increasing
  have ordered : (pushed.map VolumeConsumeBlock.index).Pairwise (· < ·) := List.pairwise_map.mpr increasing
  apply ordered.eq_of_mem_iff (List.pairwise_lt_range.filter _)
  intro index
  constructor
  · intro listed
    obtain ⟨block,inside,rfl⟩ := List.mem_map.mp listed
    obtain ⟨below,unset,_⟩ := handing.shape valid inside
    exact List.mem_filter.mpr ⟨List.mem_range.mpr below,unset⟩
  · intro listed
    obtain ⟨below,unset⟩ := List.mem_filter.mp listed
    have counted := List.mem_range.mp below
    have passed : index < (s.flow env).progress := by
      unfold VolumeTaskSharedConfig.m_maxIndex at past
      simp only [Session.flow,VolumeBlockReader.progress,gone]
      omega
    rcases valid.coverage.covered index passed with read | ⟨checkpoint,set⟩
    · rw [indices]
      exact List.mem_reverse.mpr (Multiset.mem_coe.mp read)
    · simp [missing,checkpoint,set] at unset

theorem inside_loop (unstopped : Unstopped s) (here : s.readerTask.pc = pc) (loop : match pc with
      | .pause | .skip | .fetch | .read _ | .push _ => True
      | _ => False) : s.readerTask.m_currentIndex ≤ env.config.m_maxIndex := by
  have chosen := valid.tokens.chosen
  simp only [Session.flow,VolumeBlockReader.progress,here] at chosen
  cases pc with
  | pause => exact valid.known.inside (.inl here)
  | skip => exact valid.known.inside (.inr here)
  | fetch => exact chosen rfl
  | read ptr => exact chosen rfl
  | push block =>
      have read : block.index ∈ (s.history.filterMap Event.readIndex).reverse := by
        rw [← handing.indices,here]
        simp
      rw [← unstopped.current here]
      exact valid.tokens.inside _ (Multiset.mem_coe.mpr (List.mem_reverse.mp read))
  | _ => exact loop.elim

theorem Handing.goesOn (unstopped : Unstopped s) (started : s.readerTask.pc ≠ .notStarted) (running : s.readerTask.pc ≠ .exited) :
    ReaderWaits env source s ∨ ∃ t, sessionStep env source s (.reader .ok) = some t ∧
      t.readerTask.remaining env.config < s.readerTask.remaining env.config := by
  have inside {pc : ReaderPc} := @inside_loop env source o s pushed handing valid pc unstopped
  cases here : s.readerTask.pc with
  | notStarted => exact absurd here started
  | exited => exact absurd here running
  | start =>
      refine .inr ⟨_,by simp only [sessionStep,readerStep,here]; rfl,?_⟩
      simp only [VolumeBlockReader.remaining,here]
      omega
  | check =>
      by_cases past : env.config.m_maxIndex < s.readerTask.m_currentIndex
      · refine .inr ⟨_,by simp only [sessionStep,readerStep,here,if_pos past]; rfl,?_⟩
        simp only [Session.reader,VolumeBlockReader.remaining,here]
        omega
      · refine .inr ⟨_,by simp only [sessionStep,readerStep,here,if_neg past,unstopped.failed,unstopped.abort]; rfl,?_⟩
        simp only [Session.reader,VolumeBlockReader.remaining,here]
        omega
  | pause =>
      cases paused : s.readerTask.m_pause with
      | true => exact .inl (by simpa only [ReaderWaits,here] using paused)
      | false =>
          refine .inr ⟨_,by simp only [sessionStep,readerStep,here,paused]; rfl,?_⟩
          simp only [Session.reader,VolumeBlockReader.remaining,here,Bool.false_eq_true,if_false]
          omega
  | skip =>
      have below := inside here trivial
      by_cases marked : SkipReadingBlock env s
      · refine .inr ⟨_,by simp only [sessionStep,readerStep,here,if_pos marked]; rfl,?_⟩
        simp only [VolumeBlockReader.remaining,here]
        omega
      · refine .inr ⟨_,by simp only [sessionStep,readerStep,here,if_neg marked]; rfl,?_⟩
        simp only [Session.reader,VolumeBlockReader.remaining,here]
        omega
  | fetch =>
      cases found : s.allocator.BlockAlloc with
      | none => exact .inl (by simpa only [ReaderWaits,here] using found)
      | some result =>
          refine .inr ⟨_,by simp only [sessionStep,readerStep,here,found]; rfl,?_⟩
          simp only [Session.reader,VolumeBlockReader.remaining,here]
          omega
  | read ptr =>
      cases done : env.dataReader.Read source (consumeBlock env s ptr).volumeOffset (consumeBlock env s ptr).length with
      | none => exact .inl (by simpa only [ReaderWaits,here] using done)
      | some data =>
          refine .inr ⟨_,by simp only [sessionStep,readerStep,here,done]; rfl,?_⟩
          simp only [Session.reader,Session.record,VolumeBlockReader.remaining,here]
          omega
  | push block =>
      have below := inside here trivial
      cases done : BlockingPushForward env s block with
      | none => exact .inl (by simpa only [ReaderWaits,here] using done)
      | some t =>
          refine .inr ⟨t,by simp only [sessionStep,readerStep,here,done],?_⟩
          have next : t.readerTask.pc = .check ∧ t.readerTask.m_currentIndex = s.readerTask.m_currentIndex+1 := by
            unfold BlockingPushForward at done
            split at done
            · obtain ⟨queue,_,rfl⟩ := Option.map_eq_some_iff.mp done
              exact ⟨rfl,rfl⟩
            · obtain ⟨queue,_,rfl⟩ := Option.map_eq_some_iff.mp done
              exact ⟨rfl,rfl⟩
          simp only [VolumeBlockReader.remaining,here,next.1,next.2]
          omega
  | terminate status =>
      refine .inr ⟨_,by simp only [sessionStep,readerStep,here]; rfl,?_⟩
      simp only [VolumeBlockReader.remaining,here]
      omega
  | finish =>
      by_cases hasher : env.config.hasherEnabled
      · refine .inr ⟨_,by simp only [sessionStep,readerStep,here,if_pos hasher]; rfl,?_⟩
        simp only [Session.reader,VolumeBlockReader.remaining,here]
        omega
      · refine .inr ⟨_,by simp only [sessionStep,readerStep,here,if_neg hasher]; rfl,?_⟩
        simp only [Session.reader,VolumeBlockReader.remaining,here]
        omega

theorem Handing.readsMissing (unstopped : Unstopped s) : ReadsMissing env source o.processed pushed s where
  blocks := fun _ inside => handing.shape valid inside
  increasing := (List.pairwise_append.mp handing.increasing).1
  ended := by
    intro gone
    have succeeded := unstopped.gone (.inr gone)
    exact ⟨succeeded,handing.all valid gone (valid.reader.succeeded succeeded).2⟩
  goesOn := handing.goesOn valid unstopped

end readings

theorem reader_resumes {processed written : Bitmap} (size : processed.m_capacity = (Bitmap.new env.config.TotalBlocks).m_capacity)
    (room : written.m_capacity = (Bitmap.new env.config.TotalBlocks).m_capacity)
    (path : Runs (traced (sessionStep env source) (handedOn env source)) (fun s => Unhindered s.1)
      (.new env.config context processed written {} target,[]) actions (s,pushed)) :
    ReadsMissing env source processed pushed s := by
  have roomy : Roomy env ((Session.new env.config context processed written {} target).flow env) := roomy_capacity size room
  obtain ⟨valid,unstopped,order,handing⟩ := path.invariant
    (fun run => Valid env source ((Session.new env.config context processed written {} target).flow env) run.1 ∧ Unstopped run.1 ∧
      FinishOrder env run.1 ∧ Handing env run.1 run.2)
    ⟨.new rfl,⟨rfl,rfl,nofun,nofun,nofun⟩,.new,⟨rfl,.nil,nofun⟩⟩
    fun _ _ _ ⟨valid,unstopped,order,handing⟩ ran quiet => by
      obtain ⟨inner,listed⟩ := traced_step ran
      have step := sessionStep_sound inner
      rw [listed]
      exact ⟨valid.step roomy step,unstopped.step step quiet,order.step step,handing.step order valid.tokens inner⟩
  exact handing.readsMissing valid unstopped

def resumedEnv : SessionEnv :=
  {letterEnv with config := {letterConfig with sessionSize := 2,checkpointEnabled := true}}

def resumedBitmap : Bitmap := ((Bitmap.new 2).Set 0).Set 5

def resumedStart : Session := .new resumedEnv.config ⟨64,64,zeros,zeros⟩ resumedBitmap resumedBitmap {} (.of 2 zeros)

def handedActions : List SessionAction := .start .readerTask::.replicate 10 (.reader .ok)

theorem reader_resumes_second : ∃ s, s.readerTask.pc = .exited ∧ ReadsMissing resumedEnv (.of 2 fun _ => 97) resumedBitmap [⟨0,1,1,1⟩] s := by
  have run : (execute (traced (sessionStep resumedEnv (.of 2 fun _ => 97)) (handedOn resumedEnv (.of 2 fun _ => 97)))
      (fun s action => decide (Unhindered s.1 action)) (resumedStart,[]) handedActions).any (fun s => decide (s.1.readerTask.pc = .exited ∧ s.2 = [⟨0,1,1,1⟩])) = true := by decide +kernel
  obtain ⟨⟨s,handed⟩,path,good⟩ := execute_ends (fun _ _ => of_decide_eq_true) run
  obtain ⟨exited,pushed⟩ := of_decide_eq_true good
  cases pushed
  exact ⟨s,exited,reader_resumes (by decide) (by decide) path⟩

end VolumeBackup
