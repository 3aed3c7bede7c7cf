import Mathlib.Data.Multiset.UnionInter
import Mathlib.Data.Multiset.MapFold
import VolumeBackup.Flow

namespace VolumeBackup
open ByteMemory

def Event.readIndex : Event → Option Nat
  | .read index true => some index
  | _ => none

def Event.doneIndex : Event → Option Nat
  | .drop index | .skipEmpty index | .write index _ _ _ | .discard index => some index
  | _ => none

def Event.settledIndex : Event → Option Nat
  | .drop index | .skipEmpty index | .write index _ _ _ => some index
  | _ => none

def Event.recordedIndex : Event → Option Nat
  | .skipEmpty index | .write index _ _ _ => some index
  | _ => none

def haveRead (history : List Event) : Multiset Nat := history.filterMap Event.readIndex
def done (history : List Event) : Multiset Nat := history.filterMap Event.doneIndex
def settled (history : List Event) : List Nat := history.filterMap Event.settledIndex
def recorded (history : List Event) : List Nat := history.filterMap Event.recordedIndex

def Flow.inFlight (f : Flow) : Multiset VolumeConsumeBlock := f.unhashed+f.hashed+f.unwritten

-- Every block that was read is in flight or has left, once; each index is read once, in order.
structure Tokens (env : SessionEnv) (f : Flow) : Prop where
  count : f.inFlight.map VolumeConsumeBlock.index+done f.history = haveRead f.history
  nodup : (haveRead f.history).Nodup
  passed : ∀ index ∈ haveRead f.history, index < f.progress
  inside : ∀ index ∈ haveRead f.history, index ≤ env.config.m_maxIndex
  chosen : f.chosen = true → f.progress ≤ env.config.m_maxIndex

variable {env : SessionEnv} {source : Content} {f g : Flow} {block : VolumeConsumeBlock}

@[simp] theorem haveRead_read : haveRead (.read index true::history) = index ::ₘ haveRead history := rfl
@[simp] theorem haveRead_unread : haveRead (.read index false::history) = haveRead history := rfl
@[simp] theorem haveRead_hash : haveRead (.hash index::history) = haveRead history := rfl
@[simp] theorem haveRead_drop : haveRead (.drop index::history) = haveRead history := rfl
@[simp] theorem haveRead_skipEmpty : haveRead (.skipEmpty index::history) = haveRead history := rfl
@[simp] theorem haveRead_write : haveRead (.write index offset data ok::history) = haveRead history := rfl
@[simp] theorem haveRead_discard : haveRead (.discard index::history) = haveRead history := rfl
@[simp] theorem done_read : done (.read index ok::history) = done history := rfl
@[simp] theorem done_hash : done (.hash index::history) = done history := rfl
@[simp] theorem done_drop : done (.drop index::history) = index ::ₘ done history := rfl
@[simp] theorem done_skipEmpty : done (.skipEmpty index::history) = index ::ₘ done history := rfl
@[simp] theorem done_write : done (.write index offset data ok::history) = index ::ₘ done history := rfl
@[simp] theorem done_discard : done (.discard index::history) = index ::ₘ done history := rfl

@[simp] theorem accept_inFlight : (Flow.accept env f block).inFlight = block ::ₘ f.inFlight := by
  unfold Flow.accept Flow.inFlight
  split <;> simp

@[simp] theorem forward_inFlight : (Flow.forward env f block).inFlight = block ::ₘ f.inFlight := by
  unfold Flow.forward Flow.inFlight
  split <;> simp

@[simp] theorem accept_history : (Flow.accept env f block).history = f.history := by
  unfold Flow.accept
  split <;> rfl

@[simp] theorem forward_history : (Flow.forward env f block).history = f.history := by
  unfold Flow.forward
  split <;> rfl

@[simp] theorem accept_progress : (Flow.accept env f block).progress = f.progress := by
  unfold Flow.accept
  split <;> rfl

@[simp] theorem forward_progress : (Flow.forward env f block).progress = f.progress := by
  unfold Flow.forward
  split <;> rfl

@[simp] theorem accept_chosen : (Flow.accept env f block).chosen = f.chosen := by
  unfold Flow.accept
  split <;> rfl

@[simp] theorem forward_chosen : (Flow.forward env f block).chosen = f.chosen := by
  unfold Flow.forward
  split <;> rfl

theorem Tokens.leave (tokens : Tokens env f) (held : f.inFlight = block ::ₘ g.inFlight)
    (left : done g.history = block.index ::ₘ done f.history) (same : haveRead g.history = haveRead f.history)
    (progress : g.progress = f.progress) (chosen : g.chosen = f.chosen) : Tokens env g := by
  refine ⟨?_,?_,?_,?_,?_⟩
  · rw [left,same,← tokens.count,held]
    simp
  · rw [same]; exact tokens.nodup
  · rw [same,progress]; exact tokens.passed
  · rw [same]; exact tokens.inside
  · rw [chosen,progress]; exact tokens.chosen

theorem Tokens.step (tokens : Tokens env f) (step : FlowStep env source f g) : Tokens env g := by
  cases step with
  | begin unstarted idle =>
      refine ⟨tokens.count,tokens.nodup,?_,tokens.inside,fun chosen => nomatch idle.symm.trans chosen⟩
      intro index read
      have := tokens.passed index read
      omega
  | skip idle checkpoint marked =>
      refine ⟨tokens.count,tokens.nodup,?_,tokens.inside,fun chosen => nomatch idle.symm.trans chosen⟩
      intro index read
      exact Nat.lt_succ_of_lt (tokens.passed index read)
  | choose inside unmarked => exact ⟨tokens.count,tokens.nodup,tokens.passed,tokens.inside,fun _ => inside⟩
  | giveUp => exact ⟨tokens.count,tokens.nodup,tokens.passed,tokens.inside,nofun⟩
  | read chosen held made done =>
      subst made
      have fresh : f.progress ∉ haveRead f.history := fun read => Nat.lt_irrefl _ (tokens.passed _ read)
      refine ⟨?_,?_,?_,?_,?_⟩
      · simp only [accept_inFlight,accept_history,haveRead_read,done_read,Multiset.map_cons,Multiset.cons_add]
        rw [← tokens.count]
        rfl
      · simp only [accept_history,haveRead_read]
        exact Multiset.nodup_cons.mpr ⟨fresh,tokens.nodup⟩
      · simp only [accept_history,accept_progress,haveRead_read,Multiset.mem_cons]
        rintro index (rfl | read)
        · exact Nat.lt_succ_self _
        · exact Nat.lt_succ_of_lt (tokens.passed index read)
      · simp only [accept_history,haveRead_read,Multiset.mem_cons]
        rintro index (rfl | read)
        · exact tokens.chosen chosen
        · exact tokens.inside index read
      · simp only [accept_chosen]
        exact nofun
  | unread held => exact ⟨tokens.count,tokens.nodup,tokens.passed,tokens.inside,nofun⟩
  | hash held same =>
      refine ⟨?_,?_,?_,?_,?_⟩
      · simp only [forward_inFlight,forward_history,haveRead_hash,done_hash]
        rw [← tokens.count]
        simp [Flow.inFlight,held]
      · simpa using tokens.nodup
      · simpa using tokens.passed
      · simpa using tokens.inside
      · simpa using tokens.chosen
  | drop held equal | write held needed done | tear torn held | empty held zeros | discard held free =>
      refine tokens.leave ?_ rfl rfl rfl rfl
      simp [Flow.inFlight,held]
  | pass held differ =>
      refine ⟨?_,tokens.nodup,tokens.passed,tokens.inside,tokens.chosen⟩
      rw [← tokens.count]
      simp [Flow.inFlight,held]
  | _ => exact ⟨tokens.count,tokens.nodup,tokens.passed,tokens.inside,tokens.chosen⟩

end VolumeBackup
