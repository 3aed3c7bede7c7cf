import VolumeBackup.ProcessedMark
import VolumeBackup.CheckpointRestore
import VolumeBackup.PollingVerdict

namespace VolumeBackup
open ByteMemory LabelledRuns

def Session.marking (s : Session) : SessionAction → Option Nat
  | .worker k =>
    match s.hasherTask.m_workers[k]? with
    | some (.mark block) => some block.index
    | _ => none
  | .writer _ =>
    match s.writerTask.pc with
    | .markProcessed block => some block.index
    | _ => none
  | _ => none

variable {env : SessionEnv} {source : Content} {o f g : Flow} {s t : Session}

theorem marking_set {bitmap : Bitmap} (marks : s.marking action = some marked) (set : (bitmap.Set marked).Test index = true) :
    bitmap.Test index = true ∨ s.marking action = some index := by
  refine (test_set_cases set).imp_right ?_
  rintro rfl
  exact marks

theorem step_marks (step : Step env source s action t) : t.hashingContext.lastestSize = s.hashingContext.lastestSize ∧
    ∀ index, t.processedBitmap.Test index = true → s.processedBitmap.Test index = true ∨ s.marking action = some index := by
  cases action with
  | reader outcome => cases (step : ReaderStep env source outcome s t) <;> exact ⟨rfl,fun _ => .inl⟩
  | worker k =>
      cases (step : WorkerStep env k s t) with
      | marked here =>
          exact ⟨rfl,fun index set => marking_set (by simp [Session.marking,here]) set⟩
      | _ => exact ⟨rfl,fun _ => .inl⟩
  | writer outcome =>
      cases (step : WriterStep env outcome s t) with
      | markProcessed here =>
          exact ⟨rfl,fun index set => marking_set (by simp [Session.marking,here]) set⟩
      | _ => exact ⟨rfl,fun _ => .inl⟩
  | start component => cases (step : ControlStep env _ s t) <;> exact ⟨rfl,fun _ => .inl⟩
  | pause paused =>
      cases (step : ControlStep env _ s t)
      exact ⟨rfl,fun _ => .inl⟩
  | abort component | aborted component | aborting component =>
      cases (step : ControlStep env _ s t)
      cases component <;> exact ⟨rfl,fun _ => .inl⟩

theorem FlowStep.events (step : FlowStep env source f g) : f.history ⊆ g.history ∧
    ∀ index, .hash index ∈ g.history ∨ entry g.lastest index = entry f.lastest index := by
  cases step with
  | read chosen held made done =>
      unfold Flow.accept
      split <;> exact ⟨List.subset_cons_self _ _,fun _ => .inr rfl⟩
  | hash held same =>
      rename_i block rest digest
      have kept : ∀ index, .hash index ∈ (Event.hash block.index::f.history) ∨
          entry (setEntry f.lastest block.index digest) index = entry f.lastest index := by
        intro index
        by_cases mine : index = block.index
        · exact .inl (mine ▸ List.mem_cons_self)
        · exact .inr (entry_setEntry_other mine)
      unfold Flow.forward
      split <;> exact ⟨List.subset_cons_self _ _,kept⟩
  | unread | drop | write | tear | empty | discard => exact ⟨List.subset_cons_self _ _,fun _ => .inr rfl⟩
  | _ => exact ⟨List.Subset.refl _,fun _ => .inr rfl⟩

theorem Sound.events (sound : Sound env source o s) (step : Step env source s action t) : s.history ⊆ t.history ∧
    ∀ index, .hash index ∈ t.history ∨ entry t.hashingContext.lastestTable index = entry s.hashingContext.lastestTable index := by
  rcases s.flow_step sound.order sound.known step with same | moved
  · have history : t.history = s.history := congrArg Flow.history same
    have table : t.hashingContext.lastestTable = s.hashingContext.lastestTable := congrArg Flow.lastest same
    rw [history,table]
    exact ⟨List.Subset.refl _,fun _ => .inr rfl⟩
  · exact moved.events

end VolumeBackup
