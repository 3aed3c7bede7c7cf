import VolumeBackup.ProcessedMark
import VolumeBackup.PollingVerdict
import VolumeBackup.CheckpointRestore

namespace VolumeBackup
open ByteMemory LabelledRuns

section files
variable (env : TaskEnv)

def Held (disk : Disk) (config : VolumeTaskSharedConfig) (source : Content) (index : Nat) : Prop :=
  ∃ content, disk (env.targetPath config) = some content ∧ HoldsBlock (env.sessionEnv config) source content index

structure Separate (config other : VolumeTaskSharedConfig) : Prop where
  table : env.targetPath other ≠ config.lastestChecksumBinPath
  checkpoint : env.targetPath other ≠ config.checkpointFilePath

def Coherent (source : VolumeTaskSharedConfig → Content) (config other : VolumeTaskSharedConfig) : Prop :=
  env.targetPath config = env.targetPath other → ∀ i ≤ config.m_maxIndex, ∀ j ≤ other.m_maxIndex,
    ∀ k < config.nBytesToRead i, ∀ l < other.nBytesToRead j,
    writePosition (env.sessionEnv config) i+k = writePosition (env.sessionEnv other) j+l →
    (source config).byte (readPosition (env.sessionEnv config) i+k) = (source other).byte (readPosition (env.sessionEnv other) j+l)

end files

-- What one step can do to the target: write some first part of a block, byte by byte the block's own
-- or the one that is there.
def Writes (env : SessionEnv) (source before after : Content) : Prop :=
  ∃ index ≤ env.config.m_maxIndex, ∃ part ≤ env.config.nBytesToRead index, ∃ data,
    after = before.write (writePosition env index) part data ∧
    ∀ k < part, data k = source.byte (readPosition env index+k) ∨ data k = before.byte (writePosition env index+k)

section session
variable {env : SessionEnv} {source : Content} {o f g : Flow} {s t : Session}

theorem FlowStep.writes (step : FlowStep env source f g) (carried : Carried env source f) :
    g.target = f.target ∨ Writes env source f.target g.target := by
  cases step with
  | read chosen held made done =>
      unfold Flow.accept
      split <;> exact .inl rfl
  | hash held same =>
      unfold Flow.forward
      split <;> exact .inl rfl
  | write held needed done =>
      rename_i block rest target
      have known := carried block (by simp [Flow.inFlight,held])
      obtain ⟨_,_,_,rfl⟩ := write_some done
      rw [known.offset]
      refine .inr ⟨block.index,known.inside,_,Nat.le_of_eq known.length,_,rfl,fun k bound => .inl ?_⟩
      exact known.bytes k bound
  | tear torn held =>
      rename_i block rest
      have known := carried block (by simp [Flow.inFlight,held])
      have short := Nat.min_le_left block.length torn.reach
      rw [known.offset]
      refine .inr ⟨block.index,known.inside,_,Nat.le_trans short (Nat.le_of_eq known.length),_,rfl,fun k bound => ?_⟩
      dsimp only
      split
      · exact .inl (known.bytes k (Nat.lt_of_lt_of_le bound short))
      · exact .inr rfl
  | _ => exact .inl rfl

-- While no write has failed, what reaches the target are bytes of the source; so it is with the first write that fails.
theorem Sound.writes (sound : Sound env source o s) (pooled : Pooled env.config) (whole : ¬Torn s.history)
    (step : Step env source s action t) : t.target = s.target ∨ Writes env source s.target t.target := by
  rcases s.flow_step sound.order sound.known step with same | moved
  · exact .inl (congrArg Flow.target same)
  · exact moved.writes (sound.intact pooled whole).carried

theorem control_target (step : Step env source s action t) (foreign : action.ofComponent = false) : t.target = s.target := by
  cases action with
  | reader | worker | writer => cases foreign
  | start component => cases (step : ControlStep env _ s t) <;> rfl
  | pause paused => cases (step : ControlStep env _ s t); rfl
  | abort component | aborted component | aborting component =>
      cases (step : ControlStep env _ s t)
      cases component <;> rfl

end session

section polling
variable {env : TaskEnv} {config other : VolumeTaskSharedConfig} {source : VolumeTaskSharedConfig → Content} {content : Content}
  {o : Flow} {p q : Polling}

theorem Coherent.self : Coherent env source config config := by
  intro _ i inside j within k first l second same
  have equal : i = j := by
    by_contra differ
    have apart : Apart (writePosition (env.sessionEnv config) i) (config.nBytesToRead i) (writePosition (env.sessionEnv config) j)
        (config.nBytesToRead j) := blocks_apart differ inside within
    rcases apart with before | behind <;> omega
  subst equal
  rw [show k = l by omega]

theorem Coherent.keeps (coherent : Coherent env source config other) (same : env.targetPath config = env.targetPath other)
    {before after : Content} (writes : Writes (env.sessionEnv config) (source config) before after) (inside : index ≤ other.m_maxIndex)
    (held : HoldsBlock (env.sessionEnv other) (source other) before index) :
    HoldsBlock (env.sessionEnv other) (source other) after index := by
  obtain ⟨block,within,part,short,data,rfl,bytes⟩ := writes
  refine held.write_same fun k bound lower upper => (bytes k bound).imp_left fun own => own.trans ?_
  have place := coherent same block within index inside k (Nat.lt_of_lt_of_le bound short)
    (writePosition (env.sessionEnv config) block+k-writePosition (env.sessionEnv other) index) (by
      have length : (env.sessionEnv other).config.nBytesToRead index = other.nBytesToRead index := rfl
      omega) (by omega)
  exact place

def Mounted (env : TaskEnv) (config : VolumeTaskSharedConfig) (p : Polling) : Prop :=
  p.disk (env.targetPath config) = some p.state.target

theorem PollStep.disk (step : PollStep env config content p action q) {path : String} (table : path ≠ config.lastestChecksumBinPath)
    (checkpoint : path ≠ config.checkpointFilePath) : q.disk path = p.disk path ∧ q.state.target = p.state.target ∨
      q.disk = p.disk.put (env.targetPath config) q.state.target ∧ ∃ inner, action = .component inner ∧
        sessionStep (env.sessionEnv config) content p.state inner = some q.state := by
  cases step with
  | drive drives ran =>
      refine .inl ⟨rfl,control_target (sessionStep_sound ran) ?_⟩
      cases drives with
      | assigned here assigns next => rcases assigns with rfl | rfl | rfl <;> rfl
      | _ => rfl
  | table | tableLost | finalTable => exact .inl ⟨save_other table,rfl⟩
  | bitmap | bitmapLost | snapshot | finalBitmap => exact .inl ⟨save_other checkpoint,rfl⟩
  | component own ran => exact .inr ⟨rfl,_,rfl,ran⟩
  | _ => exact .inl ⟨rfl,rfl⟩

theorem PollStep.mounted (separate : Separate env config config) (mounted : Mounted env config p)
    (step : PollStep env config content p action q) : Mounted env config q := by
  rcases step.disk separate.table separate.checkpoint with ⟨same,target⟩ | ⟨saved,_⟩
  · exact (same.trans mounted).trans (by rw [target])
  · rw [Mounted,saved]
    exact put_same

theorem PollStep.held (separate : Separate env config other) (coherent : Coherent env source config other)
    (sound : Sound (env.sessionEnv config) (source config) o p.state) (pooled : Pooled config) (whole : ¬Torn p.state.history)
    (mounted : Mounted env config p) (step : PollStep env config (source config) p action q) (inside : index ≤ other.m_maxIndex)
    (held : Held env p.disk other (source other) index) : Held env q.disk other (source other) index := by
  obtain ⟨content,present,holds⟩ := held
  rcases step.disk separate.table separate.checkpoint with ⟨same,_⟩ | ⟨saved,inner,_,ran⟩
  · exact ⟨content,same.trans present,holds⟩
  · by_cases shared : env.targetPath config = env.targetPath other
    · have here : content = p.state.target := Option.some.inj (present.symm.trans (shared ▸ mounted))
      subst here
      refine ⟨q.state.target,by rw [saved,← shared]; exact put_same,?_⟩
      rcases sound.writes pooled whole (sessionStep_sound ran) with same | writes
      · exact same ▸ holds
      · exact coherent.keeps shared writes inside holds
    · exact ⟨content,by rw [saved,put_other (Ne.symm shared)]; exact present,holds⟩

end polling

end VolumeBackup
