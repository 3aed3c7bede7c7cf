import VolumeBackup.FlowData

namespace VolumeBackup
open ByteMemory

variable {env : SessionEnv} {source : Content} {o f g : Flow} {block other : VolumeConsumeBlock}

-- Comparing looks at the block's own entry only where 32 bits hold its place in the table.
def Comparable (env : SessionEnv) : Prop := env.m_forwardMode = .DIFF → env.config.m_maxIndex < 2^27

-- The checksum of a block is stored before the block goes on; what was compared and found different is
-- different, and what was dropped had its checksum in the previous table.
structure Checksums (env : SessionEnv) (source : Content) (f : Flow) : Prop where
  stored : ∀ index, .hash index ∈ f.history → entry f.lastest index = blockDigest env source index
  unhashed : ∀ block ∈ f.unhashed, env.config.hasherEnabled = true
  hashed : ∀ block ∈ f.hashed, env.config.hasherEnabled = true ∧ env.m_forwardMode = .DIFF ∧ .hash block.index ∈ f.history
  unwritten : env.config.hasherEnabled = true → ∀ block ∈ f.unwritten, .hash block.index ∈ f.history
  done : env.config.hasherEnabled = true → ∀ index ∈ done f.history, .hash index ∈ f.history
  changed : Comparable env → env.config.hasherEnabled = true → env.m_forwardMode = .DIFF → ∀ block ∈ f.unwritten,
    entry f.previous block.index ≠ blockDigest env source block.index
  recorded : Comparable env → env.config.hasherEnabled = true → env.m_forwardMode = .DIFF → ∀ index ∈ recorded f.history,
    entry f.previous index ≠ blockDigest env source index
  dropped : Comparable env → ∀ index, .drop index ∈ f.history → env.config.hasherEnabled = true ∧ env.m_forwardMode = .DIFF ∧
    entry f.previous index = blockDigest env source index

theorem compare_entry (comparable : Comparable env) (diff : env.m_forwardMode = .DIFF)
    (inside : index ≤ env.config.m_maxIndex) :
    memcmp left (diffOffset index) right (diffOffset index) SHA256_CHECKSUM_SIZE = true ↔
      entry left index = entry right index := by
  rw [diffOffset_exact (Nat.lt_of_le_of_lt inside (comparable diff))]
  exact memcmp_entry

theorem Checksums.moves (checksums : Checksums env source f) (lastest : g.lastest = f.lastest) (previous : g.previous = f.previous)
    (history : ∀ event ∈ f.history, event ∈ g.history) (hash : ∀ index, .hash index ∈ g.history → .hash index ∈ f.history)
    (unhashed : ∀ block ∈ g.unhashed, block ∈ f.unhashed ∨ env.config.hasherEnabled = true)
    (hashed : ∀ block ∈ g.hashed, block ∈ f.hashed)
    (unwritten : ∀ block ∈ g.unwritten, block ∈ f.unwritten ∨ env.config.hasherEnabled = false ∨
      .hash block.index ∈ f.history ∧ (Comparable env → entry f.previous block.index ≠ blockDigest env source block.index))
    (done : ∀ index ∈ VolumeBackup.done g.history, index ∈ VolumeBackup.done f.history ∨ env.config.hasherEnabled = false ∨ .hash index ∈ f.history)
    (recorded : ∀ index ∈ VolumeBackup.recorded g.history, index ∈ VolumeBackup.recorded f.history ∨ env.config.hasherEnabled = false ∨
      env.m_forwardMode = .DIRECT ∨ (Comparable env → entry f.previous index ≠ blockDigest env source index))
    (dropped : ∀ index, .drop index ∈ g.history → .drop index ∈ f.history ∨ env.config.hasherEnabled = true ∧
      env.m_forwardMode = .DIFF ∧ (Comparable env → entry f.previous index = blockDigest env source index)) :
    Checksums env source g where
  stored := by
    intro index known
    rw [lastest]
    exact checksums.stored index (hash index known)
  unhashed := fun block inside => (unhashed block inside).elim (checksums.unhashed block) id
  hashed := by
    intro block inside
    obtain ⟨enabled,diff,known⟩ := checksums.hashed block (hashed block inside)
    exact ⟨enabled,diff,history _ known⟩
  unwritten := by
    intro enabled block inside
    rcases unwritten block inside with earlier | disabled | known
    · exact history _ (checksums.unwritten enabled block earlier)
    · cases enabled.symm.trans disabled
    · exact history _ known.1
  done := by
    intro enabled index left
    rcases done index left with earlier | disabled | known
    · exact history _ (checksums.done enabled index earlier)
    · cases enabled.symm.trans disabled
    · exact history _ known
  changed := by
    intro comparable enabled diff block inside
    rw [previous]
    rcases unwritten block inside with earlier | disabled | known
    · exact checksums.changed comparable enabled diff block earlier
    · cases enabled.symm.trans disabled
    · exact known.2 comparable
  recorded := by
    intro comparable enabled diff index left
    rw [previous]
    rcases recorded index left with earlier | disabled | direct | differ
    · exact checksums.recorded comparable enabled diff index earlier
    · cases enabled.symm.trans disabled
    · cases diff.symm.trans direct
    · exact differ comparable
  dropped := by
    intro comparable index drop
    rw [previous]
    exact (dropped index drop).elim (checksums.dropped comparable index) fun now => ⟨now.1,now.2.1,now.2.2 comparable⟩

theorem Checksums.same (checksums : Checksums env source f) (lastest : g.lastest = f.lastest) (previous : g.previous = f.previous)
    (history : g.history = f.history) (unhashed : g.unhashed = f.unhashed) (hashed : g.hashed = f.hashed)
    (unwritten : g.unwritten = f.unwritten) : Checksums env source g := by
  refine checksums.moves lastest previous ?_ ?_ ?_ ?_ ?_ ?_ ?_ ?_
  · rw [history]; exact fun _ => id
  · rw [history]; exact fun _ => id
  · rw [unhashed]; exact fun _ => .inl
  · rw [hashed]; exact fun _ => id
  · rw [unwritten]; exact fun _ => .inl
  · rw [history]; exact fun _ => .inl
  · rw [history]; exact fun _ => .inl
  · rw [history]; exact fun _ => .inl

theorem Checksums.hash (checksums : Checksums env source f) (carried : Carried env source f) (held : f.unhashed = block ::ₘ rest)
    (same : digest = env.sha256 (ByteMemory.read f.pool block.ptr block.length)) :
    Checksums env source (Flow.forward env {f with
      unhashed := rest,lastest := setEntry f.lastest block.index digest,history := .hash block.index::f.history} block) := by
  have mine : block ∈ f.inFlight := by simp [Flow.inFlight,held]
  have enabled := checksums.unhashed block (held ▸ Multiset.mem_cons_self _ _)
  have correct : digest = blockDigest env source block.index := by rw [same,(carried block mine).data]; rfl
  have stored (index : Nat) (known : .hash index ∈ .hash block.index::f.history) :
      entry (setEntry f.lastest block.index digest) index = blockDigest env source index := by
    by_cases equal : index = block.index
    · subst equal
      rw [entry_setEntry_self,correct]
    · rw [entry_setEntry_other equal]
      refine checksums.stored index ((List.mem_cons.mp known).resolve_left fun now => equal ?_)
      exact Event.hash.inj now
  have unhashed (other : VolumeConsumeBlock) (inside : other ∈ rest) : env.config.hasherEnabled = true :=
    checksums.unhashed other (held ▸ Multiset.mem_cons_of_mem inside)
  have hashed (other : VolumeConsumeBlock) (inside : other ∈ f.hashed) :
      env.config.hasherEnabled = true ∧ env.m_forwardMode = .DIFF ∧ .hash other.index ∈ .hash block.index::f.history := by
    obtain ⟨enabled,diff,known⟩ := checksums.hashed other inside
    exact ⟨enabled,diff,List.mem_cons_of_mem _ known⟩
  have unwritten (other : VolumeConsumeBlock) (inside : other ∈ f.unwritten) : .hash other.index ∈ .hash block.index::f.history :=
    List.mem_cons_of_mem _ (checksums.unwritten enabled other inside)
  have done (index : Nat) (left : index ∈ VolumeBackup.done (.hash block.index::f.history)) : .hash index ∈ .hash block.index::f.history :=
    List.mem_cons_of_mem _ (checksums.done enabled index left)
  have dropped (comparable : Comparable env) (index : Nat) (drop : .drop index ∈ .hash block.index::f.history) :
      env.config.hasherEnabled = true ∧ env.m_forwardMode = .DIFF ∧ entry f.previous index = blockDigest env source index :=
    checksums.dropped comparable index ((List.mem_cons.mp drop).resolve_left Event.noConfusion)
  unfold Flow.forward
  split
  · rename_i direct
    refine ⟨stored,unhashed,hashed,fun _ other inside => ?_,fun _ => done,fun _ _ diff => ?_,fun _ _ diff => ?_,dropped⟩
    · rcases Multiset.mem_cons.mp inside with rfl | earlier
      · exact List.mem_cons_self
      · exact unwritten other earlier
    · cases direct.symm.trans diff
    · cases direct.symm.trans diff
  · rename_i diff
    refine ⟨stored,unhashed,fun other inside => ?_,fun _ => unwritten,fun _ => done,checksums.changed,checksums.recorded,dropped⟩
    rcases Multiset.mem_cons.mp inside with rfl | earlier
    · exact ⟨enabled,diff,List.mem_cons_self⟩
    · exact hashed other earlier

theorem Checksums.leave (checksums : Checksums env source f) (held : f.unwritten = block ::ₘ rest)
    (lastest : g.lastest = f.lastest) (previous : g.previous = f.previous) (history : g.history = event::f.history)
    (other : (∀ index, event ≠ .hash index) ∧ ∀ index, event ≠ .drop index)
    (unhashed : g.unhashed = f.unhashed) (hashed : g.hashed = f.hashed) (unwritten : g.unwritten = rest)
    (left : VolumeBackup.done (event::f.history) = block.index ::ₘ VolumeBackup.done f.history)
    (written : ∀ index ∈ VolumeBackup.recorded (event::f.history), index = block.index ∨ index ∈ VolumeBackup.recorded f.history) :
    Checksums env source g := by
  have mine : block ∈ f.unwritten := held ▸ Multiset.mem_cons_self _ _
  refine checksums.moves lastest previous ?_ ?_ ?_ ?_ ?_ ?_ ?_ ?_
  · rw [history]
    exact fun _ => List.mem_cons_of_mem _
  · rw [history]
    exact fun index inside => (List.mem_cons.mp inside).resolve_left (Ne.symm (other.1 index))
  · rw [unhashed]; exact fun _ => .inl
  · rw [hashed]; exact fun _ => id
  · rw [unwritten]
    exact fun other inside => .inl (held ▸ Multiset.mem_cons_of_mem inside)
  · intro index inside
    rw [history,left] at inside
    rcases Multiset.mem_cons.mp inside with rfl | earlier
    · cases enabled : env.config.hasherEnabled with
      | false => exact .inr (.inl rfl)
      | true => exact .inr (.inr (checksums.unwritten enabled block mine))
    · exact .inl earlier
  · intro index inside
    rw [history] at inside
    rcases written index inside with rfl | earlier
    · cases enabled : env.config.hasherEnabled with
      | false => exact .inr (.inl rfl)
      | true =>
          cases mode : env.m_forwardMode with
          | DIRECT => exact .inr (.inr (.inl rfl))
          | DIFF => exact .inr (.inr (.inr fun comparable => checksums.changed comparable enabled mode block mine))
    · exact .inl earlier
  · rw [history]
    exact fun index inside => .inl ((List.mem_cons.mp inside).resolve_left (Ne.symm (other.2 index)))

theorem Checksums.compare (checksums : Checksums env source f) (carried : Carried env source f)
    (held : f.hashed = block ::ₘ rest) :
    env.config.hasherEnabled = true ∧ env.m_forwardMode = .DIFF ∧ .hash block.index ∈ f.history ∧
    (Comparable env → (memcmp f.previous (diffOffset block.index) f.lastest (diffOffset block.index) SHA256_CHECKSUM_SIZE = true ↔
      entry f.previous block.index = blockDigest env source block.index)) := by
  obtain ⟨enabled,diff,known⟩ := checksums.hashed block (held ▸ Multiset.mem_cons_self _ _)
  have inside := (carried block (by simp [Flow.inFlight,held])).inside
  rw [← checksums.stored _ known]
  exact ⟨enabled,diff,known,fun comparable => compare_entry comparable diff inside⟩

theorem Checksums.step (checksums : Checksums env source f) (carried : Carried env source f)
    (step : FlowStep env source f g) : Checksums env source g := by
  cases step with
  | hash held same => exact checksums.hash carried held same
  | read chosen held made done =>
      unfold Flow.accept
      have keeps (index : Nat) {event : Event} (inside : event ∈ .read index true::f.history) (hash : event ≠ .read index true) :
          event ∈ f.history := (List.mem_cons.mp inside).resolve_left hash
      split
      · rename_i enabled
        exact checksums.moves rfl rfl (fun _ => List.mem_cons_of_mem _) (fun _ inside => keeps _ inside nofun)
          (fun _ _ => .inr enabled) (fun _ => id) (fun _ => .inl) (fun _ => .inl) (fun _ => .inl)
          fun _ inside => .inl (keeps _ inside nofun)
      · rename_i disabled
        exact checksums.moves rfl rfl (fun _ => List.mem_cons_of_mem _) (fun _ inside => keeps _ inside nofun)
          (fun _ => .inl) (fun _ => id) (fun _ _ => .inr (.inl (Bool.eq_false_iff.mpr disabled))) (fun _ => .inl) (fun _ => .inl)
          fun _ inside => .inl (keeps _ inside nofun)
  | unread held =>
      exact checksums.moves rfl rfl (fun _ => List.mem_cons_of_mem _)
        (fun _ inside => (List.mem_cons.mp inside).resolve_left nofun) (fun _ => .inl) (fun _ => id) (fun _ => .inl)
        (fun _ => .inl) (fun _ => .inl) fun _ inside => .inl ((List.mem_cons.mp inside).resolve_left nofun)
  | drop held equal =>
      rename_i block rest
      obtain ⟨enabled,diff,known,compared⟩ := checksums.compare carried held
      refine checksums.moves rfl rfl (fun _ => List.mem_cons_of_mem _)
        (fun _ inside => (List.mem_cons.mp inside).resolve_left nofun) (fun _ => .inl)
        (fun other inside => held ▸ Multiset.mem_cons_of_mem inside) (fun _ => .inl) (fun index left => ?_) (fun _ => .inl)
        fun index inside => ?_
      · rw [done_drop] at left
        rcases Multiset.mem_cons.mp left with rfl | earlier
        · exact .inr (.inr known)
        · exact .inl earlier
      · rcases List.mem_cons.mp inside with now | earlier
        · cases now
          exact .inr ⟨enabled,diff,fun comparable => (compared comparable).mp equal⟩
        · exact .inl earlier
  | pass held differ =>
      rename_i block rest
      obtain ⟨enabled,diff,known,compared⟩ := checksums.compare carried held
      refine checksums.moves rfl rfl (fun _ => id) (fun _ => id) (fun _ => .inl)
        (fun other inside => held ▸ Multiset.mem_cons_of_mem inside) (fun other inside => ?_) (fun _ => .inl) (fun _ => .inl) fun _ => .inl
      rcases Multiset.mem_cons.mp inside with rfl | earlier
      · exact .inr (.inr ⟨known,fun comparable same => Bool.noConfusion (differ.symm.trans ((compared comparable).mpr same))⟩)
      · exact .inl earlier
  | write held needed ok | tear torn held | empty held zeros =>
      exact checksums.leave held rfl rfl rfl ⟨nofun,nofun⟩ rfl rfl rfl rfl fun _ => List.mem_cons.mp
  | discard held free =>
      exact checksums.leave held rfl rfl rfl ⟨nofun,nofun⟩ rfl rfl rfl rfl fun _ => .inr
  | _ => exact checksums.same rfl rfl rfl rfl rfl rfl

structure Stored (env : SessionEnv) (source : Content) (o f : Flow) : Prop where
  larger : o.target.size ≤ f.target.size
  device : env.dataWriter.device = true → f.target.size = o.target.size
  written : ∀ index offset data, .write index offset data true ∈ f.history →
    offset = env.config.consumeBlockOffset index ∧ data = blockBytes env source index ∧
    writePosition env index+env.config.nBytesToRead index < 2^63 ∧
    f.target.Holds (writePosition env index) (env.config.nBytesToRead index) source.byte (readPosition env index)
  empty : ∀ index, .skipEmpty index ∈ f.history → env.config.skipEmptyBlock = true ∧
    ∀ k < env.config.nBytesToRead index, source.byte (readPosition env index+k) = 0
  elsewhere : ∀ address, (∀ index offset data ok, .write index offset data ok ∈ f.history →
    address < writePosition env index ∨ writePosition env index+env.config.nBytesToRead index ≤ address) →
    f.target.byte address = o.target.byte address

theorem write_some {raw : RawData} (done : raw.Write target offset length data = some next) :
    0 < length ∧ raw.position offset+length < 2^63 ∧ (raw.device = true → raw.position offset+length ≤ target.size) ∧
      next = target.write (raw.position offset) length data := by
  unfold RawData.Write at done
  split at done
  · rename_i accepted
    have bounds := of_decide_eq_true accepted.1
    exact ⟨bounds.1,accepted.2.1,accepted.2.2,(Option.some.inj done).symm⟩
  · cases done

theorem unneeded_zeros (unneeded : NeedToWrite env pool ptr length = false) :
    env.config.skipEmptyBlock = true ∧ ∀ k < length, pool (ptr+k) = 0 := by
  unfold NeedToWrite at unneeded
  split at unneeded
  · rename_i skip
    simp only [Bool.not_eq_false',Bool.and_eq_true,beq_iff_eq,memcmp] at unneeded
    obtain ⟨first,shifted⟩ := unneeded
    have same := read_same.mp shifted
    refine ⟨skip,fun k bound => ?_⟩
    induction k with
    | zero => exact first
    | succ k ih =>
        have next := same k (by omega)
        rw [ih (by omega)] at next
        rw [← Nat.add_assoc,Nat.add_right_comm]
        exact next.symm
  · cases unneeded

theorem Tokens.flying_fresh (tokens : Tokens env f) (flying : block ∈ f.inFlight) :
    block.index ∉ done f.history := by
  have apart := tokens.nodup
  rw [← tokens.count] at apart
  exact fun left => (Multiset.disjoint_left.mp (Multiset.nodup_add.mp apart).2.2)
    (Multiset.mem_map_of_mem _ flying) left

theorem write_done (wrote : .write index offset data ok ∈ history) : index ∈ done history :=
  Multiset.mem_coe.mpr (List.mem_filterMap.mpr ⟨_,wrote,rfl⟩)

theorem Stored.step (kept : Stored env source o f) (carried : Carried env source f) (tokens : Tokens env f)
    (step : FlowStep env source f g) (whole : ¬Torn g.history) : Stored env source o g := by
  obtain ⟨larger,device,written,empty,elsewhere⟩ := kept
  cases step with
  | write held needed ok =>
      rename_i block rest target
      have mine : block ∈ f.inFlight := by simp [Flow.inFlight,held]
      have carries := carried block mine
      have fresh := tokens.flying_fresh mine
      obtain ⟨some,fits,bounded,rfl⟩ := write_some ok
      have place : env.dataWriter.position block.volumeOffset = writePosition env block.index := by
        rw [carries.offset]; rfl
      rw [place] at fits bounded ⊢
      have same : Same block.length (fun k => f.pool (block.ptr+k)) 0 source.byte (readPosition env block.index) := by
        intro k bound
        simpa using carries.bytes k bound
      refine ⟨Nat.le_trans larger Content.size_write,?_,?_,?_,?_⟩
      · intro fixed
        have inside := bounded fixed
        show (if block.length = 0 then f.target.size else max f.target.size _) = o.target.size
        rw [if_neg (by omega),← device fixed]
        omega
      · simp only [List.mem_cons,Event.write.injEq]
        rintro index offset data (⟨rfl,rfl,rfl,_⟩ | earlier)
        · rw [← carries.length]
          exact ⟨carries.offset,carries.data,fits,Content.write_holds some same⟩
        · obtain ⟨known,bytes,short,holds⟩ := written index offset data earlier
          refine ⟨known,bytes,short,holds.write_apart ?_⟩
          have differ : block.index ≠ index := fun equal => fresh (equal ▸ write_done earlier)
          have other := tokens.inside index (tokens.done_read (write_done earlier))
          rw [carries.length]
          exact blocks_apart differ carries.inside other
      · simpa only [List.mem_cons,reduceCtorEq,false_or] using empty
      · intro address outside
        have mine := outside block.index block.volumeOffset _ true List.mem_cons_self
        rw [← carries.length] at mine
        exact (Content.write_outside mine).trans (elsewhere address fun index offset data ok inside =>
          outside index offset data ok (List.mem_cons_of_mem _ inside))
  | empty held zeros =>
      rename_i block rest
      have carries := carried block (by simp [Flow.inFlight,held])
      refine ⟨larger,device,?_,?_,?_⟩
      · simpa only [List.mem_cons,reduceCtorEq,false_or] using written
      · simp only [List.mem_cons,Event.skipEmpty.injEq]
        rintro index (rfl | earlier)
        · obtain ⟨skip,clear⟩ := unneeded_zeros zeros
          refine ⟨skip,fun k bound => ?_⟩
          rw [← carries.length] at bound
          exact (carries.bytes k bound).symm.trans (clear k bound)
        · exact empty index earlier
      · simpa only [List.mem_cons,reduceCtorEq,false_or] using elsewhere
  | tear torn held => exact absurd ⟨_,_,_,List.mem_cons_self⟩ whole
  | read chosen held made ok =>
      unfold Flow.accept
      split <;> exact ⟨larger,device,by simpa using written,by simpa using empty,by simpa using elsewhere⟩
  | hash held same =>
      unfold Flow.forward
      split <;> exact ⟨larger,device,by simpa using written,by simpa using empty,by simpa using elsewhere⟩
  | unread | drop | discard =>
      exact ⟨larger,device,by simpa using written,by simpa using empty,by simpa using elsewhere⟩
  | _ => exact ⟨larger,device,written,empty,elsewhere⟩

end VolumeBackup
