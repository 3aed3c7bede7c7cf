import VolumeBackup.SequentialCopy

namespace VolumeBackup
open ByteMemory LabelledRuns

def Event.writtenIndex : Event → Option Nat
  | .write index _ _ _ => some index
  | _ => none

def writeOrder (history : List Event) : List Nat := history.filterMap Event.writtenIndex
def hashOrder (history : List Event) : List Nat := history.filterMap Event.hashIndex

section history
variable {history : List Event}

@[simp] theorem writeOrder_read : writeOrder (.read index ok::history) = writeOrder history := rfl
@[simp] theorem writeOrder_hash : writeOrder (.hash index::history) = writeOrder history := rfl
@[simp] theorem writeOrder_drop : writeOrder (.drop index::history) = writeOrder history := rfl
@[simp] theorem writeOrder_skipEmpty : writeOrder (.skipEmpty index::history) = writeOrder history := rfl
@[simp] theorem writeOrder_write : writeOrder (.write index offset data ok::history) = index::writeOrder history := rfl
@[simp] theorem writeOrder_discard : writeOrder (.discard index::history) = writeOrder history := rfl
@[simp] theorem hashOrder_read : hashOrder (.read index ok::history) = hashOrder history := rfl
@[simp] theorem hashOrder_hash : hashOrder (.hash index::history) = index::hashOrder history := rfl
@[simp] theorem hashOrder_drop : hashOrder (.drop index::history) = hashOrder history := rfl
@[simp] theorem hashOrder_skipEmpty : hashOrder (.skipEmpty index::history) = hashOrder history := rfl
@[simp] theorem hashOrder_write : hashOrder (.write index offset data ok::history) = hashOrder history := rfl
@[simp] theorem hashOrder_discard : hashOrder (.discard index::history) = hashOrder history := rfl

end history

def Stamped (before now : Bitmap) (due : List Nat) (waiting : Multiset Nat) : Prop :=
  ∃ marks : List Nat, (marks : Multiset Nat)+waiting = due ∧ now = marks.foldr putBit before

-- The data of a session as the outcome of its history, while no write has failed.
structure Replayed (env : SessionEnv) (source : Content) (o f : Flow) : Prop where
  target : f.target = (writeOrder f.history).foldr (putBlock env source) o.target
  table : f.lastest = (hashOrder f.history).foldr (putDigest env source) o.lastest
  processed : Stamped o.processed f.processed (settled f.history) f.settling
  written : Stamped o.written f.written (recorded f.history) f.recording
  needed : ∀ index ∈ writeOrder f.history, Needed env source index = true
  empty : ∀ index, .skipEmpty index ∈ f.history → Needed env source index = false
  plain : env.config.hasherEnabled = false → hashOrder f.history = []

variable {env : SessionEnv} {source : Content} {o f g : Flow} {s t : Session} {before now : Bitmap} {indices : List Nat}
  {waiting : Multiset Nat}

theorem Stamped.owe (stamped : Stamped before now indices waiting) : Stamped before now (index::indices) (index ::ₘ waiting) := by
  obtain ⟨marks,all,same⟩ := stamped
  exact ⟨marks,by rw [Multiset.add_cons,all,Multiset.cons_coe],same⟩

theorem Stamped.set (stamped : Stamped before now indices (index ::ₘ waiting)) : Stamped before (now.Set index) indices waiting := by
  obtain ⟨marks,all,same⟩ := stamped
  refine ⟨index::marks,?_,by rw [same]; rfl⟩
  rw [← all,← Multiset.cons_coe,Multiset.cons_add,Multiset.add_cons]

theorem Carries.needed (carries : Carries env source pool block) :
    NeedToWrite env pool block.ptr block.length = Needed env source block.index := by
  rw [needed_same carries.some carries.bytes,carries.length]
  rfl

theorem Replayed.step (replayed : Replayed env source o f) (carried : Carried env source f) (checksums : Checksums env source f)
    (step : FlowStep env source f g) (whole : ¬Torn g.history) : Replayed env source o g := by
  obtain ⟨target,table,processed,written,needed,empty,plain⟩ := replayed
  cases step with
  | read chosen held made done =>
      unfold Flow.accept
      split <;> exact ⟨target,table,processed,written,needed,by simpa using empty,plain⟩
  | hash held same =>
      rename_i block rest digest
      have enabled := checksums.unhashed block (held ▸ Multiset.mem_cons_self _ _)
      have correct : digest = blockDigest env source block.index := by
        rw [same,(carried block (by simp [Flow.inFlight,held])).data]
        rfl
      have extended : setEntry f.lastest block.index digest = (block.index::hashOrder f.history).foldr (putDigest env source) o.lastest := by
        rw [List.foldr_cons,← table,correct]
        rfl
      unfold Flow.forward
      split <;> exact ⟨target,extended,processed,written,needed,by simpa using empty,fun disabled => absurd (enabled.symm.trans disabled) (by simp)⟩
  | drop held equal =>
      exact ⟨target,table,processed.owe,written,needed,by simpa using empty,plain⟩
  | write held need done =>
      rename_i block rest next
      have carries := carried block (by simp [Flow.inFlight,held])
      obtain ⟨_,_,_,rfl⟩ := write_some done
      refine ⟨?_,table,processed.owe,written.owe,?_,by simpa using empty,plain⟩
      · rw [writeOrder_write,List.foldr_cons,← target,putBlock,← carries.length]
        have place : env.dataWriter.position block.volumeOffset = writePosition env block.index := by rw [carries.offset]; rfl
        rw [place]
        exact Content.write_congr fun k bound => by simpa using carries.bytes k bound
      · simp only [writeOrder_write,List.mem_cons]
        rintro index (rfl | earlier)
        · exact carries.needed.symm.trans need
        · exact needed index earlier
  | tear torn held => exact absurd torn_now whole
  | empty held zeros =>
      rename_i block rest
      have carries := carried block (by simp [Flow.inFlight,held])
      refine ⟨target,table,processed.owe,written.owe,needed,?_,plain⟩
      simp only [List.mem_cons,Event.skipEmpty.injEq]
      rintro index (rfl | earlier)
      · exact carries.needed.symm.trans zeros
      · exact empty index earlier
  | discard held free => exact ⟨target,table,processed,written,needed,by simpa using empty,plain⟩
  | unread held => exact ⟨target,table,processed,written,needed,by simpa using empty,plain⟩
  | settle held => exact ⟨target,table,(held ▸ processed).set,written,needed,empty,plain⟩
  | record held => exact ⟨target,table,processed,(held ▸ written).set,needed,empty,plain⟩
  | _ => exact ⟨target,table,processed,written,needed,empty,plain⟩

structure Replaying (env : SessionEnv) (source : Content) (o : Flow) (first : SessionCounter) (s : Session) : Prop
    extends Audited env source o first s where
  replayed : Pooled env.config → ¬Torn s.history → Replayed env source o (s.flow env)
  toHash : env.config.hasherEnabled = false → s.counter.blocksToHash = first.blocksToHash

theorem Step.toHash (step : Step env source s action t) (plain : env.config.hasherEnabled = false) :
    t.counter.blocksToHash = s.counter.blocksToHash := by
  cases action with
  | reader outcome =>
      cases (step : ReaderStep env source outcome s t) with
      | pushHashing here hasher => exact absurd (hasher.symm.trans plain) (by simp)
      | _ => rfl
  | worker k => cases (step : WorkerStep env k s t) <;> rfl
  | writer outcome => cases (step : WriterStep env outcome s t) <;> rfl
  | start component => cases (step : ControlStep env _ s t) <;> rfl
  | pause paused => cases (step : ControlStep env _ s t); rfl
  | abort component | aborted component | aborting component =>
      cases (step : ControlStep env _ s t)
      cases component <;> rfl

theorem Replaying.step {first : SessionCounter} (replaying : Replaying env source o first s) (roomy : Roomy env o)
    (step : Step env source s action t) : Replaying env source o first t where
  toAudited := replaying.toAudited.step roomy step
  replayed := by
    intro pooled whole
    rcases s.flow_step replaying.order replaying.known step with same | moved
    · have history : t.history = s.history := congrArg Flow.history same
      rw [same]
      exact replaying.replayed pooled (history ▸ whole)
    · have before : ¬Torn s.history := fun torn => whole (moved.torn torn)
      have intact := replaying.intact pooled before
      exact (replaying.replayed pooled before).step intact.carried intact.checksums moved whole
  toHash := fun plain => (step.toHash plain).trans (replaying.toHash plain)

theorem Replaying.new {context : BlockHashingContext} {processed written : Bitmap} {first : SessionCounter} {target : Content}
    (none : first.blockesWriteFailed = 0) :
    Replaying env source ((Session.new env.config context processed written first target).flow env) first
      (.new env.config context processed written first target) where
  toAudited := .new none
  replayed := fun _ _ => ⟨rfl,rfl,⟨[],by simp [Session.flow,Session.new,Slots.gather,settled],rfl⟩,
    ⟨[],by simp [Session.flow,Session.new,recorded],rfl⟩,by simp [Session.flow,Session.new,writeOrder],
    by simp [Session.flow,Session.new],fun _ => rfl⟩
  toHash := fun _ => rfl

section order
variable {history : List Event}

theorem filterMap_sublist {f g : Event → Option Nat} (narrower : ∀ event index, f event = some index → g event = some index) :
    (history.filterMap f).Sublist (history.filterMap g) := by
  induction history with
  | nil => exact .slnil
  | cons event rest ih =>
      cases made : f event with
      | none =>
          rw [List.filterMap_cons_none made]
          cases also : g event with
          | none => rwa [List.filterMap_cons_none also]
          | some index =>
              rw [List.filterMap_cons_some also]
              exact ih.cons _
      | some index =>
          rw [List.filterMap_cons_some made,List.filterMap_cons_some (narrower _ _ made)]
          exact ih.cons_cons _

theorem settled_done_order (kept : ¬Discarded history) : settled history = history.filterMap Event.doneIndex := by
  refine List.filterMap_congr fun event present => ?_
  cases event with
  | discard index => exact absurd ⟨_,present⟩ kept
  | _ => rfl

theorem settled_done_coe (kept : ¬Discarded history) : ((settled history : List Nat) : Multiset Nat) = done history :=
  congrArg _ (settled_done_order kept)

end order

structure Concluded (env : SessionEnv) (source : Content) (o : Flow) (first : SessionCounter) (s : Session) : Prop
    extends Replaying env source o first s where
  pooled : Pooled env.config
  finished : Finished env s
  whole : ¬Torn s.history

section conclusion
variable {first : SessionCounter}

theorem Concluded.empty (concluded : Concluded env source o first s) : Empty (s.flow env) := concluded.toValid.empty concluded.finished

theorem Concluded.kept (concluded : Concluded env source o first s) : ¬Discarded s.history :=
  fun some => concluded.whole (concluded.writer.discarded some)

theorem Concluded.data (concluded : Concluded env source o first s) : Replayed env source o (s.flow env) :=
  concluded.replayed concluded.pooled concluded.whole

theorem Concluded.checksums (concluded : Concluded env source o first s) : Checksums env source (s.flow env) :=
  (concluded.intact concluded.pooled concluded.whole).checksums

theorem Concluded.read_done (concluded : Concluded env source o first s) : haveRead s.history = done s.history := by
  have count := concluded.tokens.count
  rw [concluded.empty.inFlight,Multiset.map_zero,Multiset.zero_add] at count
  exact count.symm

theorem Concluded.mem_done (concluded : Concluded env source o first s) :
    index ∈ done s.history ↔ index ≤ env.config.m_maxIndex ∧ Due env o.processed index = true := by
  have read := concluded.read_done
  simp only [Due,Bool.not_eq_true',Bool.and_eq_false_imp]
  constructor
  · intro left
    rw [← read] at left
    exact ⟨concluded.tokens.inside index left,concluded.coverage.fresh index left⟩
  · rintro ⟨inside,fresh⟩
    refine (concluded.toValid.all_done concluded.finished inside).resolve_right ?_
    rintro ⟨checkpoint,marked⟩
    exact Bool.noConfusion ((fresh checkpoint).symm.trans marked)

theorem Concluded.settled_perm (concluded : Concluded env source o first s) :
    (settled s.history).Perm (due env o.processed (List.range (env.config.m_maxIndex+1))) := by
  rw [settled_done_order concluded.kept]
  have once : (done s.history).Nodup := concluded.read_done ▸ concluded.tokens.nodup
  refine (List.perm_ext_iff_of_nodup (Multiset.coe_nodup.mp once) (due_nodup List.nodup_range)).mpr fun index => ?_
  rw [mem_due,List.mem_range,Nat.lt_succ_iff]
  exact concluded.mem_done

theorem Concluded.settled_nodup (concluded : Concluded env source o first s) : (settled s.history).Nodup :=
  concluded.settled_perm.nodup_iff.mpr (due_nodup List.nodup_range)

theorem Concluded.recorded_perm (concluded : Concluded env source o first s) (comparable : Comparable env) :
    (recorded s.history).Perm (differing env source o.previous (due env o.processed (List.range (env.config.m_maxIndex+1)))) := by
  have checksums := concluded.checksums
  have same : (s.flow env).previous = o.previous := concluded.previous
  have narrow : (recorded s.history).Sublist (settled s.history) := filterMap_sublist fun event index made => by
    cases event <;> first | exact made | cases made
  refine (List.perm_ext_iff_of_nodup (narrow.nodup concluded.settled_nodup) (differing_nodup (due_nodup List.nodup_range))).mpr
    fun index => ?_
  rw [mem_differing,← concluded.settled_perm.mem_iff]
  constructor
  · intro passed
    refine ⟨recorded_settled passed,?_⟩
    have differ := checksums.recorded comparable
    rw [same] at differ
    unfold Unchanged
    cases enabled : env.config.hasherEnabled with
    | false => rfl
    | true =>
        cases mode : env.m_forwardMode with
        | DIRECT => rfl
        | DIFF => simpa using differ enabled mode index passed
  · rintro ⟨left,differs⟩
    rcases settled_cases left with drop | empty | ⟨offset,data,ok,write⟩
    · obtain ⟨enabled,diff,equal⟩ := checksums.dropped comparable index drop
      rw [same] at equal
      simp [Unchanged,enabled,diff,equal] at differs
    · exact List.mem_filterMap.mpr ⟨_,empty,rfl⟩
    · exact List.mem_filterMap.mpr ⟨_,write,rfl⟩

theorem Concluded.write_perm (concluded : Concluded env source o first s) (comparable : Comparable env) :
    (writeOrder s.history).Perm
      (needed env source (differing env source o.previous (due env o.processed (List.range (env.config.m_maxIndex+1))))) := by
  have passed := concluded.recorded_perm comparable
  have narrow : (writeOrder s.history).Sublist (recorded s.history) := filterMap_sublist fun event index made => by
    cases event <;> first | exact made | cases made
  have once : (recorded s.history).Nodup := passed.nodup_iff.mpr (differing_nodup (due_nodup List.nodup_range))
  refine (List.perm_ext_iff_of_nodup (narrow.nodup once) (needed_nodup (differing_nodup (due_nodup List.nodup_range)))).mpr
    fun index => ?_
  rw [mem_needed,← passed.mem_iff]
  constructor
  · exact fun wrote => ⟨narrow.subset wrote,concluded.data.needed index wrote⟩
  · rintro ⟨left,need⟩
    obtain ⟨event,present,same⟩ := List.mem_filterMap.mp left
    cases event with
    | skipEmpty =>
        cases Option.some.inj same
        exact Bool.noConfusion (need.symm.trans (concluded.data.empty index present))
    | write => exact List.mem_filterMap.mpr ⟨_,present,same⟩
    | read | hash | drop | discard => cases same

theorem Concluded.hash_perm (concluded : Concluded env source o first s) (enabled : env.config.hasherEnabled = true) :
    (hashOrder s.history).Perm (due env o.processed (List.range (env.config.m_maxIndex+1))) := by
  have all := concluded.passage.hashed enabled
  have none : (s.flow env).unhashed = 0 := by
    have flying := concluded.empty.inFlight
    simp only [Flow.inFlight,add_eq_zero] at flying
    exact flying.1.1
  rw [none,Multiset.map_zero,Multiset.zero_add] at all
  have same : haveHashed s.history = done s.history := all.trans concluded.read_done
  refine (Multiset.coe_eq_coe.mp same).trans ?_
  rw [← settled_done_order concluded.kept]
  exact concluded.settled_perm

-- What is put in place one after the other may be put there in any order, where two of the things do not meet.
theorem foldr_any_order {γ : Type} {f : Nat → γ → γ} {indices others : List Nat} {before : γ} (perm : indices.Perm others)
    (comm : ∀ i ∈ indices, ∀ j ∈ indices, i ≠ j → ∀ x, f j (f i x) = f i (f j x)) :
    indices.foldr f before = others.reverse.foldr f before := by
  refine (perm.trans (List.reverse_perm _).symm).foldr_eq' (fun i inside j within x => ?_) _
  by_cases same : i = j
  · rw [same]
  · exact comm i inside j within same x

theorem bits_any_order {indices others : List Nat} {before : Bitmap} (perm : indices.Perm others) :
    indices.foldr putBit before = others.reverse.foldr putBit before :=
  foldr_any_order perm fun i _ j _ _ bitmap => set_comm bitmap i j

theorem Stamped.all (stamped : Stamped before now indices 0) (perm : indices.Perm others) : now = others.reverse.foldr putBit before := by
  obtain ⟨marks,all,same⟩ := stamped
  rw [add_zero] at all
  rw [same]
  exact bits_any_order ((Multiset.coe_eq_coe.mp all).trans perm)

theorem counter_eq {left right : SessionCounter} (toRead : left.bytesToRead = right.bytesToRead) (read : left.bytesRead = right.bytesRead)
    (toHash : left.blocksToHash = right.blocksToHash) (hashed : left.blocksHashed = right.blocksHashed)
    (toWrite : left.bytesToWrite = right.bytesToWrite) (written : left.bytesWritten = right.bytesWritten)
    (failed : left.blockesWriteFailed = right.blockesWriteFailed) : left = right := by
  cases left
  cases right
  simp only [SessionCounter.mk.injEq]
  exact ⟨toRead,read,toHash,hashed,toWrite,written,failed⟩

theorem Concluded.counter (concluded : Concluded env source o first s) (none : first.blockesWriteFailed = 0) {read passed : List Nat}
    (reads : haveRead s.history = read) (handed : (recorded s.history).Perm passed) : s.counter = {first with
      bytesToRead := env.config.sessionSize.toNat,
      bytesRead := first.bytesRead+env.config.bytes read,
      blocksToHash := first.blocksToHash+if env.config.hasherEnabled then read.length else 0,
      blocksHashed := first.blocksHashed+if env.config.hasherEnabled then read.length else 0,
      bytesToWrite := first.bytesToWrite+env.config.bytes passed,
      bytesWritten := first.bytesWritten+env.config.bytes passed} := by
  have ledger := concluded.ledger
  have finished := concluded.finished
  have started : s.readerTask.pc ≠ .notStarted := by rcases finished.reader with here | here <;> simp [here]
  have idle : s.readerTask.pc.block = 0 := by rcases finished.reader with here | here <;> simp [here]
  have paid : s.writerTask.pc.unwritten = 0 ∧ s.writerTask.pc.unpaid = 0 := by
    rcases finished.writer with here | here | here <;> simp [here]
  have same : ((recorded s.history : List Nat) : Multiset Nat) = passed := Multiset.coe_eq_coe.mpr handed
  refine counter_eq (ledger.toRead.resolve_left started) (reads ▸ ledger.read) ?_ ?_ ?_ ?_ ?_
  · dsimp only
    split
    · rename_i enabled
      have books := ledger.toHash enabled
      rwa [idle,reads,Multiset.coe_card] at books
    · rename_i disabled
      exact concluded.toHash (Bool.eq_false_iff.mpr disabled)
  · rw [ledger.hashed]
    dsimp only
    congr 1
    split
    · rename_i enabled
      have all : haveHashed s.history = haveRead s.history := by
        rw [concluded.read_done,← settled_done_coe concluded.kept]
        exact Multiset.coe_eq_coe.mpr ((concluded.hash_perm enabled).trans concluded.settled_perm.symm)
      rw [all,reads,Multiset.coe_card]
    · rename_i disabled
      have hashed : haveHashed s.history = ([] : List Nat) := congrArg _ (concluded.data.plain (Bool.eq_false_iff.mpr disabled))
      rw [hashed]
      rfl
  · have thrown : thrownAway s.history = 0 := by
      refine Multiset.eq_zero_of_forall_notMem fun index inside => ?_
      obtain ⟨event,present,made⟩ := List.mem_filterMap.mp (Multiset.mem_coe.mp inside)
      cases event with
      | discard => exact concluded.kept ⟨_,present⟩
      | _ => cases made
    have books := ledger.toWrite
    rw [finished.drained.1,paid.1,thrown,same] at books
    simpa using books
  · have books := ledger.written
    rw [paid.2,same] at books
    simpa using books
  · dsimp only
    rw [none]
    by_contra some
    exact concluded.whole (concluded.toValid.writer.counted some)

theorem Concluded.effects (concluded : Concluded env source o first s) (comparable : Comparable env)
    (none : first.blockesWriteFailed = 0) :
    s.effects = Effects.copyAll env source o.previous ⟨first,o.target,o.lastest,o.processed,o.written⟩ := by
  have settled := concluded.settled_perm
  have passed := concluded.recorded_perm comparable
  have wrote := concluded.write_perm comparable
  have data := concluded.data
  have inside {index : Nat} (present : index ∈ writeOrder s.history) : index ≤ env.config.m_maxIndex := by
    have within := (mem_due.mp (mem_differing.mp (mem_needed.mp (wrote.subset present)).1).1).1
    exact Nat.lt_succ_iff.mp (List.mem_range.mp within)
  have reads : haveRead s.history = (due env o.processed (List.range (env.config.m_maxIndex+1))).reverse := by
    rw [concluded.read_done,← settled_done_coe concluded.kept]
    exact Multiset.coe_eq_coe.mpr (settled.trans (List.reverse_perm _).symm)
  unfold Effects.copyAll
  rw [fold_copyBlock List.nodup_range]
  have table : s.hashingContext.lastestTable = if env.config.hasherEnabled then
      (due env o.processed (List.range (env.config.m_maxIndex+1))).reverse.foldr (putDigest env source) o.lastest else o.lastest := by
    refine data.table.trans ?_
    split
    · rename_i enabled
      exact foldr_any_order (concluded.hash_perm enabled) fun i _ j _ differ table => setEntry_comm differ
    · rename_i disabled
      rw [data.plain (Bool.eq_false_iff.mpr disabled)]
      rfl
  generalize due env o.processed (List.range (env.config.m_maxIndex+1)) = read at *
  have target : s.target = (needed env source (differing env source o.previous read)).reverse.foldr (putBlock env source) o.target :=
    data.target.trans (foldr_any_order wrote fun i present j also differ x =>
      Content.write_comm (blocks_apart differ (inside present) (inside also)))
  have processed := (concluded.empty.settling ▸ data.processed).all settled
  have written := (concluded.empty.recording ▸ data.written).all passed
  have counter := concluded.counter none reads (passed.trans (List.reverse_perm _).symm)
  unfold Session.effects Effects.after
  rw [counter,target,table]
  exact congr (congrArg _ processed) written

end conclusion

section runs
variable {context : BlockHashingContext} {processed written : Bitmap} {counter : SessionCounter} {target : Content}

theorem Replaying.run {first : SessionCounter} (replaying : Replaying env source o first s) (roomy : Roomy env o)
    (path : Runs (sessionStep env source) allowed s actions t) : Replaying env source o first t :=
  path.invariant (Replaying env source o first) replaying fun _ _ _ known ran _ => known.step roomy (sessionStep_sound ran)

end runs

end VolumeBackup
