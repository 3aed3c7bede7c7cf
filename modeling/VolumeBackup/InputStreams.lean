import VolumeBackup.ByteMemory

namespace InputStreams
open ByteMemory

structure InputStream where
  content : Content
  position : Nat := 0
  fail : Bool := false

-- What istream::read leaves of the stream and in the buffer. Where fewer bytes are left than were asked for, they are
-- delivered and the stream fails.
def InputStream.read (stream : InputStream) (buffer : Memory) (length : Nat) : InputStream × Memory :=
  if stream.fail then (stream,buffer)
  else
    let count := min length (stream.content.size-stream.position)
    ({stream with position := stream.position+count,fail := decide (count < length)},
      store buffer 0 count fun k => stream.content.byte (stream.position+k))

def whileRead (length : Nat) (body : Memory → σ → Memory × σ) : Nat → InputStream → Memory → σ → Option σ
  | 0,_,_,_ => none
  | rounds+1,stream,buffer,state =>
    let (stream,buffer) := stream.read buffer length
    if stream.fail then some state
    else
      let (buffer,state) := body buffer state
      whileRead length body rounds stream buffer state

variable {content : Content} {buffer : Memory} {length position rounds : Nat} {body : Memory → σ → Memory × σ} {state : σ}

theorem read_whole (enough : position+length ≤ content.size) :
    InputStream.read ⟨content,position,false⟩ buffer length =
      (⟨content,position+length,false⟩,store buffer 0 length fun k => content.byte (position+k)) := by
  have count : min length (content.size-position) = length := by omega
  simp [InputStream.read,count]

theorem read_short (short : content.size < position+length) (inside : position ≤ content.size) :
    (InputStream.read ⟨content,position,false⟩ buffer length).1.fail = true := by
  simp only [InputStream.read,Bool.false_eq_true,if_false,decide_eq_true_eq]
  omega

theorem whileRead_from (positive : 0 < length) (holds : Nat → σ → Prop)
    (step : ∀ index < content.size/length, ∀ buffer state, Same length buffer 0 content.byte (index*length) → holds index state →
      holds (index+1) (body buffer state).2)
    {index : Nat} (inside : index ≤ content.size/length) (here : holds index state) (enough : content.size/length < index+rounds) :
    ∃ last, whileRead length body rounds ⟨content,index*length,false⟩ buffer state = some last ∧ holds (content.size/length) last := by
  induction rounds generalizing index buffer state with
  | zero => omega
  | succ rounds ih =>
      have whole : content.size/length*length ≤ content.size := Nat.div_mul_le_self _ _
      have rest : content.size < content.size/length*length+length := Nat.lt_div_mul_add positive
      rcases Nat.lt_or_eq_of_le inside with before | rfl
      · have next : (index+1)*length ≤ content.size := Nat.le_trans (Nat.mul_le_mul_right _ before) whole
        have place : index*length+length = (index+1)*length := (Nat.succ_mul _ _).symm
        have loaded : Same length (store buffer 0 length fun k => content.byte (index*length+k)) 0 content.byte (index*length) := by
          apply same_store_at
          intro k _
          rw [Nat.zero_add]
        simp only [whileRead,read_whole (place ▸ next),place]
        exact ih before (step index before _ _ loaded here) (by omega)
      · simp only [whileRead,read_short rest whole,if_true]
        exact ⟨state,rfl,here⟩

-- The rule for the loop over a stream from its beginning: the body is run for each whole block, and what is left of the
-- stream behind the last of them never reaches it.
theorem whileRead_blocks (positive : 0 < length) (holds : Nat → σ → Prop)
    (step : ∀ index < content.size/length, ∀ buffer state, Same length buffer 0 content.byte (index*length) → holds index state →
      holds (index+1) (body buffer state).2)
    (here : holds 0 state) (enough : content.size/length < rounds) :
    ∃ last, whileRead length body rounds ⟨content,0,false⟩ buffer state = some last ∧ holds (content.size/length) last := by
  have run := @whileRead_from _ content buffer length rounds body state positive holds step 0 (Nat.zero_le _) here (by omega)
  rw [Nat.zero_mul] at run
  exact run

end InputStreams
