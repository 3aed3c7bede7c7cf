import VolumeBackup.LoopDevices

namespace VolumeBackup

section text
variable {mark : Char} {part more front rest : List Char} {text name dir : String}

theorem find_skip (clear : mark ∉ front) : findChars (mark::more) (front++rest) = (findChars (mark::more) rest).map (·+front.length) := by
  induction front with
  | nil => simp
  | cons c others ih =>
      rw [List.mem_cons,not_or] at clear
      have differ : (mark == c) = false := beq_eq_false_iff_ne.mpr clear.1
      rw [List.cons_append,findChars]
      simp only [List.isPrefixOf,differ,Bool.false_and,Bool.false_eq_true,if_false,ih clear.2,Option.map_map]
      congr 1

theorem find_end : (findChars part (front++part)).isSome := by
  induction front with
  | nil =>
      cases part with
      | nil => rfl
      | cons c rest => simp [findChars]
  | cons c others ih =>
      rw [List.cons_append,findChars]
      split
      · rfl
      · rw [Option.isSome_map]
        exact ih

theorem contains_ending : (findText (name++text) text).isSome := by
  unfold findText
  rw [String.toList_append]
  exact find_end

theorem take_front : takeText (name++text) name.length = name := by
  unfold takeText
  rw [String.toList_append,← String.length_toList,List.take_left,String.ofList_toList]

theorem take_ending : takeText (name++text) ((name++text).length-text.length) = name := by
  have length : (name++text).length-text.length = name.length := by
    rw [String.length_append]
    omega
  rw [length]
  exact take_front

theorem drop_front : dropText (name++text) name.length = text := by
  unfold dropText
  rw [String.toList_append,← String.length_toList,List.drop_left,String.ofList_toList]

theorem starts_front : hasPrefix (name++text) name = true := by
  unfold hasPrefix
  rw [String.toList_append]
  exact List.isPrefixOf_iff_prefix.mpr (List.prefix_append _ _)

def Plain (name : String) : Prop := ∀ c ∈ name.toList, c ≠ '/' ∧ c ≠ '\\'

theorem file_name (plain : Plain name) : GetFileName (PathJoin dir name) = name := by
  unfold GetFileName PathJoin
  have path : (dir++"/"++name).toList.reverse = name.toList.reverse++ '/' ::dir.toList.reverse := by
    simp [String.toList_append]
  rw [path,List.takeWhile_append_of_pos]
  · rw [List.takeWhile_cons_of_neg (by decide),List.append_nil,List.reverse_reverse,String.ofList_toList]
  · intro c inside
    have apart := plain c (List.mem_reverse.mp inside)
    simpa using apart

theorem Plain.append (left : Plain name) (right : Plain text) : Plain (name++text) := by
  intro c inside
  rw [String.toList_append,List.mem_append] at inside
  exact inside.elim (left c) (right c)

theorem plain_all (all : (name.toList.all fun c => decide (c ≠ '/') && decide (c ≠ '\\')) = true) : Plain name := by
  intro c inside
  have apart := List.all_eq_true.mp all c inside
  simpa using apart

theorem digit_plain {n : Nat} : Plain (toString n) := by
  intro c inside
  rw [Nat.toString_eq_repr,Nat.toList_repr] at inside
  have digit := Nat.isDigit_of_mem_toDigits (by decide) (by decide) inside
  refine ⟨?_,?_⟩
  · rintro rfl
    revert digit
    decide
  · rintro rfl
    revert digit
    decide

end text

def loopRecordName (n : Nat) : String := toString n++LOOPBACK_DEVICE_CREATION_RECORD_SUFFIX

def dmName (now : Nat) : String := DEVICE_MAPPER_DEVICE_NAME_PREFIX++toString now

def dmRecordName (now : Nat) : String := dmName now++DEVICE_MAPPER_DEVICE_CREATION_RECORD_SUFFIX

section names
variable {n : Nat} {name : String}

theorem loopRecord_plain : Plain (loopRecordName n) := digit_plain.append (plain_all (by decide +kernel))

theorem dmName_plain : Plain (dmName n) := Plain.append (plain_all (by decide +kernel)) digit_plain

theorem dmRecord_plain : Plain (dmRecordName n) := dmName_plain.append (plain_all (by decide +kernel))

theorem digits_clear : '.' ∉ (toString n).toList := by
  rw [Nat.toString_eq_repr,Nat.toList_repr]
  exact dot_not_digit

theorem dmName_clear : '.' ∉ (dmName n).toList := by
  unfold dmName
  rw [String.toList_append,List.mem_append]
  intro inside
  apply inside.elim
  · decide
  · exact digits_clear

theorem record_found (clear : '.' ∉ name.toList) :
    findText (name++LOOPBACK_DEVICE_CREATION_RECORD_SUFFIX) LOOPBACK_DEVICE_CREATION_RECORD_SUFFIX = some name.length ∧
    findText (name++LOOPBACK_DEVICE_CREATION_RECORD_SUFFIX) DEVICE_MAPPER_DEVICE_CREATION_RECORD_SUFFIX = none ∧
    findText (name++DEVICE_MAPPER_DEVICE_CREATION_RECORD_SUFFIX) LOOPBACK_DEVICE_CREATION_RECORD_SUFFIX = none := by
  have loop : LOOPBACK_DEVICE_CREATION_RECORD_SUFFIX.toList = '.'::"loop.record".toList := by decide +kernel
  have dm : DEVICE_MAPPER_DEVICE_CREATION_RECORD_SUFFIX.toList = '.'::"dm.record".toList := by decide +kernel
  have own : findChars ('.'::"loop.record".toList) ('.'::"loop.record".toList) = some 0 := by decide +kernel
  have other : findChars ('.'::"dm.record".toList) ('.'::"loop.record".toList) = none := by decide +kernel
  have crossed : findChars ('.'::"loop.record".toList) ('.'::"dm.record".toList) = none := by decide +kernel
  simp only [findText,String.toList_append,loop,dm]
  rw [find_skip clear,find_skip clear,find_skip clear,own,other,crossed]
  simp only [Option.map_some,Option.map_none,Nat.zero_add,String.length_toList,and_self]

end names

end VolumeBackup
