import Mathlib.Data.List.TakeWhile

namespace VolumeBackup

namespace GetOption

abbrev Text := List Char

def COLON : Char := ':'
def LONG_OPTION_PREFIX : Text := ['-','-']

structure OptionResult where
  option : Text
  value : Text
  deriving DecidableEq, Repr

structure GetOptionResult where
  opts : List OptionResult := []
  args : List Text := []
  deriving DecidableEq, Repr

def IsAlphabet (ch : Char) : Bool := ('A' ≤ ch && ch ≤ 'Z') || ('a' ≤ ch && ch ≤ 'z')

-- The letters of an option string, in order, each with whether a colon follows it. A map is a list whose first entry for a key counts.
def ParseShortOption : Text → List (Char × Bool)
  | [] => []
  | [ch] => if IsAlphabet ch then [(ch,false)] else []
  | ch::next::rest =>
    if IsAlphabet ch = false then ParseShortOption (next::rest)
    else if next = COLON then (ch,true)::ParseShortOption rest
    else (ch,false)::ParseShortOption (next::rest)

def ParseLongOption (longOptionSet : List Text) : List (Text × Bool) := longOptionSet.map fun option =>
  let name := option.dropWhile fun ch => ch = '-'
  if name.getLast? = some '=' then (name.dropLast,true) else (name,false)

def find (ch : Char) (text : Text) : Option Nat := text.findIdx? fun c => c = ch

def find_first_not_of (ch : Char) (text : Text) : Option Nat := text.findIdx? fun c => c ≠ ch

def find_last_of (ch : Char) (text : Text) : Option Nat := (find ch text.reverse).map fun k => text.length-1-k

def ParseLongOptionNameFromArg (arg : Text) : Text :=
  if arg.length ≤ LONG_OPTION_PREFIX.length ∨ LONG_OPTION_PREFIX.isPrefixOf arg = false ∨ find_first_not_of '-' arg ≠ some 2 then []
  else match find '=' arg with
    | none => arg.drop 2
    | some pos => (arg.drop 2).take (pos-2)

def ParseLongOptionValueFromArg (arg : Text) : Text :=
  match find_last_of '=' arg with
  | none => []
  | some pos => if pos = arg.length-1 then [] else arg.drop (pos+1)

def GetOptionResult.option (result : GetOptionResult) (option value : Text) : GetOptionResult :=
  {result with opts := ⟨option,value⟩::result.opts}

def GetOptionResult.arg (result : GetOptionResult) (arg : Text) : GetOptionResult := {result with args := arg::result.args}

def scan (shortOptionMap : List (Char × Bool)) (longOptionMap : List (Text × Bool)) : List Text → GetOptionResult
  | [] => {}
  | arg::rest =>
    if LONG_OPTION_PREFIX.isPrefixOf arg then
      let optionName := ParseLongOptionNameFromArg arg
      match optionName.isEmpty,longOptionMap.lookup optionName with
      | false,some false => (scan shortOptionMap longOptionMap rest).option optionName []
      | false,some true => (scan shortOptionMap longOptionMap rest).option optionName (ParseLongOptionValueFromArg arg)
      | _,_ => (scan shortOptionMap longOptionMap rest).arg arg
    else match arg with
      | '-'::optionChar::optionValue =>
        match shortOptionMap.lookup optionChar with
        | none => (scan shortOptionMap longOptionMap rest).arg arg
        | some false => (scan shortOptionMap longOptionMap rest).option [optionChar] []
        | some true =>
          if optionValue.isEmpty then
            match rest with
            | [] => ({} : GetOptionResult).option [optionChar] []
            | next::others => (scan shortOptionMap longOptionMap others).option [optionChar] next
          else (scan shortOptionMap longOptionMap rest).option [optionChar] optionValue
      | _ => (scan shortOptionMap longOptionMap rest).arg arg

variable {short : List (Char × Bool)} {long : List (Text × Bool)} {rest : List Text} {c : Char} {word value arg front : Text}

theorem scan_arg (solid : arg.head? ≠ some '-') : scan short long (arg::rest) = (scan short long rest).arg arg := by
  cases arg with
  | nil =>
      rw [scan.eq_def]
      simp [LONG_OPTION_PREFIX]
  | cons c more =>
      have differ : c ≠ '-' := by simpa using solid
      have unlike : ('-' == c) = false := beq_eq_false_iff_ne.mpr differ.symm
      rw [scan.eq_def]
      simp [LONG_OPTION_PREFIX,List.isPrefixOf,unlike,differ]

section short
variable (letter : c ≠ '-')
include letter

theorem not_long : LONG_OPTION_PREFIX.isPrefixOf ('-'::c::value) = false := by
  have unlike : ('-' == c) = false := beq_eq_false_iff_ne.mpr letter.symm
  simp [LONG_OPTION_PREFIX,List.isPrefixOf,unlike]

theorem scan_switch (known : short.lookup c = some false) :
    scan short long (('-'::c::value)::rest) = (scan short long rest).option [c] [] := by
  rw [scan.eq_def]
  simp [not_long letter,known]

theorem scan_joined (known : short.lookup c = some true) (some : value ≠ []) :
    scan short long (('-'::c::value)::rest) = (scan short long rest).option [c] value := by
  rw [scan.eq_def]
  simp [not_long letter,known,some]

theorem scan_apart (known : short.lookup c = some true) :
    scan short long (['-',c]::value::rest) = (scan short long rest).option [c] value := by
  rw [scan.eq_def]
  simp [not_long letter,known]

end short

structure Named (word : Text) : Prop where
  free : '=' ∉ word
  solid : ∃ c rest, word = c::rest ∧ c ≠ '-'

theorem Named.first (named : Named word) (value : Text) : find_first_not_of '-' ('-' :: '-' :: (word++value)) = some 2 := by
  obtain ⟨c,rest,rfl,differ⟩ := named.solid
  simp [find_first_not_of,List.findIdx?_cons,differ]

theorem find_front (front value : Text) (free : c ∉ front) : find c (front++c::value) = some front.length := by
  unfold find
  rw [List.findIdx?_append,List.findIdx?_eq_none_iff.mpr]
  · simp [List.findIdx?_cons]
  · intro other inside
    exact decide_eq_false fun same => free (same ▸ inside)

theorem long_name (named : Named word) : ParseLongOptionNameFromArg ('-' :: '-' :: (word++ '=' :: value)) = word := by
  have equals : find '=' ('-' :: '-' :: (word++ '=' :: value)) = some (word.length+2) :=
    find_front ('-' :: '-' :: word) value (by simpa using named.free)
  have bound : ¬(word.length+(value.length+1)+1+1 ≤ 2) := by
    obtain ⟨c,rest,rfl,_⟩ := named.solid
    simp
  unfold ParseLongOptionNameFromArg
  rw [if_neg (by simp [LONG_OPTION_PREFIX,List.isPrefixOf,named.first,bound]),equals]
  simp

theorem bare_name (named : Named word) : ParseLongOptionNameFromArg ('-' :: '-' :: word) = word := by
  have first := named.first []
  rw [List.append_nil] at first
  have equals : find '=' ('-' :: '-' :: word) = none := by
    apply List.findIdx?_eq_none_iff.mpr
    intro other inside
    have differ : other ≠ '=' := by
      rintro rfl
      simp [named.free] at inside
    exact decide_eq_false differ
  unfold ParseLongOptionNameFromArg
  rw [if_neg (by
    obtain ⟨c,rest,rfl,_⟩ := named.solid
    simp [LONG_OPTION_PREFIX,List.isPrefixOf,first]),equals]
  rfl

theorem last_value (front : Text) (free : '=' ∉ value) : ParseLongOptionValueFromArg (front++ '=' :: value) = value := by
  have back : find '=' (front++ '=' :: value).reverse = some value.length := by
    have clear : '=' ∉ value.reverse := by simpa using free
    simpa using find_front value.reverse front.reverse clear
  have last : find_last_of '=' (front++ '=' :: value) = some front.length := by
    simp only [find_last_of,back,Option.map_some,List.length_append,List.length_cons]
    congr 1
    omega
  unfold ParseLongOptionValueFromArg
  rw [last]
  cases value with
  | nil => simp
  | cons c rest => simp

theorem long_value (front : Text) : ParseLongOptionValueFromArg (front++ '=' :: value) = value ↔ '=' ∉ value := by
  refine ⟨fun whole inside => ?_,last_value front⟩
  -- The value is cut behind its own last equals sign, and what is left has none.
  obtain ⟨start,tail,cut,free⟩ := List.eq_append_cons_of_mem (List.mem_reverse.mpr inside)
  have parts : value = tail.reverse++ '=' :: start.reverse := by
    have turned := congrArg List.reverse cut
    simpa using turned
  have clear : '=' ∉ start.reverse := by simpa using free
  have read : ParseLongOptionValueFromArg (front++ '=' :: value) = start.reverse := by
    rw [parts]
    simpa using last_value (front++ '=' :: tail.reverse) clear
  rw [read] at whole
  exact clear (whole ▸ inside)

theorem scan_long (named : Named word) (known : long.lookup word = some true) :
    scan short long (('-' :: '-' :: (word++ '=' :: value))::rest) =
      (scan short long rest).option word (ParseLongOptionValueFromArg ('-' :: '-' :: (word++ '=' :: value))) := by
  have some : word.isEmpty = false := by
    obtain ⟨c,rest,rfl,_⟩ := named.solid
    rfl
  rw [scan.eq_def]
  simp [LONG_OPTION_PREFIX,List.isPrefixOf,long_name named,some,known]

theorem scan_bare (named : Named word) (known : long.lookup word = some false) :
    scan short long (('-' :: '-' :: word)::rest) = (scan short long rest).option word [] := by
  have some : word.isEmpty = false := by
    obtain ⟨c,rest,rfl,_⟩ := named.solid
    rfl
  rw [scan.eq_def]
  simp [LONG_OPTION_PREFIX,List.isPrefixOf,bare_name named,some,known]

end GetOption

def GetOption (args : List GetOption.Text) (shortOptionStr : GetOption.Text) (longOptionSet : List GetOption.Text) :
    GetOption.GetOptionResult :=
  GetOption.scan (GetOption.ParseShortOption shortOptionStr) (GetOption.ParseLongOption longOptionSet) args

end VolumeBackup
