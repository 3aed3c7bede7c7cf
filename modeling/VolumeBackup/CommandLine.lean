import Mathlib.Data.List.Forall2
import VolumeBackup.GetOption
import VolumeBackup.TaskContext

namespace VolumeBackup

namespace CommandLine
open GetOption

inductive LoggerLevel where
  | DEBUG | INFO
  deriving DecidableEq, Repr

structure CliArgs where
  volumePath : Text := []
  copyName : Text := []
  copyFormat : Option CopyFormat := none
  copyDataDirPath : Text := []
  copyMetaDirPath : Text := []
  checkpointDirPath : Text := []
  prevCopyMetaDirPath : Text := []
  logLevel : LoggerLevel := .INFO
  isRestore : Bool := false
  enableZeroCopy : Bool := false
  printHelp : Bool := false
  deriving DecidableEq, Repr

-- A format that is neither fails the assertion.
def ParseCopyFormat (copyFormat : Text) : Option CopyFormat :=
  if copyFormat = "BIN".toList then some .BIN
  else if copyFormat = "IMAGE".toList then some .IMAGE
  else none

def ParseLoggerLevel (loggerLevelStr : Text) : LoggerLevel := if loggerLevelStr = "INFO".toList then .INFO else .DEBUG

def CliArgs.assign (cliArgs : CliArgs) (opt : OptionResult) : Option CliArgs :=
  if opt.option = "v".toList ∨ opt.option = "volume".toList then some {cliArgs with volumePath := opt.value}
  else if opt.option = "n".toList ∨ opt.option = "name".toList then some {cliArgs with copyName := opt.value}
  else if opt.option = "f".toList ∨ opt.option = "format".toList then
    (ParseCopyFormat opt.value).map fun copyFormat => {cliArgs with copyFormat := some copyFormat}
  else if opt.option = "d".toList ∨ opt.option = "data".toList then some {cliArgs with copyDataDirPath := opt.value}
  else if opt.option = "m".toList ∨ opt.option = "meta".toList then some {cliArgs with copyMetaDirPath := opt.value}
  else if opt.option = "k".toList ∨ opt.option = "checkpoint".toList then some {cliArgs with checkpointDirPath := opt.value}
  else if opt.option = "p".toList ∨ opt.option = "prevmeta".toList then some {cliArgs with prevCopyMetaDirPath := opt.value}
  else if opt.option = "r".toList ∨ opt.option = "restore".toList then some {cliArgs with isRestore := true}
  else if opt.option = "z".toList ∨ opt.option = "zerocopy".toList then some {cliArgs with enableZeroCopy := true}
  else if opt.option = "l".toList ∨ opt.option = "loglevel".toList then some {cliArgs with logLevel := ParseLoggerLevel opt.value}
  else if opt.option = "h".toList ∨ opt.option = "help".toList then some {cliArgs with printHelp := true}
  else some cliArgs

def shortOptionStr : Text := "v:n:f:d:m:k:p:hzr:l:".toList

def longOptionSet : List Text := ["--volume=","--name=","--format=","--data=","--meta=","--checkpoint=",
  "--prevmeta=","--help","--zerocopy","--restore","--loglevel="].map String.toList

def ParseCliArgs (argv : List Text) : Option CliArgs :=
  (GetOption (argv.drop 1) shortOptionStr longOptionSet).opts.foldlM CliArgs.assign {}

inductive Setting where
  | volumePath | copyName | copyFormat | copyDataDirPath | copyMetaDirPath | checkpointDirPath | prevCopyMetaDirPath | logLevel
  deriving DecidableEq, Repr

inductive Switch where
  | isRestore | enableZeroCopy | printHelp
  deriving DecidableEq, Repr

def Setting.letter : Setting → Char
  | volumePath => 'v'
  | copyName => 'n'
  | copyFormat => 'f'
  | copyDataDirPath => 'd'
  | copyMetaDirPath => 'm'
  | checkpointDirPath => 'k'
  | prevCopyMetaDirPath => 'p'
  | logLevel => 'l'

def Setting.word : Setting → Text
  | volumePath => "volume".toList
  | copyName => "name".toList
  | copyFormat => "format".toList
  | copyDataDirPath => "data".toList
  | copyMetaDirPath => "meta".toList
  | checkpointDirPath => "checkpoint".toList
  | prevCopyMetaDirPath => "prevmeta".toList
  | logLevel => "loglevel".toList

def Switch.letter : Switch → Char
  | isRestore => 'r'
  | enableZeroCopy => 'z'
  | printHelp => 'h'

def Switch.word : Switch → Text
  | isRestore => "restore".toList
  | enableZeroCopy => "zerocopy".toList
  | printHelp => "help".toList

-- An option on the command line: -x value, -xvalue or --name=value, and -x or --name.
inductive Spelling where
  | apart | joined | long
  deriving DecidableEq, Repr

inductive Given where
  | setting (option : Setting) (value : Text) (spelling : Spelling)
  | switch (option : Switch) (long : Bool)
  deriving DecidableEq, Repr

def Given.args : Given → List Text
  | setting option value .apart => [['-',option.letter],value]
  | setting option value .joined => ['-'::option.letter::value]
  | setting option value .long => ['-' :: '-' :: (option.word++ '=' :: value)]
  | switch option false => [['-',option.letter]]
  | switch option true => ['-' :: '-' :: option.word]

def commandLine (program : Text) (given : List Given) : List Text := program::given.flatMap Given.args

-- A value is not empty and does not begin with a dash, and a format is one of the two.
def Given.Valid : Given → Prop
  | setting option value _ => value ≠ [] ∧ value.head? ≠ some '-' ∧
      (option = .copyFormat → value = "BIN".toList ∨ value = "IMAGE".toList)
  | switch _ _ => True

def CliArgs.set (cliArgs : CliArgs) (value : Text) : Setting → CliArgs
  | .volumePath => {cliArgs with volumePath := value}
  | .copyName => {cliArgs with copyName := value}
  | .copyFormat => {cliArgs with copyFormat := ParseCopyFormat value}
  | .copyDataDirPath => {cliArgs with copyDataDirPath := value}
  | .copyMetaDirPath => {cliArgs with copyMetaDirPath := value}
  | .checkpointDirPath => {cliArgs with checkpointDirPath := value}
  | .prevCopyMetaDirPath => {cliArgs with prevCopyMetaDirPath := value}
  | .logLevel => {cliArgs with logLevel := ParseLoggerLevel value}

def CliArgs.give (cliArgs : CliArgs) : Given → CliArgs
  | .setting option value _ => cliArgs.set value option
  | .switch .isRestore _ => {cliArgs with isRestore := true}
  | .switch .enableZeroCopy _ => {cliArgs with enableZeroCopy := true}
  | .switch .printHelp _ => {cliArgs with printHelp := true}

def Given.Reads : Given → OptionResult → Prop
  | setting option value _,opt => (opt.option = [option.letter] ∨ opt.option = option.word) ∧ opt.value = value
  | switch option _,opt => opt.option = [option.letter] ∨ opt.option = option.word

structure Assigns (program : Text) (given : List Given) : Prop where
  each : List.Forall₂ Given.Reads given (GetOption ((commandLine program given).drop 1) shortOptionStr longOptionSet).opts
  result : ParseCliArgs (commandLine program given) = some (given.foldl CliArgs.give {})

-- No long value has an equals sign in it, and a -r has nothing after it.
structure Legible (given : List Given) : Prop where
  uncut : ∀ option value, .setting option value .long ∈ given → '=' ∉ value
  last : ∀ g ∈ given.dropLast, g ≠ .switch .isRestore false

variable {given : List Given} {g : Given} {opt : OptionResult} {rest : List Text} {program : Text}

theorem setting_tables {option : Setting} : option.letter ≠ '-' ∧ Named option.word ∧
    (ParseShortOption shortOptionStr).lookup option.letter = some true ∧
    (ParseLongOption longOptionSet).lookup option.word = some true := by
  cases option <;> exact ⟨by decide,⟨by decide,_,_,rfl,by decide⟩,by decide,by decide⟩

theorem switch_tables {option : Switch} : option.letter ≠ '-' ∧ Named option.word ∧
    (ParseShortOption shortOptionStr).lookup option.letter = some (option == .isRestore) ∧
    (ParseLongOption longOptionSet).lookup option.word = some false := by
  cases option <;> exact ⟨by decide,⟨by decide,_,_,rfl,by decide⟩,by decide,by decide⟩

def opts (args : List Text) : List OptionResult := (GetOption args shortOptionStr longOptionSet).opts

def Given.shown : Given → OptionResult
  | setting option value .long => ⟨option.word,ParseLongOptionValueFromArg ('-' :: '-' :: (option.word++ '=' :: value))⟩
  | setting option value _ => ⟨[option.letter],value⟩
  | switch option false => ⟨[option.letter],[]⟩
  | switch option true => ⟨option.word,[]⟩

theorem opts_apart (known : (ParseShortOption shortOptionStr).lookup c = some true) (letter : c ≠ '-') :
    opts (['-',c]::value::rest) = ⟨[c],value⟩::opts rest :=
  congrArg GetOptionResult.opts (scan_apart letter known)

theorem opts_arg (solid : arg.head? ≠ some '-') : opts (arg::rest) = opts rest := by
  unfold opts GetOption
  rw [scan_arg solid]
  rfl

theorem opts_given (valid : g.Valid) (own : g ≠ .switch .isRestore false) : opts (g.args++rest) = g.shown::opts rest := by
  cases g with
  | setting option value spelling =>
      obtain ⟨letter,named,short,long⟩ := @setting_tables option
      cases spelling with
      | apart => exact opts_apart short letter
      | joined => exact congrArg GetOptionResult.opts (scan_joined letter short valid.1)
      | long => exact congrArg GetOptionResult.opts (scan_long named long)
  | switch option spelled =>
      obtain ⟨letter,named,short,long⟩ := @switch_tables option
      cases spelled with
      | true => exact congrArg GetOptionResult.opts (scan_bare named long)
      | false =>
          have other : (option == .isRestore) = false := by
            cases option with
            | isRestore => exact absurd rfl own
            | enableZeroCopy => rfl
            | printHelp => rfl
          exact congrArg GetOptionResult.opts (scan_switch letter (short.trans (congrArg some other)))

theorem opts_restore (valid : g.Valid) (rest : List Text) : ∃ value, opts (['-','r']::(g.args++rest)) = ⟨['r'],value⟩::opts rest := by
  have known : (ParseShortOption shortOptionStr).lookup 'r' = some true := by decide
  cases g with
  | setting option value spelling =>
      cases spelling with
      | apart => exact ⟨_,(opts_apart known (by decide)).trans (congrArg _ (opts_arg valid.2.1))⟩
      | joined => exact ⟨_,opts_apart known (by decide)⟩
      | long => exact ⟨_,opts_apart known (by decide)⟩
  | switch option spelled => cases spelled <;> exact ⟨_,opts_apart known (by decide)⟩

theorem opts_last : opts [['-','r']] = [⟨['r'],[]⟩] := by decide

theorem opts_length : ∀ given : List Given, (∀ g ∈ given, g.Valid) → (opts (given.flatMap Given.args)).length ≤ given.length
  | [],_ => Nat.le_refl 0
  | g::rest,valid => by
      by_cases own : g = .switch .isRestore false
      · subst own
        match rest with
        | [] => exact Nat.le_of_eq (congrArg List.length opts_last)
        | next::others =>
            obtain ⟨value,read⟩ := opts_restore (valid next (List.mem_cons_of_mem _ List.mem_cons_self)) (others.flatMap Given.args)
            have bound := opts_length others fun g inside => valid g (List.mem_cons_of_mem _ (List.mem_cons_of_mem _ inside))
            have length := congrArg List.length read
            simp only [List.length_cons] at length ⊢
            exact (Nat.le_of_eq length).trans (by omega)
      · have bound := opts_length rest fun g inside => valid g (List.mem_cons_of_mem _ inside)
        rw [List.flatMap_cons,opts_given (valid g List.mem_cons_self) own]
        exact Nat.succ_le_succ bound

theorem reads_shown : g.Reads g.shown ↔ ∀ option value, g = .setting option value .long → '=' ∉ value := by
  cases g with
  | setting option value spelling =>
      cases spelling with
      | apart => exact ⟨fun _ _ _ => nofun,fun _ => ⟨.inl rfl,rfl⟩⟩
      | joined => exact ⟨fun _ _ _ => nofun,fun _ => ⟨.inl rfl,rfl⟩⟩
      | long =>
          have exact : ParseLongOptionValueFromArg ('-' :: '-' :: (option.word++ '=' :: value)) = value ↔ '=' ∉ value :=
            long_value ('-' :: '-' :: option.word)
          constructor
          · rintro ⟨_,whole⟩ _ _ ⟨⟩
            exact exact.mp whole
          · intro free
            exact ⟨.inr rfl,exact.mpr (free _ _ rfl)⟩
  | switch option spelled => cases spelled <;> exact ⟨fun _ _ _ => nofun,fun _ => by first | exact .inl rfl | exact .inr rfl⟩

theorem restore_swallows {next : Given} {others : List Given} (valid : ∀ g ∈ next::others, g.Valid) :
    ¬List.Forall₂ Given.Reads (.switch .isRestore false::next::others)
      (opts ((Given.switch .isRestore false::next::others).flatMap Given.args)) := by
  intro each
  obtain ⟨value,read⟩ := opts_restore (valid next List.mem_cons_self) (others.flatMap Given.args)
  have bound := opts_length others fun g inside => valid g (List.mem_cons_of_mem _ inside)
  have length := each.length_eq
  have count := congrArg List.length read
  simp only [List.length_cons] at length count
  have same : (opts ((Given.switch .isRestore false::next::others).flatMap Given.args)).length =
    (opts (others.flatMap Given.args)).length+1 := count
  omega

theorem legible_cons {rest : List Given} (own : g ≠ .switch .isRestore false) :
    Legible (g::rest) ↔ (∀ option value, g = .setting option value .long → '=' ∉ value) ∧ Legible rest := by
  constructor
  · intro legible
    refine ⟨?_,?_,?_⟩
    · rintro option value rfl
      exact legible.uncut _ _ List.mem_cons_self
    · intro option value inside
      exact legible.uncut _ _ (List.mem_cons_of_mem _ inside)
    · intro other inside
      apply legible.last
      cases rest with
      | nil => cases inside
      | cons next others => exact List.mem_cons_of_mem _ inside
  · rintro ⟨uncut,legible⟩
    refine ⟨?_,?_⟩
    · intro option value inside
      rcases List.mem_cons.mp inside with same | inside
      · exact uncut _ _ same.symm
      · exact legible.uncut _ _ inside
    · intro other inside
      cases rest with
      | nil => cases inside
      | cons next others =>
          rcases List.mem_cons.mp inside with rfl | inside
          · exact own
          · exact legible.last _ inside

theorem each_legible (given : List Given) (valid : ∀ g ∈ given, g.Valid) :
    List.Forall₂ Given.Reads given (opts (given.flatMap Given.args)) ↔ Legible given := by
  induction given with
  | nil => exact ⟨fun _ => ⟨nofun,nofun⟩,fun _ => .nil⟩
  | cons g rest ih =>
      have later := ih fun g inside => valid g (List.mem_cons_of_mem _ inside)
      by_cases own : g = .switch .isRestore false
      · subst own
        cases rest with
        | nil =>
            refine ⟨fun _ => ⟨by simp,by simp⟩,fun _ => ?_⟩
            have read : opts ([Given.switch .isRestore false].flatMap Given.args) = [⟨['r'],[]⟩] := opts_last
            rw [read]
            exact .cons (.inl rfl) .nil
        | cons next others =>
            constructor
            · intro each
              exact absurd each (restore_swallows fun g inside => valid g (List.mem_cons_of_mem _ inside))
            · intro legible
              exact absurd rfl (legible.last _ List.mem_cons_self)
      · rw [List.flatMap_cons,opts_given (valid g List.mem_cons_self) own,List.forall₂_cons,reads_shown,later,legible_cons own]

theorem assign_reads (cliArgs : CliArgs) (valid : g.Valid) (reads : g.Reads opt) : cliArgs.assign opt = some (cliArgs.give g) := by
  obtain ⟨name,value⟩ := opt
  cases g with
  | setting option text spelling =>
      obtain ⟨named,same⟩ := reads
      cases (same : value = text)
      cases option with
      | copyFormat =>
          rcases valid.2.2 rfl with rfl | rfl <;> rcases (named : name = _ ∨ name = _) with rfl | rfl <;> rfl
      | _ => rcases (named : name = _ ∨ name = _) with rfl | rfl <;> rfl
  | switch option spelled => cases option <;> rcases (reads : name = _ ∨ name = _) with rfl | rfl <;> rfl

theorem assign_each {options : List OptionResult} (each : List.Forall₂ Given.Reads given options) (valid : ∀ g ∈ given, g.Valid)
    (cliArgs : CliArgs) : options.foldlM CliArgs.assign cliArgs = some (given.foldl CliArgs.give cliArgs) := by
  induction each generalizing cliArgs with
  | nil => rfl
  | cons reads _ ih =>
      rw [List.foldlM_cons,assign_reads cliArgs (valid _ List.mem_cons_self) reads]
      exact ih (fun g inside => valid g (List.mem_cons_of_mem _ inside)) _

theorem Legible.assigns (legible : Legible given) (valid : ∀ g ∈ given, g.Valid) (program : Text) : Assigns program given :=
  have each := (each_legible given valid).mpr legible
  ⟨each,assign_each each valid {}⟩

def Given.inLong : Given → Given
  | setting option value _ => setting option value .long
  | switch option _ => switch option true

theorem inLong_valid : g.inLong.Valid ↔ g.Valid := by cases g <;> exact Iff.rfl

theorem give_inLong (cliArgs : CliArgs) : cliArgs.give g.inLong = cliArgs.give g := by
  cases g with
  | setting => rfl
  | switch option => cases option <;> rfl

theorem given_inLong (given : List Given) (cliArgs : CliArgs) :
    (given.map Given.inLong).foldl CliArgs.give cliArgs = given.foldl CliArgs.give cliArgs := by
  rw [List.foldl_map]
  congr 1
  funext cliArgs g
  exact give_inLong cliArgs

def plainOptions : List Given := [.setting .volumePath "/dev/sda1".toList .apart,.setting .copyName "c".toList .long,
  .setting .copyFormat "IMAGE".toList .joined,.switch .isRestore false]

end CommandLine

end VolumeBackup
