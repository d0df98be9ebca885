import Mathlib.Data.List.Basic
import Mathlib.Data.List.Induction

/-!
# `CommandLine`

`fml::CommandLine` of `command_line.cc`, the builder that reads it from arguments and the
function that writes it as arguments. Strings are bytes.
-/

namespace FlutterEngine.Fml

/-- `std::string`. -/
abbrev Text := List UInt8

/-- The character `-`. -/
def dash : UInt8 := 45

/-- The character `=`. -/
def equalsSign : UInt8 := 61

/-- `std::string_view`: the memory from its pointer on, of which it is the first bytes. -/
structure StringView where
  memory : Text
  size : Nat
  within : size ≤ memory.length

namespace StringView

def text (view : StringView) : Text := view.memory.take view.size

/-- The string that `data()` is for where a null-terminated one is asked for. It has none where
no null character follows. -/
def data (view : StringView) : Option Text :=
  if 0 ∈ view.memory then some (view.memory.takeWhile (· ≠ 0)) else none

end StringView

/-- `CommandLine::Option`. -/
structure CommandLineOption where
  name : Text
  value : Text
deriving DecidableEq

/-- `CommandLine`. -/
structure CommandLine where
  hasArgv0 : Bool
  argv0 : Text
  options : List CommandLineOption
  positionalArgs : List Text
  optionIndex : Text → Option Nat

namespace CommandLine

/-- The constructor without arguments. -/
def init : CommandLine where
  hasArgv0 := false
  argv0 := []
  options := []
  positionalArgs := []
  optionIndex := fun _ => none

/-- The constructor from components. -/
def ofComponents (argv0 : Text) (options : List CommandLineOption) (positionalArgs : List Text) :
    CommandLine where
  hasArgv0 := true
  argv0
  options
  positionalArgs
  optionIndex := options.zipIdx.foldl
    (fun optionIndex entry => Function.update optionIndex entry.1.name (some entry.2))
    fun _ => none

/-- `operator==`. -/
def Equal (commandLine other : CommandLine) : Prop :=
  commandLine.hasArgv0 = other.hasArgv0 ∧ commandLine.argv0 = other.argv0 ∧
    commandLine.options = other.options ∧ commandLine.positionalArgs = other.positionalArgs

/-- `HasOption`: the index, where there is one. It has no result where the name is not
terminated. -/
def hasOption (commandLine : CommandLine) (name : StringView) : Option (Option Nat) :=
  name.data.map commandLine.optionIndex

/-- `GetOptionValue`: the value, where it returns true. -/
def getOptionValue (commandLine : CommandLine) (name : StringView) : Option (Option Text) :=
  (commandLine.hasOption name).bind fun
    | none => some none
    | some index => commandLine.options[index]?.map fun option => some option.value

end CommandLine

/-! ## From arguments -/

/-- `CommandLineBuilder`. -/
structure CommandLineBuilder where
  hasArgv0 : Bool
  argv0 : Text
  options : List CommandLineOption
  positionalArgs : List Text
  startedPositionalArgs : Bool

/-- What starts with two dashes. -/
def Dashed (arg : Text) : Prop :=
  2 ≤ arg.length ∧ arg.getD 0 0 = dash ∧ arg.getD 1 0 = dash

instance (arg : Text) : Decidable (Dashed arg) :=
  inferInstanceAs (Decidable (2 ≤ arg.length ∧ arg.getD 0 0 = dash ∧ arg.getD 1 0 = dash))

/-- `arg.find('=', pos)`. -/
def findEquals (arg : Text) (pos : Nat) : Option Nat :=
  ((arg.drop pos).findIdx? (· = equalsSign)).map (pos + ·)

namespace CommandLineBuilder

def init : CommandLineBuilder where
  hasArgv0 := false
  argv0 := []
  options := []
  positionalArgs := []
  startedPositionalArgs := false

/-- `ProcessArg`: what it returns and the builder after it. -/
def processArg (builder : CommandLineBuilder) (arg : Text) : Bool × CommandLineBuilder :=
  if ¬builder.hasArgv0 then (false, { builder with hasArgv0 := true, argv0 := arg })
  else if builder.startedPositionalArgs then
    ( builder.positionalArgs.isEmpty
    , { builder with positionalArgs := builder.positionalArgs ++ [arg] } )
  else if ¬Dashed arg then
    ( builder.positionalArgs.isEmpty
    , { builder with
        startedPositionalArgs := true
        positionalArgs := builder.positionalArgs ++ [arg] } )
  else if arg.length = 2 then (false, { builder with startedPositionalArgs := true })
  else
    match findEquals arg 3 with
    | none => (false, { builder with options := builder.options ++ [⟨arg.drop 2, []⟩] })
    | some equalsPos =>
      ( false
      , { builder with
          options := builder.options ++
            [⟨(arg.drop 2).take (equalsPos - 2), arg.drop (equalsPos + 1)⟩] } )

/-- `Build`. -/
def build (builder : CommandLineBuilder) : CommandLine :=
  if ¬builder.hasArgv0 then .init
  else .ofComponents builder.argv0 builder.options builder.positionalArgs

/-- The arguments in order. -/
def processArgs (builder : CommandLineBuilder) (argv : List Text) : CommandLineBuilder :=
  argv.foldl (fun builder arg => (builder.processArg arg).2) builder

end CommandLineBuilder

/-- `CommandLineFromIterators`. -/
def commandLineFromIterators (argv : List Text) : CommandLine :=
  (CommandLineBuilder.init.processArgs argv).build

/-! ## To arguments -/

/-- An option as an argument. -/
def optionArg (option : CommandLineOption) : Text :=
  if option.value = [] then [dash, dash] ++ option.name
  else [dash, dash] ++ option.name ++ equalsSign :: option.value

/-- The positional arguments, after `--` where the first one asks for it. -/
def positionalArgv : List Text → List Text
  | [] => []
  | first :: rest =>
    if Dashed first then [dash, dash] :: first :: rest else first :: rest

/-- `CommandLineToArgv`. -/
def commandLineToArgv (commandLine : CommandLine) : List Text :=
  if ¬commandLine.hasArgv0 then []
  else
    commandLine.argv0 :: commandLine.options.map optionArg ++
      positionalArgv commandLine.positionalArgs

/-! ## One argument -/

theorem dashed_cons (rest : Text) : Dashed (dash :: dash :: rest) :=
  ⟨Nat.le_add_left 2 _, rfl, rfl⟩

theorem exists_of_dashed {arg : Text} (dashed : Dashed arg) :
    ∃ rest, arg = dash :: dash :: rest := by
  obtain ⟨long, first, second⟩ := dashed
  obtain _ | ⟨one, _ | ⟨two, rest⟩⟩ := arg
  · contradiction
  · contradiction
  · rw [List.getD_cons_zero] at first
    rw [List.getD_cons_succ, List.getD_cons_zero] at second
    exact ⟨rest, by rw [first, second]⟩

section Find

variable {before : Text} (one two first : UInt8)

theorem findEquals_none (plain : equalsSign ∉ before) :
    findEquals (one :: two :: first :: before) 3 = none := by
  have found : before.findIdx? (· = equalsSign) = none := by
    rw [List.findIdx?_eq_none_iff]
    rintro char member
    exact decide_eq_false fun same => plain (same ▸ member)
  simp only [findEquals, List.drop_succ_cons, List.drop_zero, found, Option.map_none]

theorem findEquals_some (value : Text) (plain : equalsSign ∉ before) :
    findEquals (one :: two :: first :: (before ++ equalsSign :: value)) 3 =
      some (3 + before.length) := by
  have found :
      (before ++ equalsSign :: value).findIdx? (· = equalsSign) = some before.length := by
    induction before with
    | nil => simp [List.findIdx?_cons]
    | cons char before ih =>
      rw [List.mem_cons, not_or] at plain
      rw [List.cons_append, List.findIdx?_cons, ih plain.2]
      simp [Ne.symm plain.1]
  simp only [findEquals, List.drop_succ_cons, List.drop_zero, found, Option.map_some]

end Find

/-- The name of an option as arguments have it, in which `=` is no more than the first
character. -/
def OptionName (name : Text) : Prop := name ≠ [] ∧ equalsSign ∉ name.tail

def Readable (option : CommandLineOption) : Prop := OptionName option.name

namespace CommandLineBuilder

section Options

variable {builder : CommandLineBuilder} (begun : builder.hasArgv0 = true)
  (options : builder.startedPositionalArgs = false)

include begun options

theorem processArg_named {before : Text} (first : UInt8) (plain : equalsSign ∉ before) :
    builder.processArg (dash :: dash :: first :: before) =
      (false, { builder with options := builder.options ++ [⟨first :: before, []⟩] }) := by
  have long : ¬(dash :: dash :: first :: before).length = 2 := by simp
  simp only [processArg, begun, options, dashed_cons, long, findEquals_none _ _ _ plain,
    not_true, if_false, Bool.false_eq_true, List.drop_succ_cons, List.drop_zero]

theorem processArg_valued {before : Text} (first : UInt8) (value : Text)
    (plain : equalsSign ∉ before) :
    builder.processArg (dash :: dash :: first :: (before ++ equalsSign :: value)) =
      (false, { builder with options := builder.options ++ [⟨first :: before, value⟩] }) := by
  have long : ¬(dash :: dash :: first :: (before ++ equalsSign :: value)).length = 2 := by simp
  have name :
      (first :: (before ++ equalsSign :: value)).take (3 + before.length - 2) =
        first :: before := by
    rw [show 3 + before.length - 2 = before.length + 1 by omega, List.take_succ_cons,
      List.take_left]
  have rest :
      (dash :: dash :: first :: (before ++ equalsSign :: value)).drop (3 + before.length + 1) =
        value := by
    rw [show 3 + before.length + 1 = (before ++ [equalsSign]).length + 1 + 1 + 1 by simp; omega]
    simp only [List.drop_succ_cons]
    rw [show before ++ equalsSign :: value = before ++ [equalsSign] ++ value by simp,
      List.drop_left]
  simp only [processArg, begun, options, dashed_cons, long, findEquals_some _ _ _ _ plain,
    not_true, if_false, Bool.false_eq_true, rest, List.drop_succ_cons, List.drop_zero, name]

/-- An option that is written is read. -/
theorem processArg_optionArg {option : CommandLineOption} (readable : Readable option) :
    builder.processArg (optionArg option) =
      (false, { builder with options := builder.options ++ [option] }) := by
  obtain ⟨nonempty, plain⟩ := readable
  obtain ⟨name, value⟩ := option
  obtain _ | ⟨first, before⟩ := name
  · contradiction
  rw [optionArg]
  split
  case isTrue empty =>
    obtain rfl : value = [] := empty
    exact processArg_named begun options first plain
  case isFalse nonempty => exact processArg_valued begun options first value plain

theorem processArgs_optionArgs {written : List CommandLineOption}
    (readable : ∀ option ∈ written, Readable option) (rest : List Text) :
    builder.processArgs (written.map optionArg ++ rest) =
      { builder with options := builder.options ++ written }.processArgs rest := by
  induction written generalizing builder with
  | nil => rw [List.map_nil, List.nil_append, List.append_nil]
  | cons option written ih =>
    have step := processArg_optionArg begun options (readable option List.mem_cons_self)
    rw [List.map_cons, List.cons_append, processArgs, List.foldl_cons, step]
    have next := @ih { builder with options := builder.options ++ [option] } begun options
      fun option found => readable option (List.mem_cons_of_mem _ found)
    rw [processArgs] at next
    rw [next, List.append_assoc]
    rfl

end Options

/-- After the first positional argument all are. -/
theorem processArgs_started {builder : CommandLineBuilder} (args : List Text)
    (begun : builder.hasArgv0 = true) (started : builder.startedPositionalArgs = true) :
    builder.processArgs args =
      { builder with positionalArgs := builder.positionalArgs ++ args } := by
  induction args generalizing builder with
  | nil => rw [List.append_nil, processArgs, List.foldl_nil]
  | cons arg args ih =>
    have step : builder.processArg arg =
        ( builder.positionalArgs.isEmpty
        , { builder with positionalArgs := builder.positionalArgs ++ [arg] } ) := by
      simp only [processArg, begun, started, not_true, if_false, if_true]
    rw [processArgs, List.foldl_cons, step]
    have next := @ih { builder with positionalArgs := builder.positionalArgs ++ [arg] } begun started
    rw [processArgs] at next
    rw [next, List.append_assoc]
    rfl

/-- Positional arguments that are written are read. -/
theorem build_positionalArgv {builder : CommandLineBuilder} (args : List Text)
    (begun : builder.hasArgv0 = true) (options : builder.startedPositionalArgs = false)
    (none : builder.positionalArgs = []) :
    (builder.processArgs (positionalArgv args)).build =
      .ofComponents builder.argv0 builder.options args := by
  obtain _ | ⟨first, rest⟩ := args
  · rw [positionalArgv, processArgs, List.foldl_nil, build, if_neg (not_not_intro begun), none]
  · rw [positionalArgv]
    split
    case isTrue dashed =>
      have step : builder.processArg [dash, dash] =
          (false, { builder with startedPositionalArgs := true }) := by
        simp [processArg, begun, options, dashed_cons]
      rw [processArgs, List.foldl_cons, step]
      have next := @processArgs_started { builder with startedPositionalArgs := true }
        (first :: rest) begun rfl
      rw [processArgs] at next
      rw [next, build, if_neg (not_not_intro begun), none]
      rfl
    case isFalse plain =>
      have step : builder.processArg first =
          ( builder.positionalArgs.isEmpty
          , { builder with
              startedPositionalArgs := true
              positionalArgs := builder.positionalArgs ++ [first] } ) := by
        simp [processArg, begun, options, plain]
      rw [processArgs, List.foldl_cons, step]
      have next := @processArgs_started
        { builder with
          startedPositionalArgs := true
          positionalArgs := builder.positionalArgs ++ [first] } rest begun rfl
      rw [processArgs] at next
      rw [next, build, if_neg (not_not_intro begun), none]
      rfl

/-! ## All arguments -/

/-- What holds of a builder at any time: the options are as arguments have them. -/
def Reads (builder : CommandLineBuilder) : Prop :=
  ∀ option ∈ builder.options, Readable option

theorem Reads.append {builder : CommandLineBuilder} {option : CommandLineOption}
    (reads : builder.Reads) (readable : Readable option) :
    ∀ found ∈ builder.options ++ [option], Readable found := by
  intro found member
  obtain earlier | last := List.mem_append.mp member
  · exact reads found earlier
  · rw [List.mem_singleton.mp last]
    exact readable

theorem Reads.processArg {builder : CommandLineBuilder} (reads : builder.Reads) (arg : Text) :
    (builder.processArg arg).2.Reads := by
  by_cases begun : builder.hasArgv0 = true
  · by_cases started : builder.startedPositionalArgs = true
    · simpa [CommandLineBuilder.processArg, Reads, begun, started] using reads
    · rw [Bool.not_eq_true] at started
      by_cases dashed : Dashed arg
      · obtain ⟨_ | ⟨first, rest⟩, rfl⟩ := exists_of_dashed dashed
        · simpa [CommandLineBuilder.processArg, Reads, begun, started, dashed] using reads
        · by_cases valued : equalsSign ∈ rest
          · obtain ⟨before, value, rfl, plain⟩ := List.eq_append_cons_of_mem valued
            rw [processArg_valued begun started first value plain]
            exact reads.append ⟨List.cons_ne_nil _ _, plain⟩
          · rw [processArg_named begun started first valued]
            exact reads.append ⟨List.cons_ne_nil _ _, valued⟩
      · simpa [CommandLineBuilder.processArg, Reads, begun, started, dashed] using reads
  · simpa [CommandLineBuilder.processArg, Reads, begun] using reads

theorem Reads.processArgs {builder : CommandLineBuilder} (reads : builder.Reads)
    (argv : List Text) : (builder.processArgs argv).Reads := by
  induction argv generalizing builder with
  | nil => exact reads
  | cons arg argv ih => exact ih (reads.processArg arg)

end CommandLineBuilder

/-- Components that can be read are what is read from what is written of them. -/
theorem commandLineFromIterators_ofComponents (argv0 : Text) {options : List CommandLineOption}
    (positionalArgs : List Text) (readable : ∀ option ∈ options, Readable option) :
    commandLineFromIterators (commandLineToArgv (.ofComponents argv0 options positionalArgs)) =
      .ofComponents argv0 options positionalArgs := by
  have read := @CommandLineBuilder.processArgs_optionArgs
    { CommandLineBuilder.init with hasArgv0 := true, argv0 := argv0 } rfl rfl options readable
      (positionalArgv positionalArgs)
  rw [commandLineFromIterators, commandLineToArgv, if_neg (by simp [CommandLine.ofComponents])]
  change (CommandLineBuilder.processArgs
    { CommandLineBuilder.init with hasArgv0 := true, argv0 := argv0 }
      (options.map optionArg ++ positionalArgv positionalArgs)).build = _
  rw [read]
  exact CommandLineBuilder.build_positionalArgv positionalArgs rfl rfl rfl

theorem commandLineFromIterators_commandLineToArgv (argv : List Text) :
    commandLineFromIterators (commandLineToArgv (commandLineFromIterators argv)) =
      commandLineFromIterators argv := by
  have reads : (CommandLineBuilder.init.processArgs argv).Reads :=
    CommandLineBuilder.Reads.processArgs (fun _ found => absurd found List.not_mem_nil) argv
  have parsed := commandLineFromIterators.eq_def argv
  rw [CommandLineBuilder.build] at parsed
  split at parsed
  · rw [parsed]
    rfl
  · rw [parsed]
    exact commandLineFromIterators_ofComponents _ _ reads

/-! ## The values of options -/

/-- The value of the last option of a name. -/
def lastValue (options : List CommandLineOption) (name : Text) : Option Text :=
  (options.filter (·.name = name)).getLast?.map (·.value)

theorem lastValue_append (options : List CommandLineOption) (last : CommandLineOption)
    (name : Text) :
    lastValue (options ++ [last]) name =
      if last.name = name then some last.value else lastValue options name := by
  rw [lastValue, List.filter_append]
  by_cases same : last.name = name
  · rw [if_pos same, List.filter_cons_of_pos (by simpa using same), List.filter_nil,
      List.getLast?_concat, Option.map_some]
  · rw [if_neg same, List.filter_cons_of_neg (by simpa using same), List.filter_nil,
      List.append_nil, lastValue]

theorem lastValue_eq_none {options : List CommandLineOption} {name : Text}
    (absent : ∀ option ∈ options, option.name ≠ name) : lastValue options name = none := by
  have empty : options.filter (·.name = name) = [] := by
    rw [List.filter_eq_nil_iff]
    intro option found
    simpa using absent option found
  rw [lastValue, empty, List.getLast?_nil, Option.map_none]

namespace CommandLine

theorem optionIndex_append (argv0 : Text) (options : List CommandLineOption)
    (last : CommandLineOption) (positionalArgs : List Text) :
    (ofComponents argv0 (options ++ [last]) positionalArgs).optionIndex =
      Function.update (ofComponents argv0 options positionalArgs).optionIndex last.name
        (some options.length) := by
  simp only [ofComponents, List.zipIdx_append, List.foldl_append, List.zipIdx_cons,
    List.zipIdx_nil, List.foldl_cons, List.foldl_nil, Nat.zero_add]

/-- The index of a name is that of its last option. -/
theorem optionIndex_spec (argv0 : Text) (options : List CommandLineOption)
    (positionalArgs : List Text) (name : Text) :
    (ofComponents argv0 options positionalArgs).optionIndex name = none ∧
        lastValue options name = none ∨
      ∃ index option, (ofComponents argv0 options positionalArgs).optionIndex name = some index ∧
        options[index]? = some option ∧ lastValue options name = some option.value := by
  induction options using List.reverseRecOn with
  | nil => exact .inl ⟨rfl, rfl⟩
  | append_singleton options last ih =>
    rw [optionIndex_append, lastValue_append]
    by_cases same : last.name = name
    · right
      refine ⟨options.length, last, ?_, List.getElem?_concat_length, if_pos same⟩
      rw [← same, Function.update_self]
    · rw [Function.update_of_ne (Ne.symm same), if_neg same]
      obtain absent | ⟨index, option, indexed, found, value⟩ := ih
      · exact .inl absent
      · have inside := (List.getElem?_eq_some_iff.mp found).1
        exact .inr ⟨index, option, indexed, by rw [List.getElem?_append_left inside, found], value⟩

theorem getOptionValue_ofComponents (argv0 : Text) (options : List CommandLineOption)
    (positionalArgs : List Text) (name : StringView) :
    (ofComponents argv0 options positionalArgs).getOptionValue name =
      name.data.map (lastValue options) := by
  rw [getOptionValue, hasOption]
  cases name.data with
  | none => rfl
  | some key =>
    obtain ⟨absent, value⟩ | ⟨index, option, indexed, found, value⟩ :=
      optionIndex_spec argv0 options positionalArgs key
    · simp only [Option.map_some, Option.bind_some, absent, value]
    · have atIndex : (ofComponents argv0 options positionalArgs).options[index]? = some option :=
        found
      simp only [Option.map_some, Option.bind_some, indexed, atIndex, value]

end CommandLine

theorem getOptionValue_commandLineFromIterators (argv : List Text) (name : StringView) :
    (commandLineFromIterators argv).getOptionValue name =
      name.data.map (lastValue (commandLineFromIterators argv).options) := by
  have parsed := commandLineFromIterators.eq_def argv
  rw [CommandLineBuilder.build] at parsed
  split at parsed
  · rw [parsed]
    cases data : name.data <;>
      simp [CommandLine.getOptionValue, CommandLine.hasOption, CommandLine.init, data, lastValue]
  · rw [parsed]
    exact CommandLine.getOptionValue_ofComponents _ _ _ name

theorem commandLineFromIterators_readable (argv : List Text) :
    ∀ option ∈ (commandLineFromIterators argv).options, Readable option := by
  have reads : (CommandLineBuilder.init.processArgs argv).Reads :=
    CommandLineBuilder.Reads.processArgs (fun _ found => absurd found List.not_mem_nil) argv
  rw [commandLineFromIterators, CommandLineBuilder.build]
  split
  · exact fun _ found => absurd found List.not_mem_nil
  · exact reads

/-- A command line is read back from what is written of it, and the value that is got for a
name is that of the last option of that name. -/
def Faithful (argv : List Text) (name : StringView) : Prop :=
  (commandLineFromIterators (commandLineToArgv (commandLineFromIterators argv))).Equal
      (commandLineFromIterators argv) ∧
    (commandLineFromIterators argv).getOptionValue name =
      some (lastValue (commandLineFromIterators argv).options name.text)

/-- One option without a value. -/
theorem options_named {name : Text} (optionName : OptionName name) :
    (commandLineFromIterators [[], [dash, dash] ++ name]).options = [⟨name, []⟩] := by
  obtain ⟨nonempty, plain⟩ := optionName
  obtain _ | ⟨first, before⟩ := name
  · contradiction
  have step := @CommandLineBuilder.processArg_named
    { CommandLineBuilder.init with hasArgv0 := true } rfl rfl before first plain
  change (CommandLineBuilder.build (CommandLineBuilder.processArg
    { CommandLineBuilder.init with hasArgv0 := true }
      (dash :: dash :: first :: before)).2).options = _
  rw [step]
  rfl

/-- All of it holds of a name exactly where a null character ends it in memory, or it can name
no option, nor can what is looked up in its place. -/
theorem faithful_iff (name : StringView) :
    (∀ argv, Faithful argv name) ↔
      ∃ key, name.data = some key ∧
        (key = name.text ∨ ¬OptionName key ∧ ¬OptionName name.text) := by
  have alone : ∀ {named other : Text}, other ≠ named → OptionName named →
      lastValue (commandLineFromIterators [[], [dash, dash] ++ named]).options other ≠
        lastValue (commandLineFromIterators [[], [dash, dash] ++ named]).options named := by
    intro named other different optionName
    rw [options_named optionName]
    simp [lastValue, Ne.symm different]
  constructor
  · intro faithful
    have looked : ∀ argv, name.data.map (lastValue (commandLineFromIterators argv).options) =
        some (lastValue (commandLineFromIterators argv).options name.text) := fun argv => by
      rw [← getOptionValue_commandLineFromIterators, (faithful argv).2]
    cases data : name.data with
    | none =>
      have value := looked []
      rw [data] at value
      contradiction
    | some key =>
      rw [data] at looked
      refine ⟨key, rfl, or_iff_not_imp_left.mpr fun different => ⟨fun named => ?_, fun named => ?_⟩⟩
      · exact alone (Ne.symm different) named (Option.some.inj (looked _)).symm
      · exact alone different named (Option.some.inj (looked _))
  · rintro ⟨key, data, same⟩ argv
    have readable := commandLineFromIterators_readable argv
    rw [Faithful, commandLineFromIterators_commandLineToArgv,
      getOptionValue_commandLineFromIterators, data, Option.map_some]
    refine ⟨⟨rfl, rfl, rfl, rfl⟩, ?_⟩
    obtain rfl | ⟨keyless, nameless⟩ := same
    · rfl
    · have absent : ∀ other, ¬OptionName other →
          lastValue (commandLineFromIterators argv).options other = none :=
        fun other unnamed => lastValue_eq_none fun option found same =>
          unnamed (same ▸ readable option found)
      rw [absent key keyless, absent name.text nameless]

/-- The first four characters of `flagged`, as a name: `flag` has a value, and `flagged` is
looked up. -/
theorem not_faithful_flag :
    ¬Faithful [[112], [45, 45, 102, 108, 97, 103, 61, 118]]
      ⟨[102, 108, 97, 103, 103, 101, 100, 0], 4, by decide⟩ := by
  rintro ⟨-, value⟩
  revert value
  decide

end FlutterEngine.Fml
