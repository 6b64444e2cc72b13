import ChartCatalog.CommandLine.Options
import ChartCatalog.Selection.Basic
import ChartCatalog.Number.Numeral
import ChartCatalog.Text.LowerCase

/-!
# Invocations

The program is called with a command and its arguments, and with the catalog's
file before the command or in the environment. `Reading.ofArguments` reads a
list of arguments; each command has a specification of what it takes, in which
the values of options are checked as they are read.
-/

namespace ChartCatalog.CommandLine

open Number Text

/-! ## Values -/

/-- A natural number in digits, with a plus allowed. -/
def natural? (s : String) : Option Nat :=
  match s.toList with
  | '+' :: digits => wholeNumber? digits
  | digits => wholeNumber? digits

/-- A natural number below a limit. -/
def naturalBelow? (limit : Nat) (s : String) : Option Nat := (natural? s).filter (· < limit)

/-- A level bound: a number of 8 bits; zero may have a minus. -/
def levelBound? (s : String) : Option UInt8 :=
  let (negative, digits) := splitSign s.toList
  ((wholeNumber? digits).filter fun n => n < UInt8.size ∧ (negative → n = 0)).map UInt8.ofNat

/-- A rating bound. -/
def ratingBound? (s : String) : Option Binary64 := Binary64.ofText? s.toList

/-- The number of values of a word of the machine. -/
def wordSize : Nat := UInt64.size

/-! ## Commands -/

/-- What the program is asked to do. -/
inductive Command
  /-- Look up charts by id. -/
  | find (ids : List String) (json : Bool)
  /-- List the charts that a filter accepts. -/
  | query (filter : String) (json : Bool)
  /-- Pick random charts that a filter accepts. -/
  | sample (filter : String) (count : Nat) (seed : Option Nat) (json : Bool)
  /-- List the charts of a selection, with the difficulties given by letters. -/
  | filter (selection : Selection) (difficulties : String) (showQuery json : Bool)
  /-- Show how a filter is understood. -/
  | parse (filter : String)

/-- A command and the file of the catalog. -/
structure Invocation where
  catalog : Option String
  command : Command

/-- What a list of arguments asks for. -/
inductive Reading
  | run (invocation : Invocation)
  | version
  | help
  | misuse

/-- A switch. -/
def switch (name : String) : OptionSpec := { name := name, takesValue := false }

/-- The first operand of a command that needs one. -/
def Given.firstOperand (given : Given) : Except Refusal String :=
  match given.operands with
  | operand :: _ => .ok operand
  | [] => .error .misuse

/-- What a command that takes one filter takes. -/
def filterSpec (options : List OptionSpec) : CommandSpec :=
  { options := options, operandLimit := some 1, operandAllowsHyphen := true }

/-- `find`: one or more ids. -/
def readFind (arguments : List String) : Except Refusal Command := do
  let given ← scan { options := [switch "json"], operandLimit := none } arguments
  if given.operands = [] then .error .misuse
  else return .find given.operands (given.has "json")

/-- `query`: a filter. -/
def readQuery (arguments : List String) : Except Refusal Command := do
  let given ← scan (filterSpec [switch "json"]) arguments
  return .query (← given.firstOperand) (given.has "json")

/-- `sample`: a filter, how many charts, and a seed. -/
def readSample (arguments : List String) : Except Refusal Command := do
  let isWord := fun s => (naturalBelow? wordSize s).isSome
  let given ← scan (filterSpec [
    { name := "count", letter := some 'n', isValid := isWord },
    { name := "seed", isValid := isWord },
    switch "json"]) arguments
  return .sample (← given.firstOperand) (((given.value? "count").bind natural?).getD 1)
    ((given.value? "seed").bind natural?) (given.has "json")

/-- An option whose value is an inclusion. -/
def inclusionOption (name : String) : OptionSpec :=
  { name := name, isValid := fun s => (Inclusion.ofText? s).isSome }

/-- The inclusion of an option, or its default. -/
def Given.inclusion (given : Given) (name : String) (default : Inclusion) : Inclusion :=
  ((given.value? name).bind Inclusion.ofText?).getD default

/-- `filter`: the bounds and switches of a selection. -/
def readFilter (arguments : List String) : Except Refusal Command := do
  let isLevel := fun s => (levelBound? s).isSome
  let isRating := fun s => (ratingBound? s).isSome
  let isSran := fun s => (SranLevel.ofText? s).isSome
  let given ← scan {
    options := [
      { name := "level-min", isValid := isLevel },
      { name := "level-max", isValid := isLevel },
      { name := "rating-min", allowsHyphen := true, isValid := isRating },
      { name := "rating-max", allowsHyphen := true, isValid := isRating },
      { name := "sran-min", isValid := isSran },
      { name := "sran-max", isValid := isSran },
      { name := "difficulties" },
      inclusionOption "hardest",
      inclusionOption "floor-infection",
      inclusionOption "bugged-bpm",
      inclusionOption "bpm-changes",
      inclusionOption "holds",
      inclusionOption "upper",
      inclusionOption "ura",
      inclusionOption "omnimix",
      inclusionOption "lively",
      switch "show-query",
      switch "json"]
    operandLimit := some 0 } arguments
  let all : Selection := {}
  return .filter {
      levelMin := ((given.value? "level-min").bind levelBound?).getD all.levelMin
      levelMax := ((given.value? "level-max").bind levelBound?).getD all.levelMax
      ratingMin := (given.value? "rating-min").bind ratingBound?
      ratingMax := (given.value? "rating-max").bind ratingBound?
      sranLevelMin := (given.value? "sran-min").bind SranLevel.ofText?
      sranLevelMax := (given.value? "sran-max").bind SranLevel.ofText?
      hardest := given.inclusion "hardest" all.hardest
      floorInfection := given.inclusion "floor-infection" all.floorInfection
      buggedTempo := given.inclusion "bugged-bpm" all.buggedTempo
      tempoChanges := given.inclusion "bpm-changes" all.tempoChanges
      holds := given.inclusion "holds" all.holds
      upper := given.inclusion "upper" all.upper
      ura := given.inclusion "ura" all.ura
      omnimix := given.inclusion "omnimix" all.omnimix
      lively := given.inclusion "lively" all.lively }
    ((given.value? "difficulties").getD "enhx") (given.has "show-query") (given.has "json")

/-- `parse`: a filter. -/
def readParse (arguments : List String) : Except Refusal Command := do
  let given ← scan (filterSpec []) arguments
  return .parse (← given.firstOperand)

/-- A command's reader by the command's name. -/
def commandNamed? : String → Option (List String → Except Refusal Command)
  | "find" => some readFind
  | "query" => some readQuery
  | "sample" => some readSample
  | "filter" => some readFilter
  | "parse" => some readParse
  | _ => none

/-! ## The whole list of arguments -/

/-- What to do with the arguments of a command. -/
def finish (catalog : Option String) (command : Except Refusal Command) : Reading :=
  match command with
  | .ok command => .run ⟨catalog, command⟩
  | .error .help => .help
  | .error .misuse => .misuse

/-- Can help be asked for on this subject: nothing, or the name of one command? -/
def isHelpSubject : List String → Bool
  | [] => true
  | [name] => name = "help" || (commandNamed? name).isSome
  | _ => false

/-- The arguments from the command on, or the options before it. The catalog's
file may be given once. -/
def readFrom (given : Option String) (environment : Option String) : List String → Reading
  | [] => .misuse
  | argument :: rest =>
    match commandNamed? argument with
    | some read => finish (given.or environment) (read rest)
    | none =>
      match formOf argument with
      | .plain => if argument = "help" ∧ isHelpSubject rest then .help else .misuse
      | .separator => .misuse
      | .short letters =>
        match letters.head? with
        | some 'V' => .version
        | some 'h' => .help
        | _ => .misuse
      | .long "version" none => .version
      | .long "help" none => .help
      | .long "catalog" (some path) =>
        if given.isSome then .misuse else readFrom (some path) environment rest
      | .long "catalog" none =>
        match rest with
        | [] => .misuse
        | path :: rest =>
          match formOf path with
          | .plain => if given.isSome then .misuse else readFrom (some path) environment rest
          | _ => .misuse
      | .long _ _ => .misuse

/-- What a list of arguments asks for. The environment names the catalog's file
unless the arguments do. -/
def Reading.ofArguments (arguments : List String) (environment : Option String) : Reading :=
  readFrom none environment arguments

/-- The selection with the difficulties of the letters alone, in any letter case;
or the first letter that is none. -/
def selectDifficulties (selection : Selection) (letters : String) : Except Char Selection := do
  let given ← (lowerCase letters.toList).mapM fun letter =>
    match Difficulty.ofLetter? letter with
    | some difficulty => .ok difficulty
    | none => .error letter
  return { selection with
    includeEasy := given.contains .easy
    includeNormal := given.contains .normal
    includeHyper := given.contains .hyper
    includeExtra := given.contains .extra }

end ChartCatalog.CommandLine
