/-!
# Options and operands

The arguments of a command are options and operands in any order. A long option
begins with two hyphens and a short one with a single hyphen; a value follows an
option as the next argument or is attached to it. After a bare `--` everything
is an operand.

A command can let its next operand begin with a hyphen. An argument that begins
with one is then an operand unless it names an option; for short options that is
decided by all of its letters. `OptionSpec.allowsHyphen` does the same for the
value of an option.

`scan` goes through the arguments from left to right and stops at the first
mistake or request for help.
-/

namespace ChartCatalog.CommandLine

/-- An option of a command: a switch, or an option with a value that passes
`isValid`. -/
structure OptionSpec where
  name : String
  letter : Option Char := none
  takesValue : Bool := true
  allowsHyphen : Bool := false
  isValid : String → Bool := fun _ => true

/-- What a command takes: options, and operands up to a number or without end. -/
structure CommandSpec where
  options : List OptionSpec
  operandLimit : Option Nat
  operandAllowsHyphen : Bool := false

/-- What was given: options with their values and operands, in order. -/
structure Given where
  options : List (String × String) := []
  operands : List String := []

/-- Why the arguments are not those of a command. -/
inductive Refusal
  | help
  | misuse
  deriving DecidableEq

/-- The form of a single argument. -/
inductive Form
  /-- The bare `--`. -/
  | separator
  /-- `--name` or `--name=value`. -/
  | long (name : String) (attached : Option String)
  /-- A hyphen and letters. -/
  | short (letters : List Char)
  | plain

/-- The text before the first equality sign and the text after it. -/
def splitAttached (s : List Char) : String × Option String :=
  match s.dropWhile (· ≠ '=') with
  | [] => (String.ofList s, none)
  | _ :: value => (String.ofList (s.takeWhile (· ≠ '=')), some (String.ofList value))

/-- The form of an argument. A single hyphen is plain. -/
def formOf (argument : String) : Form :=
  match argument.toList with
  | ['-', '-'] => .separator
  | '-' :: '-' :: s => .long (splitAttached s).1 (splitAttached s).2
  | ['-'] => .plain
  | '-' :: s => .short s
  | _ => .plain

namespace CommandSpec

/-- The option with a long name. -/
def optionNamed? (spec : CommandSpec) (name : String) : Option OptionSpec :=
  spec.options.find? (·.name = name)

/-- The option with a letter. -/
def optionLettered? (spec : CommandSpec) (letter : Char) : Option OptionSpec :=
  spec.options.find? (·.letter = some letter)

/-- Is there an option with the letter? The letter for help is always one. -/
def knowsLetter (spec : CommandSpec) (letter : Char) : Bool :=
  letter = 'h' || (spec.optionLettered? letter).isSome

/-- May another operand follow? -/
def hasRoom (spec : CommandSpec) (given : Given) : Bool :=
  match spec.operandLimit with
  | some limit => given.operands.length < limit
  | none => true

/-- Is an argument with a hyphen that names no option the next operand, or the
value that is due? -/
def takesHyphens (spec : CommandSpec) (given : Given) : Form → Bool
  | .long name _ =>
    spec.operandAllowsHyphen && spec.hasRoom given &&
      name != "help" && (spec.optionNamed? name).isNone
  | .short letters =>
    spec.operandAllowsHyphen && spec.hasRoom given && !letters.all spec.knowsLetter
  | _ => false

/-- Can the argument be the value of an option? -/
def isValueFor (spec : CommandSpec) (given : Given) (option : OptionSpec) (argument : String) :
    Bool :=
  option.allowsHyphen ||
    match formOf argument with
    | .plain => true
    | form => spec.takesHyphens given form

end CommandSpec

namespace Given

/-- One more operand, if there is room for it. -/
def addOperand (spec : CommandSpec) (given : Given) (operand : String) : Except Refusal Given :=
  if spec.hasRoom given then .ok { given with operands := given.operands ++ [operand] }
  else .error .misuse

/-- One more option, which must not be repeated and needs a valid value. -/
def addOption (given : Given) (option : OptionSpec) (value : String) : Except Refusal Given :=
  if (given.options.lookup option.name).isNone ∧ option.isValid value then
    .ok { given with options := given.options ++ [(option.name, value)] }
  else .error .misuse

/-- The value of an option. -/
def value? (given : Given) (name : String) : Option String := given.options.lookup name

/-- Was the switch given? -/
def has (given : Given) (name : String) : Bool := (given.value? name).isSome

end Given

/-- What a cluster of letters leaves to do. -/
inductive ClusterEnd
  /-- Nothing. -/
  | done (given : Given)
  /-- The option's value is the next argument. -/
  | needsValue (given : Given) (option : OptionSpec)

/-- The options of a cluster of letters. The first one with a value takes what
follows it in the cluster. -/
def scanLetters (spec : CommandSpec) (given : Given) : List Char → Except Refusal ClusterEnd
  | [] => .ok (.done given)
  | letter :: rest =>
    match spec.optionLettered? letter with
    | none => .error (if letter = 'h' then .help else .misuse)
    | some option =>
      if option.takesValue then
        match rest with
        | [] => .ok (.needsValue given option)
        | '=' :: value => (given.addOption option (String.ofList value)).map .done
        | value => (given.addOption option (String.ofList value)).map .done
      else do scanLetters spec (← given.addOption option "") rest

/-- The options and operands of a list of arguments, after those already given. -/
def scanFrom (spec : CommandSpec) (given : Given) : List String → Except Refusal Given
  | [] => .ok given
  | argument :: rest =>
    let form := formOf argument
    if spec.takesHyphens given form then do
      scanFrom spec (← given.addOperand spec argument) rest
    else match form with
      -- after the separator nothing is an option
      | .separator => rest.foldlM (Given.addOperand spec) given
      | .plain => do scanFrom spec (← given.addOperand spec argument) rest
      | .long name attached =>
        match spec.optionNamed? name, attached with
        | none, none => .error (if name = "help" then .help else .misuse)
        | none, some _ => .error .misuse
        | some option, some value =>
          if option.takesValue then do scanFrom spec (← given.addOption option value) rest
          else .error .misuse
        | some option, none =>
          if option.takesValue then
            -- the value is the next argument
            match rest with
            | [] => .error .misuse
            | value :: rest =>
              if spec.isValueFor given option value then do
                scanFrom spec (← given.addOption option value) rest
              else .error .misuse
          else do scanFrom spec (← given.addOption option "") rest
      | .short letters =>
        match scanLetters spec given letters with
        | .error refusal => .error refusal
        | .ok (.done given) => scanFrom spec given rest
        | .ok (.needsValue given option) =>
          -- the last letter's value is the next argument
          match rest with
          | [] => .error .misuse
          | value :: rest =>
            if spec.isValueFor given option value then do
              scanFrom spec (← given.addOption option value) rest
            else .error .misuse

/-- The options and operands of a list of arguments. -/
def scan (spec : CommandSpec) (arguments : List String) : Except Refusal Given :=
  scanFrom spec {} arguments

end ChartCatalog.CommandLine
