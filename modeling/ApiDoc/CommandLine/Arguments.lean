import ApiDoc.Output

/-!
# Command line arguments

A command line names a command, which takes options and positional arguments.  An option is given
as `--name`, with a value as the next argument or behind `=`.  Behind `--` every argument is
positional.
-/

namespace ApiDoc.CommandLine

/-! ## Commands -/

/-- What the value of an option has to be. -/
inductive ValueKind
  /-- No value. -/
  | flag
  /-- A path, which is not empty. -/
  | path
  | format
  | count
  | text
deriving DecidableEq

structure OptionSpec where
  name : String
  kind : ValueKind
deriving DecidableEq

namespace OptionSpec

/-- The option in messages. -/
def display (o : OptionSpec) : String :=
  if o.kind = .flag then "--" ++ o.name
  else "--" ++ o.name ++ " <" ++ String.ofList (o.name.toList.map Char.toUpper) ++ ">"

end OptionSpec

/-- The commands of the program. -/
inductive CommandName
  | extract
  | parse
  | constants
deriving DecidableEq, Inhabited

namespace CommandName

def all : List CommandName := [extract, parse, constants]

def name : CommandName → String
  | .extract => "extract"
  | .parse => "parse"
  | .constants => "constants"

def ofName? (s : String) : Option CommandName := all.find? fun c => c.name == s

def options : CommandName → List OptionSpec
  | .extract => [
      ⟨"config", .path⟩,
      ⟨"format", .format⟩,
      ⟨"out", .path⟩,
      ⟨"threads", .count⟩,
      ⟨"class", .text⟩,
      ⟨"report-json", .flag⟩]
  | .parse => [⟨"json", .flag⟩]
  | .constants => [⟨"json", .flag⟩]

/-- Whether a command takes any number of positional arguments; the others take just one. -/
def takesMany : CommandName → Bool
  | .extract => true
  | _ => false

/-- The positional arguments in messages. -/
def positional (c : CommandName) : String := if c.takesMany then "[ROOTS]..." else "<FILE>"

end CommandName

/-! ## What can be wrong -/

inductive ArgumentError
  | unexpected (argument : String)
  | unknownCommand (name : String)
  | missingRequired (arguments : List String)
  | missingValue (option : String)
  | invalidValue (value option reason : String)
  | unneededValue (value option : String)
  | repeated (option : String)
deriving DecidableEq, Inhabited

namespace ArgumentError

def message : ArgumentError → String
  | .unexpected a => "unexpected argument '" ++ a ++ "' found"
  | .unknownCommand n => "unrecognized subcommand '" ++ n ++ "'"
  | .missingRequired l =>
    "the following required arguments were not provided:" ++ String.join (l.map ("\n  " ++ ·))
  | .missingValue o => "a value is required for '" ++ o ++ "' but none was supplied"
  | .invalidValue v o reason => "invalid value '" ++ v ++ "' for '" ++ o ++ "': " ++ reason
  | .unneededValue v o => "unexpected value '" ++ v ++ "' for '" ++ o ++ "' found; no more were expected"
  | .repeated o => "the argument '" ++ o ++ "' cannot be used multiple times"

end ArgumentError

/-! ## Counts -/

/-- Reads the digits of a count that fits 64 bits, after those with the value `n`. -/
def countFrom (n : Nat) : List Char → Except String Nat
  | [] => .ok n
  | c :: r =>
    let m := 10 * n + (c.toNat - 48)
    if !c.isDigit then .error "invalid digit found in string"
    else if 0x10000000000000000 ≤ m then .error "number too large to fit in target type"
    else countFrom m r

/-- Reads a count. -/
def readCount (s : String) : Except String Nat :=
  match s.toList with
  | [] => .error "cannot parse integer from empty string"
  | ['+'] => .error "invalid digit found in string"
  | '+' :: r => countFrom 0 r
  | cs => countFrom 0 cs

/-! ## Reading arguments -/

/-- Arguments that are read but not yet taken in. -/
inductive Pending
  | none
  /-- An option that may still wait for its value. -/
  | option (o : OptionSpec) (value : Option String)
  | positional (values : List String)

/-- The arguments of a command as they are read. -/
structure Reading where
  command : CommandName
  values : List (OptionSpec × String)
  flags : List OptionSpec
  positional : List String
  pending : Pending
  /-- Whether all that follows is positional. -/
  isTrailing : Bool

namespace Reading

def start (c : CommandName) : Reading := ⟨c, [], [], [], .none, false⟩

/-- Whether a value is one that an option can have. -/
def checkValue (o : OptionSpec) (v : String) : Except ArgumentError Unit :=
  match o.kind with
  | .flag => .ok ()
  | .text => .ok ()
  | .path => if v.isEmpty then .error (.missingValue o.display) else .ok ()
  | .format =>
    match OutputFormat.parse v with
    | .ok _ => .ok ()
    | .error name => .error (.invalidValue v o.display (OutputFormat.unknownMessage name))
  | .count =>
    match readCount v with
    | .ok _ => .ok ()
    | .error reason => .error (.invalidValue v o.display reason)

/-- Takes in an option with its value, which may be given only once. -/
def takeOption (s : Reading) (o : OptionSpec) (v : String) : Except ArgumentError Reading := do
  if s.values.any (·.1 == o) then throw (.repeated o.display)
  checkValue o v
  return { s with values := s.values ++ [(o, v)] }

/-- Takes in what is pending. -/
def settle (s : Reading) : Except ArgumentError Reading :=
  let rest := { s with pending := .none }
  match s.pending with
  | .none => .ok rest
  | .option o none => .error (.missingValue o.display)
  | .option o (some v) => rest.takeOption o v
  | .positional values =>
    if values.contains "" then .error (.missingValue s.command.positional)
    else .ok { rest with positional := s.positional ++ values }

/-- What one argument leads to. -/
inductive Next
  | reading (s : Reading)
  /-- Help is asked for. -/
  | help

/-- Takes in a flag. -/
def takeFlag (s : Reading) (o : OptionSpec) : Except ArgumentError Reading := do
  let s ← s.settle
  if s.flags.contains o then throw (.repeated o.display)
  return { s with flags := s.flags ++ [o] }

/-- Reads an argument `--name` or `--name=value`. -/
def long (s : Reading) (name : String) (value : Option String) : Except ArgumentError Next :=
  if name = "help" then
    match value with
    | some v => .error (.unneededValue v "--help")
    | none => s.settle.map fun _ => .help
  else
    match s.command.options.find? (·.name == name) with
    | none => .error (.unexpected ("--" ++ name))
    | some o =>
      match o.kind, value with
      | .flag, some v => .error (.unneededValue v o.display)
      | .flag, none => (s.takeFlag o).map .reading
      | _, some v => do return .reading (← (← s.settle).takeOption o v)
      | _, none => s.settle.map fun s => .reading { s with pending := .option o none }

/-- Reads a positional argument. -/
def plain (s : Reading) (a : String) : Except ArgumentError Next := do
  match s.pending with
  | .positional values =>
    if s.command.takesMany then return .reading { s with pending := .positional (values ++ [a]) }
    else throw (.unexpected a)
  | _ =>
    if !s.command.takesMany && !s.positional.isEmpty then throw (.unexpected a)
    let s ← s.settle
    return .reading { s with pending := .positional [a] }

/-- The name and the value of an argument `--name=value`. -/
def splitLong (cs : List Char) : String × Option String :=
  match Text.cutAt? '=' cs with
  | some (name, v) => (String.ofList name, some (String.ofList v))
  | none => (String.ofList cs, none)

/-- Reads one argument. -/
def argument (s : Reading) (a : String) : Except ArgumentError Next :=
  if s.isTrailing then s.plain a
  else
    match a.toList with
    | ['-', '-'] => .ok (.reading { s with isTrailing := true })
    | '-' :: '-' :: r => let (name, v) := splitLong r; s.long name v
    | '-' :: c :: _ =>
      if c = 'h' then s.settle.map fun _ => .help
      else .error (.unexpected (String.ofList ['-', c]))
    | _ =>
      match s.pending with
      | .option o none => .ok (.reading { s with pending := .option o (some a) })
      | _ => s.plain a

/-- Takes in what is left at the end of the arguments. -/
def finish (s : Reading) : Except ArgumentError Reading := do
  let s ← s.settle
  if !s.command.takesMany && s.positional.isEmpty then
    throw (.missingRequired [s.command.positional])
  return s

/-- Reads all arguments of a command; `none` stands for a call for help. -/
def arguments (s : Reading) : List String → Except ArgumentError (Option Reading)
  | [] => s.finish.map some
  | a :: r => do
    match ← s.argument a with
    | .help => return none
    | .reading s => s.arguments r

/-- The value given for an option. -/
def value? (s : Reading) (name : String) : Option String :=
  (s.values.find? (·.1.name == name)).map (·.2)

def hasFlag (s : Reading) (name : String) : Bool := s.flags.any (·.name == name)

end Reading

/-! ## Requests -/

/-- The arguments of the command `extract`. -/
structure ExtractArguments where
  roots : List Path
  config : Option Path
  format : Option OutputFormat
  out : Option Path
  threads : Option Nat
  className : Option String
  reportJson : Bool
deriving DecidableEq

/-- The arguments of the commands for a single page. -/
structure PageArguments where
  file : Path
  json : Bool
deriving DecidableEq

/-- What a command line asks for. -/
inductive Request
  | extract (arguments : ExtractArguments)
  | parse (arguments : PageArguments)
  | constants (arguments : PageArguments)
  /-- Help on a command, or on the program. -/
  | help (command : Option CommandName)
  | version
  /-- Nothing: help is printed, but as an error. -/
  | nothing
deriving DecidableEq

namespace Reading

def toExtract (s : Reading) : ExtractArguments where
  roots := s.positional.map Path.mk
  config := (s.value? "config").map Path.mk
  format := (s.value? "format").bind fun v => (OutputFormat.parse v).toOption
  out := (s.value? "out").map Path.mk
  threads := (s.value? "threads").bind fun v => (readCount v).toOption
  className := s.value? "class"
  reportJson := s.hasFlag "report-json"

def toPage (s : Reading) : PageArguments where
  file := ⟨s.positional.headD ""⟩
  json := s.hasFlag "json"

def toRequest (s : Reading) : Request :=
  match s.command with
  | .extract => .extract s.toExtract
  | .parse => .parse s.toPage
  | .constants => .constants s.toPage

end Reading

/-- Reads what follows the name of a command. -/
def readCommand (c : CommandName) (args : List String) : Except ArgumentError Request := do
  match ← (Reading.start c).arguments args with
  | some s => return s.toRequest
  | none => return .help (some c)

/-- Reads what follows `help`. -/
def readHelp : List String → Except ArgumentError Request
  | [] => .ok (.help none)
  | name :: _ =>
    match CommandName.ofName? name with
    | some c => .ok (.help (some c))
    | none => if name = "help" then .ok (.help none) else .error (.unknownCommand name)

/-- Reads a command line without the name of the program. -/
def readArguments : List String → Except ArgumentError Request
  | [] => .ok .nothing
  | a :: r =>
    match CommandName.ofName? a with
    | some c => readCommand c r
    | none =>
      if a = "help" then readHelp r
      else
        match a.toList with
        | ['-', '-'] =>
          match r with
          | [] => .ok .nothing
          | name :: _ =>
            if (CommandName.ofName? name).isSome || name == "help" then .error (.unexpected name)
            else .error (.unknownCommand name)
        | '-' :: '-' :: cs =>
          let (name, v) := Reading.splitLong cs
          if name = "help" then v.elim (.ok (.help none)) fun v => .error (.unneededValue v "--help")
          else if name = "version" then
            v.elim (.ok .version) fun v => .error (.unneededValue v "--version")
          else .error (.unexpected ("--" ++ name))
        | '-' :: c :: _ =>
          if c = 'h' then .ok (.help none)
          else if c = 'V' then .ok .version
          else .error (.unexpected (String.ofList ['-', c]))
        | _ => .error (.unknownCommand a)

end ApiDoc.CommandLine
