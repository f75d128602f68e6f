/-
# The command line

The program that explains searches takes filters as `key=value` and a page size.

* `Token.ofArguments` says what each argument is taken for: an option, which may be shortened to
  what begins no other option; the separator `--`, after which nothing is an option; or a
  positional argument.  A negative number and an argument with a space in it are positional too,
  unless they start like one of the options.
* `readTokens` reads the tokens.  Only the first run of positional arguments is taken as filters;
  later ones are not recognized.
* `run` is the whole program: what it prints and its exit status.
-/
import Realty.Explain

namespace Realty.CommandLine

/-! ## 1. Options -/

/-- The options. -/
inductive Switch where
  | help
  | perPage
deriving DecidableEq, Repr

namespace Switch

/-- The options with their long spellings. -/
def spellings : List (String × Switch) := [("--help", .help), ("--per-page", .perPage)]

/-- The name of an option in messages. -/
def label : Switch → String
  | .help => "-h/--help"
  | .perPage => "--per-page"

end Switch

/-- What is wrong with the arguments. -/
inductive Error where
  /-- An option is shortened to what begins several. -/
  | ambiguous (argument : String) (candidates : List String)
  /-- An option lacks its value. -/
  | noValue (s : Switch)
  /-- An option takes no value. -/
  | unwantedValue (s : Switch) (value : String)
  /-- The page size is no integer. -/
  | badInteger (s : Switch) (value : String)
  /-- There are arguments that mean nothing. -/
  | unrecognized (arguments : List String)
deriving DecidableEq, Repr

/-- The text of an error. -/
def Error.message : Error → String
  | .ambiguous argument candidates =>
    "ambiguous option: " ++ argument ++ " could match " ++ Text.joined ", " candidates
  | .noValue s => "argument " ++ s.label ++ ": expected one argument"
  | .unwantedValue s value =>
    "argument " ++ s.label ++ ": ignored explicit argument " ++ Text.quoted value
  | .badInteger s value =>
    "argument " ++ s.label ++ ": invalid int value: " ++ Text.quoted value
  | .unrecognized arguments => "unrecognized arguments: " ++ Text.joined " " arguments

/-! ## 2. Tokens -/

/-- What an argument is taken for. -/
inductive Token where
  | positional (s : String)
  | separator
  /-- A long option with the value attached to it. -/
  | option (s : Switch) (value : Option String)
  /-- The letter that asks for help, with what follows it. -/
  | helpLetter (rest : List Char)
  /-- An option that there is not. -/
  | unknown (s : String)
deriving DecidableEq, Repr

namespace Token

/-- What stands before the first equals sign, and the value after it. -/
def splitValue (s : String) : List Char × Option String :=
  match Text.partition '=' s.toList with
  | some (name, value) => (name, some (String.ofList value))
  | none => (s.toList, none)

/-- The options that a long argument may be short for, with their spellings. -/
def expansions (argument : String) : List (String × Switch) :=
  Switch.spellings.filter fun p => (splitValue argument).1.isPrefixOf p.1.toList

/-- Whether a text after its minus sign is a number: digits, perhaps with a point before the
last of them. -/
def isNumber (s : List Char) : Bool :=
  match Text.partition '.' s with
  | none => !s.isEmpty && s.all Text.isDigit
  | some (whole, fraction) =>
    whole.all Text.isDigit && !fraction.isEmpty && fraction.all Text.isDigit

/-- Whether an argument that is no option is positional all the same. -/
def isPositional (argument : String) : Bool :=
  argument.toList.contains ' ' ||
    match argument.toList with
    | '-' :: r => isNumber (if r.getLast? = some '\n' then r.dropLast else r)
    | _ => false

/-- What an argument that is no option is taken for. -/
def ofOther (argument : String) : Token :=
  if isPositional argument then .positional argument else .unknown argument

/-- What an argument before the separator is taken for. -/
def ofArgument (argument : String) : Except Error Token :=
  match argument.toList with
  | '-' :: '-' :: _ =>
    match expansions argument with
    | [] => .ok (ofOther argument)
    | [(_, s)] => .ok (.option s (splitValue argument).2)
    | several => .error (.ambiguous argument (several.map (·.1)))
  | '-' :: 'h' :: rest => .ok (.helpLetter rest)
  | '-' :: _ :: _ => .ok (ofOther argument)
  | _ => .ok (.positional argument)

/-- What each argument is taken for. -/
def ofArguments : List String → Except Error (List Token)
  | [] => .ok []
  | "--" :: r => .ok (.separator :: r.map .positional)
  | s :: r => do return (← ofArgument s) :: (← ofArguments r)

end Token

/-! ## 3. Reading -/

/-- How far the run of filters has come. -/
inductive Stage where
  | before
  | during
  | after
deriving DecidableEq, Repr

/-- What has been read. -/
structure Parsed where
  perPage : Int := 25
  filters : List String := []
  stage : Stage := .before
  /-- Arguments that mean nothing. -/
  extras : List String := []
deriving Repr

namespace Parsed

/-- A positional argument is read: a filter, or one too many. -/
def positional (p : Parsed) (s : String) : Parsed :=
  if p.stage = .after then { p with extras := p.extras ++ [s] }
  else { p with filters := p.filters ++ [s], stage := .during }

/-- The separator is read; among the filters it means nothing. -/
def separator (p : Parsed) : Parsed :=
  if p.stage = .after then { p with extras := p.extras ++ ["--"] }
  else { p with stage := .during }

/-- The run of filters ends, if it has begun. -/
def endRun (p : Parsed) : Parsed := if p.stage = .during then { p with stage := .after } else p

end Parsed

/-- How reading stops early. -/
inductive Stop where
  | help
  | error (e : Error)
deriving DecidableEq, Repr

/-- The value of the page size. -/
def readPerPage (p : Parsed) (value : String) : Except Stop Parsed :=
  match integerOfText value with
  | .ok n => .ok { p with perPage := n }
  | .error _ => .error (.error (.badInteger .perPage value))

/-- A request for help with a value that it does not take. -/
def unwanted (value : List Char) : Stop := .error (.unwantedValue .help (String.ofList value))

/-- What follows the letter that asks for help: the letter may be repeated, and other letters do
not matter once help is asked for. -/
def afterHelpLetter : List Char → Stop
  | '=' :: value => unwanted value
  | '-' :: r => unwanted ('-' :: r)
  | 'h' :: r => afterHelpLetter r
  | _ => .help

/-- What tokens say. -/
def readTokens (p : Parsed) : List Token → Except Stop Parsed
  | [] => .ok p
  | .positional s :: r => readTokens (p.positional s) r
  | .separator :: r => readTokens p.separator r
  | .unknown s :: r => readTokens { p.endRun with extras := p.extras ++ [s] } r
  | .helpLetter rest :: _ => .error (afterHelpLetter rest)
  | .option .help none :: _ => .error .help
  | .option .help (some value) :: _ => .error (unwanted value.toList)
  | .option .perPage (some value) :: r =>
    match readPerPage p.endRun value with
    | .ok p => readTokens p r
    | .error stop => .error stop
  | .option .perPage none :: .positional value :: r =>
    match readPerPage p.endRun value with
    | .ok p => readTokens p r
    | .error stop => .error stop
  | .option .perPage none :: _ => .error (.error (.noValue .perPage))

/-- What arguments say. -/
def readArguments (arguments : List String) : Except Stop Parsed :=
  match Token.ofArguments arguments with
  | .error e => .error (.error e)
  | .ok tokens =>
    match readTokens {} tokens with
    | .error stop => .error stop
    | .ok p => if p.extras.isEmpty then .ok p else .error (.error (.unrecognized p.extras))

/-! ## 4. The program -/

/-- The name of the program. -/
def programName : String := "explain_search.py"

/-- How the program is called. -/
def usage : String := "usage: " ++ programName ++ " [-h] [--per-page PER_PAGE] [filters ...]\n"

/-- The help text. -/
def help : String :=
  usage ++ "\nShow the SQL for a listing search\n\n" ++
    "positional arguments:\n" ++
    "  filters              Filters as key=value\n\n" ++
    "options:\n" ++
    "  -h, --help           show this help message and exit\n" ++
    "  --per-page PER_PAGE  Page size (default 25)\n"

/-- How the program ends: with a status, or with a text that says why. -/
inductive Exit where
  | status (n : Nat)
  | reason (s : String)
deriving DecidableEq, Repr

/-- What the program prints, and how it ends. -/
structure Outcome where
  exit : Exit
  stdout : String := ""
  stderr : String := ""
deriving DecidableEq, Repr

/-- What an argument that is wrong leads to. -/
def rejected (e : Error) : Outcome :=
  { exit := .status 2, stderr := usage ++ programName ++ ": error: " ++ e.message ++ "\n" }

/-- The program on arguments that are read; a failure that is no rejected filter breaks it off. -/
def runParsed (room : Room) (today : Date) (p : Parsed) : Except Explain.Error Outcome :=
  match Explain.filtersOfPairs p.filters with
  | .error s => .ok { exit := .reason (Explain.pairMessage s) }
  | .ok filters =>
    match Explain.explain room today filters p.perPage with
    | .ok text => .ok { exit := .status 0, stdout := text ++ "\n" }
    | .error (.filter (.rejected r)) =>
      .ok { exit := .status 1, stdout := "Invalid filters: " ++ r.message ++ "\n" }
    | .error e => .error e

/-- The program. -/
def run (room : Room) (today : Date) (arguments : List String) : Except Explain.Error Outcome :=
  match readArguments arguments with
  | .ok p => runParsed room today p
  | .error .help => .ok { exit := .status 0, stdout := help }
  | .error (.error e) => .ok (rejected e)

end Realty.CommandLine
