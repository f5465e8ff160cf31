import Scoping.Script.Replay

namespace Scoping.CommandLine

structure Arguments where
  file : String
  dumpSymbols : Bool := false
  noColor : Bool := false
  limits : Limits := {}
  deriving DecidableEq, Repr

def Arguments.options (arguments : Arguments) : Script.Options :=
  { limits := arguments.limits, dumpAtEnd := arguments.dumpSymbols }

inductive ArgumentFault
  | missingFile
  | unknown
  | badNumber
  | missingValue
  | repeated
  | unexpectedValue
  | helpRequested
  deriving DecidableEq, Repr

inductive Flag
  | dumpSymbols
  | noColor
  deriving DecidableEq, Repr

inductive Setting
  | maxName
  | maxTag
  deriving DecidableEq, Repr

inductive LongName
  | flag (flag : Flag)
  | setting (setting : Setting)
  | help
  deriving DecidableEq, Repr

def LongName.ofWord? : String → Option LongName
  | "dump-symbols" => some (flag .dumpSymbols)
  | "no-color" => some (flag .noColor)
  | "max-name-length" => some (setting .maxName)
  | "max-tag-length" => some (setting .maxTag)
  | "help" => some help
  | _ => none

/-- An argument by its form. A single hyphen is a word. -/
inductive Shape
  | long (name : String) (value : Option String)
  | short (letter : Char)
  | word
  deriving DecidableEq, Repr

def Shape.ofArgument (argument : String) : Shape :=
  match argument.toList with
  | '-' :: '-' :: rest =>
    let value := match rest.dropWhile (· ≠ '=') with
      | [] => none
      | _ :: value => some (String.ofList value)
    long (String.ofList (rest.takeWhile (· ≠ '='))) value
  | '-' :: letter :: _ => short letter
  | _ => word

/-- The number written with ASCII digits, which must fit in 64 bits. One plus sign in front and
leading zeros are allowed. -/
def number? (text : String) : Option Nat :=
  let digits := match text.toList with
    | '+' :: digits => digits
    | digits => digits
  if digits.isEmpty || !digits.all Char.isDigit then none
  else
    let value := digits.foldl (fun value digit => 10 * value + (digit.toNat - '0'.toNat)) 0
    if value < UInt64.size then some value else none

inductive Pending
  | file (name : String)
  | setting (setting : Setting) (value : Option String)
  deriving DecidableEq, Repr

structure Reading where
  file : Option String := none
  flags : List Flag := []
  settings : List (Setting × Nat) := []
  pending : Option Pending := none

namespace Reading

def set (reading : Reading) (setting : Setting) (value : String) :
    Except ArgumentFault Reading :=
  if (reading.settings.lookup setting).isSome then .error .repeated
  else match number? value with
  | none => .error .badNumber
  | some value => .ok { reading with settings := (setting, value) :: reading.settings }

/-- Checks the pending argument. -/
def settle (reading : Reading) : Except ArgumentFault Reading :=
  let settled := { reading with pending := none }
  match reading.pending with
  | none => .ok settled
  | some (.file name) =>
    if name.isEmpty then .error .missingValue else .ok { settled with file := some name }
  | some (.setting _ none) => .error .missingValue
  | some (.setting setting (some value)) => settled.set setting value

def raise (reading : Reading) (flag : Flag) : Except ArgumentFault Reading :=
  if flag ∈ reading.flags then .error .repeated
  else .ok { reading with flags := flag :: reading.flags }

def hasFile (reading : Reading) : Bool :=
  match reading.pending with
  | some (.file _) => true
  | _ => reading.file.isSome

def readFile (reading : Reading) (name : String) : Except ArgumentFault Reading :=
  if reading.hasFile then .error .unknown
  else do
    let reading ← reading.settle
    return { reading with pending := some (.file name) }

def readWord (reading : Reading) (word : String) : Except ArgumentFault Reading :=
  match reading.pending with
  | some (.setting setting none) =>
    .ok { reading with pending := some (.setting setting (some word)) }
  | _ => reading.readFile word

def readLong (reading : Reading) (name : LongName) (value : Option String) :
    Except ArgumentFault Reading :=
  match name, value with
  | .setting setting, none => do
    let reading ← reading.settle
    return { reading with pending := some (.setting setting none) }
  | .setting setting, some value => do
    let reading ← reading.settle
    reading.set setting value
  | .flag _, some _ | .help, some _ => .error .unexpectedValue
  | .flag flag, none => do
    let reading ← reading.settle
    reading.raise flag
  | .help, none => do
    let _ ← reading.settle
    throw .helpRequested

def read (reading : Reading) (argument : String) : Except ArgumentFault Reading :=
  match Shape.ofArgument argument with
  | .word => reading.readWord argument
  | .short 'h' => do
    let _ ← reading.settle
    throw .helpRequested
  | .short _ => .error .unknown
  | .long name value =>
    match LongName.ofWord? name with
    | none => .error .unknown
    | some name => reading.readLong name value

/-- Reads all arguments. After `--` every argument is a file. -/
def readAll (reading : Reading) : List String → Except ArgumentFault Reading
  | [] => reading.settle
  | "--" :: files => do (← files.foldlM readFile reading).settle
  | argument :: later => do (← reading.read argument).readAll later

def arguments (reading : Reading) : Except ArgumentFault Arguments :=
  match reading.file with
  | none => .error .missingFile
  | some file =>
    let limits : Limits := {}
    .ok {
      file
      dumpSymbols := reading.flags.contains .dumpSymbols
      noColor := reading.flags.contains .noColor
      limits := {
        maxName := (reading.settings.lookup .maxName).getD limits.maxName
        maxTag := (reading.settings.lookup .maxTag).getD limits.maxTag } }

end Reading

def Arguments.parse (words : List String) : Except ArgumentFault Arguments := do
  (← Reading.readAll {} words).arguments

end Scoping.CommandLine
