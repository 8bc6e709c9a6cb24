import DeferredDigest.Text.Decimal
/-!
# Command-line options

The server's options, each a long option that takes one value, given as `--name value` or
`--name=value`: the address to listen on, the digest delay in milliseconds, the longest accepted
password in bytes, and the shutdown timeout in seconds.  `-h`/`--help` and `-V`/`--version` ask
for the help or version text instead.

Arguments are read from left to right.  An option written without `=` waits for its value, which
is the next argument unless that one starts with `-` (a lone `-` is a value).  The waiting option
is settled when the next option that is recognised arrives, when help or version is asked for, and
after the last argument: with no value it is an error, and so is an option given twice or a number
that does not read.  An argument that is not recognised is reported at once, before the waiting
option is settled.  After `--` every argument is a positional one, and the server takes none.
-/

namespace DeferredDigest

/-- An option that takes a value. -/
inductive OptionName where
  | serverAddr
  | hashDelayMs
  | maxPasswordLen
  | shutdownTimeout
deriving DecidableEq, Repr

namespace OptionName

/-- The options, in the order the help text lists them. -/
def all : List OptionName := [.serverAddr, .hashDelayMs, .maxPasswordLen, .shutdownTimeout]

/-- The long name, without its dashes. -/
def long : OptionName → String
  | .serverAddr => "server-addr"
  | .hashDelayMs => "hash-delay-ms"
  | .maxPasswordLen => "max-password-len"
  | .shutdownTimeout => "shutdown-timeout"

/-- The placeholder for the value in messages. -/
def valueName : OptionName → String
  | .serverAddr => "SERVER_ADDR"
  | .hashDelayMs => "HASH_DELAY_MS"
  | .maxPasswordLen => "MAX_PASSWORD_LEN"
  | .shutdownTimeout => "SHUTDOWN_TIMEOUT"

/-- Whether the value is an unsigned number rather than text. -/
def isNumeric : OptionName → Bool
  | .serverAddr => false
  | _ => true

/-- How the option is written in messages. -/
def display (o : OptionName) : String := "--" ++ o.long ++ " <" ++ o.valueName ++ ">"

end OptionName

/-- A long name the command line recognises. -/
inductive Flag where
  | option (o : OptionName)
  | help
  | version
deriving DecidableEq, Repr

namespace Flag

/-- The flag with a long name. -/
def ofLong? (name : String) : Option Flag :=
  if name = "help" then some .help
  else if name = "version" then some .version
  else (OptionName.all.find? (·.long = name)).map .option

end Flag

/-- The values the server runs with. -/
structure Options where
  serverAddr : String := "0.0.0.0:8080"
  hashDelayMs : Nat := 5000
  maxPasswordLen : Nat := 128
  shutdownTimeout : Nat := 10
deriving DecidableEq, Repr

/-- Why the command line was not accepted, or what it asked for instead of running. -/
inductive CommandError where
  /-- An argument that names no option, or a positional argument. -/
  | unknownArgument (arg : String)
  /-- An option whose value is missing. -/
  | invalidValue (o : OptionName)
  /-- A number that does not read as an unsigned 64-bit value. -/
  | valueValidation (o : OptionName) (value : String)
  /-- An option given twice. -/
  | argumentConflict (o : OptionName)
  /-- A value attached to a flag that takes none. -/
  | tooManyValues (flag : String) (value : String)
  /-- Help was asked for. -/
  | displayHelp
  /-- The version was asked for. -/
  | displayVersion
deriving DecidableEq, Repr

namespace CommandError

/-- The text that reports the error, or that answers a request for help or the version. -/
def message : CommandError → String
  | .unknownArgument arg => "error: unexpected argument '" ++ arg ++ "' found"
  | .invalidValue o => "error: a value is required for '" ++ o.display ++ "' but none was supplied"
  | .valueValidation o v => "error: invalid value '" ++ v ++ "' for '" ++ o.display ++ "'"
  | .argumentConflict o => "error: the argument '" ++ o.display ++ "' cannot be used multiple times"
  | .tooManyValues flag v =>
    "error: unexpected value '" ++ v ++ "' for '" ++ flag ++ "' found; no more were expected"
  | .displayHelp =>
    "An HTTP service that digests passwords in the background\n\n" ++
    "Usage: deferred-digest [OPTIONS]\n\nOptions:\n" ++
    "\n".intercalate (OptionName.all.map fun o => "      " ++ o.display) ++
    "\n  -h, --help     Print help\n  -V, --version  Print version"
  | .displayVersion => "deferred-digest 0.1.0"

/-- Whether the error only answers a request for help or the version. -/
def isInformational : CommandError → Bool
  | .displayHelp | .displayVersion => true
  | _ => false

end CommandError

namespace Options

/-- Sets an option from the text of its value. -/
def assign (o : Options) (name : OptionName) (value : String) : Except CommandError Options :=
  if name.isNumeric then
    match Decimal.parseU64? value with
    | none => .error (.valueValidation name value)
    | some n =>
      match name with
      | .hashDelayMs => .ok { o with hashDelayMs := n }
      | .maxPasswordLen => .ok { o with maxPasswordLen := n }
      | _ => .ok { o with shutdownTimeout := n }
  else .ok { o with serverAddr := value }

/-- An option waiting to be settled, with its value if one has arrived. -/
structure Pending where
  name : OptionName
  value : Option String
deriving DecidableEq, Repr

/-- What has been read of the command line so far. -/
structure Reading where
  options : Options := {}
  /-- The options already settled. -/
  given : List OptionName := []
  pending : Option Pending := none
  /-- Whether `--` has been read. -/
  positionalOnly : Bool := false
deriving DecidableEq, Repr

namespace Reading

/-- Settles an option with a value: it may not have been given before, and the value must read. -/
def settleWith (r : Reading) (name : OptionName) (value : String) : Except CommandError Reading := do
  if r.given.contains name then throw (.argumentConflict name)
  let o ← r.options.assign name value
  return { r with options := o, given := name :: r.given }

/-- Settles the waiting option, if any. -/
def settle (r : Reading) : Except CommandError Reading :=
  match r.pending with
  | none => .ok r
  | some ⟨name, none⟩ => .error (.invalidValue name)
  | some ⟨name, some v⟩ => { r with pending := none }.settleWith name v

/-- Whether the waiting option still lacks its value. -/
def awaitsValue (r : Reading) : Bool :=
  match r.pending with
  | some ⟨_, none⟩ => true
  | _ => false

end Reading

/-- Reads a long argument, `--name` or `--name=value`. -/
def readLong (r : Reading) (arg : String) : Except CommandError Reading := do
  let body := (arg.drop 2).toString
  let name := (body.takeWhile (· != '=')).toString
  let value := if body.contains '=' then some (body.drop (name.length + 1)).toString else none
  match Flag.ofLong? name, value with
  | none, _ => throw (.unknownArgument ("--" ++ name))
  | some (.option o), some v => (← r.settle).settleWith o v
  | some (.option o), none => return { (← r.settle) with pending := some ⟨o, none⟩ }
  | some .help, some v => throw (.tooManyValues "--help" v)
  | some .version, some v => throw (.tooManyValues "--version" v)
  | some .help, none => do let _ ← r.settle; throw .displayHelp
  | some .version, none => do let _ ← r.settle; throw .displayVersion

/-- Reads a short argument such as `-h`: only its first letter counts, since both short flags end
the reading. -/
def readShort (r : Reading) (arg : String) : Except CommandError Reading :=
  match (arg.drop 1).toString.toList with
  | 'h' :: _ => do let _ ← r.settle; throw .displayHelp
  | 'V' :: _ => do let _ ← r.settle; throw .displayVersion
  | c :: _ => throw (.unknownArgument (String.ofList ['-', c]))
  | [] => throw (.unknownArgument arg)

/-- Reads the arguments from left to right. -/
def readAll (r : Reading) : List String → Except CommandError Reading
  | [] => r.settle
  | arg :: rest => do
    if r.positionalOnly then throw (.unknownArgument arg)
    if arg = "--" then return ← readAll { r with positionalOnly := true } rest
    if arg.startsWith "--" then return ← readAll (← readLong r arg) rest
    if arg.startsWith "-" && arg != "-" then return ← readAll (← readShort r arg) rest
    if r.awaitsValue then
      return ← readAll { r with pending := r.pending.map fun p => { p with value := some arg } } rest
    throw (.unknownArgument arg)

/-- The options a command line sets, the others at their defaults. -/
def parse (args : List String) : Except CommandError Options :=
  (readAll {} args).map (·.options)

end Options

end DeferredDigest
