import Switchboard.Text.Scan
import Switchboard.Wire.Reply

/-!
# The command line

The arguments of the program. Some options may stand before the command or after it, and then the
later one counts; others belong to one command only. An option takes a value, which is attached to
it (`-t5`, `-t=5`, `--idle-timeout=5`) or is the next argument. An argument that begins with a
hyphen is never the value of the option before it, and after two hyphens alone no option follows.

Reading goes through the arguments once. What is found first is refused first, with one exception:
an option whose value is a separate argument is only taken in when the next option is read or, at
the end, after everything that belongs to the command.
-/

namespace Switchboard.CommandLine

/-- An option that takes a value. -/
inductive Setting
  | config
  | idleTimeout
  | unknownPolicy
  | logLevel
  | listen
  | connections
  | messages
  | rounds
  deriving Repr, DecidableEq

/-- An option by which the program explains itself and ends. -/
inductive Inquiry
  | help
  | version
  deriving Repr, DecidableEq

/-- An option. -/
inductive Flag
  | setting (s : Setting)
  | inquiry (i : Inquiry)
  deriving Repr, DecidableEq

/-- A command of the program. -/
inductive Verb
  | serve
  | simulate
  deriving Repr, DecidableEq

/-- Why the arguments are refused, or what they ask to be shown instead of running. -/
inductive Refusal
  | unknownArgument
  | invalidValue
  | valueValidation
  | tooManyValues
  | argumentConflict
  | invalidSubcommand
  | missingSubcommand
  | nothingGiven
  | helpWanted
  | versionWanted
  deriving Repr, DecidableEq

/-- The name of a refusal. -/
def Refusal.name : Refusal → String
  | unknownArgument => "UnknownArgument"
  | invalidValue => "InvalidValue"
  | valueValidation => "ValueValidation"
  | tooManyValues => "TooManyValues"
  | argumentConflict => "ArgumentConflict"
  | invalidSubcommand => "InvalidSubcommand"
  | missingSubcommand => "MissingSubcommand"
  | nothingGiven => "DisplayHelpOnMissingArgumentOrSubcommand"
  | helpWanted => "DisplayHelp"
  | versionWanted => "DisplayVersion"

/-- The exit code of the program after a refusal. -/
def Refusal.exitCode : Refusal → Nat
  | helpWanted | versionWanted => 0
  | _ => 2

/-- The command that a word names. -/
def verbOf? (word : String) : Option Verb :=
  if word = "serve" then some .serve
  else if word = "simulate" then some .simulate
  else none

/-- The word that explains commands. -/
def helpWord : String := "help"

/-- The long names of the options that may stand anywhere. -/
def sharedLongFlags : List (String × Flag) :=
  [("config", .setting .config), ("idle-timeout", .setting .idleTimeout),
   ("unknown-policy", .setting .unknownPolicy), ("log-level", .setting .logLevel),
   ("help", .inquiry .help)]

/-- Options by their long names. The command comes with its own ones; the version is only told
before a command. -/
def longFlags : Option Verb → List (String × Flag)
  | none => sharedLongFlags ++ [("version", .inquiry .version)]
  | some .serve => sharedLongFlags ++ [("listen", .setting .listen)]
  | some .simulate =>
    sharedLongFlags ++ [("connections", .setting .connections), ("messages", .setting .messages),
      ("rounds", .setting .rounds)]

/-- The short names of the options that may stand anywhere and have one. -/
def sharedShortFlags : List (Char × Flag) :=
  [('c', .setting .config), ('t', .setting .idleTimeout), ('h', .inquiry .help)]

/-- Options by their short names. -/
def shortFlags : Option Verb → List (Char × Flag)
  | none => sharedShortFlags ++ [('V', .inquiry .version)]
  | some .serve => sharedShortFlags ++ [('l', .setting .listen)]
  | some .simulate =>
    sharedShortFlags ++ [('n', .setting .connections), ('m', .setting .messages),
      ('r', .setting .rounds)]

/-- The values that have been given; a setting is here at most once. -/
abbrev Given := List (Setting × String)

/-- The value given for a setting. -/
def Given.get? (given : Given) (s : Setting) : Option String :=
  (given.find? fun entry => entry.1 = s).map Prod.snd

/-- Whether a value will do for a setting. -/
def check (s : Setting) (value : String) : Except Refusal Unit :=
  match s with
  | .config => if value = "" then .error .invalidValue else .ok ()
  | .idleTimeout | .connections | .messages | .rounds =>
    if (Scan.natural? Scan.greatest64 value).isSome then .ok () else .error .valueValidation
  | .unknownPolicy =>
    match Policy.parse value with
    | .ok _ => .ok ()
    | .error _ => .error .valueValidation
  | .logLevel | .listen => .ok ()

/-- Take in a value: a setting is given once, and its value has to do. -/
def Given.take (given : Given) (s : Setting) (value : String) : Except Refusal Given := do
  if (given.get? s).isSome then throw .argumentConflict
  check s value
  return given ++ [(s, value)]

/-- An option that has been read and not yet taken in, and its value if that has been read. -/
abbrev Pending := Option (Setting × Option String)

/-- Take in what is pending; an option without a value is refused. -/
def settle (given : Given) : Pending → Except Refusal Given
  | none => .ok given
  | some (_, none) => .error .invalidValue
  | some (s, some value) => given.take s value

/-- What is known while reading: the values taken in, the option pending, and whether no more
options may follow. -/
structure Progress where
  given : Given
  pending : Pending
  closed : Bool
  deriving Repr, DecidableEq

/-- Nothing has been read. -/
def Progress.initial : Progress := ⟨[], none, false⟩

/-- Whether the option read last still waits for its value. -/
def Progress.wantsValue (p : Progress) : Bool :=
  match p.pending with
  | some (_, none) => true
  | _ => false

/-- Take in an option, with a value attached to it or not. -/
def Progress.setting (p : Progress) (s : Setting) (attached : Option String) :
    Except Refusal Progress := do
  let given ← settle p.given p.pending
  match attached with
  | some value => return { p with given := (← given.take s value), pending := none }
  | none => return { p with given := given, pending := some (s, none) }

/-- An inquiry ends the reading, once what is pending has been taken in. -/
def Progress.inquiry (p : Progress) (i : Inquiry) : Except Refusal Progress := do
  let _ ← settle p.given p.pending
  match i with
  | .help => throw .helpWanted
  | .version => throw .versionWanted

/-- Read an option with a long name, without its hyphens. -/
def Progress.long (p : Progress) (verb? : Option Verb) (cs : List Char) : Except Refusal Progress :=
  let (name, rest) := Scan.span (· ≠ '=') cs
  let attached := rest.tail?.map String.ofList
  match (longFlags verb?).find? fun entry => entry.1.toList = name with
  | none => .error .unknownArgument
  | some (_, .setting s) => p.setting s attached
  | some (_, .inquiry i) =>
    match attached with
    | some _ => .error .tooManyValues
    | none => p.inquiry i

/-- Read an option with a short name, without its hyphen. An equals sign before the attached value
does not belong to the value. -/
def Progress.short (p : Progress) (verb? : Option Verb) : List Char → Except Refusal Progress
  | [] => .ok p
  | c :: rest =>
    match (shortFlags verb?).find? fun entry => entry.1 = c with
    | none => .error .unknownArgument
    | some (_, .inquiry i) => p.inquiry i
    | some (_, .setting s) =>
      match rest with
      | [] => p.setting s none
      | '=' :: value => p.setting s (some (String.ofList value))
      | value => p.setting s (some (String.ofList value))

/-- What an argument means. -/
inductive Reading
  /-- It has been taken in. -/
  | taken (p : Progress)
  /-- It stands for itself: it is no option and no value of one. -/
  | word

/-- Read an argument that is not the name of a command. -/
def Progress.read (p : Progress) (verb? : Option Verb) (argument : String) :
    Except Refusal Reading :=
  if p.closed then .ok .word
  else
    match argument.toList with
    | ['-', '-'] => .ok (.taken { p with closed := true })
    | '-' :: '-' :: cs => (p.long verb? cs).map .taken
    | '-' :: c :: cs => (p.short verb? (c :: cs)).map .taken
    | _ =>
      match p.pending with
      | some (s, none) => .ok (.taken { p with pending := some (s, some argument) })
      | _ => .ok .word

/-- Read the arguments after a command. No argument stands for itself there. -/
def readAfter (verb : Verb) (p : Progress) : List String → Except Refusal Given
  | [] => settle p.given p.pending
  | argument :: rest => do
    match ← p.read (some verb) argument with
    | .taken p => readAfter verb p rest
    | .word => throw .unknownArgument

/-- Explain the command that is named, or the program if none is named. -/
def explain : List String → Refusal
  | [] => .helpWanted
  | [word] =>
    if (verbOf? word).isSome || word = helpWord then .helpWanted else .invalidSubcommand
  | _ => .invalidSubcommand

/-- A word that stands for itself before the command and is not its name. After two hyphens not
even the name of a command is one. -/
def refuseWord (p : Progress) (word : String) : Refusal :=
  if p.closed && ((verbOf? word).isSome || word = helpWord) then .unknownArgument
  else .invalidSubcommand

/-- The arguments, read but not yet looked at: the values given before the command, the command, and
the values given after it. -/
structure Selection where
  before : Given
  verb : Verb
  after : Given
  deriving Repr, DecidableEq

/-- Read the arguments of the program from the command on. What is pending before the command is
taken in at the end. -/
def readBefore (p : Progress) : List String → Except Refusal Selection
  | [] => do
    let given ← settle p.given p.pending
    if given.isEmpty then throw .nothingGiven else throw .missingSubcommand
  | argument :: rest => do
    if !p.closed && !p.wantsValue then
      if argument = helpWord then throw (explain rest)
      match verbOf? argument with
      | some verb =>
        let after ← readAfter verb Progress.initial rest
        let before ← settle p.given p.pending
        return ⟨before, verb, after⟩
      | none => pure ()
    match ← p.read none argument with
    | .taken p => readBefore p rest
    | .word => throw (refuseWord p argument)

/-- A command and its own options. -/
inductive Command
  | serve (listen : Option String)
  | simulate (connections messages rounds : Option Nat)
  deriving Repr, DecidableEq

/-- What the command line asks for. -/
structure Arguments where
  config : Option String
  idleTimeout : Option Nat
  unknownPolicy : Option Policy
  logLevel : Option String
  command : Command
  deriving Repr, DecidableEq

/-- The number given for a setting. -/
def Given.number? (given : Given) (s : Setting) : Option Nat :=
  (given.get? s).bind (Scan.natural? Scan.greatest64)

/-- The arguments that have been read; what is given after the command goes first. -/
def Selection.arguments (r : Selection) : Arguments where
  config := (r.after ++ r.before).get? .config
  idleTimeout := (r.after ++ r.before).number? .idleTimeout
  unknownPolicy := ((r.after ++ r.before).get? .unknownPolicy).bind fun value =>
    (Policy.parse value).toOption
  logLevel := (r.after ++ r.before).get? .logLevel
  command := match r.verb with
    | .serve => .serve (r.after.get? .listen)
    | .simulate =>
      .simulate (r.after.number? .connections) (r.after.number? .messages)
        (r.after.number? .rounds)

/-- Read the arguments of the program, of which the first is its name. -/
def parse (arguments : List String) : Except Refusal Arguments :=
  (readBefore Progress.initial (arguments.drop 1)).map Selection.arguments

end Switchboard.CommandLine
