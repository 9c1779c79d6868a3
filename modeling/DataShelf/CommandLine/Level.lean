import DataShelf.CommandLine.Error
import DataShelf.CommandLine.Similarity
import DataShelf.Number.Natural

/-!
# What is given to a command

The options and the argument that stand behind a command, in the order in which they are taken in.
An option that needs a value waits for it, and is taken in when the next thing comes along. A step
that fails still answers what is given by then, as messages show it.
-/

namespace DataShelf.CommandLine
set_option autoImplicit false

/-- Why reading a command line ends before there is something to do. -/
inductive Stop where
  | version
  | help (command : Command)
  | misuse (error : UsageError) (command : Command) (used : Option (List Opt))
  deriving DecidableEq, Repr

/-- Where the value of an option comes from. -/
inductive Origin where
  | environment
  | commandLine
  deriving DecidableEq, Repr

/-- An option and the text of its value; the text of a flag is empty. -/
structure Setting where
  option : Opt
  value : String
  origin : Origin
  deriving DecidableEq, Repr

/-- What is given to a command so far. -/
structure Level where
  command : Command
  settings : List Setting
  argument : Option String
  pending : Option (Opt × Option String)
  trailing : Bool
  deriving DecidableEq, Repr

/-- Whether an option takes a number. -/
def Opt.isNumeric (o : Opt) : Bool := o.default?.isSome

/-- What is wrong with the text of a value, if anything is: numbers need digits, paths may not be
empty. -/
def Opt.refusal? (o : Opt) (value : String) : Option UsageError :=
  if o.isNumeric then
    match Number.readNatural value with
    | .ok _ => none
    | .error fault => some (.invalidValue value o fault.message)
  else if o.valueName?.isSome && value.isEmpty then some (.valueMissing o)
  else none

namespace Level

/-- Nothing is given yet. -/
def start (c : Command) : Level := ⟨c, [], none, none, false⟩

variable (l : Level)

/-- Whether an option is given. -/
def gives (o : Opt) : Bool := l.settings.any fun s => s.option == o

/-- The options that are given. -/
def options : List Opt := l.settings.map Setting.option

/-- The options that were used, if they or the argument were. -/
def used? : Option (List Opt) :=
  if l.settings.isEmpty && l.argument.isNone then none else some l.options

/-- A misuse that has nothing to do with what was used. -/
def misuse (e : UsageError) : Stop := .misuse e l.command none

/-- A level where an option is given. -/
def put (o : Opt) (value : String) (origin : Origin) : Level :=
  { l with settings := l.settings ++ [⟨o, value, origin⟩] }

/-- A level where an option is not given. -/
def erase (o : Opt) : Level := { l with settings := l.settings.filter fun s => s.option != o }

/-- Takes in an option with all that belongs to it. What is given twice is not given at all. -/
def take (o : Opt) (value : Option String) : Level × Option Stop :=
  if o = .help then (l, some (.help l.command))
  else if o = .version then (l, some .version)
  else if o.valueName?.isSome && value.isNone then (l, some (l.misuse (.valueMissing o)))
  else if l.gives o then (l.erase o, some (l.misuse (.repeated o)))
  else (l.put o (value.getD "") .commandLine, (o.refusal? (value.getD "")).map l.misuse)

/-- Takes in the option that waits, if there is one. -/
def settle : Level × Option Stop :=
  match l.pending with
  | none => (l, none)
  | some (o, value) => { l with pending := none }.take o value

/-- The level without an option that waits, whatever was wrong with it. -/
def settledAnyway : Level := l.settle.1

/-- The outcome of a step that either goes well or ends the reading. -/
def outcome : Level × Option Stop → Except Stop Level
  | (l, none) => .ok l
  | (_, some stop) => .error stop

/-- The level without an option that waits. -/
def settled : Except Stop Level := outcome l.settle

/-- Takes in an option with all that belongs to it, after the one that waits. -/
def give (o : Opt) (value : Option String) : Except Stop Level := do
  let l ← l.settled
  outcome (l.take o value)

/-- Lets an option wait for its value. -/
def await (o : Opt) : Except Stop Level := do
  let l ← l.settled
  return { l with pending := some (o, none) }

/-- The tip to mark a text that looks like an option as a value. -/
def asValueTip (shown : String) : String :=
  "to pass '" ++ shown ++ "' as a value, use '-- " ++ shown ++ "'"

/-- Whether a text could be a value of the command. -/
def takesText : Bool := l.command == .query

/-- The long name of a command's option that is most like a given one. -/
def likeliest? (c : Command) (name : String) : Option String :=
  (similarTo name c.longNames).getLast?

/-- The option of a later command that is most like a given long name: the one of the command that
is named first among the words behind. -/
def laterOption? (c : Command) (name : String) (behind : List String) : Option (Command × String) :=
  let candidates := c.subcommands.filterMap fun s => do
    let likeliest ← likeliest? s name
    let place ← behind.findIdx? fun word => word == s.name
    return (place, s, likeliest)
  (candidates.mergeSort fun a b => a.1 ≤ b.1).head?.map (·.2)

/-- The end of the reading at a long name that is unknown. -/
def unknownLong (name : String) (behind : List String) : Stop :=
  let l := l.settledAnyway
  let shown := "--" ++ name
  match likeliest? l.command name with
  | some known =>
    let l := ((l.command.longOption? known).map fun o => l.put o "" .commandLine).getD l
    .misuse (.unknownArgument shown ["a similar argument exists: '--" ++ known ++ "'"]) l.command
      l.used?
  | none =>
    let tips := match laterOption? l.command name behind with
      | some (c, known) => ["'" ++ c.name ++ " --" ++ known ++ "' exists"]
      | none => if l.takesText then [asValueTip shown] else []
    .misuse (.unknownArgument shown tips) l.command l.used?

/-- Reads a long name, and the value that is attached to it. -/
def long (name : String) (attached : Option String) (behind : List String) : Except Stop Level :=
  match l.command.longOption? name with
  | none => .error (l.unknownLong name behind)
  | some o =>
    match o.valueName?, attached with
    | some _, some value => l.give o (some value)
    | some _, none => l.await o
    | none, some value =>
      .error (.misuse (.valueRefused value o) l.command (some (l.options ++ [o])))
    | none, none => l.give o none

/-- Reads the letters of flags, one after the other. -/
def letters : Level → List Char → Except Stop Level
  | l, [] => .ok l
  | l, c :: rest =>
    match l.command.shortOption? c with
    | some o => do letters (← l.give o none) rest
    | none =>
      let shown := "-" ++ c.toString
      .error (l.misuse (.unknownArgument shown (if l.takesText then [asValueTip shown] else [])))

/-- The end of the reading at a text for which there is no place. -/
def unknownText (text : String) : Stop :=
  let known := l.command.subcommands.map Command.name
  if l.trailing && known.contains text then
    l.misuse (.unknownArgument text
      ["subcommand '" ++ text ++ "' exists; to use it, remove the '--' before it"])
  else if l.command.subcommands.isEmpty then l.misuse (.unknownArgument text [])
  else l.misuse (.unknownCommand text (similarTip? "subcommand" (similarTo text known)).toList)

/-- Reads the argument of the command. -/
def text (text : String) : Except Stop Level :=
  if l.takesText && l.argument.isNone then do
    let l ← l.settled
    return { l with argument := some text }
  else .error (l.unknownText text)

/-- Reads a text that is no option: the value of an option that waits for it, or an argument. -/
def word (s : String) : Except Stop Level :=
  match l.pending with
  | some (o, none) => .ok { l with pending := some (o, some s) }
  | _ => l.text s

/-- Whether an option waits for its value. -/
def isWaiting : Bool := l.pending.any fun p => p.2.isNone

/-- Takes in the value of an option from the environment, unless the option is given. -/
def fromEnvironment (env : Environment) (o : Opt) : Except Stop Level :=
  match o.environmentName?.bind env.get? with
  | some value =>
    if l.gives o then .ok l
    else outcome (l.put o value .environment, (o.refusal? value).map l.misuse)
  | none => .ok l

/-- The end of a level: what waits is taken in, then what the environment has; then what the command
needs must be given. -/
def finish (env : Environment) : Except Stop Level := do
  let l ← l.settled
  let l ← l.command.options.foldlM (fun l o => l.fromEnvironment env o) l
  if l.takesText && l.argument.isNone then
    .error (.misuse (.argumentMissing "<SQL>") l.command (some l.options))
  else .ok l

end Level
end DataShelf.CommandLine
