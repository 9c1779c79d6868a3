import DataShelf.CommandLine.Grammar

/-!
# Usage lines and help
-/

namespace DataShelf.CommandLine
set_option autoImplicit false

/-- The variables of the environment. -/
abbrev Environment := List (String × String)

/-- The value of a variable. -/
def Environment.get? (env : Environment) (name : String) : Option String := env.lookup name

namespace Command

/-- Whether help and version are all the options there are. -/
def hasOptions (c : Command) : Bool := c.options.any fun o => o != .help && o != .version

/-- The argument of a command in a usage line. -/
def argumentShown (c : Command) : String := (c.argument?.map fun a => " " ++ a.shown).getD ""

/-- How a command may be called. -/
def usage (c : Command) : String :=
  "Usage: " ++ c.path ++ (if c.hasOptions then " [OPTIONS]" else "") ++
    c.argumentShown ++ (if c.subcommands.isEmpty then "" else " [COMMAND]")

/-- How a command may be called with the options that were used, and with what it cannot do
without. -/
def usageWith (c : Command) (used : List Opt) : String :=
  "Usage: " ++ c.path ++ String.join (used.eraseDups.map fun o => " " ++ o.shown) ++
    c.argumentShown

/-- What stands behind the description of an option: its variable and its default. -/
def remarks (env : Environment) (o : Opt) : String :=
  (o.environmentName?.map fun v => " [env: " ++ v ++ "=" ++ (env.get? v).getD "" ++ "]").getD "" ++
    (o.default?.map fun n => " [default: " ++ toString n ++ "]").getD ""

/-- An option in a help text. The description has a line of its own. -/
def optionHelp (env : Environment) (o : Opt) : String :=
  let letter := match o.short? with
    | some s => "  -" ++ s.toString ++ ", "
    | none => "      "
  letter ++ o.shown ++ "\n          " ++ o.about ++ remarks env o ++ "\n"

/-- A text with spaces behind it up to a width. -/
def padded (width : Nat) (s : String) : String := s.pushn ' ' (width - s.length)

/-- The commands in a help text. -/
def commandsHelp (c : Command) : String :=
  let width := (c.subcommands.map fun s => s.name.length).foldl max 0
  String.join (c.subcommands.map fun s => "  " ++ padded width s.name ++ "  " ++ s.about ++ "\n")

/-- The help text of a command. -/
def helpText (env : Environment) (c : Command) : String :=
  let sections := [
    if c.subcommands.isEmpty then "" else "\nCommands:\n" ++ commandsHelp c,
    (c.argument?.map fun a => "\nArguments:\n  " ++ a.shown ++ "  " ++ a.about ++ "\n").getD "",
    if c.options.isEmpty then ""
    else "\nOptions:\n" ++ String.join (c.options.map (optionHelp env))]
  c.about ++ "\n\n" ++ c.usage ++ "\n" ++ String.join sections

end Command
end DataShelf.CommandLine
