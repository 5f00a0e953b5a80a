import WifiStation.Cli.Arguments

/-!
# WifiStation.Cli.Help

The help on the program and on each command: what it is, how it is used, and a list of commands
and options in two columns. Options whose help would not fit beside them have it on the next line.
-/

namespace WifiStation.Cli

/-- A text with blanks up to a width. -/
def padded (width : Nat) (s : String) : String := s.pushn ' ' (width - s.length)

/-- How an option is written: its name, what its value is called, and whether it is counted. -/
def OptionRule.written (rule : OptionRule) : String :=
  "--" ++ rule.name ++ (match rule.value with
    | some value => s!" <{value}>"
    | none => if rule.repeats then "..." else "")

/-- The letter of an option before its name, or blanks. -/
def OptionRule.lead (rule : OptionRule) : String :=
  match rule.letter with
  | some c => "-" ++ String.singleton c ++ ", "
  | none => "    "

/-- The options that every command has, and the one for the version. -/
def commonOptions (versioned : Bool) : List OptionRule :=
  { name := "help", letter := some 'h', help := "Print help" } ::
    (if versioned then [{ name := "version", letter := some 'V', help := "Print version" }] else [])

/-- The width of a line. -/
def lineWidth : Nat := 100

/-- The list of options. -/
def optionLines (rules : List OptionRule) : String :=
  let width := (rules.map (·.written.length)).foldl max 2
  let taken := width + 12
  let wraps := rules.any fun r =>
    taken ≤ lineWidth && 40 * lineWidth < 100 * taken && lineWidth - taken < r.help.length
  let line (r : OptionRule) : String :=
    if wraps then s!"  {r.lead}{r.written}\n          {r.help}\n"
    else s!"  {r.lead}{padded width r.written}  {r.help}\n"
  "Options:\n" ++ String.join (rules.map line)

/-- How the options are hinted at in the usage. -/
def usageOptions (rules : List OptionRule) : String :=
  (if rules.any (!·.required) then " [OPTIONS]" else "") ++
    String.join ((rules.filter (·.required)).map fun r => " " ++ r.written)

/-- The help on a command. -/
def CommandRule.helpText (rule : CommandRule) : String :=
  s!"{rule.help}\n\nUsage: {programName} {rule.name}{usageOptions rule.options}\n\n" ++
    optionLines (rule.options ++ commonOptions false)

/-- What is said of asking for help. -/
def helpHelp : String := "Print this message or the help of the given subcommand(s)"

/-- The list of commands. -/
def commandLines : String :=
  let all := commands.map (fun c => (c.name, c.help)) ++ [("help", helpHelp)]
  let width := (all.map (·.1.length)).foldl max 0
  "Commands:\n" ++ String.join (all.map fun (name, help) => s!"  {padded width name}  {help}\n")

/-- The help on the program. -/
def helpText : String :=
  s!"{programHelp}\n\nUsage: {programName}{usageOptions mainOptions} <COMMAND>\n\n" ++
    commandLines ++ "\n" ++ optionLines (mainOptions ++ commonOptions true)

/-- The help on asking for help. -/
def helpOnHelpText : String :=
  s!"{helpHelp}\n\nUsage: {programName} help [COMMAND]...\n\nArguments:\n" ++
    "  [COMMAND]...  Print help for the subcommand(s)\n"

end WifiStation.Cli
