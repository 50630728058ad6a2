/-
Module: QueryDesk.CommandLine.Help
Purpose: Help texts: a usage line, which breaks where it is too long, and lists of arguments with
  their help in a column of its own.
Imports: QueryDesk.CommandLine.Option, QueryDesk.Text.Case
Main exports: programHelp, commandHelp
-/
import QueryDesk.CommandLine.Option
import QueryDesk.Text.Case

namespace QueryDesk.CommandLine

open QueryDesk.Text

/-- The width of a line. -/
def lineWidth : Nat := 78

/-- The column in which help begins. -/
def helpColumn : Nat := 24

/-- Blanks. -/
def spaces (count : Nat) : String :=
  String.ofList (List.replicate count ' ')

/-- The long name of an option without its dashes. -/
def OptionSpec.stem (spec : OptionSpec) : List Char :=
  ((spec.names.find? fun name => name.toList.take 2 == ['-', '-']).getD "").toList.drop 2

/-- What the value of an option is called. -/
def OptionSpec.valueName (spec : OptionSpec) : String :=
  upperString (String.ofList (spec.stem.map fun c => if c == '-' then '_' else c))

/-- A name of an option with its value. -/
def OptionSpec.withValue (spec : OptionSpec) (name : String) : String :=
  match spec.effect with
  | .takes _ => name ++ " " ++ spec.valueName
  | _ => name

/-- An option in a usage line. -/
def OptionSpec.usage (spec : OptionSpec) : String :=
  "[" ++ spec.withValue (spec.names.headD "") ++ "]"

/-- An option in a list: all its names. -/
def OptionSpec.heading (spec : OptionSpec) : String :=
  ", ".intercalate (spec.names.map spec.withValue)

/-- Words in lines of bounded width, the first of which begins after some columns, the others
indented. A word that is too long has a line of its own. -/
def wrapFrom (indent : Nat) (column : Nat) (line : List String) :
    List String → List (List String)
  | [] => if line.isEmpty then [] else [line]
  | word :: rest =>
    if lineWidth < column + 1 + word.length && !line.isEmpty then
      line :: wrapFrom indent (indent + word.length) [word] rest
    else wrapFrom indent (column + word.length + 1) (line ++ [word]) rest

/-- Wrapped words, all lines indented. -/
def wrapped (indent : Nat) (words : List String) : List String :=
  (wrapFrom indent (indent - 1) [] words).map fun line => spaces indent ++ " ".intercalate line

/-- The usage of a program: on one line if it fits there, else the options and the positional
arguments apart, under the first option. -/
def usage (program : String) (options positionals : List String) : String :=
  let whole := "usage: " ++ " ".intercalate (program :: options ++ positionals)
  if whole.length ≤ lineWidth then whole
  else
    let indent := "usage: ".length + program.length + 1
    let optionLines := wrapFrom indent ("usage: ".length - 1) [] (program :: options)
    let first := (optionLines.headD []).drop 1
    let lines := ("usage: " ++ " ".intercalate (program :: first)) ::
      (optionLines.drop 1).map fun line => spaces indent ++ " ".intercalate line
    "\n".intercalate (lines ++ wrapped indent positionals)

/-- An entry of a list: its heading, and its help beside it or, where there is no room, below. -/
def entry (indent : Nat) (heading help : String) : String :=
  let start := spaces indent ++ heading
  if help == "" then start ++ "\n"
  else if start.length + 2 ≤ helpColumn then
    start ++ spaces (helpColumn - start.length) ++ help ++ "\n"
  else start ++ "\n" ++ spaces helpColumn ++ help ++ "\n"

/-- The list of options. -/
def optionEntries (options : List OptionSpec) : String :=
  "options:\n" ++ String.join (options.map fun spec => entry 2 spec.heading spec.help)

/-- The choice of a command. -/
def commandChoice (commands : List CommandSpec) : String :=
  "\x7b" ++ ",".intercalate (commands.map CommandSpec.name) ++ "\x7d"

/-- The help of a program with commands. -/
def programHelp (program description : String) (commands : List CommandSpec) : String :=
  let choice := commandChoice commands
  usage program [helpOption.usage] [choice ++ " ..."] ++ "\n\n" ++ description ++ "\n\n" ++
    "positional arguments:\n" ++ entry 2 choice "Available commands" ++
    String.join (commands.map fun command => entry 4 command.name command.help) ++ "\n" ++
    optionEntries [helpOption]

/-- The help of a command. -/
def commandHelp (program : String) (command : CommandSpec) : String :=
  usage (program ++ " " ++ command.name) (command.allOptions.map OptionSpec.usage)
      [command.positional] ++ "\n\n" ++
    "positional arguments:\n" ++ entry 2 command.positional command.positionalHelp ++ "\n" ++
    optionEntries command.allOptions

end QueryDesk.CommandLine
