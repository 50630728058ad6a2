/-
Module: QueryDesk.CommandLine.Option
Purpose: Arguments of commands. Options may stand anywhere, may be cut to an unambiguous beginning,
  and take their value attached or as the next argument; two dashes end the options.
Imports: QueryDesk.Number.Numeral
Main exports: Effect, OptionSpec, CommandSpec, Given, Stop, Argument, classifyAll, CommandReading,
  readCommand, Selection, readArguments
-/
import QueryDesk.Number.Numeral

namespace QueryDesk.CommandLine

open QueryDesk.Text QueryDesk.Number

/-- The form of the value of an option. -/
inductive ValueForm where
  | text
  | whole
  | number
deriving Repr, Inhabited, DecidableEq

/-- What an option does: it asks for help, it is a switch, or it takes a value. -/
inductive Effect where
  | help
  | switch
  | takes (form : ValueForm)
deriving Repr, Inhabited, DecidableEq

/-- An option: its names, what it does, and a line of help, which may be missing. -/
structure OptionSpec where
  names : List String
  effect : Effect
  help : String := ""
deriving Repr, Inhabited, DecidableEq

/-- The option that asks for help. -/
def helpOption : OptionSpec :=
  ⟨["-h", "--help"], .help, "show this help message and exit"⟩

/-- A command: its name, a line of help, its one positional argument with a line of help, and its
options. -/
structure CommandSpec where
  name : String
  help : String
  positional : String
  positionalHelp : String
  options : List OptionSpec
deriving Repr, Inhabited, DecidableEq

/-- The options of a command, the one for help first. -/
def CommandSpec.allOptions (command : CommandSpec) : List OptionSpec :=
  helpOption :: command.options

/-- What was given for an option. -/
inductive Given where
  | switched
  | text (value : String)
  | whole (value : Int)
  | number (value : Binary64)
deriving Repr, Inhabited, DecidableEq

/-- Why arguments are not read to the end. -/
inductive Stop where
  | help
  | misuse
deriving Repr, Inhabited, DecidableEq

/-- A text attached to the name of an option, behind an equals sign or directly. -/
structure Attached where
  text : List Char
  byEquals : Bool
deriving Repr, Inhabited, DecidableEq

/-- What an argument is, seen by itself. -/
inductive Argument where
  | plain (text : String)
  | option (spec : OptionSpec) (name : String) (attached : Option Attached)
  | unknown
  | divider
deriving Repr, Inhabited, DecidableEq

/-- The options by name. -/
def byName (options : List OptionSpec) : List (String × OptionSpec) :=
  options.flatMap fun spec => spec.names.map fun name => (name, spec)

/-- Whether a text is a negative numeral: a minus before digits, which may have a point before the
last ones. A line feed at the end does not count. -/
def isNegativeNumeral (text : List Char) : Bool :=
  match text with
  | '-' :: rest =>
    let numeral := if rest.getLast? == some '\n' then rest.dropLast else rest
    let whole := numeral.takeWhile isDigit
    match numeral.drop whole.length with
    | [] => !whole.isEmpty
    | '.' :: fraction => !fraction.isEmpty && fraction.all isDigit
    | _ => false
  | _ => false

/-- The text before the first equals sign, and the text after it. -/
def splitEquals? (text : List Char) : Option (List Char × List Char) :=
  let before := text.takeWhile (· != '=')
  match text.drop before.length with
  | _ :: after => some (before, after)
  | [] => none

/-- The options that an argument may stand for, if it is no full name: those whose name it begins,
with a value behind an equals sign, and the one whose short name it begins with. -/
def candidates (options : List OptionSpec) (text : List Char) : List Argument :=
  let named := byName options
  match text with
  | '-' :: '-' :: _ =>
    let (start, attached) : List Char × Option Attached := match splitEquals? text with
      | some (before, after) => (before, some ⟨after, true⟩)
      | none => (text, none)
    named.filterMap fun (name, spec) =>
      if start.isPrefixOf name.toList then some (.option spec name attached) else none
  | _ =>
    named.filterMap fun (name, spec) =>
      if name.toList == text.take 2 then
        some (.option spec name (some ⟨text.drop 2, false⟩))
      else if text.isPrefixOf name.toList then some (.option spec name none)
      else none

/-- An argument that begins with a dash and is no full name of an option. What is ambiguous is
misuse, while a negative number and a text with a space are plain. -/
def classifyDashed (options : List OptionSpec) (argument : String) : Except Stop Argument :=
  let text := argument.toList
  match candidates options text with
  | [found] => .ok found
  | _ :: _ :: _ => .error .misuse
  | [] =>
    if isNegativeNumeral text || text.contains ' ' then .ok (.plain argument) else .ok .unknown

/-- What an argument is. -/
def classify (options : List OptionSpec) (argument : String) : Except Stop Argument :=
  let text := argument.toList
  if text.head? != some '-' || text == ['-'] then .ok (.plain argument)
  else
    let named := byName options
    match named.lookup argument with
    | some spec => .ok (.option spec argument none)
    | none =>
      match splitEquals? text with
      | some (before, after) =>
        match named.lookup (String.ofList before) with
        | some spec => .ok (.option spec (String.ofList before) (some ⟨after, true⟩))
        | none => classifyDashed options argument
      | none => classifyDashed options argument

/-- What the arguments are. Behind two dashes all are plain. -/
def classifyAll (options : List OptionSpec) : List String → Except Stop (List Argument)
  | [] => .ok []
  | argument :: rest =>
    if argument == "--" then .ok (.divider :: rest.map .plain)
    else do
      let first ← classify options argument
      return first :: (← classifyAll options rest)

/-- The value of an option. -/
def ValueForm.read (form : ValueForm) (text : String) : Except Stop Given :=
  match form with
  | .text => .ok (.text text)
  | .whole =>
    match readInt? text.toList with
    | some value => .ok (.whole value)
    | none => .error .misuse
  | .number =>
    match readBinary64? text.toList with
    | some value => .ok (.number value)
    | none => .error .misuse

/-- An option that takes a value, with the value if it is attached. -/
structure Valued where
  spec : OptionSpec
  form : ValueForm
  attached : Option (List Char)
deriving Repr, Inhabited

/-- The options that one argument stands for: switches with short names may be written as one, and
the last of them may take a value or be no option at all. -/
structure Cluster where
  switches : List OptionSpec := []
  valued : Option Valued := none
  unknown : Bool := false
deriving Repr, Inhabited

/-- The cluster of an option with nothing attached. -/
def clusterOfBare (spec : OptionSpec) : Cluster :=
  match spec.effect with
  | .takes form => { valued := some ⟨spec, form, none⟩ }
  | _ => { switches := [spec] }

/-- The cluster of a switch with a short name and the text attached to it: names of more options. -/
def clusterOfSwitch (options : List OptionSpec) (spec : OptionSpec) :
    List Char → Except Stop Cluster
  | [] => .error .misuse
  | c :: rest =>
    if c == '-' then .error .misuse
    else
      match (byName options).lookup (String.ofList ['-', c]) with
      | none => .ok { switches := [spec], unknown := true }
      | some next =>
        match next.effect, rest with
        | .takes form, [] => .ok { switches := [spec], valued := some ⟨next, form, none⟩ }
        | .takes form, '=' :: value =>
          .ok { switches := [spec], valued := some ⟨next, form, some value⟩ }
        | .takes form, value =>
          .ok { switches := [spec], valued := some ⟨next, form, some value⟩ }
        | _, [] => .ok { switches := [spec, next] }
        | _, '=' :: _ => .error .misuse
        | _, _ => (clusterOfSwitch options next rest).map fun cluster =>
          { cluster with switches := spec :: cluster.switches }

/-- The cluster of an option. Only a short name takes more options directly behind it. -/
def clusterOf (options : List OptionSpec) (spec : OptionSpec) (name : String)
    (attached : Option Attached) : Except Stop Cluster :=
  match attached, spec.effect with
  | none, _ => .ok (clusterOfBare spec)
  | some found, .takes form => .ok { valued := some ⟨spec, form, some found.text⟩ }
  | some found, _ =>
    if found.byEquals || name.toList.take 2 == ['-', '-'] then .error .misuse
    else clusterOfSwitch options spec found.text

/-- What is known of the arguments of a command so far. An option goes by its first name. -/
structure CommandReading where
  positional : Option String := none
  atPositional : Bool := false
  given : List (String × Given) := []
  unknown : Bool := false
deriving Repr, Inhabited

namespace CommandReading

/-- What was given for an option, the last time it was given. -/
def value? (reading : CommandReading) (name : String) : Option Given :=
  reading.given.reverse.lookup name

/-- What is known after an option. -/
def give (reading : CommandReading) (spec : OptionSpec) (given : Given) : CommandReading :=
  { reading with
    given := reading.given ++ [(spec.names.headD "", given)]
    atPositional := false }

/-- What is known after switches, unless one of them asks for help. -/
def switchAll (reading : CommandReading) : List OptionSpec → Except Stop CommandReading
  | [] => .ok reading
  | spec :: rest =>
    match spec.effect with
    | .help => .error .help
    | _ => (reading.give spec .switched).switchAll rest

/-- What is known after a plain argument. -/
def takePlain (reading : CommandReading) (text : String) : CommandReading :=
  match reading.positional with
  | none => { reading with positional := some text, atPositional := true }
  | some _ => { reading with unknown := true, atPositional := false }

/-- What is known after the divider, which has to stand next to the positional argument. -/
def takeDivider (reading : CommandReading) : CommandReading :=
  if reading.positional.isNone || reading.atPositional then { reading with atPositional := false }
  else { reading with unknown := true }

end CommandReading

/-- What is known after an option, given the argument behind it, and whether this is its value. -/
def takeOption (options : List OptionSpec) (reading : CommandReading) (spec : OptionSpec)
    (name : String) (attached : Option Attached) (next : Option Argument) :
    Except Stop (CommandReading × Bool) := do
  let cluster ← clusterOf options spec name attached
  match cluster.valued, next with
  | none, _ =>
    let switched ← reading.switchAll cluster.switches
    return ({ switched with unknown := switched.unknown || cluster.unknown }, false)
  | some ⟨last, form, some text⟩, _ =>
    let switched ← reading.switchAll cluster.switches
    return (switched.give last (← form.read (String.ofList text)), false)
  | some ⟨last, form, none⟩, some (.plain text) =>
    let switched ← reading.switchAll cluster.switches
    return (switched.give last (← form.read text), true)
  | some ⟨_, _, none⟩, _ => throw .misuse

/-- Reads arguments from left to right. The first one is passed over if it is a value already. -/
def readFrom (options : List OptionSpec) :
    Bool → CommandReading → List Argument → Except Stop CommandReading
  | _, reading, [] => .ok reading
  | true, reading, _ :: rest => readFrom options false reading rest
  | false, reading, .plain text :: rest => readFrom options false (reading.takePlain text) rest
  | false, reading, .divider :: rest => readFrom options false reading.takeDivider rest
  | false, reading, .unknown :: rest =>
    readFrom options false { reading with unknown := true, atPositional := false } rest
  | false, reading, .option spec name attached :: rest => do
    let (taken, passed) ← takeOption options reading spec name attached rest.head?
    readFrom options passed taken rest

/-- The reading of the arguments of a command: its positional argument has to be there, and nothing
may be left over. -/
def readCommand (command : CommandSpec) (arguments : List String) :
    Except Stop CommandReading := do
  let classified ← classifyAll command.allOptions arguments
  let reading ← readFrom command.allOptions false {} classified
  if reading.positional.isNone || reading.unknown then throw .misuse
  return reading

/-- What the arguments of a program ask for. -/
inductive Selection where
  | nothing
  | programHelp
  | commandHelp (command : CommandSpec)
  | misuse
  | command (spec : CommandSpec) (reading : CommandReading)
deriving Repr

/-- The selection of a command, which stands before its arguments. -/
def selectCommand (commands : List CommandSpec) (unknown : Bool) (name : String)
    (arguments : List String) : Selection :=
  match commands.find? fun command => command.name == name with
  | none => .misuse
  | some command =>
    match readCommand command arguments with
    | .error .help => .commandHelp command
    | .error .misuse => .misuse
    | .ok reading => if unknown then .misuse else .command command reading

/-- The selection of the arguments of a program. Options before the command are its own, of which
there is only the one for help. -/
def selectFrom (commands : List CommandSpec) (unknown : Bool) : List String → Selection
  | [] => if unknown then .misuse else .nothing
  | argument :: rest =>
    if argument == "--" then .misuse
    else
      match classify [helpOption] argument with
      | .ok (.plain name) => selectCommand commands unknown name rest
      | .ok (.option spec name attached) =>
        match clusterOf [helpOption] spec name attached with
        | .ok _ => .programHelp
        | .error _ => .misuse
      | .ok .unknown => selectFrom commands true rest
      | .ok .divider => .misuse
      | .error _ => .misuse

/-- The selection of the arguments of a program. -/
def readArguments (commands : List CommandSpec) (arguments : List String) : Selection :=
  selectFrom commands false arguments

end QueryDesk.CommandLine
