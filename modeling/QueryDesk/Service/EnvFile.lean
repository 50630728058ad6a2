/-
Module: QueryDesk.Service.EnvFile
Purpose: Files of environment variables. A line binds a name to a value, which may stand between
  quotes with escapes, or to none; comments follow a number sign, and a value may refer to other
  variables.
Imports: QueryDesk.Text.CharClass
Main exports: Binding, parseBindings, expandVariables, readEnvFile
-/
import QueryDesk.Text.CharClass

namespace QueryDesk

open QueryDesk.Text

/-- A name and its value, which may be missing. -/
abbrev Binding := List Char × Option (List Char)

/-- A blank that does not end a line. -/
def isInlineBlank (c : Char) : Bool :=
  isBlank c && c != '\n' && c != '\r'

/-- The text after the blanks of a line. -/
def skipInline (text : List Char) : List Char :=
  text.dropWhile isInlineBlank

/-- Whether a character ends a line. -/
def endsLine (c : Char) : Bool :=
  c == '\n' || c == '\r'

/-- The text after the rest of a line. -/
def skipLine (text : List Char) : List Char :=
  match text.dropWhile (!endsLine ·) with
  | '\r' :: '\n' :: rest => rest
  | _ :: rest => rest
  | [] => []

/-- The text up to a closing quote, and the text after it. A quote behind a backslash closes only if
no later one does. -/
def untilQuote (quote : Char) : List Char → Option (List Char × List Char)
  | [] => none
  | '\\' :: c :: rest =>
    if c == quote then
      match untilQuote quote rest with
      | some (inside, after) => some ('\\' :: c :: inside, after)
      | none => some (['\\'], rest)
    else (untilQuote quote (c :: rest)).map fun (inside, after) => ('\\' :: inside, after)
  | c :: rest =>
    if c == quote then some ([], rest)
    else (untilQuote quote rest).map fun (inside, after) => (c :: inside, after)

/-- The character that an escape stands for between quotes of a kind. -/
def unescape? (quote c : Char) : Option Char :=
  if c == '\\' || c == '\x27' then some c
  else if quote == '\x27' then none
  else
    match c with
    | '\x22' => some '\x22'
    | 'a' => some (Char.ofNat 7)
    | 'b' => some (Char.ofNat 8)
    | 'f' => some (Char.ofNat 12)
    | 'n' => some '\n'
    | 'r' => some '\r'
    | 't' => some '\t'
    | 'v' => some (Char.ofNat 11)
    | _ => none

/-- A quoted value with its escapes resolved. An unknown escape stays as it is. -/
def unescapeQuoted (quote : Char) : List Char → List Char
  | '\\' :: c :: rest =>
    match unescape? quote c with
    | some meant => meant :: unescapeQuoted quote rest
    | none => '\\' :: unescapeQuoted quote (c :: rest)
  | c :: rest => c :: unescapeQuoted quote rest
  | [] => []

/-- An unquoted value without the comment behind it. A comment follows at least one blank. -/
def dropComment : List Char → List Char
  | [] => []
  | c :: rest =>
    if isBlank c && (rest.dropWhile isBlank).head? == some '#' then [] else c :: dropComment rest

/-- The name at the head of a line, and the rest. -/
def readName (text : List Char) : Option (List Char × List Char) :=
  match text with
  | '\x27' :: rest =>
    let name := rest.takeWhile (· != '\x27')
    match name, rest.drop name.length with
    | _ :: _, _ :: after => some (name, after)
    | _, _ => none
  | _ =>
    let stops := fun c => c == '=' || c == '#' || isBlank c
    let name := text.takeWhile (!stops ·)
    if name.isEmpty then none else some (name, text.drop name.length)

/-- The value behind an equals sign, and the rest. Blanks before the value belong to none, but a
comment may follow them. -/
def readBoundValue (text : List Char) : Option (List Char × List Char) :=
  match skipInline text with
  | '\x27' :: rest =>
    (untilQuote '\x27' rest).map fun (inside, after) => (unescapeQuoted '\x27' inside, after)
  | '\x22' :: rest =>
    (untilQuote '\x22' rest).map fun (inside, after) => (unescapeQuoted '\x22' inside, after)
  | _ =>
    let line := text.takeWhile (!endsLine ·)
    some (trim (dropComment line), text.drop line.length)

/-- The text after a comment and the end of its line, if nothing else is left on it. -/
def finishLine? (text : List Char) : Option (List Char) :=
  let after := skipInline text
  let rest := if after.head? == some '#' then after.dropWhile (!endsLine ·) else after
  match rest with
  | [] => some []
  | '\r' :: '\n' :: more => some more
  | c :: more => if endsLine c then some more else none

/-- The text after the word export and blanks, if it begins so. -/
def skipExport (text : List Char) : List Char :=
  let word := "export".toList
  if word.isPrefixOf text && (text.drop word.length).head?.any isInlineBlank then
    skipInline (text.drop word.length)
  else text

/-- The binding at the head of a text that begins with neither blanks nor a comment, and the rest.
A line that cannot be read is passed over. A name without an equals sign has no value. -/
def readBinding (text : List Char) : Option Binding × List Char :=
  match readName (skipExport text) with
  | none => (none, skipLine (skipExport text))
  | some (name, afterName) =>
    match skipInline afterName with
    | '=' :: afterSign =>
      match readBoundValue afterSign with
      | none => (none, skipLine (skipInline afterSign))
      | some (value, afterValue) =>
        match finishLine? afterValue with
        | some rest => (some (name, some value), rest)
        | none => (none, skipLine afterValue)
    | after =>
      match finishLine? after with
      | some rest => (some (name, none), rest)
      | none => (none, skipLine after)

/-- The bindings of a text, of at most so many lines. -/
def parseBindingsFor : Nat → List Char → List Binding
  | 0, _ => []
  | fuel + 1, text =>
    match text.dropWhile isBlank with
    | [] => []
    | '#' :: rest => parseBindingsFor fuel (skipLine rest)
    | start =>
      let (binding, rest) := readBinding start
      binding.toList ++ parseBindingsFor fuel rest

/-- The bindings of a text, in order. -/
def parseBindings (text : List Char) : List Binding :=
  parseBindingsFor text.length text

/-- A reference to a variable at the head of a text after its dollar sign: the name, what stands in
for it where it is not bound, and the rest. -/
def readReference (text : List Char) : Option (List Char × List Char × List Char) :=
  match text with
  | '\x7b' :: rest =>
    let name := rest.takeWhile fun c => c != '\x7d' && c != ':'
    match rest.drop name.length with
    | '\x7d' :: after => some (name, [], after)
    | ':' :: '-' :: more =>
      let fallback := more.takeWhile (· != '\x7d')
      match more.drop fallback.length with
      | _ :: after => some (name, fallback, after)
      | [] => none
    | _ => none
  | _ => none

/-- What a name stands for: its value, nothing where it has none, or else the fallback. -/
def valueOf (bound : List Binding) (name fallback : List Char) : List Char :=
  match bound.lookup name with
  | some value => value.getD []
  | none => fallback

/-- A value with its references replaced, of at most so many characters. -/
def expandFor (bound : List Binding) : Nat → List Char → List Char
  | 0, _ => []
  | _ + 1, [] => []
  | fuel + 1, '$' :: rest =>
    match readReference rest with
    | some (name, fallback, after) =>
      valueOf bound name fallback ++ expandFor bound fuel after
    | none => '$' :: expandFor bound fuel rest
  | fuel + 1, c :: rest => c :: expandFor bound fuel rest

/-- The bindings with references replaced by the bindings before them and by an environment. -/
def expandVariables (environment : List Binding) (bindings : List Binding) : List Binding :=
  bindings.foldl
    (fun done (name, value) =>
      done ++ [(name, value.map fun text =>
        expandFor (done.reverse ++ environment) (text.length + 1) text)])
    []

/-- A text whose lines all end with a line feed alone. -/
def unifyLineEnds : List Char → List Char
  | '\r' :: '\n' :: rest => '\n' :: unifyLineEnds rest
  | '\r' :: rest => '\n' :: unifyLineEnds rest
  | c :: rest => c :: unifyLineEnds rest
  | [] => []

/-- A text without the byte order mark in front. -/
def dropByteOrderMark (text : List Char) : List Char :=
  match text with
  | c :: rest => if c == '\ufeff' then rest else c :: rest
  | [] => []

/-- The variables that a file binds, in order. -/
def readEnvFile (environment : List (String × String)) (text : String) :
    List (String × Option String) :=
  let known := environment.map fun (name, value) => (name.toList, some value.toList)
  let bindings := parseBindings (unifyLineEnds (dropByteOrderMark text.toList))
  (expandVariables known bindings).map fun (name, value) =>
    (String.ofList name, value.map String.ofList)

end QueryDesk
