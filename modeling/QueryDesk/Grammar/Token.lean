/-
Module: QueryDesk.Grammar.Token
Purpose: Tokens of SQL text: words, quoted names, integers, strings and symbols. A token knows the
  line and the column of its last character. Blanks and comments part tokens and are dropped; keywords
  of two words are one token.
Imports: QueryDesk.Grammar.Refusal, QueryDesk.Sql.Dialect, QueryDesk.Text.Case
Main exports: TokenKind, Token, Token.isKeyword, tokens
-/
import QueryDesk.Grammar.Refusal
import QueryDesk.Sql.Dialect
import QueryDesk.Text.Case

namespace QueryDesk.Grammar

open QueryDesk.Text

/-- What a token is. -/
inductive TokenKind where
  | word (text : String)
  | quotedName (text : String)
  | integer (digits : String)
  | text (content : String)
  | symbol (text : String)
deriving Repr, Inhabited, DecidableEq

/-- A token and the place of its last character. -/
structure Token where
  kind : TokenKind
  line : Nat
  column : Nat
deriving Repr, Inhabited, DecidableEq

/-- Whether a token is a keyword, whatever its letter case. Keywords are given in upper case. -/
def Token.isKeyword (token : Token) (keyword : String) : Bool :=
  match token.kind with
  | .word text => upperString text == keyword
  | _ => false

/-- A character at its place. Lines and columns count from one. -/
structure PlacedChar where
  char : Char
  line : Nat
  column : Nat
deriving Repr, Inhabited, DecidableEq

/-- The characters of a text after a character at its place. A line ends with a line feed or a
carriage return; the two together end it once. -/
def placeAfter (before : PlacedChar) : List Char → List PlacedChar
  | [] => []
  | c :: rest =>
    let here : PlacedChar :=
      if before.char == '\r' && c == '\n' then ⟨c, before.line, before.column⟩
      else if before.char == '\n' || before.char == '\r' then ⟨c, before.line + 1, 1⟩
      else ⟨c, before.line, before.column + 1⟩
    here :: placeAfter here rest

/-- The characters of a text at their places. -/
def placed (text : List Char) : List PlacedChar :=
  placeAfter ⟨' ', 1, 0⟩ text

/-- The quotes of names: what opens one, and what closes it. -/
def nameQuotes : Dialect → List (Char × Char)
  | .mysql => [('\x60', '\x60')]
  | .sqlserver => [('[', ']'), ('\x22', '\x22')]
  | .sqlite => [('\x22', '\x22'), ('[', ']'), ('\x60', '\x60')]
  | _ => [('\x22', '\x22')]

/-- The quotes of strings. -/
def stringQuotes : Dialect → List Char
  | .mysql => ['\x27', '\x22']
  | _ => ['\x27']

/-- A quoted text after its opening quote, and how many characters it takes with the closing one. A
doubled closing quote stands for one. -/
def quotedText? (closing : Char) : List Char → Option (List Char × Nat)
  | [] => none
  | [c] => if c == closing then some ([], 1) else none
  | c :: d :: rest =>
    if c == closing then
      if d == closing then
        (quotedText? closing rest).map fun (inside, length) => (c :: inside, length + 2)
      else some ([], 1)
    else (quotedText? closing (d :: rest)).map fun (inside, length) => (c :: inside, length + 1)

/-- The characters that a letter behind a backslash stands for in strings that have escapes. -/
def escapedChars : List (Char × Char) :=
  [('a', Char.ofNat 7), ('b', Char.ofNat 8), ('f', Char.ofNat 12), ('n', '\n'), ('r', '\r'),
    ('t', '\t'), ('v', Char.ofNat 11), ('\\', '\\')]

/-- The characters that leave a backslash before them as it is. -/
def keepsBackslash : List Char := ['0', 'Z', '%', '_']

/-- A quoted text with escapes after its opening quote, and how many characters it takes with the
closing one. A backslash before any other character is dropped. -/
def escapedText? (closing : Char) : List Char → Option (List Char × Nat)
  | [] => none
  | [c] => if c == closing then some ([], 1) else none
  | c :: d :: rest =>
    if c == '\\' && keepsBackslash.contains d then
      (escapedText? closing rest).map fun (inside, length) => (c :: d :: inside, length + 2)
    else if c == '\\' then
      let meant := (escapedChars.lookup d).getD d
      (escapedText? closing rest).map fun (inside, length) => (meant :: inside, length + 2)
    else if c == closing then
      if d == closing then
        (escapedText? closing rest).map fun (inside, length) => (c :: inside, length + 2)
      else some ([], 1)
    else (escapedText? closing (d :: rest)).map fun (inside, length) => (c :: inside, length + 1)

/-- A string after its opening quote, and how many characters it takes with the closing one. -/
def stringText? (dialect : Dialect) (closing : Char) (text : List Char) :
    Option (List Char × Nat) :=
  if dialect == .mysql then escapedText? closing text else quotedText? closing text

/-- Whether block comments may hold block comments. -/
def commentsNest : Dialect → Bool
  | .mysql => false
  | .sqlite => false
  | _ => true

/-- The signs that begin a comment up to the end of the line. -/
def lineCommentSigns : Dialect → List String
  | .mysql => ["--", "#"]
  | _ => ["--"]

/-- How many characters a block comment takes after its opening, at a depth of nesting. A comment
that nothing closes takes all. -/
def blockCommentLength (nests : Bool) (depth : Nat) : List Char → Nat
  | '*' :: '/' :: rest =>
    match depth with
    | 0 => 2
    | outer + 1 => blockCommentLength nests outer rest + 2
  | '/' :: '*' :: rest =>
    if nests then blockCommentLength nests (depth + 1) rest + 2
    else blockCommentLength nests depth ('*' :: rest) + 1
  | _ :: rest => blockCommentLength nests depth rest + 1
  | [] => 0

/-- The symbols of two characters. -/
def doubleSymbols : List (List Char) :=
  ["<>".toList, "!=".toList, "<=".toList, ">=".toList]

/-- A lexeme at the head of a text: its kind, unless it is dropped, and how many characters it
takes. -/
abbrev Lexeme := Option TokenKind × Nat

/-- The lexeme of a quoted text behind its opening quote. -/
def quotedLexeme (kind : String → TokenKind) (inside : List Char) (length : Nat) : Lexeme :=
  (some (kind (String.ofList inside)), length + 1)

/-- The lexeme of the longest run of characters of a class. -/
def runLexeme (kind : String → TokenKind) (inClass : Char → Bool) (text : List Char) : Lexeme :=
  let run := text.takeWhile inClass
  (some (kind (String.ofList run)), run.length)

/-- The lexeme at the head of a text, unless a quote is not closed. -/
def lexeme? (dialect : Dialect) : List Char → Option Lexeme
  | [] => some (none, 0)
  | c :: rest =>
    if isBlank c then some (none, 1)
    else if (lineCommentSigns dialect).any fun sign => sign.toList.isPrefixOf (c :: rest) then
      some (none, ((c :: rest).takeWhile fun d => d != '\n' && d != '\r').length)
    else if (c :: rest).take 2 == "/*".toList then
      some (none, blockCommentLength (commentsNest dialect) 0 (rest.drop 1) + 2)
    else if (stringQuotes dialect).contains c then
      (stringText? dialect c rest).map fun (inside, length) => quotedLexeme .text inside length
    else
      match (nameQuotes dialect).lookup c with
      | some closing =>
        (quotedText? closing rest).map fun (inside, length) =>
          quotedLexeme .quotedName inside length
      | none =>
        if isDigit c then some (runLexeme .integer isDigit (c :: rest))
        else if isWord c then some (runLexeme .word isWord (c :: rest))
        else if doubleSymbols.contains ((c :: rest).take 2) then
          some (some (.symbol (String.ofList ((c :: rest).take 2))), 2)
        else some (some (.symbol (String.ofList [c])), 1)

/-- The tokens of a text past some characters of the lexeme that it is in, unless a quote is not
closed. The text is given with its places, too. -/
def tokensAfter (dialect : Dialect) : Nat → List Char → List PlacedChar → Option (List Token)
  | skip + 1, _ :: text, _ :: places => tokensAfter dialect skip text places
  | 0, c :: text, here :: places =>
    match lexeme? dialect (c :: text) with
    | none => none
    | some (kind, length) =>
      let last := (places.take (length - 1)).getLastD here
      (tokensAfter dialect (length - 1) text places).map fun more =>
        (kind.map fun kind => ⟨kind, last.line, last.column⟩).toList ++ more
  | _, _, _ => some []

/-- The words that make up one keyword together with the word BY. -/
def wordsBeforeBy : List String := ["GROUP", "ORDER"]

/-- Tokens in which keywords of two words are one. -/
def joinKeywords : List Token → List Token
  | first :: second :: rest =>
    if second.isKeyword "BY" && wordsBeforeBy.any first.isKeyword then
      match first.kind with
      | .word text => ⟨.word (text ++ " BY"), second.line, second.column⟩ :: joinKeywords rest
      | _ => first :: joinKeywords (second :: rest)
    else first :: joinKeywords (second :: rest)
  | short => short

/-- How much of a text a refusal of its tokens shows. -/
def shownLength : Nat := 50

/-- The refusal of a text with a quote that is not closed. It shows the end of the text, its last
character apart. -/
def unclosedQuote (text : List Char) : Refusal :=
  let shown := (text.drop (text.length - shownLength)).dropLast
  { kind := .token, text := "Error tokenizing '" ++ String.ofList shown ++ "'" }

/-- The tokens of a text. -/
def tokens (dialect : Dialect) (text : List Char) : Except ParserFault (List Token) :=
  match tokensAfter dialect 0 text (placed text) with
  | some found => .ok (joinKeywords found)
  | none => .error (.refused (unclosedQuote text))

end QueryDesk.Grammar
