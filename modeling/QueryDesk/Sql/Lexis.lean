/-
Module: QueryDesk.Sql.Lexis
Purpose: The lexical regions of SQL text. A machine reads the text one character at a time, with the
  rest of the text in view, and marks each character as plain, quoted or commented. Masks blank out
  the regions that keyword searches must not see; they keep the length of the text and its line
  feeds, so that positions in a mask are positions in the text.
Imports: QueryDesk.Sql.Dialect, QueryDesk.Text.CharClass
Main exports: Lexis, Lexis.ofDialect, Mode, Mark, Lexis.step, Lexis.marks, Lexis.modeAfter,
  Lexis.closes, Lexis.mask, Lexis.commentMask, contentEnd
-/
import QueryDesk.Sql.Dialect
import QueryDesk.Text.CharClass

namespace QueryDesk.Sql

open QueryDesk.Text

/-- Which quoting and comment rules apply. -/
structure Lexis where
  /-- A backslash escapes the next character inside quotes. -/
  backslashEscapes : Bool := false
  /-- A name may stand between square brackets. -/
  bracketIdentifiers : Bool := false
  /-- A number sign begins a line comment. -/
  hashComments : Bool := false
  /-- A string may stand between dollar tags. -/
  dollarQuotes : Bool := false
deriving Repr, Inhabited, DecidableEq

/-- The rules of a dialect. -/
def Lexis.ofDialect (dialect : Dialect) : Lexis :=
  { backslashEscapes := dialect = .mysql
    bracketIdentifiers := dialect = .sqlserver
    hashComments := dialect = .mysql
    dollarQuotes := dialect = .postgres }

/-- What a character belongs to. The first character of a quoted token and of a comment is told
apart, so that the marks show where tokens begin. -/
inductive Mark where
  | plain
  | quoteStart
  | quote
  | commentStart
  | comment
deriving Repr, Inhabited, DecidableEq

/-- Whether a character is inside a comment. -/
def Mark.isComment : Mark → Bool
  | .commentStart => true
  | .comment => true
  | _ => false

/-- Whether a character is inside a quoted token. -/
def Mark.isQuoted : Mark → Bool
  | .quoteStart => true
  | .quote => true
  | _ => false

/-- Whether a character is plain. -/
def Mark.isPlain : Mark → Bool
  | .plain => true
  | _ => false

/-- Where the machine stands. -/
inductive Mode where
  /-- Outside of quotes and comments. -/
  | plain
  /-- In a comment that ends before the next line feed. -/
  | lineComment
  /-- Before the second character of the opening of a block comment. -/
  | blockOpening
  /-- In a block comment. -/
  | blockComment
  /-- Before the second character of the closing of a block comment. -/
  | blockClosing
  /-- Between quotes that end with the given character. -/
  | quoted (closing : Char)
  /-- Between quotes, before a character that does not end them. -/
  | escaped (closing : Char)
  /-- In an opening dollar tag, with so many characters of it after the next one. -/
  | tagOpening (left : Nat) (tag : List Char)
  /-- In a string that ends with the given dollar tag. -/
  | tagged (tag : List Char)
  /-- In a closing dollar tag, with so many characters of it after the next one. -/
  | tagClosing (left : Nat)
deriving Repr, Inhabited, DecidableEq

/-- Whether the machine stands inside a quoted token. -/
def Mode.isQuoted : Mode → Bool
  | .quoted _ => true
  | .escaped _ => true
  | .tagOpening _ _ => true
  | .tagged _ => true
  | .tagClosing _ => true
  | _ => false

/-- The dollar tag at the head of a text: two dollar signs with nothing or a name between them. -/
def dollarTag? : List Char → Option (List Char)
  | '$' :: rest =>
    let name := rest.takeWhile isNameChar
    let named := match name with
      | [] => true
      | c :: _ => isNameStart c
    if named && (rest.drop name.length).head? == some '$' then some ('$' :: (name ++ ['$']))
    else none
  | _ => none

/-- The character that closes the quotes which a character opens. -/
def Lexis.closing? (lexis : Lexis) (c : Char) : Option Char :=
  if c == '\x27' || c == '\x22' || c == '\x60' then some c
  else if lexis.bracketIdentifiers && c == '[' then some ']'
  else none

/-- One step from outside of quotes and comments. -/
def Lexis.stepPlain (lexis : Lexis) (c : Char) (rest : List Char) : Mark × Mode :=
  if (c == '-' && rest.head? == some '-') || (lexis.hashComments && c == '#') then
    (.commentStart, .lineComment)
  else if c == '/' && rest.head? == some '*' then (.commentStart, .blockOpening)
  else
    match if lexis.dollarQuotes then dollarTag? (c :: rest) else none with
    | some tag => (.quoteStart, .tagOpening (tag.length - 2) tag)
    | none =>
      match lexis.closing? c with
      | some closing => (.quoteStart, .quoted closing)
      | none => (.plain, .plain)

/-- One step between quotes. A doubled quote is an escaped one; a bracket does not double and is
not escaped. -/
def Lexis.stepQuoted (lexis : Lexis) (closing c : Char) (rest : List Char) : Mark × Mode :=
  if lexis.backslashEscapes && closing != ']' && c == '\\' then (.quote, .escaped closing)
  else if c == closing then
    if closing != ']' && rest.head? == some closing then (.quote, .escaped closing)
    else (.quote, .plain)
  else (.quote, .quoted closing)

/-- One step of the machine on a character, with the rest of the text in view: the mark of the
character and where the machine stands after it. -/
def Lexis.step (lexis : Lexis) (mode : Mode) (c : Char) (rest : List Char) : Mark × Mode :=
  match mode with
  | .plain => lexis.stepPlain c rest
  | .lineComment => if c == '\n' then (.plain, .plain) else (.comment, .lineComment)
  | .blockOpening => (.comment, .blockComment)
  | .blockComment =>
    if c == '*' && rest.head? == some '/' then (.comment, .blockClosing)
    else (.comment, .blockComment)
  | .blockClosing => (.comment, .plain)
  | .quoted closing => lexis.stepQuoted closing c rest
  | .escaped closing => (.quote, .quoted closing)
  | .tagOpening 0 tag => (.quote, .tagged tag)
  | .tagOpening (left + 1) tag => (.quote, .tagOpening left tag)
  | .tagged tag =>
    if tag.isPrefixOf (c :: rest) then (.quote, .tagClosing (tag.length - 2))
    else (.quote, .tagged tag)
  | .tagClosing 0 => (.quote, .plain)
  | .tagClosing (left + 1) => (.quote, .tagClosing left)

/-- The marks of a text that is read from a mode. -/
def Lexis.marksFrom (lexis : Lexis) (mode : Mode) : List Char → List Mark
  | [] => []
  | c :: rest =>
    (lexis.step mode c rest).1 :: lexis.marksFrom (lexis.step mode c rest).2 rest

/-- Where the machine stands after a text that is read from a mode. -/
def Lexis.modeAfter (lexis : Lexis) (mode : Mode) : List Char → Mode
  | [] => mode
  | c :: rest => lexis.modeAfter (lexis.step mode c rest).2 rest

/-- The marks of a text. -/
def Lexis.marks (lexis : Lexis) (text : List Char) : List Mark :=
  lexis.marksFrom .plain text

/-- Whether every quoted token of a text is closed before its end. -/
def Lexis.closes (lexis : Lexis) (text : List Char) : Bool :=
  !(lexis.modeAfter .plain text).isQuoted

/-- What a hidden character is replaced with: line feeds stay. -/
def blank (c : Char) : Char :=
  if c == '\n' then '\n' else ' '

/-- The text with the characters blanked whose marks are hidden. -/
def Lexis.hideFrom (lexis : Lexis) (hidden : Mark → Bool) (mode : Mode) :
    List Char → List Char
  | [] => []
  | c :: rest =>
    (if hidden (lexis.step mode c rest).1 then blank c else c) ::
      lexis.hideFrom hidden (lexis.step mode c rest).2 rest

/-- The text with quoted tokens and comments blanked. -/
def Lexis.mask (lexis : Lexis) (text : List Char) : List Char :=
  lexis.hideFrom (fun mark => !mark.isPlain) .plain text

/-- The text with comments blanked, and literals and quoted names kept. -/
def Lexis.commentMask (lexis : Lexis) (text : List Char) : List Char :=
  lexis.hideFrom Mark.isComment .plain text

/-- The position after the last character that is not a blank. On a comment mask this is where the
content of the text ends. -/
def contentEnd (text : List Char) : Nat :=
  (trimEnd text).length

end QueryDesk.Sql
