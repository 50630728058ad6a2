/-
Module: QueryDesk.Grammar.Parse
Purpose: Reading statements from tokens: queries with WITH, joins, unions and paging, statements that
  change rows, a few others, and expressions, level by level from the operators that bind most loosely
  to operands. What cannot be read is refused at the place of a token.
Imports: QueryDesk.Grammar.Token, QueryDesk.Grammar.Written
Main exports: parsePhrases, parse
-/
import QueryDesk.Grammar.Token
import QueryDesk.Grammar.Written

namespace QueryDesk.Grammar

open QueryDesk.Text

/-- What stops a reader: words, and the token that it stands at, if any is left. -/
structure SyntaxFault where
  words : String
  token : Option Token
deriving Repr, Inhabited

/-- Reads something from the head of a list of tokens. -/
abbrev TokenReader (α : Type) := StateT (List Token) (Except SyntaxFault) α

/-- Stops at the token at hand. -/
def stop {α : Type} (words : String) : TokenReader α := do
  throw ⟨words, (← get).head?⟩

/-- Stops because the token at hand does not fit. -/
def unexpected {α : Type} : TokenReader α :=
  stop "Invalid expression / Unexpected token"

/-- Takes a token that passes a test. -/
def takeIf (test : Token → Bool) : TokenReader Bool := do
  match ← get with
  | token :: rest => if test token then set rest; return true else return false
  | [] => return false

/-- Takes a keyword, if it is at hand. -/
def keyword (word : String) : TokenReader Bool :=
  takeIf fun token => token.isKeyword word

/-- Takes a symbol, if it is at hand. -/
def symbol (text : String) : TokenReader Bool :=
  takeIf fun token => token.kind == .symbol text

/-- Takes a keyword that has to be at hand. -/
def needKeyword (word : String) : TokenReader Unit := do
  unless ← keyword word do unexpected

/-- Takes a symbol that has to be at hand. -/
def needSymbol (text : String) : TokenReader Unit := do
  unless ← symbol text do unexpected

/-- Takes an opening bracket, which has to be at hand. -/
def needOpening : TokenReader Unit := do
  unless ← symbol "(" do stop "Expecting ("

/-- Takes a closing bracket, which has to be at hand. -/
def needClosing : TokenReader Unit := do
  unless ← symbol ")" do stop "Expecting )"

/-- The words that are no names where a clause or an operator may follow. -/
def reservedWords : List String :=
  ["SELECT", "DISTINCT", "FROM", "WHERE", "GROUP BY", "HAVING", "ORDER BY", "LIMIT", "OFFSET",
    "UNION", "JOIN", "INNER", "LEFT", "ON", "AS", "AND", "OR", "NOT", "IN", "IS", "LIKE", "BETWEEN",
    "NULL", "TRUE", "FALSE", "WITH", "INSERT", "INTO", "VALUES", "SET", "RETURNING", "DROP"]

/-- The name that a token is. A reserved word is none. -/
def nameOf? (token : Token) : Option Name :=
  match token.kind with
  | .quotedName text => some ⟨text, true⟩
  | .word text => if reservedWords.contains (upperString text) then none else some ⟨text, false⟩
  | _ => none

/-- Takes a name, if one is at hand. -/
def name? : TokenReader (Option Name) := do
  match ← get with
  | token :: rest =>
    match nameOf? token with
    | some name => set rest; return some name
    | none => return none
  | [] => return none

/-- Takes a name, which has to be at hand. -/
def needName : TokenReader Name := do
  match ← name? with
  | some name => return name
  | none => unexpected

/-- The name that a token is where nothing but a name can stand: all words but SELECT are names
there. -/
def anyNameOf? (token : Token) : Option Name :=
  match token.kind with
  | .quotedName text => some ⟨text, true⟩
  | .word text => if token.isKeyword "SELECT" then none else some ⟨text, false⟩
  | _ => none

/-- Takes a name where nothing else can stand. -/
def needAnyName : TokenReader Name := do
  match ← get with
  | token :: rest =>
    match anyNameOf? token with
    | some name => set rest; return name
    | none => unexpected
  | [] => unexpected

/-- Takes an alias, with the word AS or without. -/
def aliasName? : TokenReader (Option Name) := do
  if ← keyword "AS" then return some (← needAnyName) else name?

/-- Takes items that are parted by commas, of which there are at most so many. -/
def commaList {α : Type} (item : TokenReader α) : Nat → TokenReader (List α)
  | 0 => unexpected
  | fuel + 1 => do
    let first ← item
    if ← symbol "," then return first :: (← commaList item fuel) else return [first]

/-- Whether an expression may begin with a token. -/
def Token.beginsExpression (token : Token) : Bool :=
  match token.kind with
  | .symbol text => ["(", "*", ":", "-", "+"].contains text
  | .word text =>
    (nameOf? token).isSome || ["NOT", "NULL", "TRUE", "FALSE"].contains (upperString text)
  | _ => true

/-- Takes expressions that are parted by commas, of which there are at most so many. Where none
stands, none is taken. -/
def expressionList (item : TokenReader Phrase) (fuel : Nat) : TokenReader (List Phrase) := do
  let present : TokenReader (List Phrase) := do
    if (← get).head?.any Token.beginsExpression then return [← item] else return []
  return (← commaList present fuel).flatten

/-- The spellings of operators. -/
def operatorSpellings : List (String × Operator) :=
  ("!=", .unequal) :: Operator.all.map fun operator => (operator.text, operator)

/-- The operator that a token spells. -/
def operatorOf? (token : Token) : Option Operator :=
  match token.kind with
  | .symbol text => operatorSpellings.lookup text
  | .word text => operatorSpellings.lookup (upperString text)
  | _ => none

/-- The level of equalities and of IS, which NOT reaches over. -/
def equalityLevel : Nat := 3

/-- The level of membership, ranges and patterns. -/
def rangeLevel : Nat := 5

/-- The level of what stands between operators. -/
def operandLevel : Nat := 8

/-- Takes an operator of a level. -/
def operator? (level : Nat) : TokenReader (Option Operator) := do
  match ← get with
  | token :: rest =>
    match operatorOf? token with
    | some operator =>
      if operator.level == level then set rest; return some operator else return none
    | none => return none
  | [] => return none

/-- A phrase, denied or as it is. -/
def Phrase.deniedIf (denied : Bool) (phrase : Phrase) : Phrase :=
  if denied then .node .negation [phrase] else phrase

/-- Takes what follows IS. The readers are for comparisons, any of which SQLite allows there, and for
sums, which are all that others allow. NULL stands alone for them. -/
def identity (dialect : Dialect) (comparison sum : TokenReader Phrase) (left : Phrase) :
    TokenReader Phrase := do
  let denied ← keyword "NOT"
  let right ← do
    if dialect == .sqlite then comparison
    else if ← keyword "NULL" then pure (.leaf .null)
    else sum
  return Phrase.deniedIf denied (.node (.operation .is) [left, right])

/-- Takes the operators of a level with their right operands, and folds them into a first operand,
at most so many times. The last reader is for what follows IS. -/
def chain (level : Nat) (operand : TokenReader Phrase) (behindIs : Phrase → TokenReader Phrase) :
    Nat → Phrase → TokenReader Phrase
  | 0, left => return left
  | fuel + 1, left => do
    match ← operator? level with
    | some .is => chain level operand behindIs fuel (← behindIs left)
    | some operator =>
      chain level operand behindIs fuel (.node (.operation operator) [left, ← operand])
    | none => return left

/-- Takes expressions up to a closing bracket, and the bracket. -/
def listToClosing (item : TokenReader Phrase) (fuel : Nat) : TokenReader (List Phrase) := do
  let items ← expressionList item fuel
  needClosing
  return items

/-- Takes what follows IN: a query or choices. -/
def membership (query? : TokenReader (Option Phrase)) (choice : TokenReader Phrase) (fuel : Nat)
    (left : Phrase) : TokenReader Phrase := do
  needSymbol "("
  match ← query? with
  | some query =>
    needClosing
    return .node .within [left, .node (.subquery none) [query]]
  | none => return .node .among (left :: (← listToClosing choice fuel))

/-- Takes what follows BETWEEN. -/
def bothEnds (sum : TokenReader Phrase) (left : Phrase) : TokenReader Phrase := do
  let low ← sum
  needKeyword "AND"
  return .node .between [left, low, ← sum]

/-- Takes one test of a sum, if one is at hand: its membership, its place in a range, or its likeness
to a pattern. -/
def tested (sum : TokenReader Phrase) (member : Phrase → TokenReader Phrase) (left : Phrase) :
    TokenReader Phrase := do
  let denied ← keyword "NOT"
  let found : Phrase ← do
    if ← keyword "IN" then member left
    else if ← keyword "BETWEEN" then bothEnds sum left
    else if ← keyword "LIKE" then pure (.node (.operation .like) [left, ← sum])
    else pure left
  return found.deniedIf denied

/-- Takes a column, a star of a table, or a call of a function, behind a name. The reader is for the
arguments of a call and the bracket that closes them. -/
def behindName (arguments : TokenReader (List Phrase)) (name : Name) : TokenReader Phrase := do
  if ← symbol "." then
    if ← symbol "*" then return .leaf (.starOf name)
    return .leaf (.column (some name) (← needAnyName))
  if !name.quoted then
    if ← symbol "(" then return .node (.call name.text) (← arguments)
  return .leaf (.column none name)

/-- Takes a literal, if one is at hand. -/
def literal? : TokenReader (Option Phrase) := do
  match ← get with
  | ⟨.integer digits, _, _⟩ :: rest => set rest; return some (.leaf (.integer digits))
  | ⟨.text content, _, _⟩ :: rest => set rest; return some (.leaf (.text content))
  | _ =>
    if ← keyword "NULL" then return some (.leaf .null)
    if ← keyword "TRUE" then return some (.leaf (.truth true))
    if ← keyword "FALSE" then return some (.leaf (.truth false))
    if ← symbol "*" then return some (.leaf .star)
    if ← symbol ":" then return some (.leaf (.parameter (← needName).text))
    return none

/-- Takes the side of a join and the word JOIN, if they are at hand. -/
def joinHead? : TokenReader (Option Label) := do
  if ← keyword "JOIN" then return some (.join none)
  if ← keyword "INNER" then needKeyword "JOIN"; return some (.join (some "INNER"))
  if ← keyword "LEFT" then needKeyword "JOIN"; return some (.join (some "LEFT"))
  return none

/-- Takes the direction of an order, if it is at hand. -/
def direction? : TokenReader (Option String) := do
  if ← keyword "ASC" then return some "ASC"
  if ← keyword "DESC" then return some "DESC"
  return none

/-- Takes a table: a name, which may be qualified. -/
def bareTable : TokenReader Phrase := do
  let first ← needName
  if ← symbol "." then return .leaf (.table (some first) (← needName) none)
  return .leaf (.table none first none)

/-- Takes a table with an alias. -/
def aliasedTable : TokenReader Phrase := do
  let first ← needName
  if ← symbol "." then
    let second ← needName
    return .leaf (.table (some first) second (← aliasName?))
  return .leaf (.table none first (← aliasName?))

/-- The keyword that begins a clause, with a reader for what follows it. -/
abbrev ClauseReader := String × TokenReader (List Phrase)

/-- The readers of all clauses, in the order in which a statement that changes rows has them. A limit
may hold the offset in front of it. -/
def clauseReaders (expression : TokenReader Phrase) (fuel : Nat) : List ClauseReader :=
  let list := expressionList expression fuel
  let ordered : TokenReader Phrase := do
    let key ← expression
    return .node (.ordered (← direction?)) [key]
  let limit : TokenReader (List Phrase) := do
    let first ← expression
    if ← symbol "," then return [.node .limit [← expression], .node .offset [first]]
    return [.node .limit [first]]
  [("WHERE", do return [.node .condition [← expression]]),
    ("GROUP BY", do return [.node .grouping (← list)]),
    ("HAVING", do return [.node .having [← expression]]),
    ("RETURNING", do return [.node .returning (← list)]),
    ("ORDER BY", do return [.node .ordering (← expressionList ordered fuel)]),
    ("LIMIT", limit),
    ("OFFSET", do return [.node .offset [← expression]])]

/-- The clauses of a query. -/
def queryClauses : List String :=
  ["WHERE", "GROUP BY", "HAVING", "ORDER BY", "LIMIT", "OFFSET"]

/-- The clauses of a statement that changes rows. -/
def changeClauses : List String :=
  ["WHERE", "RETURNING", "ORDER BY", "LIMIT"]

/-- Takes clauses behind some that are found, in any order and at most so many, but none twice. -/
def clauses (readers : List ClauseReader) : Nat → List Phrase → TokenReader (List Phrase)
  | 0, found => return found
  | fuel + 1, found => do
    match ← get with
    | token :: rest =>
      match readers.find? fun reader => token.isKeyword reader.1 with
      | some (word, reader) =>
        set rest
        let more ← reader
        if more.any fun clause => found.any fun other => other.label == clause.label then
          throw ⟨"Found multiple '" ++ word ++ "' clauses", some token⟩
        clauses readers fuel (found ++ more)
      | none => return found
    | [] => return found

/-- Takes clauses in the order of their readers. -/
def clausesInOrder : List ClauseReader → TokenReader (List Phrase)
  | [] => return []
  | (word, reader) :: rest => do
    let found ← if ← keyword word then reader else pure []
    return found ++ (← clausesInOrder rest)

/-- Takes the joins of a query, of which there are at most so many. -/
def joins (source condition : TokenReader Phrase) : Nat → TokenReader (List Phrase)
  | 0 => return []
  | fuel + 1 => do
    match ← joinHead? with
    | none => return []
    | some label =>
      let joined ← source
      needKeyword "ON"
      let on ← condition
      return .node label [joined, on] :: (← joins source condition fuel)

/-- Whether a clause of the last query in a union belongs to the union. -/
def Label.boundsUnion : Label → Bool
  | .ordering => true
  | .limit => true
  | .offset => true
  | _ => false

/-- Takes the queries that are united with a first one, at most so many. The order and the bounds
behind the last query belong to the union. The reader is for a query behind SELECT. -/
def unions (query : TokenReader Phrase) : Nat → Phrase → TokenReader Phrase
  | 0, left => return left
  | fuel + 1, left => do
    if ← keyword "UNION" then
      let all ← keyword "ALL"
      needKeyword "SELECT"
      let right ← query
      if (← get).head?.any fun token => token.isKeyword "UNION" then
        unions query fuel (.node (.union all) [left, right])
      else
        let (outer, inner) := right.parts.partition fun part => part.label.boundsUnion
        return .node (.union all) ([left, .node right.label inner] ++ outer)
    else return left

/-- Takes the count behind TOP, with brackets or without, in the dialect that has it. -/
def top? (dialect : Dialect) : TokenReader (Option String) := do
  match dialect, ← get with
  | .sqlserver, word :: ⟨.integer digits, _, _⟩ :: rest =>
    if word.isKeyword "TOP" then set rest; return some digits else return none
  | .sqlserver,
      word :: ⟨.symbol "(", _, _⟩ :: ⟨.integer digits, _, _⟩ :: ⟨.symbol ")", _, _⟩ :: rest =>
    if word.isKeyword "TOP" then set rest; return some digits else return none
  | _, _ => return none

/-- An item of a query. SQL Server reads the equality of a column and a value as the value with an
alias. -/
def Phrase.item (dialect : Dialect) (phrase : Phrase) : Phrase :=
  match dialect, phrase with
  | .sqlserver, .node (.operation .equal) [.node (.column _ name) _, value] =>
    .node (.renamed name) [value]
  | _, _ => phrase

/-- Takes a change of a column: its value may be any expression. -/
def assignment (target value : TokenReader Phrase) : TokenReader Phrase := do
  let column ← target
  if ← symbol "=" then return .node (.operation .equal) [column, ← value] else return column

mutual

/-- Takes an expression whose operators are of a level, or bind more tightly. -/
def expression (dialect : Dialect) : Nat → Nat → TokenReader Phrase
  | 0, _ => unexpected
  | fuel + 1, level => do
    if operandLevel ≤ level then operand dialect fuel
    else
      let inner := expression dialect fuel (level + 1)
      let first ← inner
      if level == rangeLevel then
        tested inner (membership (query? dialect fuel) (expression dialect fuel 1) fuel) first
      else
        let sum := expression dialect fuel (rangeLevel + 1)
        chain level inner (identity dialect inner sum) fuel first

/-- Takes an operand: what stands between operators. -/
def operand (dialect : Dialect) : Nat → TokenReader Phrase
  | 0 => unexpected
  | fuel + 1 => do
    if ← keyword "NOT" then return .node .negation [← expression dialect fuel equalityLevel]
    if ← symbol "-" then return .node .negative [← operand dialect fuel]
    if ← symbol "+" then return ← operand dialect fuel
    if ← symbol "(" then
      match ← query? dialect fuel with
      | some query => needClosing; return .node (.subquery none) [query]
      | none =>
        let found ← listToClosing (aliased dialect fuel) fuel
        return .node (if found.length == 1 then .enclosed else .row) found
    match ← literal? with
    | some found => return found
    | none => behindName (listToClosing (expression dialect fuel 1) fuel) (← needName)

/-- Takes a query, if one is at hand. -/
def query? (dialect : Dialect) : Nat → TokenReader (Option Phrase)
  | 0 => unexpected
  | fuel + 1 => do
    if (← get).head?.any fun token => token.isKeyword "SELECT" || token.isKeyword "WITH" then
      return some (← statement dialect fuel)
    else return none

/-- Takes what rows come from: a table, or a query in brackets, with an alias. -/
def rowSource (dialect : Dialect) : Nat → TokenReader Phrase
  | 0 => unexpected
  | fuel + 1 => do
    if ← symbol "(" then
      match ← query? dialect fuel with
      | some query => needClosing; return .node (.subquery (← aliasName?)) [query]
      | none => unexpected
    else aliasedTable

/-- Takes an expression with an alias. -/
def aliased (dialect : Dialect) : Nat → TokenReader Phrase
  | 0 => unexpected
  | fuel + 1 => do
    let found ← expression dialect fuel 1
    match ← aliasName? with
    | some aliasName => return .node (.renamed aliasName) [found]
    | none => return found

/-- Takes a query behind SELECT. -/
def query (dialect : Dialect) : Nat → TokenReader Phrase
  | 0 => unexpected
  | fuel + 1 => do
    let one := expression dialect fuel 1
    let distinct ← keyword "DISTINCT"
    let top ← top? dialect
    let items ← expressionList (aliased dialect fuel) fuel
    let source ← do
      if ← keyword "FROM" then pure [.node .source [← rowSource dialect fuel]] else pure []
    let joined ← joins (rowSource dialect fuel) one fuel
    let readers := (clauseReaders one fuel).filter fun reader => queryClauses.contains reader.1
    let more ← clauses readers fuel []
    return .node (.select distinct top)
      (items.map (Phrase.item dialect) ++ source ++ joined ++ more)

/-- Takes a statement. -/
def statement (dialect : Dialect) : Nat → TokenReader Phrase
  | 0 => unexpected
  | fuel + 1 => do
    let one := expression dialect fuel 1
    let readers := (clauseReaders one fuel).filter fun reader => changeClauses.contains reader.1
    if ← keyword "WITH" then
      let definition : TokenReader Phrase := do
        let name ← needName
        needKeyword "AS"
        needOpening
        let body ← statement dialect fuel
        needClosing
        return .node (.definition name) [body]
      let definitions ← commaList definition fuel
      return (← statement dialect fuel).attach [.node .definitions definitions]
    if ← keyword "SELECT" then return ← unions (query dialect fuel) fuel (← query dialect fuel)
    if ← keyword "INSERT" then
      needKeyword "INTO"
      let table ← bareTable
      let target ← do
        if ← symbol "(" then
          let columns ← commaList needName fuel
          needClosing
          pure (.node (.tableColumns columns) [table])
        else pure table
      if ← keyword "VALUES" then
        let row : TokenReader Phrase := do
          needSymbol "("
          return .node .row (← listToClosing one fuel)
        return .node .insert [target, .node .values (← commaList row fuel)]
      match ← query? dialect fuel with
      | some query => return .node .insert [target, query]
      | none => unexpected
    if ← keyword "UPDATE" then
      let table ← bareTable
      needKeyword "SET"
      let changes ← commaList (assignment (expression dialect fuel (equalityLevel + 1)) one) fuel
      return .node .update (table :: changes ++ (← clauses readers fuel []))
    if ← keyword "DELETE" then
      needKeyword "FROM"
      let table ← bareTable
      return .node .delete (table :: (← clausesInOrder readers))
    if ← keyword "DROP" then
      let relation ← do
        if ← keyword "TABLE" then pure "TABLE"
        else
          needKeyword "VIEW"
          pure "VIEW"
      let ifExists ← keyword "IF"
      if ifExists then needKeyword "EXISTS"
      return .node (.drop relation ifExists) [← bareTable]
    if ← keyword "DESCRIBE" then return .node .describe [← bareTable]
    if ← keyword "COMMIT" then return .leaf .commit
    if ← keyword "VACUUM" then return .leaf (.command "VACUUM")
    aliased dialect fuel

end

/-- Where a reader stopped, in words. At the end of a statement its last token counts. -/
def SyntaxFault.refusal (fault : SyntaxFault) (last : Option Token) : Refusal :=
  match fault.token.or last with
  | some token =>
    { kind := .parse
      text := s!"{fault.words}. Line {token.line}, Col: {token.column}."
      line := some token.line
      column := some token.column }
  | none => { kind := .parse, text := fault.words }

/-- The tokens between semicolons. -/
def splitStatements : List Token → List (List Token)
  | [] => [[]]
  | token :: rest =>
    match splitStatements rest with
    | [] => [[token]]
    | first :: others =>
      if token.kind == .symbol ";" then [] :: first :: others else (token :: first) :: others

/-- The statement of some tokens, all of which it takes. -/
def parsePhrase (dialect : Dialect) (found : List Token) : Except ParserFault (Option Phrase) :=
  match found with
  | [] => .ok none
  | _ =>
    match statement dialect (32 * (found.length + 1)) found with
    | .ok (phrase, []) => .ok (some phrase)
    | .ok (_, token :: _) =>
      let fault : SyntaxFault := ⟨"Invalid expression / Unexpected token", some token⟩
      .error (.refused (fault.refusal none))
    | .error fault => .error (.refused (fault.refusal found.getLast?))

/-- The statements of a text. -/
def parsePhrases (dialect : Dialect) (text : List Char) :
    Except ParserFault (List (Option Phrase)) := do
  (splitStatements (← tokens dialect text)).mapM (parsePhrase dialect)

/-- The statements of a text as trees, each with its written form. -/
def parse (dialect : Dialect) (sql : String) : Parsed := do
  let phrases ← parsePhrases dialect sql.toList
  return phrases.map fun phrase => phrase.map fun found => found.tree (found.written dialect)

end QueryDesk.Grammar
