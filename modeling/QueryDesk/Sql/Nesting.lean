/-
Module: QueryDesk.Sql.Nesting
Purpose: The parenthesis depth of every position of a masked text, and the matches of a pattern that
  begin outside of all parentheses. A pattern is a function of the character before a position and
  the text from there on; matches are found from left to right and do not overlap.
Imports: QueryDesk.Sql.Lexis
Main exports: depths, Span, Match, Hit, Pattern, hits, topLevelHits, lastTopLevel?, firstTopLevel?
-/
import QueryDesk.Sql.Lexis

namespace QueryDesk.Sql

/-- The depth of every position of a text that begins at a depth. An opening parenthesis has the
depth outside of it, and so has a closing one; a closing one too many does not go below zero. -/
def depthsFrom (depth : Nat) : List Char → List Nat
  | [] => []
  | c :: rest =>
    if c == '(' then depth :: depthsFrom (depth + 1) rest
    else if c == ')' then (depth - 1) :: depthsFrom (depth - 1) rest
    else depth :: depthsFrom depth rest

/-- The parenthesis depth of every position. -/
def depths (masked : List Char) : List Nat :=
  depthsFrom 0 masked

/-- A stretch of a text, from its first position to the one after its last. -/
structure Span where
  start : Nat
  stop : Nat
deriving Repr, Inhabited, DecidableEq

/-- The stretch moved to the right. -/
def Span.shift (span : Span) (offset : Nat) : Span :=
  ⟨span.start + offset, span.stop + offset⟩

/-- The characters of a stretch. -/
def Span.slice (span : Span) (text : List Char) : List Char :=
  (text.take span.stop).drop span.start

/-- A match of a pattern: its length, and the stretches of its groups counted from its start. -/
structure Match where
  length : Nat
  groups : List (Option Span)
deriving Repr, Inhabited, DecidableEq

/-- A match at a place in a text. -/
structure Hit where
  start : Nat
  stop : Nat
  groups : List (Option Span)
deriving Repr, Inhabited, DecidableEq

/-- The match placed at a position. -/
def Match.at (found : Match) (position : Nat) : Hit :=
  ⟨position, position + found.length, found.groups.map fun group => group.map (·.shift position)⟩

/-- The stretch of a group. -/
def Hit.group? (hit : Hit) (index : Nat) : Option Span :=
  hit.groups[index]?.join

/-- A pattern: given the character before a position and the text from there on, its match. -/
abbrev Pattern := Option Char → List Char → Option Match

/-- The matches of a pattern in a text that begins at a position, after so many characters that
belong to the last match. -/
def hitsFrom (pattern : Pattern) (position skip : Nat) (before : Option Char) :
    List Char → List Hit
  | [] => []
  | c :: rest =>
    match skip with
    | left + 1 => hitsFrom pattern (position + 1) left (some c) rest
    | 0 =>
      match pattern before (c :: rest) with
      | some found =>
        found.at position :: hitsFrom pattern (position + 1) (found.length - 1) (some c) rest
      | none => hitsFrom pattern (position + 1) 0 (some c) rest

/-- The matches of a pattern in a text, from left to right. -/
def hits (pattern : Pattern) (text : List Char) : List Hit :=
  hitsFrom pattern 0 0 none text

/-- Whether a position has depth zero. -/
def isTopLevel (masked : List Char) (position : Nat) : Bool :=
  (depths masked)[position]? == some 0

/-- The matches that begin outside of all parentheses. -/
def topLevelHits (pattern : Pattern) (masked : List Char) : List Hit :=
  (hits pattern masked).filter fun hit => isTopLevel masked hit.start

/-- The last match outside of all parentheses. -/
def lastTopLevel? (pattern : Pattern) (masked : List Char) : Option Hit :=
  (topLevelHits pattern masked).getLast?

/-- The first match outside of all parentheses. -/
def firstTopLevel? (pattern : Pattern) (masked : List Char) : Option Hit :=
  (topLevelHits pattern masked).head?

/-- Whether a pattern matches anywhere in a text that follows a character. -/
def occursFrom (pattern : Pattern) (before : Option Char) : List Char → Bool
  | [] => false
  | c :: rest => (pattern before (c :: rest)).isSome || occursFrom pattern (some c) rest

/-- Whether a pattern matches anywhere in a text. -/
def occurs (pattern : Pattern) (text : List Char) : Bool :=
  occursFrom pattern none text

end QueryDesk.Sql
