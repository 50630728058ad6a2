/-
Module: QueryDesk.Proofs.Sql.Literal
Purpose: String literals as the machine reads them. A text is written between quote marks with each
  mark inside doubled, and with each backslash doubled where backslashes escape. Then no backslash of
  the literal takes a mark with it, so that the literal is one quoted token whatever the text holds:
  keywords, comment markers, other quote marks, dollar tags or runs of its own mark.
Imports: QueryDesk.Proofs.Sql.Quoting
Main exports: Lexis.escaped, Lexis.literal, harmless_doubleChar, literal_opaque
-/
import QueryDesk.Proofs.Sql.Quoting

namespace QueryDesk.Sql

variable {delimiter : Char}

/-- The text with each backslash doubled, where backslashes escape. -/
def Lexis.escaped (lexis : Lexis) (content : List Char) : List Char :=
  if lexis.backslashEscapes then doubleChar '\\' content else content

/-- The literal that stands for a text. -/
def Lexis.literal (lexis : Lexis) (delimiter : Char) (content : List Char) : List Char :=
  quoteWith delimiter (lexis.escaped content)

/-- In front of a character that is no backslash a name stays as harmless as it was. -/
theorem harmless_cons_of_ne {c : Char} (other : c ≠ '\\') (rest : List Char) :
    harmless delimiter (c :: rest) = harmless delimiter rest := by
  cases rest with
  | nil => simp [harmless, other]
  | cons d more => simp [harmless, other]

/-- With its backslashes doubled every text is harmless: each backslash takes another one with it, and
none is left for a mark or for the end. -/
theorem harmless_doubleChar (slash : delimiter ≠ '\\') (content : List Char) :
    harmless delimiter (doubleChar '\\' content) = true := by
  induction content with
  | nil => rfl
  | cons c rest ih =>
      by_cases same : c = '\\'
      · subst same
        rw [doubleChar_cons_self, harmless, if_pos (by simp), ih, Bool.and_true, bne_iff_ne]
        exact slash.symm
      · rw [doubleChar_cons_of_ne same, harmless_cons_of_ne same, ih]

/-- Where backslashes escape, a literal is harmless between its marks. -/
theorem Lexis.harmless_escaped {lexis : Lexis} (mark : isQuoteMark delimiter = true)
    (content : List Char) (escapes : lexis.backslashEscapes = true) :
    harmless delimiter (lexis.escaped content) = true := by
  rw [Lexis.escaped, if_pos escapes]
  exact harmless_doubleChar (ne_of_isQuoteMark mark).1 content

/-- A literal is opaque, whatever it stands for: in front of every text that does not go on with its
mark, its mask is the blanked literal and then the mask of the text alone, and its comment mask is the
literal as it stands and then the comment mask of the text alone. -/
theorem literal_opaque (lexis : Lexis) (content : List Char) {text : List Char}
    (mark : delimiter ∈ ['\x27', '\x22', '\x60']) (apart : text.head? ≠ some delimiter) :
    lexis.mask (lexis.literal delimiter content ++ text) =
        (lexis.literal delimiter content).map blank ++ lexis.mask text ∧
      lexis.commentMask (lexis.literal delimiter content ++ text) =
        lexis.literal delimiter content ++ lexis.commentMask text := by
  have quoteMark : isQuoteMark delimiter = true := by
    simpa [isQuoteMark, or_assoc] using mark
  have token : lexis.Opaque (lexis.literal delimiter content) text :=
    Lexis.opaque_quoteWith quoteMark (Lexis.harmless_escaped quoteMark content) apart
  exact ⟨token.mask, token.kept⟩

/-- A literal that holds its own mark behind a backslash, a line feed and an open comment, in front of
a comment. -/
theorem literal_opaque_of_backslash :
    '\x27' ∈ ['\x27', '\x22', '\x60'] ∧ " -- x".toList.head? ≠ some '\x27' ∧
      (Lexis.ofDialect .mysql).mask ("'a\\\\''\n/*'".toList ++ " -- x".toList) =
        "'a\\\\''\n/*'".toList.map blank ++ (Lexis.ofDialect .mysql).mask " -- x".toList ∧
      (Lexis.ofDialect .mysql).commentMask ("'a\\\\''\n/*'".toList ++ " -- x".toList) =
        "'a\\\\''\n/*'".toList ++ (Lexis.ofDialect .mysql).commentMask " -- x".toList := by
  have mark : '\x27' ∈ ['\x27', '\x22', '\x60'] := by decide
  have apart : " -- x".toList.head? ≠ some '\x27' := by decide
  have spelled : (Lexis.ofDialect .mysql).literal '\x27' "a\\'\n/*".toList =
      "'a\\\\''\n/*'".toList := by decide
  have hidden := literal_opaque (Lexis.ofDialect .mysql) "a\\'\n/*".toList mark apart
  rw [spelled] at hidden
  exact ⟨mark, apart, hidden⟩

end QueryDesk.Sql
