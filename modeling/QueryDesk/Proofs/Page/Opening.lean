/-
Module: QueryDesk.Proofs.Page.Opening
Purpose: The keyword that a query opens with. A query that the gate lets through opens with word characters
  behind its blanks whose upper case begins with a keyword of a read. No clause begins in front of them
  or inside of them, so that all edits stand behind them and the bounded query opens with them, too.
Imports: QueryDesk.Sql.Surface, QueryDesk.Proofs.Page.Steady, QueryDesk.Proofs.Text.UpperCase
Main exports: Leads, Opens, isRead_iff, Opens.plan_behind, boundEdits_behind, isRead_boundText
-/
import QueryDesk.Sql.Surface
import QueryDesk.Proofs.Page.Steady
import QueryDesk.Proofs.Text.UpperCase

namespace QueryDesk.Sql

open QueryDesk.Text

variable {word gap key rest text masked : List Char} {pattern : Pattern} {letter : Char}

/-- A text that has word characters behind some blanks. -/
structure Leads (gap key rest text : List Char) : Prop where
  split : text = gap ++ (key ++ rest)
  blank : ∀ c ∈ gap, isBlank c = true
  nonempty : key ≠ []
  words : ∀ c ∈ key, isWord c = true

/-- A text that opens, behind some blanks, with word characters whose upper case begins with a word. -/
structure Opens (word gap key rest text : List Char) : Prop extends Leads gap key rest text where
  short : key.length ≤ word.length
  reads : word <+: upper key

theorem isCapital_of_readKeyword {word : List Char} (member : word ∈ readKeywords) :
    word ≠ [] ∧ ∀ c ∈ word, isCapital c = true := by
  have all : readKeywords.all (fun word => !word.isEmpty && word.all isCapital) = true := by decide
  have here := List.all_eq_true.1 all word member
  simp only [Bool.and_eq_true, Bool.not_eq_true', List.isEmpty_eq_false_iff, List.all_eq_true] at here
  exact here

/-- A tail that is dropped up to a character that stays. -/
theorem rdropWhile_append_of_last {kind : Char → Bool} {front : List Char} (nonempty : front ≠ [])
    (stays : ∀ c ∈ front, kind c = false) (back : List Char) :
    (front ++ back).rdropWhile kind = front ++ back.rdropWhile kind := by
  induction front with
  | nil => exact absurd rfl nonempty
  | cons c more ih =>
      have head : kind c = false := stays c (by simp)
      rw [List.cons_append, rdropWhile_cons, List.cons_append]
      by_cases last : more = []
      · subst last
        by_cases gone : back.rdropWhile kind = [] <;> simp [gone, head]
      · have behind := ih last fun d member => stays d (by simp [member])
        rw [behind, if_neg (by simp [last])]

theorem rdropWhile_append_of_kept {kind : Char → Bool} (front : List Char) {back : List Char}
    (kept : back.rdropWhile kind ≠ []) :
    (front ++ back).rdropWhile kind = front ++ back.rdropWhile kind := by
  induction front with
  | nil => rfl
  | cons c more ih => rw [List.cons_append, rdropWhile_cons, ih, if_neg (by simp [kept]), List.cons_append]

theorem not_terminator_of_isWord {c : Char} (is_word : isWord c = true) : isTerminator c = false := by
  have semicolon : c ≠ ';' := by
    rintro rfl
    exact absurd is_word (by decide)
  simp [isTerminator, isBlank_eq_false_of_isWord is_word, semicolon]

/-- The gate lets a text through exactly if it opens with a keyword of a read. -/
theorem isRead_iff : isRead text = true ↔ ∃ word ∈ readKeywords, ∃ gap key rest,
    Opens word gap key rest text := by
  simp only [isRead, List.any_eq_true, List.isPrefixOf_iff_prefix]
  constructor
  · rintro ⟨word, member, begins⟩
    obtain ⟨nonempty, capitals⟩ := isCapital_of_readKeyword member
    obtain ⟨key, rest, split, some_key, short, words, reads⟩ :=
      exists_key_of_upper nonempty capitals begins
    refine ⟨word, member, text.takeWhile isBlank, key,
      rest ++ (text.dropWhile isBlank).drop (key ++ rest).length, ⟨?_, ?_, some_key, words⟩, short, reads⟩
    · -- What was trimmed at the end stands behind what was kept.
      have kept : key ++ rest <+: text.dropWhile isBlank := by
        rw [← split, trim, trimStart, trimEnd_eq_rdropWhile]
        exact List.rdropWhile_prefix _ _
      obtain ⟨dropped, whole⟩ := kept
      rw [← List.append_assoc key, ← whole, List.drop_left, whole,
        List.takeWhile_append_dropWhile]
    · exact fun c inside => List.mem_takeWhile_imp inside
  · rintro ⟨word, member, gap, key, rest, opens⟩
    refine ⟨word, member, ?_⟩
    have trimmed : trim text = key ++ rest.rdropWhile isBlank := by
      obtain ⟨c, more, rfl⟩ := List.exists_cons_of_ne_nil opens.nonempty
      rw [trim, trimStart, opens.split, List.dropWhile_append_of_pos opens.blank, List.cons_append,
        List.dropWhile_cons_of_neg (by simp [isBlank_eq_false_of_isWord (opens.words c (by simp))]),
        ← List.cons_append, trimEnd_eq_rdropWhile]
      exact rdropWhile_append_of_last opens.nonempty
        (fun d inside => isBlank_eq_false_of_isWord (opens.words d inside)) rest
    rw [trimmed, upper, List.flatMap_append]
    exact opens.reads.trans (List.prefix_append _ _)

theorem Leads.isCalm (leads : Leads gap key rest text) : ∀ c ∈ gap ++ key, isCalm c = true := by
  intro c member
  rcases List.mem_append.1 member with early | late
  · exact isCalm_of_isBlank (leads.blank c early)
  · exact isCalm_of_isWord (leads.words c late)

/-- The first character of the keyword has the first letter of the word for its upper case, if a clause
can begin with it. -/
theorem Opens.head_of_fold (opens : Opens word gap key rest text) {c : Char} {more : List Char}
    (split : key = c :: more) (fold : foldKeyword c ∈ clauseLetters) (some_word : word ≠ []) :
    word.head? = some (foldKeyword c).toUpper := by
  obtain ⟨w, tail, rfl⟩ := List.exists_cons_of_ne_nil some_word
  obtain ⟨after, whole⟩ := opens.reads
  have image : upper key = (foldKeyword c).toUpper :: upper more := by
    rw [split, upper, List.flatMap_cons, upperChar_of_foldKeyword fold]
    rfl
  rw [image, List.cons_append, List.cons.injEq] at whole
  rw [List.head?_cons, whole.1]

/-! ### Clauses behind the keyword

A clause begins with its keyword and at the beginning of a word, and the leading keyword is all one word. So
a clause begins behind it, or at its head, for which both have to begin with the same letter. -/

/-- Where a clause begins in a text: at the leading keyword, or further behind it. -/
theorem Opens.place_of_matched (opens : Opens word gap key rest masked) (keyed : Keyed pattern letter)
    {front back : List Char} {found : Match} (split : masked = front ++ back)
    (matched : pattern (lastBefore none front) back = some found) :
    (gap ++ key).length < front.length ∨
      front.length = gap.length ∧ ∃ c more, key = c :: more ∧ foldKeyword c = letter := by
  obtain ⟨begins, c, tail, rfl, fold⟩ := keyed.begins matched
  rcases Nat.lt_trichotomy front.length (gap ++ key).length with inside | directly | behind
  · right
    have whole : (gap ++ key) ++ rest = front ++ c :: tail := by
      rw [List.append_assoc, ← opens.split, split]
    obtain ⟨part, same⟩ : ∃ part, gap ++ key = front ++ c :: part := by
      rcases List.append_eq_append_iff.1 whole with ⟨part, longer, -⟩ | ⟨part, same, more⟩
      · have size := congrArg List.length longer
        rw [List.length_append] at size
        omega
      · cases part with
        | nil =>
            rw [same, List.append_nil] at inside
            omega
        | cons d part =>
            rw [List.cons_append, List.cons.injEq] at more
            exact ⟨part, by rw [same, ← more.1]⟩
    rcases List.append_eq_append_iff.1 same with ⟨part', rfl, shape⟩ | ⟨part', shape, more⟩
    · -- The clause begins in the keyword, and so at its head, since the character before it is a word's.
      have none_before : part' = [] := by
        by_contra some_before
        rw [lastBefore_append, wordBegins_of_isWord some_before fun d member =>
          opens.words d (by rw [shape]; simp [member])] at begins
        cases begins
      subst none_before
      exact ⟨by simp, c, part, by simpa using shape, fold⟩
    · cases part' with
      | nil =>
          rw [List.append_nil] at shape
          exact ⟨by rw [shape], c, part, by simpa using more.symm, fold⟩
      | cons d part' =>
          rw [List.cons_append, List.cons.injEq] at more
          have blank : isBlank c = true := opens.blank c (by rw [shape, more.1]; simp)
          exact absurd fold (keyed.fold_ne_of_isBlank blank)
  · -- No word begins directly behind a word.
    have whole : (gap ++ key) ++ rest = front ++ c :: tail := by
      rw [List.append_assoc, ← opens.split, split]
    obtain rfl : gap ++ key = front := (List.append_inj whole directly.symm).1
    rw [lastBefore_append, wordBegins_of_isWord opens.nonempty opens.words] at begins
    cases begins
  · exact .inl behind

/-- A clause that begins with another letter than the word stands behind the leading keyword. -/
theorem Opens.lt_of_matched (opens : Opens word gap key rest masked) (some_word : word ≠ [])
    (keyed : Keyed pattern letter) (clause : letter ∈ clauseLetters)
    (other : word.head? ≠ some letter.toUpper) {front back : List Char} {found : Match}
    (split : masked = front ++ back) (matched : pattern (lastBefore none front) back = some found) :
    (gap ++ key).length < front.length := by
  rcases opens.place_of_matched keyed split matched with behind | ⟨-, c, more, shape, fold⟩
  · exact behind
  · refine absurd ?_ other
    rw [← fold]
    exact opens.head_of_fold shape (fold ▸ clause) some_word

theorem Opens.lt_lastTopLevel? (opens : Opens word gap key rest masked) (some_word : word ≠ [])
    (keyed : Keyed pattern letter) (clause : letter ∈ clauseLetters)
    (other : word.head? ≠ some letter.toUpper) {hit : Hit}
    (last : lastTopLevel? pattern masked = some hit) : (gap ++ key).length < hit.start := by
  obtain ⟨front, back, found, split, isLast, rfl⟩ := (lastTopLevel?_eq_some_iff keyed).1 last
  exact opens.lt_of_matched some_word keyed clause other split isLast.matched

/-- The keywords of reads that a clause letter begins: only an S does. -/
theorem head_of_readKeyword {word : List Char} (member : word ∈ readKeywords) :
    word.head? ≠ some 'L' ∧ word.head? ≠ some 'T' ∧ word.head? ≠ some 'O' ∧ word.head? ≠ some 'F' ∧
      (word.head? = some 'S' → word.length ≤ 6) := by
  have all : readKeywords.all (fun word => word.head? != some 'L' && word.head? != some 'T' &&
      word.head? != some 'O' && word.head? != some 'F' &&
      (word.head? != some 'S' || decide (word.length ≤ 6))) = true := by decide
  have here := List.all_eq_true.1 all word member
  simp only [Bool.and_eq_true, bne_iff_ne, Bool.or_eq_true, decide_eq_true_eq] at here
  obtain ⟨⟨⟨⟨l, t⟩, o⟩, f⟩, s⟩ := here
  exact ⟨l, t, o, f, fun head => s.resolve_left (absurd head)⟩

/-- A SELECT head ends behind the leading keyword. -/
theorem Opens.le_head_stop (opens : Opens word gap key rest masked) (member : word ∈ readKeywords)
    {hit : Hit} (found : firstTopLevel? selectHead masked = some hit) :
    (gap ++ key).length ≤ hit.stop := by
  obtain ⟨front, back, found, split, -, matched, rfl⟩ :=
    exists_split_of_firstTopLevel? found keyed_selectHead
  rcases opens.place_of_matched keyed_selectHead split matched with behind | ⟨place, c, more, shape, fold⟩
  · exact Nat.le_trans behind.le (Nat.le_add_right _ _)
  · have head := opens.head_of_fold shape (by rw [fold]; decide) (isCapital_of_readKeyword member).1
    rw [fold] at head
    have short := (head_of_readKeyword member).2.2.2.2 head
    obtain ⟨-, select, more', after, spelled, -, -, rfl⟩ := selectHead_eq_some matched
    have size := congrArg List.length spelled
    rw [List.length_map] at size
    change select.length = 6 at size
    have key_short := opens.short
    simp only [Match.at, List.length_append]
    omega

/-- An edit that stands behind a place, or at that place with a blank at its head. -/
def Edit.Behind (n : Nat) (edit : Edit) : Prop :=
  n < edit.span.start ∨ n ≤ edit.span.start ∧ edit.text.head? = some ' '

theorem Edit.Behind.le {n : Nat} {edit : Edit} (behind : edit.Behind n) : n ≤ edit.span.start :=
  behind.elim Nat.le_of_lt And.left

theorem planTop_behind {limit : Int} {top : Hit} {n : Nat}
    (last : lastTopLevel? topClause masked = some top) (behind : n < top.start) :
    ∀ edit ∈ planTop limit masked top, edit.Behind n := by
  unfold planTop
  cases group : top.group? 1 with
  | none => simp
  | some count =>
      have inside := placed_topClause.of_lastTopLevel? keyed_topClause last group
      intro edit member
      rw [List.mem_singleton.1 member]
      exact .inl (Nat.lt_of_lt_of_le behind inside.1)

theorem planFetch_behind {limit : Int} {fetch : Hit} {n : Nat}
    (last : lastTopLevel? fetchClause masked = some fetch) (behind : n < fetch.start) :
    ∀ edit ∈ planFetch limit masked fetch, edit.Behind n := by
  unfold planFetch
  cases group : fetch.group? 0 with
  | none => simp
  | some count =>
      have inside := placed_fetchClause.of_lastTopLevel? keyed_fetchClause last group
      intro edit member
      rw [List.mem_singleton.1 member]
      exact .inl (Nat.lt_of_lt_of_le behind inside.1)

theorem planExistingLimit_behind {limit offset : Int} {clauses : Clauses} {found : Hit} {n : Nat}
    (last : lastTopLevel? limitClause masked = some found) (behind : n < found.start) :
    ∀ edit ∈ planExistingLimit limit offset masked clauses found, edit.Behind n := by
  have place : ∀ index count, found.group? index = some count → n < count.start :=
    fun index count group => Nat.lt_of_lt_of_le behind
      (Placed.of_lastTopLevel? (placed_limitClause index) keyed_limitClause last group).1
  unfold planExistingLimit
  cases second : found.group? 1 with
  | some count =>
      intro edit member
      rw [List.mem_singleton.1 member]
      exact .inl (place 1 count second)
  | none =>
      cases first : found.group? 0 with
      | none => simp
      | some count =>
          intro edit member
          dsimp only at member
          split_ifs at member <;>
            (rw [List.mem_singleton.1 member]; exact .inl (place 0 count first))

theorem head?_fetchTail (limit offset : Int) (clauses : Clauses) :
    (fetchTail limit offset clauses).head? = some ' ' := by
  rw [fetchTail]
  split_ifs <;> rfl

theorem Opens.inside (opens : Opens word gap key rest masked) : (gap ++ key).length ≤ masked.length := by
  rw [opens.split]
  simp only [List.length_append]
  omega

theorem Opens.planLimit_behind (opens : Opens word gap key rest masked) (member : word ∈ readKeywords)
    (limit offset : Int) : ∀ edit ∈ planLimit limit offset masked, edit.Behind (gap ++ key).length := by
  obtain ⟨no_l, no_t, no_o, no_f, -⟩ := head_of_readKeyword member
  have some_word := (isCapital_of_readKeyword member).1
  have limit_behind : ∀ hit, lastTopLevel? limitClause masked = some hit → (gap ++ key).length < hit.start :=
    fun _ => opens.lt_lastTopLevel? some_word keyed_limitClause (by decide) no_l
  have top_behind : ∀ hit, lastTopLevel? topClause masked = some hit → (gap ++ key).length < hit.start :=
    fun _ => opens.lt_lastTopLevel? some_word keyed_topClause (by decide) no_t
  have offset_behind : ∀ hit, lastTopLevel? offsetKeyword masked = some hit → (gap ++ key).length < hit.start :=
    fun _ => opens.lt_lastTopLevel? some_word keyed_offsetKeyword (by decide) no_o
  have fetch_behind : ∀ hit, lastTopLevel? fetchClause masked = some hit → (gap ++ key).length < hit.start :=
    fun _ => opens.lt_lastTopLevel? some_word keyed_fetchClause (by decide) no_f
  unfold planLimit
  dsimp only [Clauses.ofMask]
  cases existing : lastTopLevel? limitClause masked with
  | some found => exact planExistingLimit_behind existing (limit_behind _ existing)
  | none =>
      cases top : lastTopLevel? topClause masked with
      | some found => exact planTop_behind top (top_behind _ top)
      | none =>
          cases fetch : lastTopLevel? fetchClause masked with
          | some found =>
              intro edit member
              rcases List.mem_append.1 member with lead | clamp
              · split_ifs at lead
                · rw [List.mem_singleton.1 lead]
                  exact .inl (fetch_behind _ fetch)
                · cases lead
              · exact planFetch_behind fetch (fetch_behind _ fetch) edit clamp
          | none =>
              cases keyword : lastTopLevel? offsetKeyword masked with
              | some found =>
                  intro edit member
                  rw [List.mem_singleton.1 member]
                  exact .inl (offset_behind _ keyword)
              | none =>
                  intro edit member
                  rw [List.mem_singleton.1 member]
                  exact .inr ⟨opens.inside, by simp [Edit.insertAt]⟩

theorem Opens.planSqlServer_behind (opens : Opens word gap key rest masked) (member : word ∈ readKeywords)
    (limit offset : Int) : ∀ edit ∈ planSqlServer limit offset masked, edit.Behind (gap ++ key).length := by
  obtain ⟨-, no_t, -, no_f, -⟩ := head_of_readKeyword member
  have some_word := (isCapital_of_readKeyword member).1
  have top_behind : ∀ hit, lastTopLevel? topClause masked = some hit → (gap ++ key).length < hit.start :=
    fun _ => opens.lt_lastTopLevel? some_word keyed_topClause (by decide) no_t
  have fetch_behind : ∀ hit, lastTopLevel? fetchClause masked = some hit → (gap ++ key).length < hit.start :=
    fun _ => opens.lt_lastTopLevel? some_word keyed_fetchClause (by decide) no_f
  unfold planSqlServer
  dsimp only [Clauses.ofMask]
  cases top : lastTopLevel? topClause masked with
  | some found => exact planTop_behind top (top_behind _ top)
  | none =>
      cases fetch : lastTopLevel? fetchClause masked with
      | some found => exact planFetch_behind fetch (fetch_behind _ fetch)
      | none =>
          dsimp only
          intro edit member
          split_ifs at member
          · cases head : firstTopLevel? selectHead masked with
            | none =>
                rw [head] at member
                cases member
            | some hit =>
                rw [head] at member
                rw [List.mem_singleton.1 member]
                exact .inr ⟨opens.le_head_stop (by assumption) head, by simp [Edit.insertAt]⟩
          · rw [List.mem_singleton.1 member]
            exact .inr ⟨opens.inside, head?_fetchTail limit offset _⟩

/-- All edits of a plan stand behind the leading keyword. -/
theorem Opens.plan_behind (opens : Opens word gap key rest masked) (member : word ∈ readKeywords)
    (dialect : Dialect) (limit offset : Int) :
    ∀ edit ∈ plan dialect limit offset masked, edit.Behind (gap ++ key).length := by
  cases dialect with
  | sqlserver => exact opens.planSqlServer_behind member limit offset
  | postgres | mysql | sqlite | generic => exact opens.planLimit_behind member limit offset

/-- The mask of the statement opens as the text does. -/
theorem Leads.statementMask (leads : Leads gap key rest text) (lexis : Lexis) :
    ∃ n, Leads gap key ((lexis.mask rest).take n) (statementMask lexis text) ∧
      (gap ++ key).length ≤ (Extent.ofMask (lexis.commentMask text)).body := by
  have whole : text = (gap ++ key) ++ rest := by rw [leads.split, List.append_assoc]
  have shown : ∀ hidden : Mark → Bool, hidden .plain = false →
      lexis.hideFrom hidden .plain text = (gap ++ key) ++ lexis.hideFrom hidden .plain rest := by
    intro hidden plain
    conv_lhs => rw [whole]
    exact Lexis.hideFrom_calm_append plain leads.isCalm rest
  have body : (gap ++ key).length ≤ (Extent.ofMask (lexis.commentMask text)).body := by
    rw [Extent.ofMask_eq, Lexis.commentMask, shown _ rfl, List.append_assoc]
    have kept := rdropWhile_append_of_last leads.nonempty
      (fun c member => not_terminator_of_isWord (leads.words c member))
      (lexis.hideFrom Mark.isComment .plain rest)
    have some_kept : (key ++ lexis.hideFrom Mark.isComment .plain rest).rdropWhile isTerminator ≠ [] := by
      rw [kept]
      simp [leads.nonempty]
    dsimp only
    rw [rdropWhile_append_of_kept gap some_kept, kept, ← List.append_assoc,
      @List.length_append _ (gap ++ key)]
    exact Nat.le_add_right _ _
  refine ⟨(Extent.ofMask (lexis.commentMask text)).body - (gap ++ key).length,
    ⟨?_, leads.blank, leads.nonempty, leads.words⟩, body⟩
  rw [QueryDesk.Sql.statementMask, Lexis.mask, shown _ rfl, List.take_append,
    List.take_of_length_le body, List.append_assoc]
  rfl

/-- All edits that bound a text stand behind its leading keyword. -/
theorem boundEdits_behind (opens : Opens word gap key rest text) (member : word ∈ readKeywords)
    (dialect : Dialect) (limit offset : Int) :
    ∀ edit ∈ boundEdits dialect limit offset text, (gap ++ key).length ≤ edit.span.start := by
  obtain ⟨n, leads, body⟩ := opens.toLeads.statementMask (Lexis.ofDialect dialect)
  have masked : Opens word gap key _ _ := ⟨leads, opens.short, opens.reads⟩
  unfold boundEdits
  dsimp only
  split_ifs
  · simp
  · intro edit inside
    rcases List.mem_append.1 inside with planned | removal
    · exact (masked.plan_behind member dialect limit offset edit planned).le
    · rw [List.mem_singleton.1 removal]
      exact body

/-- Edits that stand behind a front leave it as it is. -/
theorem applyAll_behind {front back : List Char} {edits : List Edit}
    (behind : ∀ edit ∈ edits, front.length ≤ edit.span.start) :
    ∃ back', Edit.applyAll edits (front ++ back) = front ++ back' := by
  cases edits with
  | nil => exact ⟨back, rfl⟩
  | cons edit more =>
      have first := behind edit (by simp)
      rw [Edit.applyAll, Edit.applyFrom, Nat.sub_zero, List.take_append,
        List.take_of_length_le first, List.append_assoc, List.append_assoc]
      exact ⟨_, rfl⟩

/-- A query that the gate lets through is let through when it is bounded, whatever its dialect. -/
theorem isRead_boundText (dialect : Dialect) (limit offset : Int) (reads : isRead text = true) :
    isRead (boundText dialect limit offset text) = true := by
  obtain ⟨word, member, gap, key, rest, opens⟩ := isRead_iff.1 reads
  have behind := boundEdits_behind opens member dialect limit offset
  obtain ⟨rest', kept⟩ := @applyAll_behind (gap ++ key) rest _ behind
  rw [List.append_assoc, ← opens.split, ← boundText_eq_applyAll] at kept
  exact isRead_iff.2 ⟨word, member, gap, key, rest',
    ⟨by rw [kept, List.append_assoc], opens.blank, opens.nonempty, opens.words⟩, opens.short, opens.reads⟩

end QueryDesk.Sql
