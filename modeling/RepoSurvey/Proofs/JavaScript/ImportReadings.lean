import RepoSurvey.JavaScript.Imports
import RepoSurvey.Proofs.JavaScript.Parameters
import RepoSurvey.Proofs.Text.Scanning

/-!
# What the import patterns read

Three patterns look for imports: statements with a clause, statements without one, and
declarations whose value is a call of `require`. What each of them reads is said here in
terms of the text alone (`reads_importFrom`, `reads_importBare`, `reads_requireCall`).

Two things follow. A reading meets certain characters before others (`StartsImport.first_mark`
and its kin), so a scan passes over texts in which they come in another order. And a text that
is printed with single blanks is read in one way only (`importFrom_takes`, `importBare_takes`,
`requireCall_takes`): the clause cannot give blanks to the gaps around it, and the word `type`
in front of it is no mark, when no gap follows.
-/

namespace RepoSurvey.JavaScript

open Text (Pattern isBlank isWordChar isWordOrDollar)

variable {before piece after rest : List Char} {caps caps' : Text.Pieces} {number : Nat}

/-! ## Gaps and quoted texts -/

/-- At least one blank, and nothing else. -/
def IsGap (cs : List Char) : Prop :=
  cs ≠ [] ∧ ∀ c ∈ cs, isBlank c = true

theorem reads_gap :
    gap.Reads before piece after caps caps' ↔ IsGap piece ∧ caps' = caps := by
  rw [gap, Pattern.reads_some1, IsGap]
  tauto

theorem reads_blanks :
    blanks.Reads before piece after caps caps' ↔ (∀ c ∈ piece, isBlank c = true) ∧ caps' = caps :=
  Pattern.reads_many

theorem isGap_space : IsGap [' '] :=
  ⟨List.cons_ne_nil _ _, by decide⟩

theorem IsGap.exists_cons {cs : List Char} (gap : IsGap cs) :
    ∃ b more, cs = b :: more ∧ isBlank b = true := by
  obtain ⟨nonempty, blank⟩ := gap
  obtain ⟨b, more, rfl⟩ := List.exists_cons_of_ne_nil nonempty
  exact ⟨b, more, rfl, blank b List.mem_cons_self⟩

/-- A text in quotes. -/
structure QuotedText where
  /-- The quote in front. -/
  opens : Char
  /-- What stands between the quotes. -/
  text : List Char
  /-- The quote behind. -/
  closes : Char
  isQuote_opens : isQuote opens = true
  isQuote_closes : isQuote closes = true
  some_text : text ≠ []
  unquoted : ∀ c ∈ text, isQuote c = false

namespace QuotedText

/-- The text with its quotes. -/
def chars (q : QuotedText) : List Char :=
  q.opens :: (q.text ++ [q.closes])

/-- The first text in quotes can be told from what stands in front of it. -/
theorem inj {q q' : QuotedText} {front front' : List Char}
    (free : ∀ c ∈ front, isQuote c = false) (free' : ∀ c ∈ front', isQuote c = false)
    (same : front ++ (q.chars ++ after) = front' ++ (q'.chars ++ rest)) :
    front = front' ∧ q.chars = q'.chars ∧ q.text = q'.text ∧ after = rest := by
  simp only [chars, List.cons_append, List.append_assoc, List.nil_append] at same
  obtain ⟨fronts, opens, inner⟩ :=
    Text.append_cons_inj_of_class free free' q.isQuote_opens q'.isQuote_opens same
  obtain ⟨texts, closes, rests⟩ :=
    Text.append_cons_inj_of_class q.unquoted q'.unquoted q.isQuote_closes q'.isQuote_closes inner
  exact ⟨fronts, by rw [chars, chars, opens, texts, closes], texts, rests⟩

end QuotedText

theorem reads_quoted : (quoted number).Reads before piece after caps caps' ↔
    ∃ q : QuotedText, piece = q.chars ∧ caps' = (number, q.text) :: caps := by
  constructor
  · rintro ⟨_, _, _, rfl, ⟨⟨o, rfl, quote⟩, rfl⟩, _, _, _, rfl, ⟨_, inner, rfl⟩, ⟨c, rfl, quote'⟩,
      rfl⟩
    obtain ⟨free, nonempty, rfl⟩ := Pattern.reads_some1.mp inner
    refine ⟨⟨o, _, c, quote, quote', nonempty, fun c mem => ?_⟩, rfl, rfl⟩
    rw [← Bool.not_eq_true', free c mem]
  · rintro ⟨q, rfl, rfl⟩
    have inner : ∀ c ∈ q.text, (!isQuote c) = true := by
      intro c mem
      rw [q.unquoted c mem]
      rfl
    exact ⟨[q.opens], q.text ++ [q.closes], caps, rfl, ⟨⟨_, rfl, q.isQuote_opens⟩, rfl⟩,
      q.text, [q.closes], _, rfl, ⟨caps, Pattern.reads_some1.mpr ⟨inner, q.some_text, rfl⟩, rfl⟩,
      ⟨_, rfl, q.isQuote_closes⟩, rfl⟩

/-! ## Imports with a clause -/

/-- What stands in front of the module in an import with this clause. -/
def IsClauseFront (front clause : List Char) : Prop :=
  ∃ first mark second third,
    front = "import".toList ++
      (first ++ (mark ++ (clause ++ (second ++ ("from".toList ++ third))))) ∧
    IsGap first ∧ (mark = [] ∨ ∃ space, mark = "type".toList ++ space ∧ IsGap space) ∧
    (clause ≠ [] ∧ ∀ c ∈ clause, isClausePart c = true) ∧ IsGap second ∧ IsGap third

theorem reads_mark :
    (Pattern.optional (.seq (.literal "type") gap)).Reads before piece after caps caps' ↔
      (piece = [] ∨ ∃ space, piece = "type".toList ++ space ∧ IsGap space) ∧ caps' = caps := by
  rw [Pattern.optional]
  constructor
  · rintro (⟨_, space, _, rfl, word, blank⟩ | ⟨rfl, rfl⟩)
    · obtain ⟨rfl, rfl⟩ := Pattern.reads_literal.mp word
      obtain ⟨wide, rfl⟩ := reads_gap.mp blank
      exact ⟨.inr ⟨space, rfl, wide⟩, rfl⟩
    · exact ⟨.inl rfl, rfl⟩
  · rintro ⟨rfl | ⟨space, rfl, wide⟩, rfl⟩
    · exact .inr ⟨rfl, rfl⟩
    · exact .inl ⟨_, _, _, rfl, Pattern.reads_literal.mpr ⟨rfl, rfl⟩, reads_gap.mpr ⟨wide, rfl⟩⟩

theorem reads_clause :
    (Pattern.capture number (.fewest1 isClausePart)).Reads before piece after caps caps' ↔
      (piece ≠ [] ∧ ∀ c ∈ piece, isClausePart c = true) ∧ caps' = (number, piece) :: caps := by
  constructor
  · rintro ⟨_, ⟨⟨all, long, -⟩, rfl⟩, rfl⟩
    exact ⟨⟨List.ne_nil_of_length_pos long, all⟩, rfl⟩
  · rintro ⟨⟨nonempty, all⟩, rfl⟩
    exact ⟨caps, ⟨⟨all, List.length_pos_iff.mpr nonempty, nofun⟩, rfl⟩, rfl⟩

/-- A word stands at an edge when none stands in front of it. -/
theorem edge_of_word {word : String} (letter : word.toList.head?.any isWordChar = true) :
    before.getLast?.any isWordChar ≠ (word.toList ++ rest).head?.any isWordChar ↔
      before.getLast?.any isWordChar = false := by
  obtain ⟨c, first, starts⟩ := (Option.any_eq_true _ _).mp letter
  obtain ⟨more, letters⟩ := List.head?_eq_some_iff.mp first
  rw [letters, List.cons_append, List.head?_cons, Option.any_some, starts, ne_eq,
    Bool.not_eq_true]

theorem reads_importFrom : importFrom.Reads before piece after [] caps ↔
    before.getLast?.any isWordChar = false ∧ ∃ front clause, ∃ q : QuotedText,
      piece = front ++ q.chars ∧ IsClauseFront front clause ∧
        caps = [(2, q.text), (1, clause)] := by
  constructor
  · rintro ⟨_, _, _, rfl, ⟨edge, rfl, rfl⟩, _, _, _, rfl, word, first, _, _, rfl, gap₁, mark, _, _,
      rfl, optional, clause, _, _, rfl, run, second, _, _, rfl, gap₂, _, _, _, rfl, word', third,
      _, _, rfl, gap₃, quotes⟩
    obtain ⟨rfl, rfl⟩ := Pattern.reads_literal.mp word
    obtain ⟨wide₁, rfl⟩ := reads_gap.mp gap₁
    obtain ⟨marked, rfl⟩ := reads_mark.mp optional
    obtain ⟨within, rfl⟩ := reads_clause.mp run
    obtain ⟨wide₂, rfl⟩ := reads_gap.mp gap₂
    obtain ⟨rfl, rfl⟩ := Pattern.reads_literal.mp word'
    obtain ⟨wide₃, rfl⟩ := reads_gap.mp gap₃
    obtain ⟨q, rfl, rfl⟩ := reads_quoted.mp quotes
    refine ⟨?_, _, clause, q, ?_, ⟨first, mark, second, third, rfl, wide₁, marked, within, wide₂,
      wide₃⟩, rfl⟩
    · rw [List.append_assoc] at edge
      exact (edge_of_word (by decide)).mp edge
    · simp only [List.append_assoc, List.nil_append]
  · rintro ⟨edge, _, clause, q, rfl, ⟨first, mark, second, third, rfl, wide₁, marked, within, wide₂,
      wide₃⟩, rfl⟩
    simp only [List.append_assoc]
    refine ⟨[], _, [], (List.nil_append _).symm, ⟨?_, rfl, rfl⟩,
      _, _, _, rfl, Pattern.reads_literal.mpr ⟨rfl, rfl⟩,
      _, _, _, rfl, reads_gap.mpr ⟨wide₁, rfl⟩, _, _, _, rfl, reads_mark.mpr ⟨marked, rfl⟩,
      _, _, _, rfl, reads_clause.mpr ⟨within, rfl⟩, _, _, _, rfl, reads_gap.mpr ⟨wide₂, rfl⟩,
      _, _, _, rfl, Pattern.reads_literal.mpr ⟨rfl, rfl⟩, _, _, _, rfl, reads_gap.mpr ⟨wide₃, rfl⟩,
      reads_quoted.mpr ⟨q, rfl, rfl⟩⟩
    rw [List.append_assoc]
    exact (edge_of_word (by decide)).mpr edge

/-! ## Imports without a clause -/

theorem reads_importBare : importBare.Reads before piece after [] caps ↔
    before.getLast?.any isWordChar = false ∧ ∃ space, ∃ q : QuotedText,
      piece = "import".toList ++ (space ++ q.chars) ∧ IsGap space ∧ caps = [(1, q.text)] := by
  constructor
  · rintro ⟨_, _, _, rfl, ⟨edge, rfl, rfl⟩, _, _, _, rfl, word, space, _, _, rfl, blank, quotes⟩
    obtain ⟨rfl, rfl⟩ := Pattern.reads_literal.mp word
    obtain ⟨wide, rfl⟩ := reads_gap.mp blank
    obtain ⟨q, rfl, rfl⟩ := reads_quoted.mp quotes
    rw [List.append_assoc] at edge
    exact ⟨(edge_of_word (by decide)).mp edge, space, q, List.nil_append _, wide, rfl⟩
  · rintro ⟨edge, space, q, rfl, wide, rfl⟩
    refine ⟨[], _, [], (List.nil_append _).symm, ⟨?_, rfl, rfl⟩, _, _, _, rfl,
      Pattern.reads_literal.mpr ⟨rfl, rfl⟩, _, _, _, rfl, reads_gap.mpr ⟨wide, rfl⟩,
      reads_quoted.mpr ⟨q, rfl, rfl⟩⟩
    rw [List.append_assoc]
    exact (edge_of_word (by decide)).mpr edge

/-! ## `require` calls -/

/-- What a `require` declaration binds: some members in braces, or one name. -/
def IsTarget (target : List Char) : Prop :=
  (∃ members, target = '{' :: (members ++ ['}']) ∧ '}' ∉ members) ∨
    ∃ first more, target = first :: more ∧ isNameStart first = true ∧
      ∀ c ∈ more, isWordOrDollar c = true

theorem reads_target : (Pattern.capture number (.alt (.sequence [.one (· == '{'), .many (· != '}'),
      .one (· == '}')]) name)).Reads before piece after caps caps' ↔
    IsTarget piece ∧ caps' = (number, piece) :: caps := by
  constructor
  · rintro ⟨_, ⟨_, _, _, rfl, ⟨⟨c, rfl, opens⟩, rfl⟩, members, _, _, rfl, inner, ⟨d, rfl, closes⟩,
      rfl⟩ | ⟨_, more, _, rfl, ⟨⟨c, rfl, starts⟩, rfl⟩, run⟩, rfl⟩
    · obtain ⟨other, rfl⟩ := Pattern.reads_many.mp inner
      rw [beq_iff_eq.mp opens, beq_iff_eq.mp closes]
      refine ⟨.inl ⟨members, rfl, fun mem => ?_⟩, rfl⟩
      exact bne_iff_ne.mp (other _ mem) rfl
    · obtain ⟨parts, rfl⟩ := Pattern.reads_many.mp run
      exact ⟨.inr ⟨c, more, rfl, starts, parts⟩, rfl⟩
  · rintro ⟨⟨members, rfl, free⟩ | ⟨first, more, rfl, starts, parts⟩, rfl⟩
    · refine ⟨caps, .inl ⟨['{'], members ++ ['}'], caps, rfl, ⟨⟨_, rfl, beq_self_eq_true _⟩, rfl⟩,
        members, ['}'], caps, rfl, Pattern.reads_many.mpr ⟨fun c mem => ?_, rfl⟩,
        ⟨_, rfl, beq_self_eq_true _⟩, rfl⟩, rfl⟩
      refine bne_iff_ne.mpr ?_
      rintro rfl
      exact free mem
    · exact ⟨caps, .inr ⟨[first], more, caps, rfl, ⟨⟨_, rfl, starts⟩, rfl⟩,
        Pattern.reads_many.mpr ⟨parts, rfl⟩⟩, rfl⟩

/-- The words that declare a variable. -/
def declarationWords : List String :=
  ["const", "let", "var"]

theorem isWordOrDollar_of_mem_declarationWord {word : String} (known : word ∈ declarationWords) :
    ∀ c ∈ word.toList, isWordOrDollar c = true := by
  have each : ∀ word ∈ declarationWords, ∀ c ∈ word.toList, isWordOrDollar c = true := by
    decide
  exact each word known

/-- A call of `require` with this text. -/
def IsCall (q : QuotedText) (text : List Char) : Prop :=
  ∃ inner outer, text = "require(".toList ++ (inner ++ (q.chars ++ (outer ++ [')']))) ∧
    (∀ c ∈ inner, isBlank c = true) ∧ ∀ c ∈ outer, isBlank c = true

/-- The text of a `require` declaration with this word and this target. -/
def IsRequire (word : String) (target : List Char) (q : QuotedText) (text : List Char) : Prop :=
  ∃ first second third call,
    text = word.toList ++ (first ++ (target ++ (second ++ '=' :: (third ++ call)))) ∧
    IsGap first ∧ (∀ c ∈ second, isBlank c = true) ∧ (∀ c ∈ third, isBlank c = true) ∧ IsCall q call

theorem reads_requireCall : requireCall.Reads before piece after [] caps ↔
    before.getLast?.any isWordChar = false ∧ ∃ word ∈ declarationWords, ∃ target,
      ∃ q : QuotedText, IsRequire word target q piece ∧ IsTarget target ∧
        caps = [(2, q.text), (1, target)] := by
  have letters : ∀ word ∈ declarationWords, word.toList.head?.any isWordChar = true := by
    decide
  constructor
  · rintro ⟨_, _, _, rfl, ⟨edge, rfl, rfl⟩, _, _, _, rfl, declared, first, _, _, rfl, gap₁, target,
      _, _, rfl, bound, second, _, _, rfl, blank₁, _, _, _, rfl, ⟨⟨c, rfl, equals⟩, rfl⟩,
      third, _, _, rfl, blank₂, _, _, _, rfl, call, fourth, _, _, rfl, blank₃, _, _, _, rfl, quotes,
      fifth, _, _, rfl, blank₄, ⟨d, rfl, closes⟩, rfl⟩
    obtain ⟨word, known, rfl, rfl⟩ := Pattern.reads_oneOf.mp declared
    obtain ⟨wide, rfl⟩ := reads_gap.mp gap₁
    obtain ⟨named, rfl⟩ := reads_target.mp bound
    obtain ⟨all₁, rfl⟩ := reads_blanks.mp blank₁
    obtain ⟨all₂, rfl⟩ := reads_blanks.mp blank₂
    obtain ⟨rfl, rfl⟩ := Pattern.reads_literal.mp call
    obtain ⟨all₃, rfl⟩ := reads_blanks.mp blank₃
    obtain ⟨q, rfl, rfl⟩ := reads_quoted.mp quotes
    obtain ⟨all₄, rfl⟩ := reads_blanks.mp blank₄
    rw [List.append_assoc] at edge
    refine ⟨(edge_of_word (letters word known)).mp edge, word, known, target, q,
      ⟨first, second, third, _, ?_, wide, all₁, all₂, fourth, fifth, rfl, all₃, all₄⟩, named, rfl⟩
    rw [beq_iff_eq.mp equals, beq_iff_eq.mp closes]
    rfl
  · rintro ⟨edge, word, known, target, q, ⟨first, second, third, _, rfl, wide, all₁, all₂, fourth,
      fifth, rfl, all₃, all₄⟩, named, rfl⟩
    refine ⟨[], _, [], (List.nil_append _).symm, ⟨?_, rfl, rfl⟩, _, _, _, rfl,
      Pattern.reads_oneOf.mpr ⟨word, known, rfl, rfl⟩, _, _, _, rfl, reads_gap.mpr ⟨wide, rfl⟩,
      _, _, _, rfl, reads_target.mpr ⟨named, rfl⟩, _, _, _, rfl, reads_blanks.mpr ⟨all₁, rfl⟩,
      ['='], _, _, rfl, ⟨⟨_, rfl, beq_self_eq_true _⟩, rfl⟩, _, _, _, rfl,
      reads_blanks.mpr ⟨all₂, rfl⟩, _, _, _, rfl, Pattern.reads_literal.mpr ⟨rfl, rfl⟩,
      _, _, _, rfl, reads_blanks.mpr ⟨all₃, rfl⟩, _, _, _, rfl, reads_quoted.mpr ⟨q, rfl, rfl⟩,
      _, _, _, rfl, reads_blanks.mpr ⟨all₄, rfl⟩, ⟨_, rfl, beq_self_eq_true _⟩, rfl⟩
    rw [List.append_assoc]
    exact (edge_of_word (letters word known)).mpr edge

/-! ## Where readings start -/

section

variable {marks kind : Char → Bool} {front : List Char} {x : Char}

/-- The first of a class stands behind a front that has none of it. -/
theorem any_find? (free : ∀ c ∈ front, marks c = false) (marked : marks x = true) :
    ((front ++ x :: rest).find? marks).any kind = kind x := by
  have none : front.find? marks = none :=
    List.find?_eq_none.mpr fun c mem => Bool.eq_false_iff.mp (free c mem)
  rw [List.find?_append, none, Option.none_or, List.find?_cons_of_pos marked, Option.any_some]

/-- The text of an import up to the quote in front of its module: its word, a blank, and what
may stand in a clause. -/
def StartsImport (read : List Char) : Prop :=
  ∃ b middle q rest, read = "import".toList ++ b :: (middle ++ q :: rest) ∧ isBlank b = true ∧
    (∀ c ∈ middle, isClausePart c = true) ∧ isQuote q = true

theorem isClausePart_of_isBlank {c : Char} (blank : isBlank c = true) : isClausePart c = true := by
  rw [isClausePart, blank, Bool.or_true, Bool.true_or]

theorem isClausePart_of_isQuote {c : Char} (quote : isQuote c = true) : isClausePart c = false := by
  rcases Bool.or_eq_true_iff.mp quote with same | same
  all_goals
    rw [beq_iff_eq.mp same]
    decide

theorem isQuote_of_isClausePart {c : Char} (part : isClausePart c = true) : isQuote c = false :=
  Text.apart_symm isClausePart_of_isQuote part

theorem isQuote_of_isBlank {c : Char} (blank : isBlank c = true) : isQuote c = false :=
  isQuote_of_isClausePart (isClausePart_of_isBlank blank)

theorem isBlank_of_isQuote {c : Char} (quote : isQuote c = true) : isBlank c = false :=
  Text.apart_symm isQuote_of_isBlank quote

theorem IsClauseFront.exists_eq {clause : List Char} (h : IsClauseFront front clause) :
    ∃ b middle, front = "import".toList ++ b :: middle ∧ isBlank b = true ∧
      ∀ c ∈ middle, isClausePart c = true := by
  obtain ⟨first, mark, second, third, rfl, wide₁, marked, ⟨-, parts⟩, ⟨-, blank₂⟩, ⟨-, blank₃⟩⟩ := h
  obtain ⟨b, more, rfl, blank⟩ := wide₁.exists_cons
  refine ⟨b, more ++ (mark ++ (clause ++ (second ++ ("from".toList ++ third)))), rfl, blank, ?_⟩
  have words : ∀ word ∈ ["type", "from"], ∀ c ∈ word.toList, isClausePart c = true := by
    decide
  have gapParts : ∀ {cs : List Char}, (∀ c ∈ cs, isBlank c = true) →
      ∀ c ∈ cs, isClausePart c = true :=
    fun blanks c mem => isClausePart_of_isBlank (blanks c mem)
  simp only [List.forall_mem_append]
  refine ⟨gapParts fun c mem => wide₁.2 c (List.mem_cons_of_mem b mem), ?_, parts, gapParts blank₂,
    words "from" (by simp), gapParts blank₃⟩
  rcases marked with rfl | ⟨space, rfl, wide⟩
  · exact List.forall_mem_nil _
  · exact List.forall_mem_append.mpr ⟨words "type" (by simp), gapParts wide.2⟩

theorem IsClauseFront.isClausePart {clause : List Char} (h : IsClauseFront front clause) :
    ∀ c ∈ front, isClausePart c = true := by
  obtain ⟨b, middle, rfl, blank, within⟩ := h.exists_eq
  have word : ∀ c ∈ "import".toList, isClausePart c = true := by decide
  exact List.forall_mem_append.mpr
    ⟨word, List.forall_mem_cons.mpr ⟨isClausePart_of_isBlank blank, within⟩⟩

theorem startsImport_of_reads_importFrom (reads : importFrom.Reads before piece after [] caps) :
    StartsImport piece := by
  obtain ⟨-, front, clause, q, rfl, parts, -⟩ := reads_importFrom.mp reads
  obtain ⟨b, middle, rfl, blank, within⟩ := parts.exists_eq
  refine ⟨b, middle, q.opens, q.text ++ [q.closes], ?_, blank, within, q.isQuote_opens⟩
  rw [QuotedText.chars, List.append_assoc, List.cons_append]

theorem startsImport_of_reads_importBare (reads : importBare.Reads before piece after [] caps) :
    StartsImport piece := by
  obtain ⟨-, space, q, rfl, wide, -⟩ := reads_importBare.mp reads
  obtain ⟨b, more, rfl, blank⟩ := wide.exists_cons
  refine ⟨b, more, q.opens, q.text ++ [q.closes], rfl, blank, fun c mem => ?_, q.isQuote_opens⟩
  exact isClausePart_of_isBlank (wide.2 c (List.mem_cons_of_mem b mem))

/-- The first character is that of the word. -/
theorem StartsImport.first {read : List Char} (h : StartsImport read) :
    (read.find? fun _ => true).any (· == 'i') = true := by
  obtain ⟨b, middle, q, rest, rfl, -⟩ := h
  exact any_find? (List.forall_mem_nil _) rfl

/-- The first character that cannot stand in a clause is a quote. -/
theorem StartsImport.first_mark {read : List Char} (h : StartsImport read) :
    (read.find? fun c => !isClausePart c).any isQuote = true := by
  obtain ⟨b, middle, q, rest, rfl, blank, within, quote⟩ := h
  have word : ∀ c ∈ "import".toList, isClausePart c = true := by decide
  have parts : ∀ c ∈ "import".toList ++ b :: middle, isClausePart c = true :=
    List.forall_mem_append.mpr
      ⟨word, List.forall_mem_cons.mpr ⟨isClausePart_of_isBlank blank, within⟩⟩
  have free : ∀ c ∈ "import".toList ++ b :: middle, (!isClausePart c) = false := by
    intro c mem
    rw [parts c mem]
    rfl
  have marked : (!isClausePart q) = true := by rw [isClausePart_of_isQuote quote]; rfl
  rw [← List.cons_append, ← List.append_assoc, any_find? free marked, quote]

/-- A blank comes before any quote. -/
theorem StartsImport.first_blank {read : List Char} (h : StartsImport read) :
    (read.find? fun c => isBlank c || isQuote c).any isBlank = true := by
  obtain ⟨b, middle, q, rest, rfl, blank, -⟩ := h
  have word : ∀ c ∈ "import".toList, (isBlank c || isQuote c) = false := by decide
  rw [any_find? word (by rw [blank, Bool.true_or]), blank]

/-- A reading with a clause meets the word `from`, or another letter `f`, before any quote. -/
theorem importFrom_leads_f :
    importFrom.Leads (fun c => isQuote c || c == 'f') (· == 'f') := by
  intro before read rest caps reads
  obtain ⟨-, front, clause, q, rfl, parts, -⟩ := reads_importFrom.mp reads
  have free : ∀ c ∈ front, isQuote c = false := fun c mem =>
    isQuote_of_isClausePart (parts.isClausePart c mem)
  obtain ⟨early, late, rfl⟩ : ∃ early late, front = early ++ 'f' :: late := by
    obtain ⟨first, mark, second, third, rfl, -⟩ := parts
    have word : "from".toList = 'f' :: "rom".toList := by decide
    refine ⟨"import".toList ++ (first ++ (mark ++ (clause ++ second))), "rom".toList ++ third, ?_⟩
    simp only [word, List.append_assoc, List.cons_append]
  rw [List.append_assoc, List.find?_append]
  cases met : early.find? fun c => isQuote c || c == 'f' with
  | none => rfl
  | some y =>
    -- a mark in front of that letter is no quote, so it is that letter too
    have marked := List.find?_some met
    rwa [free y (List.mem_append_left _ (List.mem_of_find?_eq_some met)), Bool.false_or] at marked

/-- A reading without a clause meets no such letter before the quote. -/
theorem importBare_leads_quote :
    importBare.Leads (fun c => isQuote c || c == 'f') isQuote := by
  intro before read rest caps reads
  obtain ⟨-, space, q, rfl, wide, -⟩ := reads_importBare.mp reads
  have word : ∀ c ∈ "import".toList, (isQuote c || c == 'f') = false := by decide
  have free : ∀ c ∈ "import".toList ++ space, (isQuote c || c == 'f') = false := by
    refine List.forall_mem_append.mpr ⟨word, fun c mem => ?_⟩
    have blank := wide.2 c mem
    rw [isQuote_of_isBlank blank, Bool.false_or]
    refine beq_eq_false_iff_ne.mpr ?_
    rintro rfl
    revert blank
    decide
  rw [QuotedText.chars, ← List.append_assoc,
    any_find? free (by rw [q.isQuote_opens, Bool.true_or]), q.isQuote_opens]

/-- A declaration starts as one of its words does. -/
theorem requireCall_leads_first :
    requireCall.Leads (fun _ => true) fun c => c == 'c' || c == 'l' || c == 'v' := by
  intro before read rest caps reads
  obtain ⟨-, word, known, target, q, ⟨_, _, _, _, rfl, -⟩, -⟩ := reads_requireCall.mp reads
  have initials : ∀ word ∈ declarationWords,
      (word.toList.find? fun _ => true).any (fun c => c == 'c' || c == 'l' || c == 'v') = true := by
    decide
  obtain ⟨c, met, initial⟩ := (Option.any_eq_true _ _).mp (initials word known)
  rw [List.find?_append, met, Option.some_or, Option.any_some, initial]

/-- A declaration has a blank before any quote. -/
theorem requireCall_leads_blank :
    requireCall.Leads (fun c => isBlank c || isQuote c) isBlank := by
  intro before read rest caps reads
  obtain ⟨-, word, known, target, q, ⟨_, _, _, _, rfl, wide, -⟩, -⟩ :=
    reads_requireCall.mp reads
  have words : ∀ word ∈ declarationWords, ∀ c ∈ word.toList, (isBlank c || isQuote c) = false := by
    decide
  obtain ⟨b, more, rfl, blank⟩ := wide.exists_cons
  rw [List.cons_append, any_find? (words word known) (by rw [blank, Bool.true_or]), blank]

/-- A character of names, or a blank. -/
def isSpaced (c : Char) : Bool :=
  isWordOrDollar c || isBlank c

theorem isSpaced_of_isBlank {c : Char} (blank : isBlank c = true) : isSpaced c = true := by
  rw [isSpaced, blank, Bool.or_true]

theorem isSpaced_of_isWordOrDollar {c : Char} (part : isWordOrDollar c = true) :
    isSpaced c = true := by
  rw [isSpaced, part, Bool.true_or]

theorem any_find?_not_isSpaced (spaced : ∀ c ∈ front, isSpaced c = true)
    (marked : isSpaced x = false) :
    ((front ++ x :: rest).find? fun c => !isSpaced c).any kind = kind x := by
  refine any_find? (fun c mem => ?_) (by rw [marked]; rfl)
  rw [spaced c mem]
  rfl

/-- Of what is neither a name nor a blank, a declaration meets its equals sign first, or the
brace that opens its target. -/
theorem requireCall_leads_sign :
    requireCall.Leads (fun c => !isSpaced c) fun c => c == '=' || c == '{' := by
  intro before read rest caps reads
  obtain ⟨-, word, known, target, q, ⟨first, second, _, _, rfl, wide, blank, -⟩, named, -⟩ :=
    reads_requireCall.mp reads
  have opening : ∀ c ∈ word.toList ++ first, isSpaced c = true :=
    List.forall_mem_append.mpr
      ⟨fun c mem => isSpaced_of_isWordOrDollar (isWordOrDollar_of_mem_declarationWord known c mem),
      fun c mem => isSpaced_of_isBlank (wide.2 c mem)⟩
  rw [← List.append_assoc]
  rcases named with ⟨members, rfl, -⟩ | ⟨c, more, rfl, starts, parts⟩
  · rw [List.cons_append, any_find?_not_isSpaced opening (by decide)]
    rfl
  · have whole : ∀ d ∈ word.toList ++ first ++ (c :: more ++ second), isSpaced d = true := by
      simp only [List.forall_mem_append, List.forall_mem_cons] at opening ⊢
      exact ⟨opening, ⟨isSpaced_of_isWordOrDollar (isWordOrDollar_of_isNameStart starts),
        fun d mem => isSpaced_of_isWordOrDollar (parts d mem)⟩,
        fun d mem => isSpaced_of_isBlank (blank d mem)⟩
    rw [← List.append_assoc (c :: more), ← List.append_assoc (word.toList ++ first),
      any_find?_not_isSpaced whole (by decide)]
    rfl

end

/-! ## Texts that are read in one way only -/

section

variable {space xs ys clause front : List Char} {b c d : Char}

/-- In front of a character that is no blank there is a gap of one blank only. -/
theorem eq_of_gap_start (wide : IsGap space) (kept : isBlank c = false)
    (same : b :: c :: xs = space ++ ys) : c :: xs = ys := by
  obtain ⟨nonempty, blank⟩ := wide
  obtain ⟨first, more, rfl⟩ := List.exists_cons_of_ne_nil nonempty
  obtain ⟨-, behind⟩ := List.cons.inj same
  cases more with
  | nil => exact behind
  | cons second more =>
    obtain ⟨rfl, -⟩ := List.cons.inj behind
    rw [blank c (by simp)] at kept
    cases kept

theorem eq_of_gap_end (wide : IsGap space) (kept : isBlank c = false)
    (same : xs ++ [c, b] = ys ++ space) : xs ++ [c] = ys := by
  have wide' : IsGap space.reverse :=
    ⟨mt List.reverse_eq_nil_iff.mp wide.1, fun d mem => wide.2 d (List.mem_reverse.mp mem)⟩
  have mirrored := congrArg List.reverse same
  rw [List.reverse_append, List.reverse_append] at mirrored
  have equal := eq_of_gap_start wide' kept mirrored
  rw [← List.reverse_inj, ← equal, List.reverse_append]
  rfl

/-- A clause as it is printed: no blanks at its ends, and not the word `type` in front. -/
structure IsClause (clause : List Char) : Prop where
  /-- It has the characters of a clause. -/
  parts : ∀ c ∈ clause, isClausePart c = true
  /-- It does not start with a blank. -/
  starts : ∃ c more, clause = c :: more ∧ isBlank c = false
  /-- It does not end with a blank. -/
  ends : ∃ init c, clause = init ++ [c] ∧ isBlank c = false
  /-- It does not start with the word `type` and a gap, whatever follows it. -/
  unmarked : ∀ {rest space more}, IsGap space → clause ++ rest ≠ "type".toList ++ (space ++ more)

/-- What is printed in front of the module of an import with this clause. -/
def clauseFront (clause : List Char) : List Char :=
  "import".toList ++ ([' '] ++ (clause ++ ([' '] ++ ("from".toList ++ [' ']))))

theorem IsClause.isClauseFront (h : IsClause clause) :
    IsClauseFront (clauseFront clause) clause := by
  obtain ⟨c, more, rfl, -⟩ := h.starts
  exact ⟨[' '], [], [' '], [' '], rfl, isGap_space, .inl rfl, ⟨List.cons_ne_nil c more, h.parts⟩,
    isGap_space, isGap_space⟩

/-- There is no other clause in it. -/
theorem IsClause.eq_of_isClauseFront {clause' : List Char} (h : IsClause clause)
    (other : IsClauseFront (clauseFront clause) clause') : clause' = clause := by
  obtain ⟨first, mark, second, third, same, wide₁, marked, -, wide₂, wide₃⟩ := other
  have whole := List.append_cancel_left same
  have unmarked : clause ++ ([' '] ++ ("from".toList ++ [' '])) =
      mark ++ (clause' ++ (second ++ ("from".toList ++ third))) := by
    obtain ⟨c, more, rfl, kept⟩ := h.starts
    exact eq_of_gap_start wide₁ kept whole
  have bare : clause ++ ([' '] ++ ("from".toList ++ [' '])) =
      clause' ++ (second ++ ("from".toList ++ third)) := by
    rcases marked with rfl | ⟨space, rfl, wide⟩
    · exact unmarked
    · rw [List.append_assoc] at unmarked
      exact absurd unmarked (h.unmarked wide)
  have word : "from".toList = "fro".toList ++ ['m'] := by decide
  have upto : clause ++ ([' '] ++ "from".toList) = clause' ++ (second ++ "from".toList) := by
    have ends := @eq_of_gap_end third (clause ++ ([' '] ++ "fro".toList))
      (clause' ++ (second ++ "from".toList)) ' ' 'm' wide₃ (by decide)
    simp only [List.append_assoc, word, List.cons_append, List.nil_append]
      at ends bare ⊢
    exact ends bare
  obtain ⟨init, c, rfl, kept⟩ := h.ends
  rw [← List.append_assoc, ← List.append_assoc] at upto
  have closing := List.append_cancel_right upto
  rw [List.append_assoc] at closing
  exact (eq_of_gap_end wide₂ kept closing).symm

/-- An import with a clause is taken as it is printed. -/
theorem importFrom_takes (h : IsClause clause) (q : QuotedText)
    (edge : before.getLast?.any isWordChar = false) :
    importFrom.Takes before (clauseFront clause ++ q.chars) after [(2, q.text), (1, clause)] where
  reads := reads_importFrom.mpr ⟨edge, _, clause, q, rfl, h.isClauseFront, rfl⟩
  only := by
    intro read rest caps same reads
    obtain ⟨-, front, clause', q', rfl, front_parts, rfl⟩ := reads_importFrom.mp reads
    rw [List.append_assoc, List.append_assoc] at same
    obtain ⟨rfl, chars, texts, -⟩ := QuotedText.inj
      (fun c mem => isQuote_of_isClausePart (h.isClauseFront.isClausePart c mem))
      (fun c mem => isQuote_of_isClausePart (front_parts.isClausePart c mem)) same
    rw [chars, texts, h.eq_of_isClauseFront front_parts]
    exact ⟨rfl, rfl⟩

/-- An import without a clause is taken as it is printed. -/
theorem importBare_takes (q : QuotedText) (edge : before.getLast?.any isWordChar = false) :
    importBare.Takes before ("import".toList ++ ([' '] ++ q.chars)) after [(1, q.text)] where
  reads := reads_importBare.mpr ⟨edge, [' '], q, rfl, isGap_space, rfl⟩
  only := by
    intro read rest caps same reads
    obtain ⟨-, space, q', rfl, wide, rfl⟩ := reads_importBare.mp reads
    simp only [List.append_assoc] at same
    obtain ⟨rfl, chars, texts, -⟩ := QuotedText.inj
      (fun c mem => isQuote_of_isBlank (isGap_space.2 c mem))
      (fun c mem => isQuote_of_isBlank (wide.2 c mem)) (List.append_cancel_left same)
    rw [chars, texts]
    exact ⟨rfl, rfl⟩

/-- Blanks that end where the blanks do are as many as any others there. -/
theorem blanks_inj {rest rest' : List Char} (blank : ∀ c ∈ xs, isBlank c = true)
    (blank' : ∀ c ∈ ys, isBlank c = true) (stop : rest.head?.any isBlank = false)
    (stop' : rest'.head?.any isBlank = false) (same : xs ++ rest = ys ++ rest') :
    xs = ys ∧ rest = rest' := by
  obtain rfl := Text.run_inj blank blank' stop stop' same
  exact ⟨rfl, List.append_cancel_left same⟩

/-- A call of `require` can be told from what follows it. -/
theorem IsCall.inj {q q' : QuotedText} {text text' : List Char} (h : IsCall q text)
    (h' : IsCall q' text') (same : text ++ after = text' ++ rest) :
    text = text' ∧ q.text = q'.text := by
  obtain ⟨inner, outer, rfl, blank, blank_out⟩ := h
  obtain ⟨inner', outer', rfl, blank', blank_out'⟩ := h'
  simp only [List.append_assoc] at same
  obtain ⟨rfl, chars, texts, behind⟩ := QuotedText.inj
    (fun c mem => isQuote_of_isBlank (blank c mem))
    (fun c mem => isQuote_of_isBlank (blank' c mem)) (List.append_cancel_left same)
  have closer (cs : List Char) : (')' :: cs).head?.any isBlank = false :=
    (by decide : isBlank ')' = false)
  obtain ⟨rfl, -⟩ := blanks_inj blank_out blank_out' (closer _) (closer _) behind
  rw [chars]
  exact ⟨rfl, texts⟩

theorem IsCall.stops {q : QuotedText} {text : List Char} (h : IsCall q text) :
    (text ++ rest).head?.any isBlank = false := by
  obtain ⟨inner, outer, rfl, -⟩ := h
  have word : "require(".toList = 'r' :: "equire(".toList := by decide
  rw [word]
  exact (by decide : isBlank 'r' = false)

theorem IsTarget.stops {target : List Char} (h : IsTarget target) :
    (target ++ rest).head?.any isBlank = false := by
  rcases h with ⟨members, rfl, -⟩ | ⟨first, more, rfl, starts, -⟩
  · exact (by decide : isBlank '\x7b' = false)
  · exact isBlank_of_isWordOrDollar (isWordOrDollar_of_isNameStart starts)

/-- A target ends with its brace, or where its name ends. -/
theorem IsTarget.inj {target target' rest rest' : List Char} (h : IsTarget target)
    (h' : IsTarget target') (stop : rest.head?.any isWordOrDollar = false)
    (stop' : rest'.head?.any isWordOrDollar = false) (same : target ++ rest = target' ++ rest') :
    target = target' ∧ rest = rest' := by
  have brace : isNameStart '\x7b' = false := by decide
  suffices target = target' by
    subst this
    exact ⟨rfl, List.append_cancel_left same⟩
  rcases h with ⟨members, rfl, free⟩ | ⟨first, more, rfl, starts, parts⟩ <;>
    rcases h' with ⟨members', rfl, free'⟩ | ⟨first', more', rfl, starts', parts'⟩
  · simp only [List.cons_append, List.append_assoc, List.nil_append, List.cons.injEq,
      true_and] at same
    rw [(Text.append_cons_inj free free' same).1]
  · rw [← (List.cons.inj same).1, brace] at starts'
    cases starts'
  · rw [(List.cons.inj same).1, brace] at starts
    cases starts
  · obtain ⟨rfl, tails⟩ := List.cons.inj same
    rw [Text.run_inj parts parts' stop stop' tails]

/-- Where blanks and an equals sign follow, a name has ended. -/
theorem head?_equals {rest : List Char} (blank : ∀ c ∈ xs, isBlank c = true) :
    (xs ++ '=' :: rest).head?.any isWordOrDollar = false := by
  cases xs with
  | nil => exact (by decide : isWordOrDollar '=' = false)
  | cons b more => exact isWordOrDollar_of_isBlank (blank b List.mem_cons_self)

/-- A `require` declaration can be told from what follows it. -/
theorem IsRequire.inj {word word' : String} {target target' text text' : List Char}
    {q q' : QuotedText} (h : IsRequire word target q text) (h' : IsRequire word' target' q' text')
    (known : word ∈ declarationWords) (known' : word' ∈ declarationWords)
    (named : IsTarget target) (named' : IsTarget target') (same : text ++ after = text' ++ rest) :
    text = text' ∧ target = target' ∧ q.text = q'.text := by
  obtain ⟨first, second, third, call, rfl, wide, blank, blank_out, called⟩ := h
  obtain ⟨first', second', third', call', rfl, wide', blank', blank_out', called'⟩ := h'
  simp only [List.append_assoc, List.cons_append] at same
  -- each part ends where the next begins, so from left to right the parts are the same
  have equal : word.toList = word'.toList := by
    obtain ⟨b, more, rfl, starts⟩ := wide.exists_cons
    obtain ⟨b', more', rfl, starts'⟩ := wide'.exists_cons
    have stop (cs : List Char) : (b :: cs).head?.any isWordOrDollar = false :=
      isWordOrDollar_of_isBlank starts
    have stop' (cs : List Char) : (b' :: cs).head?.any isWordOrDollar = false :=
      isWordOrDollar_of_isBlank starts'
    exact Text.run_inj (isWordOrDollar_of_mem_declarationWord known)
      (isWordOrDollar_of_mem_declarationWord known') (stop _) (stop' _) same
  rw [equal] at same ⊢
  have equals (cs : List Char) : ('=' :: cs).head?.any isBlank = false :=
    (by decide : isBlank '=' = false)
  obtain ⟨rfl, targets⟩ :=
    blanks_inj wide.2 wide'.2 named.stops named'.stops (List.append_cancel_left same)
  obtain ⟨rfl, behind⟩ := named.inj named' (head?_equals blank) (head?_equals blank') targets
  obtain ⟨rfl, value⟩ := blanks_inj blank blank' (equals _) (equals _) behind
  obtain ⟨rfl, calls⟩ := blanks_inj blank_out blank_out' called.stops called'.stops
    (List.cons.inj value).2
  obtain ⟨rfl, texts⟩ := called.inj called' calls
  exact ⟨rfl, rfl, texts⟩

/-- A `require` declaration is taken as it is. -/
theorem requireCall_takes {word : String} {target text : List Char} {q : QuotedText}
    (h : IsRequire word target q text) (known : word ∈ declarationWords) (named : IsTarget target)
    (edge : before.getLast?.any isWordChar = false) :
    requireCall.Takes before text after [(2, q.text), (1, target)] where
  reads := reads_requireCall.mpr ⟨edge, word, known, target, q, h, named, rfl⟩
  only := by
    intro read rest caps same reads
    obtain ⟨-, word', known', target', q', h', named', rfl⟩ := reads_requireCall.mp reads
    obtain ⟨rfl, rfl, texts⟩ := h.inj h' known known' named named' same
    rw [texts]
    exact ⟨rfl, rfl⟩

end

end RepoSurvey.JavaScript
