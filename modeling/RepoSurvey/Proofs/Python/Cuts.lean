import RepoSurvey.Proofs.Python.PrintedImports
import RepoSurvey.Proofs.Text.Cutting

/-!
# How a line is cut into tokens

Inside a line the tokens of a text depend on the text and on how the rest begins, not on what
was read before. `Cuts` says which tokens a text gives in front of a rest, and composes: words,
operators and blanks are cut one after the other.
-/

namespace RepoSurvey.Python

open Overview (IsAsciiIdentifier)

/-- The lexer stands inside a line at the top of the source, with these brackets open, and has
read these tokens. -/
structure Lexer.Inside (l : Lexer) (opened : List Char) (read : List TokenKind) : Prop where
  /-- No line begins here. -/
  fresh : l.fresh = false
  /-- The line holds something. -/
  idle : l.idle = false
  /-- No block is open. -/
  blocks : l.blocks = []
  /-- These brackets are open. -/
  brackets : l.brackets = opened
  /-- These are the tokens, in order. -/
  kinds : l.tokens.reverse.map (·.kind) = read

/-- With `opened` brackets, `cs` in front of `rest` is cut into these tokens and leaves `left`
brackets open. -/
def Cuts (opened cs rest : List Char) (kinds : List TokenKind) (left : List Char) : Prop :=
  ∀ (l : Lexer) (read : List TokenKind), l.Inside opened read →
    ∃ l' : Lexer, l'.Inside left (read ++ kinds) ∧ l.run (cs ++ rest) = l'.run rest

section

variable {opened left closed cs ds rest : List Char} {kinds further : List TokenKind}

theorem Cuts.nil : Cuts opened [] rest [] opened :=
  fun l read inside => ⟨l, (List.append_nil read).symm ▸ inside, rfl⟩

theorem Cuts.append (first : Cuts opened cs (ds ++ rest) kinds left)
    (second : Cuts left ds rest further closed) :
    Cuts opened (cs ++ ds) rest (kinds ++ further) closed := by
  intro l read inside
  obtain ⟨l', inside', ran⟩ := first l read inside
  obtain ⟨l'', inside'', ran'⟩ := second l' _ inside'
  refine ⟨l'', ?_, ?_⟩
  · rwa [← List.append_assoc]
  · rw [List.append_assoc, ran, ran']

/-- Texts one after the other, each of which is cut whichever of them follows. -/
theorem Cuts.flatMap {α : Type} {text : α → List Char} {tokens : α → List TokenKind}
    {goes : List Char → Prop} (begins : ∀ a after, goes (text a ++ after)) (ends : goes rest)
    (each : ∀ a after, goes after → Cuts opened (text a) after (tokens a) opened) (as : List α) :
    Cuts opened (as.flatMap text) rest (as.flatMap tokens) opened := by
  induction as with
  | nil => exact Cuts.nil
  | cons a others ih =>
    have next : goes (others.flatMap text ++ rest) := by
      cases others with
      | nil => exact ends
      | cons b more =>
        rw [List.flatMap_cons, List.append_assoc]
        exact begins b _
    exact Cuts.append (each a _ next) ih

/-! ## One step -/

theorem Lexer.kinds_push (l : Lexer) (kind : TokenKind) :
    (l.push kind).tokens.reverse.map (·.kind) = l.tokens.reverse.map (·.kind) ++ [kind] := by
  show (⟨kind, l.position⟩ :: l.tokens).reverse.map Token.kind = _
  rw [List.reverse_cons, List.map_append]
  rfl

theorem Lexer.Inside.token {l : Lexer} {read : List TokenKind} (inside : l.Inside opened read)
    (kind : TokenKind) (cs : List Char) (taken : Nat) :
    (l.token kind cs taken).1.Inside opened (read ++ [kind]) where
  fresh := inside.fresh
  idle := inside.idle
  blocks := inside.blocks
  brackets := inside.brackets
  kinds := inside.kinds ▸ l.kinds_push kind

theorem Cuts.of_scan {c : Char} (step : ∀ (l : Lexer) (read : List TokenKind),
      l.Inside opened read → ∃ next, l.scan c (cs ++ rest) = some (next, cs.length) ∧
        next.Inside left (read ++ kinds)) : Cuts opened (c :: cs) rest kinds left := by
  intro l read inside
  obtain ⟨next, scanned, inside'⟩ := step l read inside
  refine ⟨next, inside', ?_⟩
  rw [List.cons_append, Lexer.run, inside.fresh]
  simp only [Bool.false_eq_true, if_false, scanned, Option.bind_eq_bind, Option.bind_some,
    List.drop_left]

end

/-! ## Words -/

/-- No character that follows here belongs to the word in front of it. -/
def Breaks (cs : List Char) : Prop :=
  ∀ c ∈ cs.head?, c ∈ [' ', ',', '.', ')', '\n']

section

variable {c : Char}

theorem mayContinueName_of_isNamePart (part : isNamePart c = true) : mayContinueName c = true := by
  simp only [isNamePart, Text.isAsciiAlphanumeric, Bool.or_eq_true] at part
  simp only [mayContinueName, mayStartName, Char.isDigit, Bool.or_eq_true]
  tauto

theorem isNameContinue_of_isNamePart (part : isNamePart c = true) :
    Text.isNameContinue c = true := by
  rw [Text.isNameContinue, if_pos (toNat_lt_of_isNamePart part)]
  exact part

theorem isNamePart_of_alpha (letter : (c.isAlpha || c == '_') = true) : isNamePart c = true :=
  Bool.or_eq_true_iff.mpr ((Bool.or_eq_true_iff.mp letter).imp_left Text.isAscii_of_isAlpha)

theorem mayStartName_of_alpha (letter : (c.isAlpha || c == '_') = true) :
    mayStartName c = true := by
  simp only [mayStartName, Bool.or_eq_true, Bool.and_eq_true, decide_eq_true_eq]
  rcases Bool.or_eq_true_iff.mp letter with letter | score
  · exact .inl (.inl (Text.cases_of_isAlpha letter))
  · exact .inl (.inr score)

theorem isNameStart_of_alpha (letter : (c.isAlpha || c == '_') = true) :
    Text.isNameStart c = true := by
  rw [Text.isNameStart, if_pos (toNat_lt_of_isNamePart (isNamePart_of_alpha letter))]
  simp only [Bool.or_eq_true, Bool.and_eq_true, decide_eq_true_eq]
  exact (Bool.or_eq_true_iff.mp letter).imp_left Text.cases_of_isAlpha

/-- An identifier has the form of a name. -/
theorem isName_of_identifier {text : String} (word : IsAsciiIdentifier text) :
    isName text.toList = true := by
  obtain ⟨first, more, letters, starts, further⟩ := word
  rw [letters, isName, isNameStart_of_alpha starts, Bool.true_and, List.all_eq_true]
  exact fun c mem => isNameContinue_of_isNamePart (further c mem)

end

section

variable {opened rest : List Char}

theorem not_mayContinueName_of_breaks (ends : Breaks rest) :
    ∀ c ∈ rest.head?, mayContinueName c = false := by
  have each : ∀ c ∈ [' ', ',', '.', ')', '\n'], mayContinueName c = false := by decide
  exact fun c here => each c (ends c here)

/-- Letters that no quote follows begin no string. -/
theorem stringStart?_eq_none {cs : List Char}
    (unquoted : ∀ c ∈ cs, (c == '"' || c == '\x27') = false)
    (ends : Breaks rest) (l : StringLetters) (count : Nat) :
    stringStart? l count (cs ++ rest) = none := by
  induction cs generalizing l count with
  | nil =>
    cases rest with
    | nil => rfl
    | cons c more =>
      have each : ∀ d ∈ [' ', ',', '.', ')', '\n'], (d == '"' || d == '\x27') = false ∧
          ∀ l : StringLetters, l.add? d = none := by
        simp [StringLetters.add?]
      obtain ⟨unquoted, unlettered⟩ := each c (ends c rfl)
      simp only [List.nil_append, stringStart?, unquoted, unlettered]
      rfl
  | cons c more ih =>
    obtain ⟨here, later⟩ := List.forall_mem_cons.mp unquoted
    rw [List.cons_append, stringStart?, here]
    cases l.add? c with
    | none => rfl
    | some l' => exact ih later l' (count + 1)

theorem takeWhile_word {cs : List Char} (inside : ∀ c ∈ cs, mayContinueName c = true)
    (ends : Breaks rest) : (cs ++ rest).takeWhile mayContinueName = cs := by
  refine Text.takeWhile_run inside ?_
  cases rest with
  | nil => rfl
  | cons c more => exact not_mayContinueName_of_breaks ends c rfl

/-- A word is cut as a whole. -/
theorem cuts_word {text : String} (word : IsAsciiIdentifier text) (ends : Breaks rest) :
    Cuts opened text.toList rest [.name text] opened := by
  have named := isName_of_identifier word
  obtain ⟨first, more, letters, starts, further⟩ := id word
  have starts' := mayStartName_of_alpha starts
  have inside : ∀ c ∈ first :: more, mayContinueName c = true :=
    List.forall_mem_cons.mpr ⟨mayContinueName_of_isNamePart (isNamePart_of_alpha starts),
      fun c mem => mayContinueName_of_isNamePart (further c mem)⟩
  have unquoted : ∀ c ∈ first :: more, (c == '"' || c == '\x27') = false := by
    intro c mem
    rw [beq_false_of_ne (Text.ne_of_class (inside c mem) (by decide)),
      beq_false_of_ne (Text.ne_of_class (inside c mem) (by decide))]
    rfl
  have free : stringStart? {} 0 (first :: (more ++ rest)) = none :=
    stringStart?_eq_none unquoted ends {} 0
  have whole : (first :: (more ++ rest)).takeWhile mayContinueName = text.toList :=
    (takeWhile_word inside ends).trans letters.symm
  have other : ∀ d ∈ [' ', '\t', '\x0c', '#', '\n', '\\'], (first == d) = false := by
    intro d mem
    have outside : ∀ d ∈ [' ', '\t', '\x0c', '#', '\n', '\\'], mayStartName d = false := by decide
    exact beq_false_of_ne (Text.ne_of_class starts' (outside d mem))
  simp only [List.forall_mem_cons] at other
  obtain ⟨blank, tab, feed, hash, newline, slash, -⟩ := other
  rw [letters]
  refine .of_scan fun l read within =>
    ⟨_, ?_, within.token (.name text) (first :: (more ++ rest)) text.toList.length⟩
  unfold Lexer.scan
  simp only [blank, tab, feed, hash, newline, slash, starts', free, whole, named, Bool.or_self,
    Bool.false_eq_true, if_false, Option.isNone_none, Bool.and_self, if_true, String.ofList_toList]
  rw [letters]
  rfl

/-! ## Blanks and signs -/

theorem cuts_blank : Cuts opened [' '] rest [] opened :=
  .of_scan fun l read inside => ⟨_, rfl, by
    rw [List.append_nil]
    exact ⟨inside.fresh, inside.idle, inside.blocks, inside.brackets, inside.kinds⟩⟩

/-- A sign is cut when it is the longest operator at its place. -/
theorem cuts_operator {left cs : List Char} {c : Char} {text : String}
    (sign : c ∈ ['(', ')', ',', '.']) (longest : operator? c (cs ++ rest) = some text)
    (long : text.length = cs.length + 1) (nested : bracketsAfter opened text = some left)
    (undigited : c = '.' → (cs ++ rest).head?.any Char.isDigit = false) :
    Cuts opened (c :: cs) rest [.op text] left := by
  refine .of_scan fun l read inside => ?_
  have point : (c.isDigit || (c == '.' && (cs ++ rest).head?.any Char.isDigit)) = false := by
    have undigit : ∀ c ∈ ['(', ')', ',', '.'], c.isDigit = false := by decide
    rw [undigit c sign, Bool.false_or, Bool.and_eq_false_iff, beq_eq_false_iff_ne]
    exact or_iff_not_imp_left.mpr fun dot => undigited (not_not.mp dot)
  have plain : ∀ c ∈ ['(', ')', ',', '.'], (c == ' ' || c == '\t' || c == '\x0c') = false ∧
      (c == '#') = false ∧ (c == '\n') = false ∧ (c == '\\') = false ∧ mayStartName c = false ∧
      (c == '"' || c == '\x27') = false := by decide
  obtain ⟨blank, hash, newline, slash, start, quote⟩ := plain c sign
  have same := inside.brackets
  refine ⟨{ (l.token (.op text) (c :: (cs ++ rest)) text.length).1 with brackets := left }, ?_, ?_⟩
  · unfold Lexer.scan
    simp only [blank, hash, newline, slash, start, quote, point, longest, same, nested,
      Bool.false_and, Bool.or_self, Bool.false_eq_true, if_false, Option.map_some]
    rw [Lexer.token, long]
    rfl
  · have read' := inside.token (.op text) (c :: (cs ++ rest)) text.length
    exact ⟨read'.fresh, read'.idle, read'.blocks, rfl, read'.kinds⟩

theorem cuts_comma : Cuts opened [','] rest [.op ","] opened :=
  cuts_operator (by decide) rfl rfl rfl fun dot => absurd dot (by decide)

theorem cuts_open : Cuts [] ['('] rest [.op "("] ['('] :=
  cuts_operator (by decide) rfl rfl rfl fun dot => absurd dot (by decide)

theorem cuts_close : Cuts ['('] [')'] rest [.op ")"] [] :=
  cuts_operator (by decide) rfl rfl rfl fun dot => absurd dot (by decide)

/-- What follows dots is neither a dot nor a digit. -/
def Undotted (cs : List Char) : Prop :=
  ∀ c ∈ cs.head?, c ≠ '.' ∧ c.isDigit = false

theorem Undotted.not_prefix (goes : Undotted rest) (cs : List Char) : ¬ '.' :: cs <+: rest := by
  rintro ⟨more, rfl⟩
  exact (goes '.' rfl).1 rfl

theorem cuts_dot (few : ¬ ['.', '.'] <+: rest) (undigited : rest.head?.any Char.isDigit = false) :
    Cuts opened ['.'] rest [.op "."] opened := by
  refine cuts_operator (by decide) ?_ rfl rfl fun _ => undigited
  have long : longOperators.find? (fun o => o.toList.isPrefixOf ('.' :: rest)) = none := by
    simp [longOperators, few]
  have pair : pairOperators.find? (fun o => o.toList.isPrefixOf ('.' :: rest)) = none := rfl
  rw [List.nil_append, operator?, long, pair]
  rfl

theorem cuts_three_dots : Cuts opened ['.', '.', '.'] rest [.op "..."] opened :=
  cuts_operator (by decide) rfl rfl rfl fun _ => rfl

theorem Undotted.head?_any (goes : Undotted rest) : rest.head?.any Char.isDigit = false := by
  cases rest with
  | nil => rfl
  | cons c more => exact (goes c rfl).2

/-- Dots are cut three at a time, and then one at a time. -/
theorem cuts_dots (goes : Undotted rest) (n : Nat) :
    Cuts opened (List.replicate n '.') rest (dotKinds n) opened := by
  fun_induction dotKinds n with
  | case1 => exact .nil
  | case2 n ih => exact Cuts.append cuts_three_dots ih
  | case3 n few ih =>
    cases n with
    | zero =>
      have dot : Cuts opened ['.'] ([] ++ rest) [.op "."] opened :=
        cuts_dot (goes.not_prefix _) goes.head?_any
      exact Cuts.append dot ih
    | succ n =>
      cases n with
      | zero =>
        have few' : ¬ ['.', '.'] <+: '.' :: rest := fun more =>
          goes.not_prefix [] (List.cons_prefix_cons.mp more).2
        exact Cuts.append (cuts_dot few' rfl) ih
      | succ n => exact (few n rfl).elim

/-! ## Statements -/

theorem undotted_word {text : String} (word : IsAsciiIdentifier text) (rest : List Char) :
    Undotted (text.toList ++ rest) := by
  obtain ⟨first, more, letters, starts, -⟩ := word
  rw [letters]
  rintro c ⟨⟩
  have starts' := mayStartName_of_alpha starts
  refine ⟨Text.ne_of_class starts' (by decide), Bool.eq_false_iff.mpr fun digit => ?_⟩
  obtain ⟨-, low⟩ := Bool.and_eq_true_iff.mp digit
  have low := of_decide_eq_true low
  rcases Bool.or_eq_true_iff.mp starts with letter | score
  · rcases Text.cases_of_isAlpha letter with ⟨high, -⟩ | ⟨high, -⟩
    · exact absurd (Char.le_trans high low) (by decide)
    · exact absurd (Char.le_trans high low) (by decide)
  · rw [beq_iff_eq.mp score] at low
    exact absurd low (by decide)

theorem Breaks.cons {c : Char} (breaks : c ∈ [' ', ',', '.', ')', '\n']) : Breaks (c :: rest) := by
  rintro d ⟨⟩
  exact breaks

theorem cuts_lead {text : String} (word : IsAsciiIdentifier text) :
    Cuts opened (text.toList ++ [' ']) rest [.name text] opened :=
  Cuts.append (cuts_word word (Breaks.cons (c := ' ') (by decide))) cuts_blank

/-- Joined items are cut one after the other, each but the first with the separator in front. -/
theorem cuts_join {α : Type} {text : α → String} {tokens : α → List TokenKind} (sep : String)
    {mark : List TokenKind} (begins : ∀ cs, Breaks (sep.toList ++ cs))
    (each : ∀ a after, Breaks after → Cuts opened (text a).toList after (tokens a) opened)
    (between : ∀ a after, Cuts opened sep.toList ((text a).toList ++ after) mark opened)
    (ends : Breaks rest) (first : α) (others : List α) :
    Cuts opened (Text.join sep ((first :: others).map text)).toList rest
      (tokens first ++ others.flatMap fun a => mark ++ tokens a) opened := by
  have begins' (a : α) (after : List Char) : Breaks (sep.toList ++ (text a).toList ++ after) := by
    rw [List.append_assoc]
    exact begins _
  have later : Cuts opened (others.flatMap fun a => sep.toList ++ (text a).toList) rest
      (others.flatMap fun a => mark ++ tokens a) opened :=
    .flatMap begins' ends (fun a after ends => (between a after).append (each a after ends)) others
  have next : Breaks ((others.flatMap fun a => sep.toList ++ (text a).toList) ++ rest) := by
    cases others with
    | nil => exact ends
    | cons a more =>
      rw [List.flatMap_cons, List.append_assoc]
      exact begins' a _
  rw [List.map_cons, Text.toList_join_cons, List.flatMap_map]
  exact (each first _ next).append later

theorem cuts_dotted (m : Dotted) (ends : Breaks rest) :
    Cuts opened m.printed.toList rest m.kinds opened := by
  have between (n : Identifier) (after : List Char) :
      Cuts opened ['.'] (n.1.toList ++ after) [.op "."] opened :=
    have goes := undotted_word n.2.1 after
    cuts_dot (goes.not_prefix _) goes.head?_any
  exact cuts_join "." (fun cs => Breaks.cons (c := '.') (by decide))
    (fun (n : Identifier) after ends => cuts_word n.2.1 ends) between ends m.first m.others

/-- What may be given a local name is cut like what is imported. -/
theorem cuts_imported {α : Type} {text : α → String} {tokens : α → List TokenKind}
    (each : ∀ a after, Breaks after → Cuts opened (text a).toList after (tokens a) opened)
    (i : Imported α) (ends : Breaks rest) :
    Cuts opened (i.printed text).toList rest (i.kinds tokens) opened := by
  obtain ⟨origin, given⟩ := i
  cases given with
  | none => exact each origin rest ends
  | some here =>
    have mark : IsAsciiIdentifier "as" := ⟨'a', ['s'], by decide, by decide, by decide⟩
    have next : Breaks (" as ".toList ++ here.1.toList ++ rest) :=
      Breaks.cons (c := ' ') (by decide)
    have between : Cuts opened " as ".toList (here.1.toList ++ rest) [.name "as"] opened :=
      Cuts.append cuts_blank (cuts_lead mark)
    rw [Imported.printed, String.toList_append, String.toList_append, List.append_assoc]
    exact (each origin _ next).append (between.append (cuts_word here.2.1 ends))

/-- A list of what is imported. -/
theorem cuts_listed {α : Type} {text : α → String} {tokens : α → List TokenKind}
    (each : ∀ a after, Breaks after → Cuts opened (text a).toList after (tokens a) opened)
    (ends : Breaks rest) (first : Imported α) (others : List (Imported α)) :
    Cuts opened (Text.join ", " ((first :: others).map (Imported.printed text))).toList rest
      (listedKinds (Imported.kinds tokens) first others) opened :=
  cuts_join ", " (fun cs => Breaks.cons (c := ',') (by decide))
    (fun i after ends => cuts_imported each i ends)
    (fun i after => Cuts.append cuts_comma cuts_blank) ends first others

theorem cuts_source (s : ImportSource) (ends : Breaks rest) (goes : Undotted rest) :
    Cuts opened s.printed.toList rest s.kinds opened := by
  rw [ImportSource.printed, String.toList_append, String.toList_ofList, ImportSource.kinds]
  cases s.module? with
  | none => exact Cuts.append (cuts_dots goes s.level) .nil
  | some m =>
    have next : Undotted (m.printed.toList ++ rest) := by
      rw [Dotted.printed, Text.toList_join_cons, List.append_assoc]
      exact undotted_word m.first.2.1 _
    exact (cuts_dots next s.level).append (cuts_dotted m ends)

end

/-- A statement in front of the end of its line. -/
theorem cuts_statement (s : ImportStatement) (after : List Char) :
    Cuts [] s.printed.toList ('\n' :: after) s.kinds [] := by
  have ends : Breaks ('\n' :: after) := Breaks.cons (by decide)
  have importWord : IsAsciiIdentifier "import" :=
    ⟨'i', "mport".toList, by decide, by decide, by decide⟩
  have fromWord : IsAsciiIdentifier "from" := ⟨'f', "rom".toList, by decide, by decide, by decide⟩
  cases s with
  | modules first others =>
    rw [ImportStatement.printed, String.toList_append]
    exact (cuts_lead importWord).append
      (cuts_listed (fun m after ends => cuts_dotted m ends) ends first others)
  | names source bracketed first others =>
    have each {opened} (n : Identifier) (after : List Char) (ends : Breaks after) :
        Cuts opened n.1.toList after [.name n.1] opened := cuts_word n.2.1 ends
    have behind {tail : List Char} {kinds : List TokenKind}
        (cut : Cuts [] tail ('\n' :: after) kinds []) :
        Cuts [] ("from ".toList ++ (source.printed.toList ++ (" import ".toList ++ tail)))
          ('\n' :: after) (.name "from" :: source.kinds ++ .name "import" :: kinds) [] := by
      have blank : Breaks (" import ".toList ++ tail ++ '\n' :: after) :=
        Breaks.cons (c := ' ') (by decide)
      have goes : Undotted (" import ".toList ++ tail ++ '\n' :: after) := by
        rintro c ⟨⟩
        decide
      have between : Cuts [] " import ".toList (tail ++ '\n' :: after) [.name "import"] [] :=
        Cuts.append cuts_blank (cuts_lead importWord)
      exact (cuts_lead fromWord).append
        ((cuts_source source blank goes).append (between.append cut))
    cases bracketed with
    | false =>
      rw [ImportStatement.printed, String.toList_append, String.toList_append,
        String.toList_append, List.append_assoc, List.append_assoc]
      exact behind (cuts_listed each ends first others)
    | true =>
      have closes : Breaks ([')'] ++ '\n' :: after) := Breaks.cons (c := ')') (by decide)
      have list := cuts_open.append ((cuts_listed each closes first others).append cuts_close)
      rw [ImportStatement.printed, String.toList_append, String.toList_append,
        String.toList_append, List.append_assoc, List.append_assoc]
      simp only [enclosed, if_true, String.toList_append, List.append_assoc]
      exact behind list

/-! ## Lines -/

/-- A line at the top of the source begins where the lexer stands, and it has read these
tokens. -/
structure Lexer.AtLine (l : Lexer) (read : List TokenKind) : Prop where
  /-- A line begins here. -/
  fresh : l.fresh = true
  /-- No block is open. -/
  blocks : l.blocks = []
  /-- No bracket is open. -/
  brackets : l.brackets = []
  /-- These are the tokens, in order. -/
  kinds : l.tokens.reverse.map (·.kind) = read

section

variable {l : Lexer} {read : List TokenKind}

/-- The line of a statement is not indented. -/
theorem exists_cons_printed (s : ImportStatement) :
    ∃ c more, s.printed.toList = c :: more ∧ c ∈ ['f', 'i'] := by
  cases s with
  | modules first others =>
    rw [ImportStatement.printed, String.toList_append]
    exact ⟨'i', _, rfl, by decide⟩
  | names source bracketed first others =>
    rw [ImportStatement.printed, String.toList_append, String.toList_append, String.toList_append]
    exact ⟨'f', _, rfl, by decide⟩

theorem Lexer.AtLine.exists_inside (h : l.AtLine read) {c : Char} (starts : c ∈ ['f', 'i'])
    (rest : List Char) :
    ∃ l' : Lexer, l'.Inside [] read ∧ l.run (c :: rest) = l'.run (c :: rest) := by
  refine ⟨{ l with fresh := false, idle := false },
    ⟨rfl, rfl, h.blocks, h.brackets, h.kinds⟩, ?_⟩
  have flush : measure 0 0 0 (c :: rest) = ⟨0, 0, false⟩ := by
    simp only [List.mem_cons, List.not_mem_nil, or_false] at starts
    rcases starts with rfl | rfl
    · rfl
    · rfl
  have indented : l.indent ⟨0, 0, false⟩ = some { l with fresh := false, idle := false } := by
    simp [Lexer.indent, Lexer.innermost, h.blocks, h.brackets]
  rw [Lexer.run, Lexer.run, h.fresh, flush, indented]
  rfl

theorem Lexer.Inside.exists_atLine (h : l.Inside [] read) (rest : List Char) :
    ∃ l' : Lexer, l'.AtLine (read ++ [.newline]) ∧ l.run ('\n' :: rest) = l'.run rest := by
  have scanned : l.scan '\n' rest =
      some ({ l.push .newline with position := l.position.after '\n', fresh := true,
                                   idle := false }, 0) := by
    simp [Lexer.scan, h.idle, h.brackets]
  refine ⟨{ l.push .newline with position := l.position.after '\n', fresh := true, idle := false },
    ⟨rfl, h.blocks, h.brackets, h.kinds ▸ l.kinds_push .newline⟩, ?_⟩
  rw [Lexer.run, h.fresh]
  simp only [Bool.false_eq_true, if_false, scanned, Option.bind_eq_bind, Option.bind_some,
    List.drop_zero]

/-- A statement on its line leaves its tokens and one for the end of the line. -/
theorem Lexer.AtLine.statement (h : l.AtLine read) (s : ImportStatement) (rest : List Char) :
    ∃ l' : Lexer, l'.AtLine (read ++ (s.kinds ++ [.newline])) ∧
      l.run (s.printed.toList ++ '\n' :: rest) = l'.run rest := by
  obtain ⟨c, more, letters, starts⟩ := exists_cons_printed s
  obtain ⟨first, inside, ran⟩ := h.exists_inside starts (more ++ '\n' :: rest)
  rw [← List.cons_append, ← letters] at ran
  obtain ⟨last, inside', ran'⟩ := cuts_statement s rest first read inside
  obtain ⟨next, atLine, ran''⟩ := inside'.exists_atLine rest
  rw [List.append_assoc] at atLine
  exact ⟨next, atLine, ran.trans (ran'.trans ran'')⟩

end

/-- The lines of statements. -/
def importLines (statements : List ImportStatement) : List Char :=
  statements.flatMap fun s => s.printed.toList ++ ['\n']

theorem Lexer.AtLine.statements {l : Lexer} {read : List TokenKind} (h : l.AtLine read)
    (statements : List ImportStatement) : ∃ l' : Lexer,
      l.run (importLines statements) = some l' ∧
      l'.tokens.reverse.map (·.kind) =
        read ++ (statements.flatMap (fun s => s.kinds ++ [.newline]) ++ [.stop]) := by
  induction statements generalizing l read with
  | nil =>
    refine ⟨l.push .stop, ?_, ?_⟩
    · rw [importLines, List.flatMap_nil, Lexer.run, h.brackets, h.blocks]
      rfl
    · rw [l.kinds_push, h.kinds]
      rfl
  | cons s rest ih =>
    obtain ⟨next, atLine, ran⟩ := h.statement s (importLines rest)
    obtain ⟨last, ran', kinds⟩ := ih atLine
    refine ⟨last, ?_, ?_⟩
    · rw [importLines, List.flatMap_cons, List.append_assoc]
      exact ran.trans ran'
    · rw [kinds, List.flatMap_cons, List.append_assoc, List.append_assoc, List.append_assoc,
        List.append_assoc]

/-! ## The tokens of printed statements -/

section

variable {statements : List ImportStatement} {ending : String}

/-- Printed statements end with one of them. -/
theorem exists_last_printed (some_statement : statements ≠ []) :
    ∃ (s : ImportStatement) (init : List Char),
      (printedImports statements).toList = init ++ s.printed.toList := by
  induction statements with
  | nil => exact absurd rfl some_statement
  | cons s rest ih =>
    cases rest with
    | nil => exact ⟨s, [], rfl⟩
    | cons next more =>
      obtain ⟨last, init, letters⟩ := ih (List.cons_ne_nil next more)
      refine ⟨last, s.printed.toList ++ ("\n".toList ++ init), ?_⟩
      rw [printedImports_cons, String.toList_append, String.toList_append, letters,
        List.append_assoc, List.append_assoc]

theorem printed_append_newline (some_statement : statements ≠ []) :
    (printedImports statements).toList ++ ['\n'] = importLines statements := by
  induction statements with
  | nil => exact absurd rfl some_statement
  | cons s rest ih =>
    cases rest with
    | nil => exact (List.append_nil _).symm
    | cons next more =>
      rw [importLines, List.flatMap_cons, ← importLines, ← ih (List.cons_ne_nil next more),
        printedImports_cons, String.toList_append, String.toList_append, List.append_assoc,
        List.append_assoc, List.append_assoc]
      rfl

theorem withFinalNewline_printed (some_statement : statements ≠ [])
    (ended : ending = "" ∨ ending = "\n") :
    withFinalNewline (printedImports statements ++ ending).toList = importLines statements := by
  have lines := printed_append_newline some_statement
  rw [withFinalNewline, String.toList_append]
  rcases ended with rfl | rfl
  · have open_end : (printedImports statements).toList.getLast? ≠ some '\n' := by
      obtain ⟨s, init, letters⟩ := exists_last_printed some_statement
      obtain ⟨c, more, shown, -⟩ := exists_cons_printed s
      intro last
      rw [letters, List.getLast?_append_of_ne_nil _ (shown ▸ List.cons_ne_nil c more)] at last
      have inside := s.isImportChar '\n' (List.mem_of_getLast? last)
      exact absurd inside (by decide)
    rw [String.toList_empty, List.append_nil, if_neg (mt beq_iff_eq.mp open_end), lines]
  · have closed_end : ((printedImports statements).toList ++ ['\n']).getLast? = some '\n' :=
      List.getLast?_concat
    exact (if_pos (beq_iff_eq.mpr closed_end)).trans lines

theorem forall_mem_content (ended : ending = "" ∨ ending = "\n") :
    ∀ c ∈ (printedImports statements ++ ending).toList, isImportChar c = true ∨ c = '\n' := by
  rw [String.toList_append, List.forall_mem_append]
  constructor
  · refine Text.forall_mem_join (by decide) ?_
    rw [List.forall_mem_map]
    exact fun s _ c mem => .inl (s.isImportChar c mem)
  · rcases ended with rfl | rfl
    · exact List.forall_mem_nil _
    · decide

theorem not_mem_content (ended : ending = "" ∨ ending = "\n") {c : Char}
    (other : isImportChar c = false) (noLine : c ≠ '\n') :
    c ∉ (printedImports statements ++ ending).toList := by
  intro mem
  rcases forall_mem_content ended c mem with inside | same
  · rw [inside] at other
    cases other
  · exact noLine same

/-- The tokens of printed statements, line by line. -/
theorem exists_tokens (statements : List ImportStatement) (ended : ending = "" ∨ ending = "\n") :
    ∃ ts, tokens (printedImports statements ++ ending).toList = some ts ∧
      ts.toList.map (·.kind) = statements.flatMap (fun s => s.kinds ++ [.newline]) ++ [.stop] := by
  cases statements with
  | nil =>
    refine ⟨#[⟨.stop, ⟨2, 0⟩⟩], ?_, rfl⟩
    rcases ended with rfl | rfl
    · decide +kernel
    · decide +kernel
  | cons s rest =>
    have start : Lexer.AtLine { position := ⟨1, 0⟩ } [] := ⟨rfl, rfl, rfl, rfl⟩
    obtain ⟨l, ran, kinds⟩ := start.statements (s :: rest)
    refine ⟨l.tokens.reverse.toArray, ?_, kinds⟩
    have clean : (printedImports (s :: rest) ++ ending).toList.contains '\x00' = false := by
      rw [List.contains_eq_mem, decide_eq_false_iff_not]
      exact not_mem_content ended (by decide) (by decide)
    rw [tokens, clean, tokensFrom, withFinalNewline_printed (List.cons_ne_nil s rest) ended, ran]
    rfl

end

end RepoSurvey.Python
