import RepoSurvey.Proofs.JavaScript.PrintedImports

/-!
# The names that imports take

A clause is cut at its first brace and at its commas, and a target of `require` at its commas
too. Of printed statements this gives back the default name (`defaultNames_named`), the name of
a whole module (`defaultNames_whole`), and the exported names, not those given to them here
(`requiredNames_members`).

In a clause the names come back but for one (`bracedNames_named`): the word `type` in front of
a name is taken for a mark, and where `type` is itself the name and is given another, the mark
goes and what was left of the item is recorded (`Taken.recorded`).
-/

namespace RepoSurvey.JavaScript

open Text (Pattern isBlank isWordOrDollar)

/-! ## Names in lists -/

section

variable {mark : String} {t : Taken} {taken : List Taken} {c : Char}

/-- What stands behind the exported name. -/
def Taken.behind (mark : String) (t : Taken) : List Char :=
  match t.given with
  | none => []
  | some here => mark.toList ++ here.1.toList

theorem Taken.toList_printed (t : Taken) :
    (t.printed mark).toList = t.exported.1.toList ++ t.behind mark := by
  rw [printed, behind]
  cases t.given with
  | none => simp
  | some here => simp

/-- A name in a list ends with a character of names. -/
theorem Taken.exists_concat (t : Taken) :
    ∃ init c, (t.printed mark).toList = init ++ [c] ∧ isWordOrDollar c = true := by
  rw [t.toList_printed, behind]
  cases t.given with
  | none =>
    rw [List.append_nil]
    exact t.exported.exists_concat
  | some here =>
    obtain ⟨init, c, letters, part⟩ := here.exists_concat
    refine ⟨t.exported.1.toList ++ (mark.toList ++ init), c, ?_, part⟩
    simp only [letters, List.append_assoc]

/-- Blanks in front of a name in a list go, and nothing else. -/
theorem Taken.trim_printed (t : Taken) {blanks : List Char}
    (blank : ∀ c ∈ blanks, isBlank c = true) :
    Text.trim (String.ofList (blanks ++ (t.printed mark).toList)) = t.printed mark := by
  have behind : Text.trimEndBy isBlank (t.behind mark) = t.behind mark := by
    rw [Taken.behind]
    cases t.given with
    | none => rfl
    | some here =>
      obtain ⟨init, c, letters, part⟩ := here.exists_concat
      simp only [letters, ← List.append_assoc]
      rw [Text.trimEndBy_append_cons (isBlank_of_isWordOrDollar part)]
      rfl
  rw [Text.trim, String.toList_ofList, t.toList_printed, t.exported.2.trimChars_eq blank, behind,
    ← t.toList_printed, String.ofList_toList]

theorem toList_printedList_cons (mark : String) (t next : Taken) (more : List Taken) :
    (printedList mark (t :: next :: more)).toList =
      (t.printed mark).toList ++ (", ".toList ++ (printedList mark (next :: more)).toList) := by
  rw [printedList, List.map_cons, List.map_cons, Text.join, String.intercalate_cons_cons,
    String.toList_append, String.toList_append, List.append_assoc]
  rfl

/-- A list is cut at its commas into its names, with blanks in front of them. -/
theorem map_split_printedList {α : Type} {read : String → α} {image : Taken → α}
    (some_taken : taken ≠ []) (unmarked : ',' ∉ mark.toList)
    (each : ∀ t ∈ taken, ∀ blanks : List Char, (∀ c ∈ blanks, isBlank c = true) →
      read (String.ofList (blanks ++ (t.printed mark).toList)) = image t)
    {lead : List Char} (blank : ∀ c ∈ lead, isBlank c = true) :
    (Text.split ',' (String.ofList (lead ++ (printedList mark taken).toList))).map read =
      taken.map image := by
  have free : ∀ t ∈ taken, ',' ∉ (t.printed mark).toList := fun t _ mem =>
    t.forall_mem_printed (motive := (· ≠ ',')) (fun _ part => Text.ne_of_class part (by decide))
      (fun c mem same => unmarked (same ▸ mem)) _ mem rfl
  have free_lead : ',' ∉ lead := fun mem => absurd (blank ',' mem) (by decide)
  have blanks_blank : ∀ blanks, blanks = lead ∨ blanks = [' '] → ∀ c ∈ blanks, isBlank c = true := by
    rintro blanks (rfl | rfl)
    · exact blank
    · decide
  exact Text.map_split_join some_taken free_lead (by decide) free fun t mem blanks which =>
    each t mem blanks (blanks_blank blanks which)

/-- A list of names ends as its last name does. -/
theorem exists_concat_printedList (some_taken : taken ≠ []) :
    ∃ init c, (printedList mark taken).toList = init ++ [c] ∧ isWordOrDollar c = true := by
  induction taken with
  | nil => exact absurd rfl some_taken
  | cons t rest ih =>
    cases rest with
    | nil => exact t.exists_concat
    | cons next more =>
      obtain ⟨init, c, letters, part⟩ := ih (List.cons_ne_nil next more)
      refine ⟨(t.printed mark).toList ++ (", ".toList ++ init), c, ?_, part⟩
      simp only [toList_printedList_cons, letters, List.append_assoc]

end

/-! ## The names of a clause -/

/-- A text without blanks is one word. -/
theorem wordsFrom_of_free {word cs : List Char} (free : ∀ c ∈ cs, isBlank c = false)
    (some_text : word ≠ [] ∨ cs ≠ []) : Text.wordsFrom word cs = [word.reverse ++ cs] := by
  induction cs generalizing word with
  | nil =>
    have nonempty := some_text.resolve_right (not_not_intro rfl)
    simp [Text.wordsFrom, nonempty]
  | cons c rest ih =>
    obtain ⟨here, later⟩ := List.forall_mem_cons.mp free
    rw [Text.wordsFrom, if_neg (Bool.eq_false_iff.mp here),
      ih later (.inl (List.cons_ne_nil c word)), List.reverse_cons, List.append_assoc, List.singleton_append]

theorem Identifier.wordsFrom_eq (name : Identifier) :
    Text.wordsFrom [] name.1.toList = [name.1.toList] := by
  refine wordsFrom_of_free (fun c mem => isBlank_of_isWordOrDollar (name.isWordOrDollar mem))
    (.inr ?_)
  obtain ⟨c, more, letters, -⟩ := name.exists_cons
  rw [letters]
  exact List.cons_ne_nil c more

theorem Identifier.isEmpty_eq (name : Identifier) : name.1.isEmpty = false := by
  obtain ⟨c, more, letters, -⟩ := name.exists_cons
  refine Bool.eq_false_iff.mpr fun empty => ?_
  rw [String.isEmpty_iff.mp empty] at letters
  cases letters

theorem Identifier.not_mem (name : Identifier) {c : Char}
    (other : Text.isWordOrDollar c = false) :
    c ∉ name.1.toList := by
  intro mem
  rw [name.isWordOrDollar mem] at other
  cases other

section

variable (default name : Identifier) (taken : List Taken)

theorem namedClause_eq : namedClause default taken =
    (default.1.toList ++ [',', ' ']) ++ '\x7b' ::
      (' ' :: ((printedList " as " taken).toList ++ [' ', '\x7d'])) := by
  simp [namedClause]

theorem not_mem_default : '\x7b' ∉ default.1.toList ++ [',', ' '] := by
  rw [List.mem_append, not_or]
  exact ⟨default.not_mem (by decide), by decide⟩

theorem defaultNames_named :
    defaultNames (String.ofList (namedClause default taken)) = [default.1] := by
  have items : Text.split ','
      (Text.beforeFirst '\x7b' (String.ofList (namedClause default taken))) =
        [default.1, " "] := by
    rw [Text.beforeFirst, String.toList_ofList, namedClause_eq,
      (Text.takeWhile_append_cons (not_mem_default default)).1, Text.split, String.toList_ofList,
      Text.splitAt_append (default.not_mem (by decide))]
    simp [Text.splitAt]
  have first : Text.join " " (Text.words default.1) = default.1 := by
    rw [Text.words, default.wordsFrom_eq]
    simp [Text.join]
  have second : Text.join " " (Text.words " ") = "" := by decide
  rw [defaultNames, items]
  simp [first, second, default.isEmpty_eq]

theorem not_mem_whole {c : Char} (other : isWordOrDollar c = false) (free : c ∉ "* as ".toList) :
    c ∉ wholeClause name := by
  rw [wholeClause, List.mem_append, not_or]
  exact ⟨free, name.not_mem other⟩

theorem defaultNames_whole :
    defaultNames (String.ofList (wholeClause name)) = ["* as " ++ name.1] := by
  have items : Text.split ',' (Text.beforeFirst '\x7b' (String.ofList (wholeClause name))) =
      [String.ofList (wholeClause name)] := by
    rw [Text.beforeFirst, String.toList_ofList,
      (Text.takeWhile_of_not_mem (not_mem_whole name (by decide) (by decide))).1, Text.split,
      String.toList_ofList,
      Text.splitAt_of_not_mem (not_mem_whole name (by decide) (by decide))]
    rfl
  have words : Text.words (String.ofList (wholeClause name)) = ["*", "as", name.1] := by
    have star : "* as ".toList = ['*', ' ', 'a', 's', ' '] := by decide
    rw [Text.words, String.toList_ofList, wholeClause, star]
    simp [Text.wordsFrom, isBlank, name.wordsFrom_eq]
  have joined : Text.join " " ["*", "as", name.1] = "* as " ++ name.1 := by
    refine String.toList_inj.mp ?_
    simp [Text.join]
  have nonempty : ("* as " ++ name.1).isEmpty = false := by simp
  rw [defaultNames, items, List.map_singleton, words, joined, List.filter_singleton, nonempty]
  rfl

theorem bracedNames_whole : bracedNames (String.ofList (wholeClause name)) = [] := by
  have none : Text.afterFirst '\x7b' (String.ofList (wholeClause name)) = "" := by
    rw [Text.afterFirst, String.toList_ofList,
      (Text.takeWhile_of_not_mem (not_mem_whole name (by decide) (by decide))).2]
    rfl
  have bare : (Text.split ',' (Text.trimEndSet "\x7d \n" "")).map Text.trim = [""] := by
    decide
  rw [bracedNames, none]
  simp [bare]

end

/-! ## Names behind the word `type` -/

/-- The name that is recorded of one that is taken. The word `type` in front of another name is
taken for a mark, also where it is the name. -/
def Taken.recorded (t : Taken) : String :=
  match t.given with
  | none => t.exported
  | some here => if t.exported = "type" then "as " ++ here else t.exported

theorem findAll_typeWord_of_not {cs : List Char}
    (unmarked : ∀ space rest, IsGap space → cs ≠ "type".toList ++ (space ++ rest)) :
    typeWord.findAll cs.toArray = [] := by
  refine List.eq_nil_iff_forall_not_mem.mpr fun m found => ?_
  obtain ⟨inside, matched⟩ := Pattern.matchAt?_of_mem_findAll found
  obtain ⟨before, piece, after, caps, whole, -, reads, -⟩ :=
    Pattern.exists_reads_of_matchAt? inside matched
  obtain ⟨_, _, _, rfl, ⟨rfl, rfl, rfl⟩, word, space, _, rfl, readsWord, readsGap⟩ := reads
  obtain ⟨rfl, rfl⟩ := Pattern.reads_literal.mp readsWord
  obtain ⟨wide, rfl⟩ := reads_gap.mp readsGap
  simp only [List.nil_append, List.append_assoc] at whole
  exact unmarked space after wide whole

theorem substitute_typeWord_of_not {s : String}
    (unmarked : ∀ space rest, IsGap space → s.toList ≠ "type".toList ++ (space ++ rest)) :
    typeWord.substitute (fun _ _ => "") s = s :=
  Pattern.substitute_of_findAll_eq_nil (findAll_typeWord_of_not unmarked)

/-- A mark goes with the gap behind it. -/
theorem substitute_typeWord {s : String} {c : Char} {rest : List Char}
    (whole : s.toList = "type".toList ++ ' ' :: c :: rest) (kept : isBlank c = false) :
    typeWord.substitute (fun _ _ => "") s = String.ofList (c :: rest) := by
  have takes : typeWord.Takes [] ("type".toList ++ [' ']) (c :: rest) [] := by
    refine ⟨⟨[], _, [], (List.nil_append _).symm, ⟨rfl, rfl, rfl⟩, _, _, _, rfl,
      Pattern.reads_literal.mpr ⟨rfl, rfl⟩, reads_gap.mpr ⟨isGap_space, rfl⟩⟩, ?_⟩
    rintro read after caps same ⟨_, _, _, rfl, ⟨-, rfl, rfl⟩, word, space, _, rfl, readsWord,
      readsGap⟩
    obtain ⟨rfl, rfl⟩ := Pattern.reads_literal.mp readsWord
    obtain ⟨wide, rfl⟩ := reads_gap.mp readsGap
    simp only [List.append_assoc, List.nil_append] at same
    have behind := List.append_cancel_left same
    have rests := eq_of_gap_start wide kept behind
    rw [← rests] at behind
    obtain rfl := List.append_cancel_right behind
    exact ⟨rfl, rfl⟩
  have starts : ∀ ⦃before read rest caps⦄,
      typeWord.Reads before read rest [] caps → before = [] := by
    rintro before read rest caps ⟨_, _, _, rfl, ⟨start, -⟩, -⟩
    exact start
  have split : s.toList = ("type".toList ++ [' ']) ++ c :: rest := by
    rw [whole, List.append_assoc]
    rfl
  rw [Pattern.substitute_of_takes rfl starts split takes, String.empty_append]

theorem asMark_eq : " as ".toList = ' ' :: "as ".toList := by
  decide

theorem Identifier.isBlank (name : Identifier) : ∀ c ∈ name.1.toList, isBlank c = false :=
  fun _ mem => isBlank_of_isWordOrDollar (name.isWordOrDollar mem)

theorem Identifier.trimChars_eq (name : Identifier) {front : List Char}
    (blank : ∀ c ∈ front, Text.isBlank c = true) :
    Text.trimChars (front ++ name.1.toList) = name.1.toList := by
  have trimmed := name.2.trimChars_eq blank []
  rwa [List.append_nil, Text.trimEndBy, List.reverse_nil, List.dropWhile_nil, List.reverse_nil,
    List.append_nil] at trimmed

/-- A name in front of the separator, or of nothing, is what is kept. -/
theorem Identifier.trim_beforeText (name : Identifier) {s : String} {rest : List Char}
    (whole : s.toList = name.1.toList ++ rest)
    (ends : Text.beforeTextChars " as ".toList rest = []) :
    Text.trim (Text.beforeText " as " s) = name.1 := by
  rw [asMark_eq] at ends
  have kept := name.trimChars_eq (List.forall_mem_nil _)
  rw [List.nil_append] at kept
  rw [Text.beforeText, whole, asMark_eq, Text.beforeTextChars_append (name.not_mem (by decide)),
    ends, List.append_nil, Text.trim, String.toList_ofList, kept, String.ofList_toList]

/-- What is left of a name whose mark went is no separator. -/
theorem trim_beforeText_unmarked (name : Identifier) :
    Text.trim (Text.beforeText " as " (String.ofList ("as ".toList ++ name.1.toList))) =
      "as " ++ name.1 := by
  have word : "as ".toList = ['a', 's'] ++ [' '] := by decide
  have nothing : Text.beforeTextChars (' ' :: "as ".toList) name.1.toList = name.1.toList :=
    Text.beforeTextChars_of_not_mem (name.not_mem (by decide))
  have none : (' ' :: "as ".toList).isPrefixOf (' ' :: name.1.toList) = false := by
    refine Bool.eq_false_iff.mpr fun found => ?_
    obtain ⟨rest, same⟩ := List.isPrefixOf_iff_prefix.mp found
    have mem : ' ' ∈ name.1.toList := by
      rw [← (List.cons.inj same).2, word]
      simp
    exact absurd (name.isBlank ' ' mem) (by decide)
  have kept : Text.beforeTextChars (' ' :: "as ".toList) ("as ".toList ++ name.1.toList) =
      "as ".toList ++ name.1.toList := by
    have letters : ' ' ∉ ['a', 's'] := by decide
    rw [word, List.append_assoc, ← word, Text.beforeTextChars_append letters, List.singleton_append,
      Text.beforeTextChars, none, nothing]
    rfl
  have trimmed : Text.trimChars ("as ".toList ++ name.1.toList) =
      "as ".toList ++ name.1.toList := by
    have as : IsIdentifier "as" := ⟨'a', ['s'], by decide, by decide, by decide⟩
    have behind := as.trimChars_eq (List.forall_mem_nil _) (' ' :: name.1.toList)
    obtain ⟨init, c, letters, part⟩ := name.exists_concat
    have ends : Text.trimEndBy Text.isBlank (' ' :: name.1.toList) = ' ' :: name.1.toList := by
      rw [letters, ← List.cons_append, Text.trimEndBy_append_cons (isBlank_of_isWordOrDollar part)]
      rfl
    have asWord : "as".toList = ['a', 's'] := by decide
    rw [ends, asWord, List.nil_append] at behind
    rw [word]
    exact behind
  have letters : (String.ofList ("as ".toList ++ name.1.toList)).toList =
      "as ".toList ++ name.1.toList := String.toList_ofList
  rw [Text.beforeText, letters, asMark_eq, kept, Text.trim, letters, trimmed, String.ofList_append,
    String.ofList_toList, String.ofList_toList]

/-- The name that is read off an item of a clause. -/
theorem Taken.recorded_eq (t : Taken) :
    Text.trim (Text.beforeText " as " (typeWord.substitute (fun _ _ => "") (t.printed " as "))) =
      t.recorded := by
  have letters := @toList_printed " as " t
  have word : ∀ c ∈ "type".toList, isWordOrDollar c = true := by decide
  rw [recorded]
  rw [behind] at letters
  cases given : t.given with
  | none =>
    simp only [given, List.append_nil] at letters ⊢
    have unmarked : ∀ space rest, IsGap space →
        (t.printed " as ").toList ≠ "type".toList ++ (space ++ rest) := by
      rintro space rest wide same
      obtain ⟨b, more, rfl, blank⟩ := wide.exists_cons
      have mem : b ∈ t.exported.1.toList := by
        rw [← letters, same]
        simp
      rw [t.exported.isBlank b mem] at blank
      cases blank
    rw [substitute_typeWord_of_not unmarked]
    exact t.exported.trim_beforeText (by rw [letters, List.append_nil]) rfl
  | some here =>
    simp only [given] at letters ⊢
    by_cases marked : t.exported.1 = "type"
    · rw [if_pos marked]
      have whole : (t.printed " as ").toList =
          "type".toList ++ ' ' :: 'a' :: ('s' :: ' ' :: here.1.toList) := by
        rw [letters, marked]
        simp
      rw [substitute_typeWord whole (by decide)]
      have unmarked := trim_beforeText_unmarked here
      have as : "as ".toList = ['a', 's', ' '] := by decide
      rwa [as] at unmarked
    · rw [if_neg marked]
      have unmarked : ∀ space rest, IsGap space →
          (t.printed " as ").toList ≠ "type".toList ++ (space ++ rest) := by
        rintro space rest wide same
        obtain ⟨b, more, rfl, blank⟩ := wide.exists_cons
        rw [letters, asMark_eq, List.cons_append, List.cons_append] at same
        have stop (cs : List Char) : (' ' :: cs).head?.any isWordOrDollar = false :=
          (by decide : isWordOrDollar ' ' = false)
        have stop' (cs : List Char) : (b :: cs).head?.any isWordOrDollar = false :=
          isWordOrDollar_of_isBlank blank
        have equal :=
          Text.run_inj (fun c mem => t.exported.isWordOrDollar mem) word (stop _) (stop' _) same
        exact marked (String.toList_inj.mp equal)
      rw [substitute_typeWord_of_not unmarked]
      refine t.exported.trim_beforeText letters ?_
      rw [asMark_eq]
      exact Text.beforeTextChars_self _ _ _

/-! ## The names in braces -/

section

variable (default name : Identifier) (taken : List Taken)

theorem Taken.isEmpty_printed {mark : String} (t : Taken) : (t.printed mark).isEmpty = false := by
  obtain ⟨init, c, letters, -⟩ := @Taken.exists_concat mark t
  refine Bool.eq_false_iff.mpr fun empty => ?_
  rw [String.isEmpty_iff.mp empty] at letters
  exact List.append_ne_nil_of_right_ne_nil init (List.cons_ne_nil c []) letters.symm

/-- The end of a list in braces goes, up to the last name. -/
theorem trimEndBy_printedList {mark : String} {drop : Char → Bool} (some_taken : taken ≠ [])
    (names : ∀ c, isWordOrDollar c = true → drop c = false)
    (all : ∀ c ∈ [' ', '\x7d'], drop c = true)
    (front : List Char) :
    Text.trimEndBy drop (front ++ (printedList mark taken).toList ++ [' ', '\x7d']) =
      front ++ (printedList mark taken).toList := by
  obtain ⟨init, c, letters, part⟩ := @exists_concat_printedList mark taken some_taken
  rw [Text.trimEndBy_append_of_all all, letters, ← List.append_assoc,
    Text.trimEndBy_append_cons (names c part)]
  rfl

theorem bracedNames_named :
    bracedNames (String.ofList (namedClause default taken)) = taken.map Taken.recorded := by
  have inside : Text.afterFirst '\x7b' (String.ofList (namedClause default taken)) =
      String.ofList ([' '] ++ (printedList " as " taken).toList ++ [' ', '\x7d']) := by
    rw [Text.afterFirst, String.toList_ofList, namedClause_eq,
      (Text.takeWhile_append_cons (not_mem_default default)).2]
    rfl
  rw [bracedNames, inside]
  cases taken with
  | nil => decide
  | cons first others =>
    have some_taken := List.cons_ne_nil first others
    generalize first :: others = taken at some_taken ⊢
    have marks : "\x7d \n".toList = ['\x7d', ' ', '\n'] := by decide
    have names : ∀ c, isWordOrDollar c = true → ['\x7d', ' ', '\n'].contains c = false :=
      fun _ part => Text.not_contains_of_class (by decide) part
    have trimmed : Text.trimEndSet "\x7d \n"
        (String.ofList ([' '] ++ (printedList " as " taken).toList ++ [' ', '\x7d'])) =
          String.ofList ([' '] ++ (printedList " as " taken).toList) := by
      rw [Text.trimEndSet, marks, String.toList_ofList,
        trimEndBy_printedList taken some_taken names (by decide)]
    have items : (Text.split ',' (String.ofList ([' '] ++ (printedList " as " taken).toList))).map
        Text.trim = taken.map (Taken.printed " as ") :=
      map_split_printedList some_taken (by decide)
        (fun t _ _ blank => t.trim_printed blank) (by decide)
    have all : ∀ item ∈ taken.map (Taken.printed " as "), (!item.isEmpty) = true := by
      refine List.forall_mem_map.mpr fun t _ => ?_
      rw [t.isEmpty_printed]
      rfl
    simp only [trimmed, items, List.filter_eq_self.mpr all, List.map_map]
    exact List.map_congr_left fun t _ => t.recorded_eq

/-! ## The names of a `require` target -/

theorem requiredNames_name : requiredNames name.1 = [name.1] := by
  have other : Text.startsWith name.1 "\x7b" = false := by
    obtain ⟨c, more, letters, starts⟩ := name.exists_cons
    have brace : "\x7b".toList = ['\x7b'] := by decide
    have different : ('\x7b' == c) = false := by
      refine beq_eq_false_iff_ne.mpr ?_
      rintro rfl
      revert starts
      decide
    rw [Text.startsWith, brace, letters, List.isPrefixOf_cons_cons, different, Bool.false_and]
  rw [requiredNames, other]
  rfl

/-- A list of names starts as its first name does. -/
theorem exists_cons_printedList {mark : String} (some_taken : taken ≠ []) :
    ∃ c more, (printedList mark taken).toList = c :: more ∧ isWordOrDollar c = true := by
  obtain ⟨t, rest, rfl⟩ := List.exists_cons_of_ne_nil some_taken
  obtain ⟨c, more, letters, starts⟩ := t.exported.exists_cons
  have printed : (t.printed mark).toList = c :: (more ++ t.behind mark) := by
    rw [t.toList_printed, letters, List.cons_append]
  have part := isWordOrDollar_of_isNameStart starts
  cases rest with
  | nil => exact ⟨c, _, printed, part⟩
  | cons next others =>
    have whole := toList_printedList_cons mark t next others
    rw [printed, List.cons_append] at whole
    exact ⟨c, _, whole, part⟩

/-- The name in front of a colon is the exported one. -/
theorem Taken.trim_beforeFirst (t : Taken) {blanks : List Char}
    (blank : ∀ c ∈ blanks, isBlank c = true) :
    Text.trim (Text.beforeFirst ':' (String.ofList (blanks ++ (t.printed ": ").toList))) =
      t.exported.1 := by
  have free : ':' ∉ blanks ++ t.exported.1.toList := by
    rw [List.mem_append, not_or]
    exact ⟨fun mem => absurd (blank ':' mem) (by decide), t.exported.not_mem (by decide)⟩
  have kept : (blanks ++ (t.printed ": ").toList).takeWhile (· != ':') =
      blanks ++ t.exported.1.toList := by
    rw [t.toList_printed, behind, ← List.append_assoc]
    cases t.given with
    | none =>
      rw [List.append_nil]
      exact (Text.takeWhile_of_not_mem free).1
    | some here =>
      have colon : ": ".toList = ':' :: " ".toList := by decide
      simp only [colon, List.cons_append]
      exact (Text.takeWhile_append_cons free).1
  rw [Text.beforeFirst, String.toList_ofList, kept, Text.trim, String.toList_ofList,
    t.exported.trimChars_eq blank, String.ofList_toList]

theorem requiredNames_members :
    requiredNames (String.ofList (membersTarget taken)) = taken.map fun t => t.exported.1 := by
  have letters : membersTarget taken =
      ['\x7b', ' '] ++ ((printedList ": " taken).toList ++ [' ', '\x7d']) := by
    simp [membersTarget]
  cases taken with
  | nil => decide
  | cons first others =>
    have some_taken := List.cons_ne_nil first others
    generalize first :: others = taken at some_taken letters ⊢
    have braced : Text.startsWith (String.ofList (membersTarget taken)) "\x7b" = true := by
      have brace : "\x7b".toList = ['\x7b'] := by decide
      rw [Text.startsWith, brace, String.toList_ofList, letters]
      rfl
    have marks : "\x7b\x7d ".toList = ['\x7b', '\x7d', ' '] := by decide
    have names : ∀ c, isWordOrDollar c = true → ['\x7b', '\x7d', ' '].contains c = false :=
      fun _ part => Text.not_contains_of_class (by decide) part
    have opening : Text.trimStartBy ['\x7b', '\x7d', ' '].contains (membersTarget taken) =
        [] ++ (printedList ": " taken).toList ++ [' ', '\x7d'] := by
      obtain ⟨c, more, list, part⟩ := @exists_cons_printedList taken ": " some_taken
      rw [letters, Text.trimStartBy, List.dropWhile_append_of_pos (by decide), list,
        List.cons_append]
      exact Text.trimStartBy_cons_of_not (names c part) _
    have trimmed : Text.trimSet "\x7b\x7d " (String.ofList (membersTarget taken)) =
        String.ofList ([] ++ (printedList ": " taken).toList) := by
      rw [Text.trimSet, marks, String.toList_ofList, Text.trimBy, opening,
        trimEndBy_printedList taken some_taken names (by decide)]
    have items {α : Type} {read : String → α} {image : Taken → α}
        (each : ∀ t ∈ taken, ∀ blanks : List Char, (∀ c ∈ blanks, isBlank c = true) →
          read (String.ofList (blanks ++ (t.printed ": ").toList)) = image t) :
        (Text.split ',' (String.ofList ([] ++ (printedList ": " taken).toList))).map read =
          taken.map image :=
      map_split_printedList some_taken (by decide) each (List.forall_mem_nil _)
    have all : ∀ part ∈ Text.split ',' (String.ofList ([] ++ (printedList ": " taken).toList)),
        (!(Text.trim part).isEmpty) = true := by
      intro part mem
      have trims := items fun t _ _ blank => t.trim_printed blank
      obtain ⟨t, -, same⟩ := List.mem_map.mp (trims ▸ List.mem_map_of_mem (f := Text.trim) mem)
      rw [← same, t.isEmpty_printed]
      rfl
    rw [requiredNames, if_pos braced]
    simp only [trimmed, List.filter_eq_self.mpr all]
    exact items fun t _ _ blank => t.trim_beforeFirst blank

end

end RepoSurvey.JavaScript
