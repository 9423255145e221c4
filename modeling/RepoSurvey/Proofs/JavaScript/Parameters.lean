import RepoSurvey.Proofs.JavaScript.Calls
import RepoSurvey.Proofs.Text.Classes
import RepoSurvey.Proofs.Text.Cutting

/-!
# Parameter lists

A list is cut at the commas before which as many brackets have been opened as closed. Angle
brackets count, and so do brackets in literals and the angle of an arrow: what counts is
`weight`, what a cut may be is `Cut`, and there is one for each text (`cutAtCommas_eq_iff`).

`Lists` says which parameters a text lists: names, each with a default or without. When the
commas between them are those of the cut (`Settled`), the names are read off as they stand
(`parameterNames_of_lists`). They are if the brackets that count are nested in each default, and
its commas stand in them (`Nested`).
-/

namespace RepoSurvey.JavaScript

open Text (Pattern Match isBlank isWordOrDollar)

/-! ## Cutting -/

/-- What a character adds to the number of open brackets. -/
def weight (c : Char) : Int :=
  if ['(', '[', '{', '<'].contains c then 1
  else if [')', ']', '}', '>'].contains c then -1
  else 0

/-- How many more brackets a text opens than it closes. -/
def nesting : List Char → Int
  | [] => 0
  | c :: rest => weight c + nesting rest

/-- Before no comma of the text have as many brackets been opened as closed. -/
def Whole (text : List Char) : Prop :=
  ∀ before after, text = before ++ ',' :: after → nesting before ≠ 0

/-- The brackets of a text are nested, and it has a comma outside them only if it stands in
brackets itself. -/
inductive Nested : Bool → List Char → Prop
  /-- There is nothing. -/
  | nil {inside : Bool} : Nested inside []
  /-- A character that is no bracket comes first. -/
  | plain {inside : Bool} {c : Char} {text : List Char} (neutral : weight c = 0)
    (enclosed : c = ',' → inside = true) (rest : Nested inside text) : Nested inside (c :: text)
  /-- A text in brackets comes first. -/
  | group {inside : Bool} {opening closing : Char} {piece text : List Char}
    (opens : weight opening = 1) (closes : weight closing = -1) (body : Nested true piece)
    (rest : Nested inside text) : Nested inside (opening :: (piece ++ closing :: text))

/-- The pieces of a text between the commas before which as many brackets have been opened as
closed. -/
inductive Cut : List Char → List (List Char) → Prop
  /-- There is no such comma. -/
  | last {piece : List Char} (whole : Whole piece) : Cut piece [piece]
  /-- The first of them stands after a piece. -/
  | comma {piece text : List Char} {pieces : List (List Char)} (whole : Whole piece)
    (closed : nesting piece = 0) (rest : Cut text pieces) :
    Cut (piece ++ ',' :: text) (piece :: pieces)

section

variable {text piece : List Char} {pieces : List (List Char)} {c : Char}

theorem nesting_append (before after : List Char) :
    nesting (before ++ after) = nesting before + nesting after := by
  induction before with
  | nil => exact (Int.zero_add _).symm
  | cons c rest ih => rw [List.cons_append, nesting, nesting, ih, Int.add_assoc]

theorem nesting_singleton (c : Char) : nesting [c] = weight c :=
  Int.add_zero _

theorem Nested.nesting_eq {inside : Bool} (nested : Nested inside text) : nesting text = 0 := by
  induction nested with
  | nil => rfl
  | plain neutral _ _ ih => rw [nesting, neutral, ih, Int.add_zero]
  | group opens closes _ _ ihBody ihRest =>
    rw [nesting, nesting_append, nesting, opens, closes, ihBody, ihRest]
    rfl

/-- In nested brackets no more are closed than have been opened, and at a comma one is open. -/
theorem Nested.level {inside : Bool} (nested : Nested inside text) : ∀ before after,
    text = before ++ after → 0 ≤ nesting before ∧
      (inside = false → after.head? = some ',' → 0 < nesting before) := by
  induction nested with
  | nil =>
    intro before after split
    obtain ⟨rfl, rfl⟩ := List.append_eq_nil_iff.mp split.symm
    exact ⟨Int.le_refl 0, nofun⟩
  | @plain inside c text neutral enclosed rest ih =>
    intro before after split
    rcases List.cons_eq_append_iff.mp split with ⟨rfl, rfl⟩ | ⟨front, rfl, more⟩
    · refine ⟨Int.le_refl 0, fun outside comma => ?_⟩
      rw [enclosed (Option.some.inj comma)] at outside
      cases outside
    · rw [nesting, neutral, Int.zero_add]
      exact ih front after more
  | @group inside opening closing piece text opens closes body rest ihBody ihRest =>
    intro before after split
    rcases List.cons_eq_append_iff.mp split with ⟨rfl, rfl⟩ | ⟨front, rfl, more⟩
    · refine ⟨Int.le_refl 0, fun _ comma => ?_⟩
      rw [Option.some.inj comma] at opens
      revert opens
      decide
    · rw [nesting, opens]
      rcases List.append_eq_append_iff.mp more with ⟨beyond, rfl, later⟩ | ⟨own, rfl, -⟩
      · rw [nesting_append, body.nesting_eq]
        rcases List.cons_eq_append_iff.mp later with ⟨rfl, -⟩ | ⟨own, rfl, behind⟩
        · exact ⟨by decide, fun _ _ => by decide⟩
        · have same : 1 + (0 + (-1 + nesting own)) = nesting own := by omega
          rw [nesting, closes, same]
          exact ihRest own after behind
      · have level := (ihBody front own rfl).1
        exact ⟨by omega, fun _ _ => by omega⟩

theorem Nested.whole (nested : Nested false text) : Whole text := by
  intro before after split level
  have opened := (nested.level before (',' :: after) split).2 rfl rfl
  omega

theorem whole_nil : Whole [] := by
  intro before after split
  cases before <;> cases split

/-- A comma that is cut at ends the piece; any other character belongs to it. -/
theorem cutAtCommas_cons (depth : Int) (part : List Char) (c : Char) (rest : List Char) :
    cutAtCommas depth part (c :: rest) =
      if c = ',' ∧ depth = 0 then part.reverse :: cutAtCommas 0 [] rest
      else cutAtCommas (depth + weight c) (c :: part) rest := by
  have counted : (if ['(', '[', '{', '<'].contains c then depth + 1
      else if [')', ']', '}', '>'].contains c then depth - 1 else depth) = depth + weight c := by
    unfold weight
    split
    · rfl
    · split
      · rfl
      · exact (Int.add_zero depth).symm
  rw [cutAtCommas]
  simp only [counted, Bool.and_eq_true, beq_iff_eq]
  by_cases comma : c = ','
  · subst comma
    have none : weight ',' = 0 := by decide
    simp only [none, Int.add_zero]
    split
    next cuts => rw [cuts.2]
    next => rfl
  · simp only [comma, false_and, if_false]

/-- No piece is cut where its commas do not allow it. -/
theorem cutAtCommas_append {part : List Char} {depth : Int}
    (whole : ∀ before after, piece = before ++ ',' :: after → depth + nesting before ≠ 0)
    (rest : List Char) : cutAtCommas depth part (piece ++ rest) =
      cutAtCommas (depth + nesting piece) (piece.reverse ++ part) rest := by
  induction piece generalizing depth part with
  | nil => simp [nesting]
  | cons c more ih =>
    have stays : ¬ (c = ',' ∧ depth = 0) := by
      rintro ⟨rfl, rfl⟩
      exact whole [] more rfl rfl
    rw [List.cons_append, cutAtCommas_cons, if_neg stays, ih ?_, nesting, List.reverse_cons,
      List.append_assoc, Int.add_assoc]
    · rfl
    · intro before after split
      have start := whole (c :: before) after (congrArg (c :: ·) split)
      rwa [nesting, ← Int.add_assoc] at start

theorem Cut.cutAtCommas_eq (cut : Cut text pieces) : cutAtCommas 0 [] text = pieces := by
  have start (piece : List Char) (whole : Whole piece) (rest : List Char) :
      cutAtCommas 0 [] (piece ++ rest) = cutAtCommas (nesting piece) piece.reverse rest := by
    rw [cutAtCommas_append, Int.zero_add, List.append_nil]
    intro before after split
    rw [Int.zero_add]
    exact whole before after split
  induction cut with
  | @last piece whole =>
    have same := start piece whole []
    rwa [List.append_nil, cutAtCommas, List.reverse_reverse] at same
  | @comma piece text pieces whole closed _ ih =>
    rw [start piece whole, closed, cutAtCommas_cons, if_pos ⟨rfl, rfl⟩, List.reverse_reverse, ih]

/-- The piece that is being read has been cut nowhere. -/
theorem cut_cutAtCommas {part : List Char} (whole : Whole part.reverse) :
    Cut (part.reverse ++ text) (cutAtCommas (nesting part.reverse) part text) := by
  induction text generalizing part with
  | nil =>
    rw [List.append_nil, cutAtCommas]
    exact .last whole
  | cons c rest ih =>
    rw [cutAtCommas_cons]
    split
    next cuts =>
      obtain ⟨rfl, closed⟩ := cuts
      exact .comma whole closed (@ih [] whole_nil)
    next stays =>
      have longer : Whole (c :: part).reverse := by
        intro before after split level
        rw [List.reverse_cons] at split
        rcases List.eq_nil_or_concat after with rfl | ⟨front, last, rfl⟩
        · obtain ⟨rfl, same⟩ := List.append_inj' split rfl
          obtain ⟨rfl, -⟩ := List.cons.inj same
          exact stays ⟨rfl, level⟩
        · rw [List.concat_eq_append, ← List.cons_append, ← List.append_assoc] at split
          exact whole before front (List.append_inj' split rfl).1 level
      have read := ih longer
      rw [List.reverse_cons, List.append_assoc, nesting_append, nesting_singleton] at read
      exact read

/-- A text is cut into the pieces between the commas that count, and into no others. -/
theorem cutAtCommas_eq_iff : cutAtCommas 0 [] text = pieces ↔ Cut text pieces := by
  constructor
  · rintro rfl
    exact @cut_cutAtCommas text [] whole_nil
  · exact Cut.cutAtCommas_eq

end

/-! ## Names -/

/-- Words that are passed over in front of a parameter when a blank stands behind them. -/
def modifierWords : List String :=
  ["public", "private", "protected", "readonly"]

/-- What stands behind a name: nothing, or an equals sign and a default, perhaps after blanks. -/
def Trails (title : String) (rest : List Char) : Prop :=
  rest = [] ∨ ∃ after d, rest = after ++ '=' :: d ∧ (∀ c ∈ after, isBlank c = true) ∧
    (title ∈ modifierWords → after = [])

section

variable {title : String} {rest : List Char} {c : Char}

theorem isWordOrDollar_of_isBlank (blank : isBlank c = true) : isWordOrDollar c = false := by
  have other : (c == '$') = false := by
    refine beq_eq_false_iff_ne.mpr ?_
    rintro rfl
    revert blank
    decide
  rw [isWordOrDollar, Text.not_isWordChar_of_isBlank blank, other]
  rfl

theorem isBlank_of_isWordOrDollar (part : isWordOrDollar c = true) : isBlank c = false :=
  Text.apart_symm isWordOrDollar_of_isBlank part

theorem isWordOrDollar_of_isNameStart (starts : isNameStart c = true) :
    isWordOrDollar c = true := by
  rw [isNameStart, Bool.or_eq_true, Bool.or_eq_true] at starts
  rcases starts with (letter | underscore) | dollar
  · have ascii : Text.isAsciiAlphanumeric c = true := by
      rw [Text.isAsciiAlphanumeric, letter, Bool.true_or]
    rw [isWordOrDollar, Text.isWordChar_of_ascii ascii, Bool.true_or]
  · rw [isWordOrDollar, Text.isWordChar, underscore, Bool.or_true, Bool.true_or]
  · rw [isWordOrDollar, dollar, Bool.or_true]

theorem IsIdentifier.all_isWordOrDollar (named : IsIdentifier title) :
    ∀ c ∈ title.toList, isWordOrDollar c = true := by
  obtain ⟨first, more, letters, starts, parts⟩ := named
  rw [letters]
  exact List.forall_mem_cons.mpr ⟨isWordOrDollar_of_isNameStart starts, parts⟩

/-- A name ends where what stands behind it begins. -/
theorem Trails.stops (trails : Trails title rest) : rest.head?.any isWordOrDollar = false := by
  rcases trails with rfl | ⟨after, d, rfl, blank, -⟩
  · rfl
  · cases after with
    | nil => exact (by decide : isWordOrDollar '=' = false)
    | cons b more => exact isWordOrDollar_of_isBlank (blank b List.mem_cons_self)

theorem IsIdentifier.isBlank_of_mem (named : IsIdentifier title) (mem : c ∈ title.toList) :
    isBlank c = false :=
  isBlank_of_isWordOrDollar (named.all_isWordOrDollar c mem)

/-- Blanks go in front of the name and behind what follows it. -/
theorem IsIdentifier.trimChars_eq (named : IsIdentifier title) {before : List Char}
    (blank : ∀ c ∈ before, isBlank c = true) (rest : List Char) :
    Text.trimChars (before ++ (title.toList ++ rest)) =
      title.toList ++ Text.trimEndBy isBlank rest := by
  have kept {c : Char} (mem : c ∈ title.toList) : isBlank c = false := named.isBlank_of_mem mem
  have opening : Text.trimStartBy isBlank (before ++ (title.toList ++ rest)) =
      title.toList ++ rest := by
    obtain ⟨first, more, letters, -⟩ := named
    rw [letters] at kept ⊢
    rw [Text.trimStartBy, List.dropWhile_append_of_pos blank]
    exact Text.trimStartBy_cons_of_not (kept List.mem_cons_self) _
  rw [Text.trimChars, Text.trimBy, opening]
  obtain none | ⟨init, last, letters⟩ := List.eq_nil_or_concat title.toList
  · obtain ⟨first, more, letters, -⟩ := named
    rw [letters] at none
    cases none
  · rw [letters, List.concat_eq_append] at kept ⊢
    rw [List.append_assoc, List.append_assoc]
    exact Text.trimEndBy_append_cons (kept (by simp)) init rest

theorem Trails.trimEnd (trails : Trails title rest) :
    Trails title (Text.trimEndBy isBlank rest) := by
  rcases trails with rfl | ⟨after, d, rfl, blank, unmarked⟩
  · exact .inl rfl
  · rw [Text.trimEndBy_append_cons (by decide)]
    exact .inr ⟨after, _, rfl, blank, unmarked⟩

/-- No decorator stands in front of a name. -/
theorem IsIdentifier.findAll_parameterDecorators (named : IsIdentifier title) (rest : List Char) :
    parameterDecorators.findAll (title.toList ++ rest).toArray = [] := by
  refine List.eq_nil_iff_forall_not_mem.mpr fun m found => ?_
  obtain ⟨inside, matched⟩ := Pattern.matchAt?_of_mem_findAll found
  obtain ⟨before, piece, after, caps, whole, -, reads, -⟩ :=
    Pattern.exists_reads_of_matchAt? inside matched
  obtain ⟨_, _, _, rfl, ⟨rfl, rfl, -⟩, _, _, _, rfl, ⟨_, _, _, rfl, ⟨⟨c, rfl, sign⟩, -⟩, -⟩, -⟩ :=
    reads
  obtain ⟨first, more, letters, starts, -⟩ := named
  rw [letters] at whole
  obtain ⟨rfl, -⟩ := List.cons.inj whole
  rw [beq_iff_eq.mp sign] at starts
  revert starts
  decide

/-- A name is not taken for a modifier. -/
theorem Trails.findAll_parameterModifiers (named : IsIdentifier title) (trails : Trails title rest) :
    parameterModifiers.findAll (title.toList ++ rest).toArray = [] := by
  refine List.eq_nil_iff_forall_not_mem.mpr fun m found => ?_
  obtain ⟨inside, matched⟩ := Pattern.matchAt?_of_mem_findAll found
  obtain ⟨before, piece, after, caps, whole, -, reads, -⟩ :=
    Pattern.exists_reads_of_matchAt? inside matched
  obtain ⟨_, _, _, rfl, ⟨rfl, rfl, -⟩, _, _, _, rfl, ⟨word, space, _, rfl, readsWord, readsGap⟩, -⟩ :=
    reads
  obtain ⟨modifier, known, rfl, -⟩ := Pattern.reads_oneOf.mp readsWord
  obtain ⟨blank, some_blank, -⟩ := Pattern.reads_some1.mp readsGap
  obtain ⟨b, more, rfl⟩ := List.exists_cons_of_ne_nil some_blank
  have blankHead := blank b List.mem_cons_self
  simp only [List.nil_append, List.append_assoc, List.cons_append] at whole
  have parts : ∀ c ∈ modifier.toList, isWordOrDollar c = true := by
    have each : ∀ word ∈ modifierWords, word.toList.all isWordOrDollar = true := by
      decide +kernel
    exact List.all_eq_true.mp (each modifier known)
  have same : title.toList = modifier.toList := by
    refine Text.run_inj named.all_isWordOrDollar parts trails.stops ?_ whole
    exact isWordOrDollar_of_isBlank blankHead
  obtain rfl := String.toList_inj.mp same
  have behind := List.append_cancel_left whole
  rcases trails with rfl | ⟨gap, d, rfl, -, unmarked⟩
  · cases behind
  · rw [unmarked known] at behind
    obtain ⟨rfl, -⟩ := List.cons.inj behind
    revert blankHead
    decide

/-- The identifier at the beginning is the name. -/
theorem Trails.leadingName?_eq (named : IsIdentifier title) (trails : Trails title rest) :
    leadingName? (String.ofList (title.toList ++ rest)) = some title := by
  have parts := named.all_isWordOrDollar
  obtain ⟨first, more, letters, starts, after⟩ := named
  have reads : name.Reads [] title.toList rest [] [] := by
    refine ⟨[first], more, [], letters, ⟨⟨first, rfl, starts⟩, rfl⟩, ?_⟩
    exact Pattern.reads_many.mpr ⟨after, rfl⟩
  generalize whole : (title.toList ++ rest).toArray = text
  have letters' : text.toList = title.toList ++ rest := whole ▸ rfl
  obtain ⟨m, matched⟩ : ∃ m, name.matchAt? text 0 = some m :=
    Option.isSome_iff_exists.mp (Pattern.isSome_matchAt? rfl letters' reads)
  obtain ⟨start, -, bound⟩ := Pattern.bounds_of_matchAt? (Nat.zero_le _) matched
  obtain ⟨_, _, _, split, ⟨⟨c, rfl, own⟩, -⟩, run⟩ :=
    Pattern.reads_of_matchAt? (Nat.zero_le _) matched
  have read : ∀ c ∈ Text.between text 0 m.stop, isWordOrDollar c = true := by
    rw [split]
    exact List.forall_mem_cons.mpr
      ⟨isWordOrDollar_of_isNameStart own, (Pattern.reads_many.mp run).1⟩
  have long : name.EndsInRun isWordOrDollar := .seq .run
  have stop := long.stops (Nat.zero_le _) matched
  rw [Text.classAt_eq] at stop
  have found : Text.between text 0 m.stop = title.toList := by
    refine Text.run_inj read parts stop trails.stops ?_
    rw [Text.between_drop (Nat.zero_le _), List.drop_zero, letters']
  have named : Match.textBetween text m.start m.stop = title := by
    rw [start, Text.textBetween_eq, found, String.ofList_toList]
  rw [leadingName?, Pattern.opens?, String.toList_ofList]
  simp only [whole, matched, Option.map_some, named]

/-- The name is read off, whatever follows it. -/
theorem Trails.parameterName_eq (named : IsIdentifier title) (trails : Trails title rest) :
    parameterName (String.ofList (title.toList ++ rest)) = title := by
  have trimmed : Text.trim (String.ofList (title.toList ++ rest)) =
      String.ofList (title.toList ++ Text.trimEndBy isBlank rest) := by
    rw [Text.trim, String.toList_ofList]
    exact congrArg String.ofList (named.trimChars_eq (List.forall_mem_nil _) rest)
  have undecorated : parameterDecorators.substitute (fun _ _ => "")
      (String.ofList (title.toList ++ Text.trimEndBy isBlank rest)) =
      String.ofList (title.toList ++ Text.trimEndBy isBlank rest) := by
    refine Pattern.substitute_of_findAll_eq_nil ?_
    rw [String.toList_ofList]
    exact named.findAll_parameterDecorators _
  have unmodified : parameterModifiers.substitute (fun _ _ => "")
      (String.ofList (title.toList ++ Text.trimEndBy isBlank rest)) =
      String.ofList (title.toList ++ Text.trimEndBy isBlank rest) := by
    refine Pattern.substitute_of_findAll_eq_nil ?_
    rw [String.toList_ofList]
    exact trails.trimEnd.findAll_parameterModifiers named
  have opens := trails.trimEnd.leadingName?_eq named
  obtain ⟨first, more, letters, starts, -⟩ := named
  have plain (mark : String) {c : Char} {cs : List Char} (marked : mark.toList = c :: cs)
      (other : isNameStart c = false) :
      Text.startsWith (String.ofList (title.toList ++ Text.trimEndBy isBlank rest)) mark =
        false := by
    have differs := Text.ne_of_class starts other
    rw [Text.startsWith, String.toList_ofList, letters, marked, List.cons_append,
      List.isPrefixOf_cons_cons, beq_eq_false_iff_ne.mpr differs.symm, Bool.false_and]
  rw [parameterName]
  simp only [trimmed, undecorated, unmodified, opens, Option.getD_some,
    plain "\x7b" rfl (by decide), plain "[" rfl (by decide),
    plain "..." rfl (by decide), Bool.false_eq_true, if_false]

end

/-! ## Lists -/

/-- A parameter as it is written: a name, perhaps with an equals sign and a default. -/
structure Parameter where
  /-- The blanks in front of it. -/
  before : List Char
  /-- Its name. -/
  name : String
  /-- The blanks after the name. -/
  after : List Char
  /-- What stands after the equals sign, if there is one. -/
  default : Option (List Char)
  /-- Only blanks stand in front. -/
  blankBefore : ∀ c ∈ before, isBlank c = true
  /-- The name is an identifier. -/
  named : IsIdentifier name
  /-- Only blanks stand after the name. -/
  blankAfter : ∀ c ∈ after, isBlank c = true

/-- The equals sign and the default. -/
def Parameter.tail (p : Parameter) : List Char :=
  match p.default with
  | none => []
  | some d => '=' :: d

/-- The text of a parameter. -/
def Parameter.text (p : Parameter) : List Char :=
  p.before ++ (p.name.toList ++ (p.after ++ p.tail))

/-- The text lists the parameters, perhaps with a comma after the last. -/
inductive Lists : List Parameter → List Char → Prop
  /-- There are none. -/
  | none {text : List Char} (blank : ∀ c ∈ text, isBlank c = true) : Lists [] text
  /-- There is one without a comma. -/
  | last (p : Parameter) : Lists [p] p.text
  /-- Others follow one after a comma. -/
  | comma (p : Parameter) {others : List Parameter} {text : List Char} (rest : Lists others text) :
    Lists (p :: others) (p.text ++ ',' :: text)

/-- The commas between the parameters are those at which the list is cut, and no name is taken for
a modifier. -/
structure Settled (listed : List Parameter) : Prop where
  /-- In front of no comma in a default are as many brackets opened as closed. -/
  whole : ∀ p ∈ listed, ∀ d ∈ p.default, Whole d
  /-- A default with a parameter behind it closes as many brackets as it opens. -/
  closed : ∀ p ∈ listed.dropLast, ∀ d ∈ p.default, nesting d = 0
  /-- No blank stands between the word of a modifier and the equals sign. -/
  unmarked : ∀ p ∈ listed, p.name ∈ modifierWords → p.after = [] ∨ p.default = none

/-- Defaults with nested brackets and no comma outside them do not disturb the list. -/
theorem Settled.of_nested {listed : List Parameter}
    (nested : ∀ p ∈ listed, ∀ d ∈ p.default, Nested false d)
    (unmarked : ∀ p ∈ listed, p.name ∈ modifierWords → p.after = [] ∨ p.default = none) :
    Settled listed where
  whole := fun p mem d given => (nested p mem d given).whole
  closed := fun p mem d given => (nested p (List.dropLast_subset listed mem) d given).nesting_eq
  unmarked := unmarked

/-- The names of the parameters that are written in the pieces, blank pieces left out. -/
def parameterNames (pieces : List (List Char)) : List String :=
  ((pieces.map fun item => String.ofList (Text.trimChars item)).filter
    fun item => !item.isEmpty).map parameterName

section

variable {front text piece : List Char} {c : Char}

/-- Commas and the characters that count as brackets. -/
def marks : List Char :=
  [',', '(', '[', '{', '<', ')', ']', '}', '>']

theorem weight_of_class {inClass : Char → Bool} (free : marks.any inClass = false)
    (inside : inClass c = true) : c ≠ ',' ∧ weight c = 0 := by
  have other : c ∉ marks := fun mem => List.any_eq_false.mp free c mem inside
  simp only [marks, List.mem_cons, List.not_mem_nil, not_or] at other
  refine ⟨other.1, ?_⟩
  simp [weight, other]

theorem nesting_of_plain (plain : ∀ c ∈ front, c ≠ ',' ∧ weight c = 0) : nesting front = 0 := by
  induction front with
  | nil => rfl
  | cons c rest ih =>
    have later := ih fun c mem => plain c (List.mem_cons_of_mem _ mem)
    rw [nesting, later, (plain c List.mem_cons_self).2]
    rfl

theorem whole_append (plain : ∀ c ∈ front, c ≠ ',' ∧ weight c = 0) (whole : Whole text) :
    Whole (front ++ text) := by
  intro before after split
  rcases List.append_eq_append_iff.mp split with ⟨more, rfl, own⟩ | ⟨more, whole_front, own⟩
  · rw [nesting_append, nesting_of_plain plain, Int.zero_add]
    exact whole more after own
  · cases more with
    | nil =>
      rw [List.append_nil] at whole_front
      rw [← whole_front, nesting_of_plain plain]
      exact absurd rfl (whole [] after own.symm)
    | cons c more =>
      obtain ⟨rfl, -⟩ := List.cons.inj own
      exact absurd rfl (plain ',' (whole_front ▸ by simp)).1

/-- A comma behind open brackets does not end the piece. -/
theorem whole_comma (whole : Whole front) (opened : nesting front ≠ 0) (free : ',' ∉ text) :
    Whole (front ++ ',' :: text) := by
  intro before after split
  rcases List.append_eq_append_iff.mp split with ⟨more, rfl, own⟩ | ⟨more, rfl, own⟩
  · cases more with
    | nil => rwa [List.append_nil]
    | cons c more =>
      obtain ⟨rfl, rest⟩ := List.cons.inj own
      exact absurd (by rw [rest]; simp) free
  · cases more with
    | nil => rwa [List.append_nil] at opened
    | cons c more =>
      obtain ⟨rfl, -⟩ := List.cons.inj own
      exact whole before more rfl

theorem whole_of_plain (plain : ∀ c ∈ front, c ≠ ',' ∧ weight c = 0) : Whole front := by
  have whole := whole_append plain whole_nil
  rwa [List.append_nil] at whole

theorem plain_of_blank (blank : ∀ c ∈ front, isBlank c = true) :
    ∀ c ∈ front, c ≠ ',' ∧ weight c = 0 :=
  fun c mem => weight_of_class (by decide) (blank c mem)

end

theorem parameterNames_of_blank {text : List Char} (blank : ∀ c ∈ text, isBlank c = true)
    (pieces : List (List Char)) : parameterNames (text :: pieces) = parameterNames pieces := by
  have trimmed : Text.trimChars text = [] := by
    rw [Text.trimChars, Text.trimBy, Text.trimStartBy, ← List.append_nil text,
      List.dropWhile_append_of_pos blank]
    rfl
  simp [parameterNames, trimmed]

namespace Parameter

variable {p : Parameter}

/-- The name of a parameter with the blanks around it. -/
def head (p : Parameter) : List Char :=
  p.before ++ (p.name.toList ++ p.after)

theorem text_eq (p : Parameter) : p.text = p.head ++ p.tail := by
  simp only [text, head, List.append_assoc]

theorem plain_head (p : Parameter) : ∀ c ∈ p.head, c ≠ ',' ∧ weight c = 0 := by
  intro c mem
  rcases List.mem_append.mp mem with blank | mem
  · exact plain_of_blank p.blankBefore c blank
  · rcases List.mem_append.mp mem with part | blank
    · exact weight_of_class (by decide +kernel) (p.named.all_isWordOrDollar c part)
    · exact plain_of_blank p.blankAfter c blank

theorem nesting_text (closed : ∀ d ∈ p.default, nesting d = 0) : nesting p.text = 0 := by
  rw [text_eq, nesting_append, nesting_of_plain p.plain_head, Int.zero_add, tail]
  cases given : p.default with
  | none => rfl
  | some d =>
    have level := closed d given
    simpa [nesting, weight] using level

theorem whole_text (whole : ∀ d ∈ p.default, Whole d) : Whole p.text := by
  rw [text_eq]
  refine whole_append p.plain_head ?_
  rw [tail]
  cases given : p.default with
  | none => exact whole_nil
  | some d =>
    have plain : ∀ c ∈ ['='], c ≠ ',' ∧ weight c = 0 :=
      List.forall_mem_singleton.mpr (by decide)
    exact whole_append plain (whole d given)

/-- The name is that of the piece, whatever follows an equals sign behind it. -/
theorem parameterNames_cons {tail : List Char} (p : Parameter)
    (shape : tail = [] ∨ (∃ d, tail = '=' :: d) ∧ (p.name ∈ modifierWords → p.after = []))
    (pieces : List (List Char)) :
    parameterNames ((p.head ++ tail) :: pieces) = p.name :: parameterNames pieces := by
  have trails : Trails p.name (Text.trimEndBy isBlank (p.after ++ tail)) := by
    rcases shape with rfl | ⟨⟨d, rfl⟩, unmarked⟩
    · have trimmed := Text.trimEndBy_append_of_all p.blankAfter []
      rw [List.append_nil, ← List.nil_append p.after, trimmed]
      exact .inl rfl
    · exact Trails.trimEnd (.inr ⟨p.after, d, rfl, p.blankAfter, unmarked⟩)
  have trimmed : Text.trimChars (p.head ++ tail) =
      p.name.toList ++ Text.trimEndBy isBlank (p.after ++ tail) := by
    rw [head, List.append_assoc, List.append_assoc]
    exact p.named.trimChars_eq p.blankBefore _
  have nonempty : (String.ofList (Text.trimChars (p.head ++ tail))).isEmpty = false := by
    obtain ⟨first, more, letters, -⟩ := p.named
    refine Bool.eq_false_iff.mpr fun empty => ?_
    have none := congrArg String.toList (String.isEmpty_iff.mp empty)
    rw [String.toList_ofList, trimmed, letters] at none
    cases none
  have named := trails.parameterName_eq p.named
  rw [← trimmed] at named
  simp [parameterNames, nonempty, named]

end Parameter

theorem Settled.tail {p : Parameter} {others : List Parameter} (settled : Settled (p :: others)) :
    Settled others where
  whole := fun q mem => settled.whole q (List.mem_cons_of_mem p mem)
  closed := by
    intro q mem
    cases others with
    | nil => cases mem
    | cons r more => exact settled.closed q (List.mem_cons_of_mem p mem)
  unmarked := fun q mem => settled.unmarked q (List.mem_cons_of_mem p mem)

theorem Settled.shape {p : Parameter} {others : List Parameter} (settled : Settled (p :: others)) :
    p.tail = [] ∨ (∃ d, p.tail = '=' :: d) ∧ (p.name ∈ modifierWords → p.after = []) := by
  rw [Parameter.tail]
  cases given : p.default with
  | none => exact .inl rfl
  | some d =>
    refine .inr ⟨⟨d, rfl⟩, fun known => ?_⟩
    refine (settled.unmarked p List.mem_cons_self known).resolve_right ?_
    rw [given]
    nofun

/-- Where the commas of a list are those it is cut at, its names are read off. -/
theorem parameterNames_of_lists {listed : List Parameter} {text : List Char}
    (lists : Lists listed text) (settled : Settled listed) :
    parameterNames (cutAtCommas 0 [] text) = listed.map (·.name) := by
  induction lists with
  | @none text blank =>
    rw [(Cut.last (whole_of_plain (plain_of_blank blank))).cutAtCommas_eq,
      parameterNames_of_blank blank]
    rfl
  | last p =>
    have whole := Parameter.whole_text (settled.whole p List.mem_cons_self)
    rw [(Cut.last whole).cutAtCommas_eq, p.text_eq, p.parameterNames_cons settled.shape]
    rfl
  | @comma p others text rest ih =>
    have whole := Parameter.whole_text (settled.whole p List.mem_cons_self)
    by_cases closed : nesting p.text = 0
    · have cut := Cut.comma whole closed (cutAtCommas_eq_iff.mp rfl : Cut text _)
      rw [cut.cutAtCommas_eq, p.text_eq, p.parameterNames_cons settled.shape, ih settled.tail]
      rfl
    · -- brackets may be open behind the last parameter only; its comma then belongs to its default
      have unclosed : p ∉ (p :: others).dropLast :=
        fun mem => closed (Parameter.nesting_text (settled.closed p mem))
      cases rest with
      | last q | comma q _ => exact absurd List.mem_cons_self unclosed
      | none blank =>
        have joined : Whole (p.text ++ ',' :: text) := whole_comma whole closed fun mem =>
          (plain_of_blank blank ',' mem).1 rfl
        rcases settled.shape with bare | ⟨⟨d, given⟩, unmarked⟩
        · have level := nesting_of_plain p.plain_head
          rw [p.text_eq, bare, List.append_nil] at closed
          exact absurd level closed
        · rw [(Cut.last joined).cutAtCommas_eq, p.text_eq, List.append_assoc, given,
            List.cons_append, p.parameterNames_cons (.inr ⟨⟨_, rfl⟩, unmarked⟩)]
          rfl

end RepoSurvey.JavaScript
