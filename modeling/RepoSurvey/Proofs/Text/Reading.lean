import RepoSurvey.Text.Pattern
import Mathlib.Data.List.Basic

/-!
# What a match reads

A search works with positions in a text. `Pattern.Reads` says without them what
a pattern describes: a piece of a text, between what stands before it and what
follows, and the texts of what it captures on the way. A search that succeeds
has read a piece (`Pattern.exists_reads_of_search`), and where there is one to
read, a search for a plain pattern succeeds (`Pattern.isSome_search_of_reads`).
So the captured texts of a match can be computed from the text alone.
-/

namespace RepoSurvey.Text

/-! ## Pieces of a text -/

section

variable {text : Array Char} {accepts : Char → Bool} {i j k : Nat}

/-- The characters from one position to another. -/
def between (text : Array Char) (i j : Nat) : List Char :=
  (text.toList.drop i).take (j - i)

theorem between_self (text : Array Char) (i : Nat) : between text i i = [] := by
  rw [between, Nat.sub_self, List.take_zero]

theorem between_append (upto : i ≤ j) (further : j ≤ k) :
    between text i j ++ between text j k = between text i k := by
  have parts : k - i = (j - i) + (k - j) := by omega
  have start : i + (j - i) = j := by omega
  rw [between, between, between, parts, List.take_add, List.drop_drop, start]

theorem between_drop (upto : i ≤ j) :
    between text i j ++ text.toList.drop j = text.toList.drop i := by
  have start : i + (j - i) = j := by omega
  conv_rhs => rw [← List.take_append_drop (j - i) (text.toList.drop i), List.drop_drop, start]
  rfl

theorem take_between (upto : i ≤ j) :
    text.toList.take i ++ between text i j = text.toList.take j := by
  have parts : j = i + (j - i) := by omega
  conv_rhs => rw [parts, List.take_add]
  rfl

theorem length_between (inside : j ≤ text.size) : (between text i j).length = j - i := by
  rw [between, List.length_take, List.length_drop, Array.length_toList]
  omega

theorem eq_of_between_eq_nil (upto : i ≤ j) (inside : j ≤ text.size)
    (empty : between text i j = []) : i = j := by
  have lengths := congrArg List.length empty
  rw [length_between inside, List.length_nil] at lengths
  omega

theorem between_succ {c : Char} (here : text[i]? = some c) : between text i (i + 1) = [c] := by
  have one : i + 1 - i = 1 := by omega
  rw [between, one, List.take_one, List.head?_drop, Array.getElem?_toList, here]
  rfl

theorem mem_between {c : Char} :
    c ∈ between text i j ↔ ∃ k, i ≤ k ∧ k < j ∧ text[k]? = some c := by
  rw [between, List.mem_iff_getElem?]
  simp only [List.getElem?_take, Option.ite_none_right_eq_some, List.getElem?_drop,
    Array.getElem?_toList]
  constructor
  · rintro ⟨n, short, there⟩
    exact ⟨i + n, Nat.le_add_right i n, by omega, there⟩
  · rintro ⟨k, above, below, there⟩
    refine ⟨k - i, by omega, ?_⟩
    rwa [Nat.add_sub_cancel' above]

theorem textBetween_eq (text : Array Char) (i j : Nat) :
    Match.textBetween text i j = String.ofList (between text i j) := by
  rw [Match.textBetween, Array.toList_extract, List.extract_eq_take_drop]
  rfl

/-! ## Classes and places -/

theorem classAt_iff :
    classAt text accepts i = true ↔ ∃ c, text[i]? = some c ∧ accepts c = true := by
  rw [classAt]
  cases text[i]? with
  | none => simp
  | some c => simp

theorem lt_size_of_classAt (here : classAt text accepts i = true) : i < text.size := by
  obtain ⟨c, there, -⟩ := classAt_iff.mp here
  exact (Array.getElem?_eq_some_iff.mp there).1

theorem classAt_eq : classAt text accepts i = (text.toList.drop i).head?.any accepts := by
  rw [classAt, List.head?_drop, Array.getElem?_toList]
  cases text[i]? with
  | none => rfl
  | some c => rfl

theorem getLast?_take (start : i ≠ 0) (inside : i ≤ text.size) :
    (text.toList.take i).getLast? = text[i - 1]? := by
  have there : i - 1 < text.size := by omega
  rw [List.getLast?_take, if_neg start, Array.getElem?_toList, Array.getElem?_eq_getElem there]
  rfl

theorem classAt_pred (inside : i ≤ text.size) :
    (i != 0 && classAt text accepts (i - 1)) = (text.toList.take i).getLast?.any accepts := by
  by_cases start : i = 0
  · subst start
    rfl
  · rw [getLast?_take start inside, classAt, bne_iff_ne.mpr start, Bool.true_and]
    cases text[i - 1]? with
    | none => rfl
    | some c => rfl

/-! ## Runs -/

theorem runEnd_bounds (room : Nat) (inside : i ≤ text.size) :
    i ≤ runEnd text accepts i room ∧ runEnd text accepts i room ≤ text.size := by
  induction room generalizing i with
  | zero => exact ⟨Nat.le_refl i, inside⟩
  | succ room ih =>
    rw [runEnd]
    split
    next here =>
      have bounds := ih (lt_size_of_classAt here)
      exact ⟨Nat.le_of_succ_le bounds.1, bounds.2⟩
    next => exact ⟨Nat.le_refl i, inside⟩

/-- A position lies within a run when there is room for it and the way to it is of the class. -/
theorem le_runEnd_iff {room : Nat} (upto : i ≤ j) :
    j ≤ runEnd text accepts i room ↔
      j ≤ i + room ∧ ∀ k, i ≤ k → k < j → classAt text accepts k = true := by
  induction room generalizing i with
  | zero =>
    rw [runEnd]
    constructor
    · exact fun short => ⟨by omega, fun k above below => by omega⟩
    · exact fun short => by omega
  | succ room ih =>
    rw [runEnd]
    split
    next here =>
      by_cases same : i = j
      · subst same
        have further : i + 1 ≤ runEnd text accepts (i + 1) room :=
          (runEnd_bounds room (lt_size_of_classAt here)).1
        exact ⟨fun _ => ⟨by omega, fun k above below => by omega⟩, fun _ => by omega⟩
      · rw [ih (by omega)]
        constructor
        · rintro ⟨short, way⟩
          refine ⟨by omega, fun k above below => ?_⟩
          by_cases first : k = i
          · rwa [first]
          · exact way k (by omega) below
        · rintro ⟨short, way⟩
          exact ⟨by omega, fun k above below => way k (by omega) below⟩
    next other =>
      constructor
      · exact fun short => ⟨by omega, fun k above below => by omega⟩
      · rintro ⟨short, way⟩
        by_contra longer
        exact other (way i (Nat.le_refl i) (by omega))

theorem forall_between_iff (inside : j ≤ text.size) :
    (∀ c ∈ between text i j, accepts c = true) ↔
      ∀ k, i ≤ k → k < j → classAt text accepts k = true := by
  constructor
  · intro all k above below
    have short : k < text.size := by omega
    have there : text[k]? = some text[k] := Array.getElem?_eq_getElem short
    exact classAt_iff.mpr ⟨_, there, all _ (mem_between.mpr ⟨k, above, below, there⟩)⟩
  · intro way c mem
    obtain ⟨k, above, below, there⟩ := mem_between.mp mem
    obtain ⟨d, there', accepted⟩ := classAt_iff.mp (way k above below)
    cases there.symm.trans there'
    exact accepted

/-- The positions that a run may end at. -/
theorem exists_runRange?_iff {least : Nat} {most : Option Nat} (inside : i ≤ text.size) :
    (∃ lo extra, runRange? text accepts least most i = some (lo, extra) ∧ lo ≤ j ∧
        j ≤ lo + extra) ↔
      (i ≤ j ∧ j ≤ text.size) ∧ (∀ c ∈ between text i j, accepts c = true) ∧ least ≤ j - i ∧
        ∀ m ∈ most, j - i ≤ m := by
  obtain ⟨room, given⟩ : ∃ room : Nat,
      most.elim (text.size - i) (fun m => min m (text.size - i)) = room := ⟨_, rfl⟩
  have defined : runRange? text accepts least most i =
      if i + least ≤ runEnd text accepts i room then
        some (i + least, runEnd text accepts i room - (i + least))
      else none := by
    rw [← given]
    cases most with
    | none => rfl
    | some m => rfl
  have range : (∃ lo extra, runRange? text accepts least most i = some (lo, extra) ∧ lo ≤ j ∧
      j ≤ lo + extra) ↔ i + least ≤ j ∧ j ≤ runEnd text accepts i room := by
    rw [defined]
    constructor
    · rintro ⟨lo, extra, ends, above, below⟩
      obtain ⟨long, ends⟩ := Option.ite_none_right_eq_some.mp ends
      obtain ⟨rfl, rfl⟩ := Prod.mk.inj (Option.some.inj ends)
      exact ⟨above, by omega⟩
    · rintro ⟨above, below⟩
      exact ⟨_, _, Option.ite_none_right_eq_some.mpr ⟨by omega, rfl⟩, above, by omega⟩
  have roomy : j ≤ i + room ↔ j ≤ text.size ∧ ∀ m ∈ most, j - i ≤ m := by
    cases most with
    | none =>
      simp only [← given, Option.elim_none, Option.not_mem_none, false_implies, implies_true, and_true]
      omega
    | some m =>
      simp only [← given, Option.elim_some, Option.mem_some_iff, forall_eq']
      omega
  rw [range]
  constructor
  · rintro ⟨above, below⟩
    obtain ⟨short, way⟩ := (le_runEnd_iff (by omega)).mp below
    obtain ⟨within, capped⟩ := roomy.mp short
    exact ⟨⟨by omega, within⟩, (forall_between_iff within).mpr way, by omega, capped⟩
  · rintro ⟨⟨upto, within⟩, all, long, capped⟩
    have way := (forall_between_iff within).mp all
    exact ⟨by omega, (le_runEnd_iff upto).mpr ⟨roomy.mpr ⟨within, capped⟩, way⟩⟩

/-- A text that stands again at a position is read there once more. -/
theorem between_of_sameText {start n : Nat} (inside : i ≤ text.size)
    (same : sameText text start i n = true) :
    i + n ≤ text.size ∧ between text i (i + n) = between text start (start + n) := by
  induction n generalizing start i with
  | zero => exact ⟨inside, by rw [Nat.add_zero, Nat.add_zero, between_self, between_self]⟩
  | succ n ih =>
    rw [sameText] at same
    split at same
    next a b there here =>
      obtain ⟨equal, same⟩ := Bool.and_eq_true_iff.mp same
      obtain ⟨further, rest⟩ := ih (Array.getElem?_eq_some_iff.mp here).1 same
      have first : between text i (i + 1) = between text start (start + 1) := by
        rw [between_succ there, between_succ here, beq_iff_eq.mp equal]
      refine ⟨by omega, ?_⟩
      rw [← between_append (Nat.le_succ i) (by omega : i + 1 ≤ i + (n + 1)),
        ← between_append (Nat.le_succ start) (by omega : start + 1 ≤ start + (n + 1)), first]
      have ends : i + (n + 1) = i + 1 + n := by omega
      have ends' : start + (n + 1) = start + 1 + n := by omega
      rw [ends, ends', rest]
    next => cases same

end

/-! ## Trying positions in order -/

section

variable {found : Nat × Captures} {next : Nat → Option (Nat × Captures)} {lo extra : Nat}

theorem exists_of_longestFirst (success : longestFirst next lo extra = some found) :
    ∃ j, lo ≤ j ∧ j ≤ lo + extra ∧ next j = some found := by
  induction extra with
  | zero => exact ⟨lo, Nat.le_refl _, Nat.le_refl _, success⟩
  | succ extra ih =>
    rw [longestFirst] at success
    split at success
    next taken =>
      cases success
      exact ⟨lo + (extra + 1), Nat.le_add_right _ _, Nat.le_refl _, taken⟩
    next =>
      obtain ⟨j, above, below, there⟩ := ih success
      exact ⟨j, above, Nat.le_succ_of_le below, there⟩

theorem exists_of_shortestFirst (success : shortestFirst next lo extra = some found) :
    ∃ j, lo ≤ j ∧ j ≤ lo + extra ∧ next j = some found := by
  induction extra generalizing lo with
  | zero => exact ⟨lo, Nat.le_refl _, Nat.le_refl _, success⟩
  | succ extra ih =>
    rw [shortestFirst] at success
    split at success
    next taken =>
      cases success
      exact ⟨lo, Nat.le_refl _, Nat.le_add_right _ _, taken⟩
    next =>
      obtain ⟨j, above, below, there⟩ := ih success
      exact ⟨j, Nat.le_of_succ_le above, by omega, there⟩

theorem isSome_longestFirst {j : Nat} (above : lo ≤ j) (below : j ≤ lo + extra)
    (there : (next j).isSome) : (longestFirst next lo extra).isSome := by
  induction extra with
  | zero =>
    have only : j = lo := by omega
    rwa [longestFirst, ← only]
  | succ extra ih =>
    rw [longestFirst]
    split
    next => rfl
    next none =>
      by_cases last : j = lo + (extra + 1)
      · rw [last, none] at there
        cases there
      · exact ih (by omega)

theorem isSome_shortestFirst {j : Nat} (above : lo ≤ j) (below : j ≤ lo + extra)
    (there : (next j).isSome) : (shortestFirst next lo extra).isSome := by
  induction extra generalizing lo with
  | zero =>
    have only : j = lo := by omega
    rwa [shortestFirst, ← only]
  | succ extra ih =>
    rw [shortestFirst]
    split
    next => rfl
    next none =>
      by_cases first : j = lo
      · rw [first, none] at there
        cases there
      · exact ih (by omega) (by omega)

end

/-! ## Readings -/

/-- The texts of captured pieces, latest first. -/
abbrev Pieces := List (Nat × List Char)

/-- The texts of captures. -/
def texts (text : Array Char) (caps : Captures) : Pieces :=
  caps.map fun (number, start, stop) => (number, between text start stop)

theorem lookup_texts (text : Array Char) (caps : Captures) (number : Nat) :
    (texts text caps).lookup number =
      (caps.lookup number).map fun (start, stop) => between text start stop := by
  induction caps with
  | nil => rfl
  | cons first rest ih =>
    obtain ⟨other, start, stop⟩ := first
    by_cases same : number = other
    · subst same
      simp [texts]
    · have different : (number == other) = false := beq_eq_false_iff_ne.mpr same
      simpa [texts, List.lookup_cons, different] using ih

/-- Piece after piece is read, none of them empty. -/
inductive Repeats (reads : List Char → List Char → List Char → Pieces → Pieces → Prop) :
    List Char → List Char → List Char → Pieces → Pieces → Prop where
  /-- None is left. -/
  | nil {before after : List Char} {caps : Pieces} : Repeats reads before [] after caps caps
  /-- One is read, and then the others. -/
  | cons {before piece more after : List Char} {caps caps' caps'' : Pieces} (moves : piece ≠ [])
    (first : reads before piece (more ++ after) caps caps')
    (rest : Repeats reads (before ++ piece) more after caps' caps'') :
    Repeats reads before (piece ++ more) after caps caps''

namespace Pattern

/-- The pattern describes a piece that stands after `before` and in front of `after`; with
some pieces captured already, it is then these that are captured. -/
def Reads : Pattern → (before piece after : List Char) → (caps caps' : Pieces) → Prop
  | .empty, _, piece, _, caps, caps' => piece = [] ∧ caps' = caps
  | .one accepts, _, piece, _, caps, caps' =>
    (∃ c, piece = [c] ∧ accepts c = true) ∧ caps' = caps
  | .run accepts least most _, _, piece, _, caps, caps' =>
    ((∀ c ∈ piece, accepts c = true) ∧ least ≤ piece.length ∧ ∀ m ∈ most, piece.length ≤ m) ∧
      caps' = caps
  | .seq p q, before, piece, after, caps, caps' =>
    ∃ first second mid, piece = first ++ second ∧ p.Reads before first (second ++ after) caps mid ∧
      q.Reads (before ++ first) second after mid caps'
  | .alt p q, before, piece, after, caps, caps' =>
    p.Reads before piece after caps caps' ∨ q.Reads before piece after caps caps'
  | .star p, before, piece, after, caps, caps' => Repeats p.Reads before piece after caps caps'
  | .capture number p, before, piece, after, caps, caps' =>
    ∃ mid, p.Reads before piece after caps mid ∧ caps' = (number, piece) :: mid
  | .again number, _, piece, _, caps, caps' => caps.lookup number = some piece ∧ caps' = caps
  | .notBefore rejects, _, piece, after, caps, caps' =>
    after.head?.any rejects = false ∧ piece = [] ∧ caps' = caps
  | .notAfter rejects, before, piece, _, caps, caps' =>
    before.getLast?.any rejects = false ∧ piece = [] ∧ caps' = caps
  | .wordEdge, before, piece, after, caps, caps' =>
    before.getLast?.any isWordChar ≠ after.head?.any isWordChar ∧ piece = [] ∧ caps' = caps
  | .textStart, before, piece, _, caps, caps' => before = [] ∧ piece = [] ∧ caps' = caps
  | .lineStart, before, piece, _, caps, caps' =>
    (before = [] ∨ before.getLast? = some '\n') ∧ piece = [] ∧ caps' = caps
  | .textEnd, _, piece, after, caps, caps' =>
    (after = [] ∨ after = ['\n']) ∧ piece = [] ∧ caps' = caps
  | .lineEnd, _, piece, after, caps, caps' =>
    (after = [] ∨ after.head? = some '\n') ∧ piece = [] ∧ caps' = caps

/-- From one position to another the pattern reads what stands between them, and captures
more pieces. -/
def ReadsTo (p : Pattern) (text : Array Char) (i : Nat) (caps : Captures) (j : Nat)
    (caps' : Captures) : Prop :=
  p.Reads (text.toList.take i) (between text i j) (text.toList.drop j) (texts text caps)
    (texts text caps')

section

variable {text : Array Char} {p q : Pattern} {i j k : Nat} {caps caps' caps'' : Captures}

theorem ReadsTo.seq (upto : i ≤ j) (further : j ≤ k) (first : p.ReadsTo text i caps j caps')
    (second : q.ReadsTo text j caps' k caps'') : (p.seq q).ReadsTo text i caps k caps'' := by
  refine ⟨between text i j, between text j k, texts text caps', ?_, ?_, ?_⟩
  · rw [between_append upto further]
  · rw [between_drop further]
    exact first
  · rw [take_between upto]
    exact second

theorem drop_eq_nil_iff (inside : i ≤ text.size) : text.toList.drop i = [] ↔ i = text.size := by
  rw [List.drop_eq_nil_iff, Array.length_toList]
  omega

theorem take_eq_nil_iff (inside : i ≤ text.size) : text.toList.take i = [] ↔ i = 0 := by
  rw [← List.length_eq_zero_iff, List.length_take, Array.length_toList]
  omega

theorem atTextEnd_iff (inside : i ≤ text.size) : atTextEnd text i = true ↔
    text.toList.drop i = [] ∨ text.toList.drop i = ['\n'] := by
  rw [atTextEnd, Bool.or_eq_true, Bool.and_eq_true, beq_iff_eq, beq_iff_eq, beq_iff_eq,
    drop_eq_nil_iff inside]
  refine or_congr_right ⟨?_, ?_⟩
  · rintro ⟨last, here⟩
    have rest : between text i (i + 1) ++ text.toList.drop (i + 1) = text.toList.drop i :=
      between_drop (Nat.le_succ i)
    rwa [between_succ here, (drop_eq_nil_iff (by omega)).mpr last, List.append_nil, eq_comm] at rest
  · intro rest
    have one := congrArg List.length rest
    rw [List.length_drop, Array.length_toList, List.length_singleton] at one
    have here := congrArg List.head? rest
    rw [List.head?_drop, Array.getElem?_toList] at here
    exact ⟨by omega, here⟩

theorem atLineEnd_iff (inside : i ≤ text.size) : atLineEnd text i = true ↔
    text.toList.drop i = [] ∨ (text.toList.drop i).head? = some '\n' := by
  rw [atLineEnd, Bool.or_eq_true, beq_iff_eq, beq_iff_eq, drop_eq_nil_iff inside, List.head?_drop,
    Array.getElem?_toList]

theorem atLineStart_iff (inside : i ≤ text.size) : atLineStart text i = true ↔
    text.toList.take i = [] ∨ (text.toList.take i).getLast? = some '\n' := by
  rw [atLineStart, Bool.or_eq_true, beq_iff_eq, beq_iff_eq, take_eq_nil_iff inside]
  by_cases start : i = 0
  · simp [start]
  · rw [getLast?_take start inside]

theorem atWordEdge_iff (inside : i ≤ text.size) : atWordEdge text i = true ↔
    (text.toList.take i).getLast?.any isWordChar ≠ (text.toList.drop i).head?.any isWordChar := by
  have wordAt_eq : ∀ k, wordAt text k = classAt text isWordChar k := fun _ => rfl
  rw [atWordEdge, wordAt_eq, wordAt_eq, classAt_pred inside, classAt_eq, bne_iff_ne]

end

/-! ## What patterns that are built read -/

section

variable {p q : Pattern} {before piece after : List Char} {caps caps' : Pieces} {number : Nat}

theorem reads_seq : (p.seq q).Reads before piece after caps caps' ↔
    ∃ first second mid, piece = first ++ second ∧ p.Reads before first (second ++ after) caps mid ∧
      q.Reads (before ++ first) second after mid caps' :=
  Iff.rfl

theorem reads_one {accepts : Char → Bool} : (one accepts).Reads before piece after caps caps' ↔
    (∃ c, piece = [c] ∧ accepts c = true) ∧ caps' = caps :=
  Iff.rfl

theorem reads_textEnd : Pattern.textEnd.Reads before piece after caps caps' ↔
    (after = [] ∨ after = ['\n']) ∧ piece = [] ∧ caps' = caps :=
  Iff.rfl

theorem reads_literalChars {cs : List Char} :
    (literalChars cs).Reads before piece after caps caps' ↔ piece = cs ∧ caps' = caps := by
  induction cs generalizing before piece after with
  | nil => exact Iff.rfl
  | cons c rest ih =>
    cases rest with
    | nil =>
      simp only [literalChars, Reads, beq_iff_eq]
      grind
    | cons next rest =>
      constructor
      · rintro ⟨first, second, mid, rfl, ⟨⟨d, rfl, same⟩, rfl⟩, further⟩
        obtain ⟨rfl, rfl⟩ := ih.mp further
        rw [beq_iff_eq.mp same]
        exact ⟨rfl, rfl⟩
      · rintro ⟨rfl, rfl⟩
        exact ⟨[c], next :: rest, _, rfl, ⟨⟨c, rfl, beq_self_eq_true c⟩, rfl⟩, ih.mpr ⟨rfl, rfl⟩⟩

@[simp]
theorem reads_literal {s : String} :
    (literal s).Reads before piece after caps caps' ↔ piece = s.toList ∧ caps' = caps :=
  reads_literalChars

theorem reads_choice {patterns : List Pattern} :
    (choice patterns).Reads before piece after caps caps' ↔
      ∃ p ∈ patterns, p.Reads before piece after caps caps' := by
  induction patterns with
  | nil => simp [choice, Reads]
  | cons p rest ih =>
    cases rest with
    | nil => simp [choice]
    | cons next rest =>
      simp only [choice, Reads, ih, List.mem_cons, exists_eq_or_imp]

@[simp]
theorem reads_oneOf {words : List String} :
    (oneOf words).Reads before piece after caps caps' ↔
      ∃ word ∈ words, piece = word.toList ∧ caps' = caps := by
  simp [oneOf, reads_choice]

@[simp]
theorem reads_some1 {accepts : Char → Bool} :
    (some1 accepts).Reads before piece after caps caps' ↔
      (∀ c ∈ piece, accepts c = true) ∧ piece ≠ [] ∧ caps' = caps := by
  simp [some1, Reads, Nat.one_le_iff_ne_zero, and_assoc]

@[simp]
theorem reads_many {accepts : Char → Bool} :
    (many accepts).Reads before piece after caps caps' ↔
      (∀ c ∈ piece, accepts c = true) ∧ caps' = caps := by
  simp [many, Reads]

/-- A captured piece, where the pattern only looks at the piece. -/
theorem reads_capture (good : List Char → Prop)
    (simple : ∀ mid, p.Reads before piece after caps mid ↔ good piece ∧ mid = caps) :
    (capture number p).Reads before piece after caps caps' ↔
      ∃ s : String, good s.toList ∧ piece = s.toList ∧ caps' = (number, s.toList) :: caps := by
  constructor
  · rintro ⟨mid, inner, rfl⟩
    obtain ⟨fits, rfl⟩ := (simple mid).mp inner
    refine ⟨String.ofList piece, ?_⟩
    rw [String.toList_ofList]
    exact ⟨fits, rfl, rfl⟩
  · rintro ⟨s, fits, rfl, rfl⟩
    exact ⟨caps, (simple caps).mpr ⟨fits, rfl⟩, rfl⟩

theorem reads_capture_oneOf {words : List String} :
    (capture number (oneOf words)).Reads before piece after caps caps' ↔
      ∃ word ∈ words, piece = word.toList ∧ caps' = (number, word.toList) :: caps := by
  have simple : ∀ mid, (oneOf words).Reads before piece after caps mid ↔
      (∃ word ∈ words, piece = word.toList) ∧ mid = caps := by
    simp only [reads_oneOf, ← and_assoc, exists_and_right, implies_true]
  rw [reads_capture (fun cs => ∃ word ∈ words, cs = word.toList) simple]
  constructor
  · rintro ⟨s, ⟨word, mem, same⟩, rfl, rfl⟩
    rw [same]
    exact ⟨word, mem, rfl, rfl⟩
  · rintro ⟨word, mem, rfl, rfl⟩
    exact ⟨word, ⟨word, mem, rfl⟩, rfl, rfl⟩

theorem reads_capture_some1 {accepts : Char → Bool} :
    (capture number (some1 accepts)).Reads before piece after caps caps' ↔
      ∃ s : String, ((∀ c ∈ s.toList, accepts c = true) ∧ s.toList ≠ []) ∧ piece = s.toList ∧
        caps' = (number, s.toList) :: caps :=
  reads_capture (fun cs => (∀ c ∈ cs, accepts c = true) ∧ cs ≠ []) fun _ =>
    reads_some1.trans and_assoc.symm

theorem reads_capture_many {accepts : Char → Bool} :
    (capture number (many accepts)).Reads before piece after caps caps' ↔
      ∃ s : String, (∀ c ∈ s.toList, accepts c = true) ∧ piece = s.toList ∧
        caps' = (number, s.toList) :: caps :=
  reads_capture (fun cs => ∀ c ∈ cs, accepts c = true) fun _ => reads_many

end

/-! ## Searches that succeed -/

section

variable {text : Array Char} {p : Pattern} {found : Nat × Captures}

/-- A repetition reads piece after piece when each step of it reads one. -/
theorem exists_repeats_of_repeatFrom {step : Nat → Captures → Search → Option (Nat × Captures)}
    {next : Search}
    (pieces : ∀ {i caps} {next : Search}, i ≤ text.size → step i caps next = some found →
      ∃ j caps', (i ≤ j ∧ j ≤ text.size) ∧ next j caps' = some found ∧
        p.ReadsTo text i caps j caps')
    {fuel i : Nat} {caps : Captures} (inside : i ≤ text.size)
    (success : repeatFrom step next fuel i caps = some found) :
    ∃ j caps', (i ≤ j ∧ j ≤ text.size) ∧ next j caps' = some found ∧
      p.star.ReadsTo text i caps j caps' := by
  have stop : ∀ {i caps}, p.star.ReadsTo text i caps i caps := by
    intro i caps
    rw [ReadsTo, between_self]
    exact .nil
  induction fuel generalizing i caps with
  | zero => exact ⟨i, caps, ⟨Nat.le_refl i, inside⟩, success, stop⟩
  | succ fuel ih =>
    rw [repeatFrom] at success
    split at success
    next taken =>
      cases success
      obtain ⟨j, caps', ⟨-, to_j⟩, again, first⟩ := pieces inside taken
      obtain ⟨moves, again⟩ := Option.ite_none_right_eq_some.mp again
      obtain ⟨k, caps'', ⟨from_j, to_k⟩, there, rest⟩ := ih to_j again
      refine ⟨k, caps'', ⟨by omega, to_k⟩, there, ?_⟩
      rw [ReadsTo, ← between_append (Nat.le_of_lt moves) from_j]
      have nonempty : between text i j ≠ [] := by
        refine List.ne_nil_of_length_pos ?_
        rw [length_between to_j]
        omega
      have head : p.Reads (text.toList.take i) (between text i j)
          (between text j k ++ text.toList.drop k) (texts text caps) (texts text caps') := by
        rw [between_drop from_j]
        exact first
      have tail : Repeats p.Reads (text.toList.take i ++ between text i j) (between text j k)
          (text.toList.drop k) (texts text caps') (texts text caps'') := by
        rw [take_between (Nat.le_of_lt moves)]
        exact rest
      exact .cons nonempty head tail
    next => exact ⟨i, caps, ⟨Nat.le_refl i, inside⟩, success, stop⟩

/-- A search for a run that succeeds has handed on the end of a run of some possible length. -/
theorem exists_range_of_search_run {accepts : Char → Bool} {least : Nat} {most : Option Nat}
    {greedy : Bool} {i : Nat} {caps : Captures} {next : Search}
    (success : (run accepts least most greedy).search text i caps next = some found) :
    ∃ j, (∃ lo extra, runRange? text accepts least most i = some (lo, extra) ∧
      lo ≤ j ∧ j ≤ lo + extra) ∧ next j caps = some found := by
  rw [search] at success
  split at success
  next => cases success
  next lo extra range =>
    have tried : ∃ j, lo ≤ j ∧ j ≤ lo + extra ∧ next j caps = some found := by
      split at success
      · exact exists_of_longestFirst success
      · exact exists_of_shortestFirst success
    obtain ⟨j, above, below, there⟩ := tried
    exact ⟨j, ⟨lo, extra, range, above, below⟩, there⟩

/-- A search that succeeds has read a piece from its position on and handed its end to the
rest of the search. -/
theorem exists_reads_of_search {i : Nat} {caps : Captures} {next : Search} (inside : i ≤ text.size)
    (success : p.search text i caps next = some found) :
    ∃ j caps', (i ≤ j ∧ j ≤ text.size) ∧ next j caps' = some found ∧
      p.ReadsTo text i caps j caps' := by
  have here : i ≤ i ∧ i ≤ text.size := ⟨Nat.le_refl i, inside⟩
  -- over the pattern, for all rests of the search: a sequence runs its second piece as one
  induction p generalizing i caps next with
  | empty => exact ⟨i, caps, here, success, between_self text i, rfl⟩
  | one accepts =>
    obtain ⟨there, success⟩ := Option.ite_none_right_eq_some.mp success
    obtain ⟨c, known, accepted⟩ := classAt_iff.mp there
    have further := lt_size_of_classAt there
    exact ⟨i + 1, caps, ⟨Nat.le_succ i, further⟩, success, ⟨c, between_succ known, accepted⟩, rfl⟩
  | run accepts least most greedy =>
    obtain ⟨j, range, there⟩ := exists_range_of_search_run success
    obtain ⟨bounds, accepted, long, short⟩ := (exists_runRange?_iff inside).mp range
    refine ⟨j, caps, bounds, there, ⟨accepted, ?_, ?_⟩, rfl⟩
    · rwa [length_between bounds.2]
    · rwa [length_between bounds.2]
  | seq p q ihp ihq =>
    obtain ⟨j, caps', first, rest, reads⟩ := ihp inside success here
    obtain ⟨k, caps'', second, there, reads'⟩ := ihq first.2 rest ⟨Nat.le_refl j, first.2⟩
    exact ⟨k, caps'', ⟨Nat.le_trans first.1 second.1, second.2⟩, there,
      reads.seq first.1 second.1 reads'⟩
  | alt p q ihp ihq =>
    rw [search] at success
    split at success
    next taken =>
      cases success
      obtain ⟨j, caps', bounds, there, reads⟩ := ihp inside taken here
      exact ⟨j, caps', bounds, there, .inl reads⟩
    next =>
      obtain ⟨j, caps', bounds, there, reads⟩ := ihq inside success here
      exact ⟨j, caps', bounds, there, .inr reads⟩
  | star p ih =>
    exact exists_repeats_of_repeatFrom
      (fun inside step => ih inside step ⟨Nat.le_refl _, inside⟩) inside success
  | capture number p ih =>
    obtain ⟨j, caps', bounds, there, reads⟩ := ih inside success here
    exact ⟨j, _, bounds, there, texts text caps', reads, rfl⟩
  | again number =>
    rw [search] at success
    split at success
    next start stop held =>
      obtain ⟨same, there⟩ := Option.ite_none_right_eq_some.mp success
      obtain ⟨bound, equal⟩ := between_of_sameText inside same
      refine ⟨_, caps, ⟨Nat.le_add_right _ _, bound⟩, there, ?_, rfl⟩
      rw [lookup_texts, held, equal, between, Nat.add_sub_cancel_left]
      rfl
    next => cases success
  | notBefore rejects =>
    obtain ⟨free, there⟩ := Option.ite_none_left_eq_some.mp success
    rw [classAt_eq] at free
    exact ⟨i, caps, here, there, Bool.eq_false_iff.mpr free, between_self text i, rfl⟩
  | notAfter rejects =>
    obtain ⟨free, there⟩ := Option.ite_none_left_eq_some.mp success
    rw [classAt_pred inside] at free
    exact ⟨i, caps, here, there, Bool.eq_false_iff.mpr free, between_self text i, rfl⟩
  | wordEdge =>
    obtain ⟨edge, there⟩ := Option.ite_none_right_eq_some.mp success
    exact ⟨i, caps, here, there, (atWordEdge_iff inside).mp edge, between_self text i, rfl⟩
  | textStart =>
    obtain ⟨start, there⟩ := Option.ite_none_right_eq_some.mp success
    exact ⟨i, caps, here, there, (take_eq_nil_iff inside).mpr (beq_iff_eq.mp start),
      between_self text i, rfl⟩
  | lineStart =>
    obtain ⟨start, there⟩ := Option.ite_none_right_eq_some.mp success
    exact ⟨i, caps, here, there, (atLineStart_iff inside).mp start, between_self text i, rfl⟩
  | textEnd =>
    obtain ⟨stop, there⟩ := Option.ite_none_right_eq_some.mp success
    exact ⟨i, caps, here, there, (atTextEnd_iff inside).mp stop, between_self text i, rfl⟩
  | lineEnd =>
    obtain ⟨stop, there⟩ := Option.ite_none_right_eq_some.mp success
    exact ⟨i, caps, here, there, (atLineEnd_iff inside).mp stop, between_self text i, rfl⟩

end

/-! ## Searches that must succeed -/

/-- The pattern repeats nothing but characters of a class. -/
def Plain : Pattern → Bool
  | .star _ => false
  | .again _ => false
  | .seq p q => p.Plain && q.Plain
  | .alt p q => p.Plain && q.Plain
  | .capture _ p => p.Plain
  | _ => true

section

variable {text : Array Char} {p : Pattern}

/-- A piece of two parts has a position between them. -/
theorem exists_between_of_append {i j : Nat} {first second : List Char} (upto : i ≤ j)
    (inside : j ≤ text.size) (parts : between text i j = first ++ second) :
    ∃ k, (i ≤ k ∧ k ≤ j) ∧ first = between text i k ∧ second = between text k j := by
  have lengths := congrArg List.length parts
  rw [length_between inside, List.length_append] at lengths
  have bounds : i ≤ i + first.length ∧ i + first.length ≤ j := by omega
  have whole := @between_append text _ _ _ bounds.1 bounds.2
  rw [parts] at whole
  have same : (between text i (i + first.length)).length = first.length := by
    rw [length_between (by omega)]
    omega
  obtain ⟨left, right⟩ := List.append_inj whole same
  exact ⟨i + first.length, bounds, left.symm, right.symm⟩

/-- Where a plain pattern reads a piece after which the rest of the search would succeed, its
search succeeds, with this piece or an earlier choice. -/
theorem isSome_search_of_reads {i j : Nat} {caps : Captures} {caps' : Pieces} {next : Search}
    (plain : p.Plain = true) (upto : i ≤ j) (inside : j ≤ text.size)
    (reads : p.Reads (text.toList.take i) (between text i j) (text.toList.drop j)
      (texts text caps) caps')
    (goes : ∀ taken, texts text taken = caps' → (next j taken).isSome) :
    (p.search text i caps next).isSome := by
  have started : i ≤ text.size := Nat.le_trans upto inside
  induction p generalizing i j caps caps' next with
  | empty =>
    obtain ⟨empty, rfl⟩ := reads
    rw [eq_of_between_eq_nil upto inside empty]
    exact goes caps rfl
  | one accepts =>
    obtain ⟨⟨c, single, accepted⟩, rfl⟩ := reads
    have lengths := congrArg List.length single
    rw [length_between inside, List.length_singleton] at lengths
    have stop : j = i + 1 := by omega
    have here : classAt text accepts i = true := by
      refine (forall_between_iff inside).mp ?_ i (Nat.le_refl i) (by omega)
      rw [single]
      exact List.forall_mem_singleton.mpr accepted
    rw [search, if_pos here, ← stop]
    exact goes caps rfl
  | run accepts least most greedy =>
    obtain ⟨⟨accepted, long, short⟩, rfl⟩ := reads
    rw [length_between inside] at long short
    obtain ⟨lo, extra, range, above, below⟩ :=
      (exists_runRange?_iff started).mpr ⟨⟨upto, inside⟩, accepted, long, short⟩
    rw [search, range]
    cases greedy with
    | true => exact isSome_longestFirst above below (goes caps rfl)
    | false => exact isSome_shortestFirst above below (goes caps rfl)
  | seq p q ihp ihq =>
    obtain ⟨plain, plain'⟩ := Bool.and_eq_true_iff.mp plain
    obtain ⟨first, second, mid, parts, reads, reads'⟩ := reads
    obtain ⟨k, ⟨from_i, to_j⟩, rfl, rfl⟩ := exists_between_of_append upto inside parts
    rw [between_drop to_j] at reads
    rw [take_between from_i] at reads'
    have middle : k ≤ text.size := Nat.le_trans to_j inside
    refine ihp plain from_i middle reads ?_ started
    rintro taken rfl
    exact ihq plain' to_j inside reads' goes middle
  | alt p q ihp ihq =>
    obtain ⟨plain, plain'⟩ := Bool.and_eq_true_iff.mp plain
    rw [search]
    split
    next => rfl
    next failed =>
      rcases reads with left | right
      · have taken := ihp plain upto inside left goes started
        rw [failed] at taken
        cases taken
      · exact ihq plain' upto inside right goes started
  | capture number p ih =>
    obtain ⟨mid, reads, rfl⟩ := reads
    exact ih plain upto inside reads (fun taken made => goes _ (congrArg _ made)) started
  | star p ih => cases plain
  | again number => cases plain
  | notBefore rejects =>
    obtain ⟨free, empty, rfl⟩ := reads
    obtain rfl := eq_of_between_eq_nil upto inside empty
    rw [search, classAt_eq, free]
    exact goes caps rfl
  | notAfter rejects =>
    obtain ⟨free, empty, rfl⟩ := reads
    obtain rfl := eq_of_between_eq_nil upto inside empty
    rw [search, classAt_pred inside, free]
    exact goes caps rfl
  | wordEdge =>
    obtain ⟨edge, empty, rfl⟩ := reads
    obtain rfl := eq_of_between_eq_nil upto inside empty
    rw [search, if_pos ((atWordEdge_iff inside).mpr edge)]
    exact goes caps rfl
  | textStart =>
    obtain ⟨start, empty, rfl⟩ := reads
    obtain rfl := eq_of_between_eq_nil upto inside empty
    rw [search, if_pos (beq_iff_eq.mpr ((take_eq_nil_iff inside).mp start))]
    exact goes caps rfl
  | lineStart =>
    obtain ⟨start, empty, rfl⟩ := reads
    obtain rfl := eq_of_between_eq_nil upto inside empty
    rw [search, if_pos ((atLineStart_iff inside).mpr start)]
    exact goes caps rfl
  | textEnd =>
    obtain ⟨stop, empty, rfl⟩ := reads
    obtain rfl := eq_of_between_eq_nil upto inside empty
    rw [search, if_pos ((atTextEnd_iff inside).mpr stop)]
    exact goes caps rfl
  | lineEnd =>
    obtain ⟨stop, empty, rfl⟩ := reads
    obtain rfl := eq_of_between_eq_nil upto inside empty
    rw [search, if_pos ((atLineEnd_iff inside).mpr stop)]
    exact goes caps rfl

end

end Pattern

end RepoSurvey.Text
