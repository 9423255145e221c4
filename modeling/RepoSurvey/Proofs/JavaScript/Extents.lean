import RepoSurvey.JavaScript.Parse
import RepoSurvey.Proofs.JavaScript.Masking
import RepoSurvey.Proofs.Text.Matching

/-!
# How far class bodies and callables reach

A class declaration is found up to the brace that opens its body, and the body
reaches to the brace that closes it. Declarations are met from left to right,
so the bodies open one after another (`classSpans_opening`); their ends are
partners in a balanced text, so two bodies lie one inside the other or one
after the other (`classSpans_apart`).

With what masking keeps, that says how far positions in the three texts can be
relied on (`mask_keeps_places`).

The end of a callable is the bracket that closes its body, or the end of a
line. Either lies inside the text, the second perhaps right behind its last
character, so no callable reaches further than the text
(`Masked.stop_le_size`).
-/

namespace RepoSurvey.JavaScript

open Text (Pattern Match)

/-! ## Class bodies -/

/-- The body of the second class lies inside that of the first. -/
def ClassSpan.Encloses (c inner : ClassSpan) : Prop :=
  c.bodyOpen < inner.bodyOpen ∧ inner.bodyClose < c.bodyClose

/-- The body of the first class ends before that of the second opens. -/
def ClassSpan.Precedes (c later : ClassSpan) : Prop :=
  c.bodyClose < later.bodyOpen

section

variable {code skeleton : Array Char} {placed : List PlacedDecorator}

theorem classHead_endsIn : classHead.EndsIn (· == '{') :=
  .seq (.seq (.seq (.seq (.seq (.seq (.seq (.seq .one)))))))

/-- A class declaration is matched up to and including a brace. -/
theorem brace_of_classHead {m : Match} (found : m ∈ classHead.findAll skeleton) :
    m.start < m.stop ∧ skeleton[m.stop - 1]? = some '{' :=
  Pattern.getElem?_of_mem_findAll classHead_endsIn found

/-- A class body reaches from a brace to the one that the search for its partner gives. -/
theorem classSpans_ends {c : ClassSpan} (mem : c ∈ classSpans code skeleton placed) :
    skeleton[c.bodyOpen]? = some '{' ∧ closing skeleton c.bodyOpen = c.bodyClose := by
  obtain ⟨m, found, rfl⟩ := List.mem_map.mp mem
  exact ⟨(brace_of_classHead found).2, rfl⟩

theorem classSpans_opening :
    (classSpans code skeleton placed).Pairwise fun c later => c.bodyOpen < later.bodyOpen := by
  refine List.pairwise_map.mpr
    ((Pattern.findAll_increasing classHead skeleton).imp_of_mem fun found foundLater apart => ?_)
  have first := (brace_of_classHead found).1
  have second := (brace_of_classHead foundLater).1
  show _ - 1 < _ - 1
  omega

/-- Over a balanced skeleton a class body lies inside an earlier one or after it. -/
theorem classSpans_apart (balanced : Balanced skeleton.toList) :
    (classSpans code skeleton placed).Pairwise fun c later =>
      c.Encloses later ∨ c.Precedes later := by
  refine classSpans_opening.imp_of_mem fun mem memLater later => ?_
  obtain ⟨opens, ends⟩ := classSpans_ends mem
  obtain ⟨opensLater, endsLater⟩ := classSpans_ends memLater
  have outer := (closing_eq_iff balanced opens).mp ends
  have inner := (closing_eq_iff balanced opensLater).mp endsLater
  exact (outer.apart inner later).imp_left fun within => ⟨later, within⟩

end

/-- Of a source that is read, both copies are as long as it, show its
characters or spaces, and give every position its line. The braces of the
skeleton are balanced, the search for the closing brace leads from each to its
partner, and no two class bodies cross. -/
theorem mask_keeps_places {source : List Char} {m : Masked} (masked : mask source = .ok m) :
    (m.code.size = source.length ∧ m.skeleton.size = source.length) ∧
    (∀ (i : Nat) (c : Char), source[i]? = some c →
      ∃ x y, m.code[i]? = some x ∧ m.skeleton[i]? = some y ∧ Masks c (x, y)) ∧
    (∀ i, lineAt m.code i = Text.lineOf source i ∧ lineAt m.skeleton i = Text.lineOf source i) ∧
    Balanced m.skeleton.toList ∧
    (∀ i j, m.skeleton[i]? = some '{' →
      (closing m.skeleton i = j ↔ Partners m.skeleton.toList i j)) ∧
    m.declarations.classes.Pairwise (fun c later => c.Encloses later ∨ c.Precedes later) := by
  have balanced := mask_balanced masked
  refine ⟨mask_size masked, fun i c here => masks_of_mask masked here, fun i => ?_, balanced,
    fun i j here => closing_eq_iff balanced here, classSpans_apart balanced⟩
  obtain ⟨code, skeleton⟩ := lineOf_mask masked i
  rw [lineAt_eq, lineAt_eq, code, skeleton]
  exact ⟨rfl, rfl⟩

/-- A class with braces in a string and in a comment, and a second one after it. -/
def quotedBraces : String :=
  "class A\x7bs='\x7d'\x7d/*\x7b*/class B\x7b\x7d"

/-- What is left of it. -/
def quotedBracesMasked : Masked where
  code := "class A\x7bs='\x7d'\x7d     class B\x7b\x7d".toList.toArray
  skeleton := "class A\x7bs=' '\x7d     class B\x7b\x7d".toList.toArray

theorem mask_keeps_places_of_quoted_braces :
    mask quotedBraces.toList = .ok quotedBracesMasked ∧
    (quotedBracesMasked.code.size = quotedBraces.toList.length ∧
      quotedBracesMasked.skeleton.size = quotedBraces.toList.length) ∧
    (∀ (i : Nat) (c : Char), quotedBraces.toList[i]? = some c →
      ∃ x y, quotedBracesMasked.code[i]? = some x ∧ quotedBracesMasked.skeleton[i]? = some y ∧
        Masks c (x, y)) ∧
    (∀ i, lineAt quotedBracesMasked.code i = Text.lineOf quotedBraces.toList i ∧
      lineAt quotedBracesMasked.skeleton i = Text.lineOf quotedBraces.toList i) ∧
    Balanced quotedBracesMasked.skeleton.toList ∧
    (∀ i j, quotedBracesMasked.skeleton[i]? = some '{' →
      (closing quotedBracesMasked.skeleton i = j ↔
        Partners quotedBracesMasked.skeleton.toList i j)) ∧
    quotedBracesMasked.declarations.classes.Pairwise
      (fun c later => c.Encloses later ∨ c.Precedes later) := by
  have masked : mask quotedBraces.toList = .ok quotedBracesMasked :=
    mask_eq_of_toOption (by decide +kernel)
  exact ⟨masked, mask_keeps_places masked⟩

/-! ## Callables -/

section

variable {code skeleton : Array Char}

theorem closeFrom_le {opener closer : Char} (i depth room : Nat) :
    closeFrom skeleton opener closer i depth room ≤ skeleton.size - 1 := by
  induction room generalizing i depth with
  | zero => exact Nat.le_refl _
  | succ room ih =>
    rw [closeFrom]
    split
    next => exact Nat.le_refl _
    next c here =>
      have inside : i < skeleton.size := (Array.getElem?_eq_some_iff.mp here).1
      split
      · exact ih _ _
      · split
        · split
          · omega
          · exact ih _ _
        · exact ih _ _

theorem closing_le (text : Array Char) (i : Nat) : closing text i ≤ text.size - 1 := by
  rw [closing]
  split
  next => exact Nat.le_refl _
  next => exact closeFrom_le _ _ _

theorem le_closeFrom {opener closer : Char} {start i depth room : Nat}
    (inside : start ≤ skeleton.size - 1) (after : start ≤ i) :
    start ≤ closeFrom skeleton opener closer i depth room := by
  induction room generalizing i depth with
  | zero => exact inside
  | succ room ih =>
    have later := Nat.le_succ_of_le after
    rw [closeFrom]
    split
    next => exact inside
    next c here =>
      split
      · exact ih later
      · split
        · split
          · exact after
          · exact ih later
        · exact ih later

/-- The partner of a bracket does not stand before it. -/
theorem le_closing {text : Array Char} {i : Nat} {c : Char} (here : text[i]? = some c) :
    i ≤ closing text i := by
  have inside := (Array.getElem?_eq_some_iff.mp here).1
  rw [closing, here]
  exact le_closeFrom (by omega) (Nat.le_refl i)

theorem closeFrom_cases {opener closer : Char} (i depth room : Nat) :
    skeleton[closeFrom skeleton opener closer i depth room]? = some closer ∨
      closeFrom skeleton opener closer i depth room = skeleton.size - 1 := by
  induction room generalizing i depth with
  | zero => exact .inr rfl
  | succ room ih =>
    rw [closeFrom]
    split
    next => exact .inr rfl
    next c here =>
      split
      · exact ih _ _
      · split
        next same =>
          split
          · exact .inl (by rw [here, beq_iff_eq.mp same])
          · exact ih _ _
        next => exact ih _ _

/-- The partner of a bracket is one that closes it, or the end of the text. -/
theorem closing_cases {text : Array Char} {i : Nat} {c : Char} (here : text[i]? = some c) :
    text[closing text i]? = some (closerOf c) ∨ closing text i = text.size - 1 := by
  rw [closing, here]
  exact closeFrom_cases _ _ _

theorem skipBlanks_le {i : Nat} (room : Nat) (inside : i ≤ skeleton.size) :
    skipBlanks skeleton i room ≤ skeleton.size := by
  induction room generalizing i with
  | zero => exact inside
  | succ room ih =>
    rw [skipBlanks]
    split
    next here => exact ih (Text.lt_size_of_classAt here)
    next => exact inside

/-- The body of an arrow function ends inside the text or where the text does. -/
theorem bodyEnd_le {i : Nat} (inside : i ≤ skeleton.size) :
    bodyEnd skeleton i ≤ skeleton.size := by
  have skipped := skipBlanks_le (skeleton.size - i) inside
  rw [bodyEnd]
  split
  · exact Nat.le_trans (closing_le _ _) (Nat.sub_le _ _)
  · exact (Text.runEnd_bounds _ skipped).2

theorem stop_le_after_closing {p : Pattern} {i : Nat} {m : Match} (filled : 0 < skeleton.size)
    (matched : p.matchAt? skeleton (closing skeleton i + 1) = some m) : m.stop ≤ skeleton.size := by
  have close := closing_le skeleton i
  exact (Pattern.bounds_of_matchAt? (by omega) matched).2.2

theorem stop_le_of_valueSpan? {title : String} {start matchStop : Nat} {isAsync : Bool}
    {single : Option String} {s : Span} (filled : 0 < skeleton.size)
    (inside : matchStop ≤ skeleton.size)
    (made : valueSpan? code skeleton title start matchStop isAsync single = some s) :
    s.stop ≤ skeleton.size := by
  cases single with
  | some p =>
    cases made
    exact bodyEnd_le inside
  | none =>
    rw [valueSpan?] at made
    split at made
    · obtain ⟨m, matched, rfl⟩ := Option.map_eq_some_iff.mp made
      exact bodyEnd_le (Nat.le_trans (Nat.sub_le _ _) (stop_le_after_closing filled matched))
    · obtain ⟨m, matched, rfl⟩ := Option.map_eq_some_iff.mp made
      exact bodyEnd_le (stop_le_after_closing filled matched)

theorem stop_le_of_body {p : Pattern} {offset bodyClose : Nat} {m : Match}
    (inside : offset ≤ skeleton.size) (close : bodyClose ≤ skeleton.size)
    (found : m ∈ p.findAll (skeleton.extract offset bodyClose)) :
    offset + m.stop ≤ skeleton.size := by
  obtain ⟨start, matched⟩ := Pattern.matchAt?_of_mem_findAll found
  have stop := (Pattern.bounds_of_matchAt? start matched).2.2
  rw [Array.size_extract] at stop
  omega

theorem stop_le_of_methodSpans {placed : List PlacedDecorator} {bodyOpen bodyClose : Nat}
    {s : Span} (mem : s ∈ methodSpans code skeleton placed bodyOpen bodyClose) :
    s.stop ≤ skeleton.size := by
  obtain ⟨m, -, made⟩ := List.mem_filterMap.mp mem
  obtain ⟨place, -, made⟩ := Option.bind_eq_some_iff.mp made
  simp only at made
  split at made
  · cases made
  · obtain ⟨after, -, made⟩ := Option.bind_eq_some_iff.mp made
    cases made
    exact Nat.le_trans (closing_le _ _) (Nat.sub_le _ _)

theorem stop_le_of_fieldSpans {bodyOpen bodyClose : Nat} {s : Span}
    (inside : bodyOpen < skeleton.size) (close : bodyClose ≤ skeleton.size)
    (mem : s ∈ fieldSpans code skeleton bodyOpen bodyClose) : s.stop ≤ skeleton.size := by
  obtain ⟨m, found, made⟩ := List.mem_filterMap.mp mem
  obtain ⟨place, -, made⟩ := Option.bind_eq_some_iff.mp made
  simp only at made
  split at made
  · exact stop_le_of_valueSpan? (Nat.zero_lt_of_lt inside) (stop_le_of_body inside close found) made
  · cases made

theorem stop_le_of_functionSpans {classes : List ClassSpan} {s : Span}
    (filled : 0 < skeleton.size) (mem : s ∈ functionSpans code skeleton classes) :
    s.stop ≤ skeleton.size := by
  obtain ⟨bare, found, rfl⟩ := List.mem_map.mp mem
  show bare.stop ≤ skeleton.size
  rcases List.mem_append.mp found with declared | held
  · obtain ⟨m, -, made⟩ := List.mem_filterMap.mp declared
    obtain ⟨after, -, made⟩ := Option.bind_eq_some_iff.mp made
    cases made
    exact Nat.le_trans (closing_le _ _) (Nat.sub_le _ _)
  · obtain ⟨m, found, made⟩ := List.mem_filterMap.mp held
    simp only at made
    split at made
    · cases made
    · obtain ⟨start, matched⟩ := Pattern.matchAt?_of_mem_findAll found
      exact stop_le_of_valueSpan? filled (Pattern.bounds_of_matchAt? start matched).2.2 made

theorem body_of_classSpans {placed : List PlacedDecorator} {c : ClassSpan}
    (mem : c ∈ classSpans code skeleton placed) :
    c.bodyOpen < skeleton.size ∧ c.bodyClose ≤ skeleton.size := by
  obtain ⟨opens, ends⟩ := classSpans_ends mem
  refine ⟨(Array.getElem?_eq_some_iff.mp opens).1, ?_⟩
  rw [← ends]
  exact Nat.le_trans (closing_le _ _) (Nat.sub_le _ _)

end

theorem functionSpans_empty {code skeleton : Array Char} {classes : List ClassSpan}
    (empty : skeleton.size = 0) : functionSpans code skeleton classes = [] := by
  rw [Array.eq_empty_of_size_eq_zero empty]
  rfl

/-- Every callable of a source ends inside the skeleton or where it ends. -/
theorem Masked.stop_le_size (m : Masked) :
    ∀ s ∈ m.declarations.spans, s.stop ≤ m.skeleton.size := by
  intro s mem
  rcases List.mem_append.mp mem with function | member
  -- in an empty text the end of a closing bracket is position 0, and a match after it lies outside
  · rcases Nat.eq_zero_or_pos m.skeleton.size with empty | filled
    · have none : s ∈ [] := functionSpans_empty empty ▸ function
      cases none
    · exact stop_le_of_functionSpans filled function
  · obtain ⟨c, known, member⟩ := List.mem_flatMap.mp member
    have body := body_of_classSpans known
    obtain ⟨head, -, rfl⟩ := List.mem_map.mp known
    rcases List.mem_append.mp member with method | field
    · exact stop_le_of_methodSpans method
    · exact stop_le_of_fieldSpans body.1 body.2 field

end RepoSurvey.JavaScript
