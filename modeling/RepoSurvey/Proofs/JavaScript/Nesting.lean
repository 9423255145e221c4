import RepoSurvey.JavaScript.Bracket

/-!
# Braces and their partners

A text is *balanced* when no beginning of it closes more braces than it opens
and the whole of it closes as many. Two braces are *partners* when the text
between them is balanced.

Reading a balanced text from left to right, the number of open braces never
has to go below zero and ends at zero (`openAfter?_eq_zero_iff`). From that
follows what the search for a closing brace gives: `closing` leads from an
opening brace to its partner (`closing_of_partners`), and in a balanced text
there always is one (`closing_eq_iff`), so the search never runs to the end of
the text. The pieces between partners do not cross (`Partners.apart`).
-/

namespace RepoSurvey.JavaScript

/-- No beginning of the text closes more braces than it opens, and the whole
of it closes as many. -/
structure Balanced (text : List Char) : Prop where
  /-- Braces are opened before they are closed. -/
  opened : ∀ start, start <+: text → start.count '}' ≤ start.count '{'
  /-- Every brace is closed. -/
  closed : text.count '}' = text.count '{'

/-- An opening brace at `i` and a closing brace at `j` have a balanced text between them. -/
def Partners (text : List Char) (i j : Nat) : Prop :=
  ∃ before inner after, text = before ++ '{' :: (inner ++ '}' :: after) ∧
    before.length = i ∧ i + 1 + inner.length = j ∧ Balanced inner

/-! ## Counting open braces -/

/-- How many braces are open after a text when `n` are open before it; none
when the text closes one that is not open. -/
def openAfter? (n : Nat) : List Char → Option Nat
  | [] => some n
  | c :: rest =>
    if c = '{' then openAfter? (n + 1) rest
    else if c = '}' then
      match n with
      | 0 => none
      | n + 1 => openAfter? n rest
    else openAfter? n rest

theorem openAfter?_other {n : Nat} {c : Char} {rest : List Char} (notOpen : c ≠ '{')
    (notClose : c ≠ '}') : openAfter? n (c :: rest) = openAfter? n rest :=
  (if_neg notOpen).trans (if_neg notClose)

theorem openAfter?_append (n : Nat) (text more : List Char) :
    openAfter? n (text ++ more) = (openAfter? n text).bind fun m => openAfter? m more := by
  fun_induction openAfter? n text with
  | case1 => rfl
  | case2 n rest ih => exact ih
  | case3 => rfl
  | case4 rest n _ ih => exact ih
  | case5 n c rest notOpen notClose ih =>
    rw [List.cons_append, openAfter?_other notOpen notClose, ih]

/-- What is open afterwards is what was open before and has been opened, less what was closed. -/
theorem count_of_openAfter? {n m : Nat} {text : List Char} (read : openAfter? n text = some m) :
    text.count '{' + n = text.count '}' + m := by
  fun_induction openAfter? n text with
  | case1 =>
    cases read
    rfl
  | case2 n rest ih =>
    have later := ih read
    simp only [List.count_cons_self, List.count_cons_of_ne (show '{' ≠ '}' by decide)]
    omega
  | case3 => cases read
  | case4 rest n _ ih =>
    have later := ih read
    simp only [List.count_cons_self, List.count_cons_of_ne (show '}' ≠ '{' by decide)]
    omega
  | case5 n c rest notOpen notClose ih =>
    rw [List.count_cons_of_ne notOpen, List.count_cons_of_ne notClose]
    exact ih read

/-- A text can be read when no beginning of it closes more than is open. -/
theorem exists_openAfter? {n : Nat} {text : List Char}
    (opened : ∀ start, start <+: text → start.count '}' ≤ start.count '{' + n) :
    ∃ m, openAfter? n text = some m := by
  have tail {n : Nat} {c : Char} {rest start : List Char}
      (opened : ∀ start, start <+: c :: rest → start.count '}' ≤ start.count '{' + n)
      (begins : start <+: rest) : (c :: start).count '}' ≤ (c :: start).count '{' + n :=
    opened (c :: start) (List.cons_prefix_cons.mpr ⟨rfl, begins⟩)
  fun_induction openAfter? n text with
  | case1 n => exact ⟨n, rfl⟩
  | case2 n rest ih =>
    refine ih fun start begins => ?_
    have bound := tail opened begins
    simp only [List.count_cons_self, List.count_cons_of_ne (show '{' ≠ '}' by decide)] at bound
    omega
  | case3 rest => exact absurd (tail opened List.nil_prefix) (by decide)
  | case4 rest n _ ih =>
    refine ih fun start begins => ?_
    have bound := tail opened begins
    simp only [List.count_cons_self, List.count_cons_of_ne (show '}' ≠ '{' by decide)] at bound
    omega
  | case5 n c rest notOpen notClose ih =>
    refine ih fun start begins => ?_
    have bound := tail opened begins
    rwa [List.count_cons_of_ne notOpen, List.count_cons_of_ne notClose] at bound

/-- A text is balanced when it can be read from no open brace to none. -/
theorem openAfter?_eq_zero_iff {text : List Char} : openAfter? 0 text = some 0 ↔ Balanced text := by
  constructor
  · intro read
    refine ⟨?_, (count_of_openAfter? read).symm⟩
    rintro start ⟨more, rfl⟩
    rw [openAfter?_append] at read
    obtain ⟨m, first, -⟩ := Option.bind_eq_some_iff.mp read
    have counted := count_of_openAfter? first
    omega
  · rintro ⟨opened, closed⟩
    obtain ⟨m, read⟩ := exists_openAfter? (n := 0) opened
    have counted := count_of_openAfter? read
    have none : m = 0 := by omega
    rw [read, none]

/-- A text that comes down to `level` from above closes a brace on the way, and
what stands before it is balanced over what is open. -/
theorem exists_close {n level m : Nat} {text : List Char}
    (read : openAfter? (n + 1 + level) text = some m) (down : m ≤ level) :
    ∃ inner after, text = inner ++ '}' :: after ∧ openAfter? n inner = some 0 := by
  -- the depth falls by one only at a closing brace; the first that brings it to `level` is it
  generalize depth : n + 1 + level = d at read
  fun_induction openAfter? d text generalizing n with
  | case1 =>
    cases read
    omega
  | case2 d rest ih =>
    obtain ⟨inner, after, rfl, inside⟩ := ih (show n + 1 + 1 + level = d + 1 by omega) read
    exact ⟨'{' :: inner, after, rfl, inside⟩
  | case3 => cases read
  | case4 rest d _ ih =>
    cases n with
    | zero => exact ⟨[], rest, rfl, rfl⟩
    | succ n =>
      obtain ⟨inner, after, rfl, inside⟩ := ih (show n + 1 + level = d by omega) read
      exact ⟨'}' :: inner, after, rfl, inside⟩
  | case5 d c rest notOpen notClose ih =>
    obtain ⟨inner, after, rfl, inside⟩ := ih depth read
    exact ⟨c :: inner, after, rfl, (openAfter?_other notOpen notClose).trans inside⟩

/-! ## Looking for a partner -/

theorem getElem?_of_drop {text : Array Char} {i : Nat} {c : Char} {rest : List Char}
    (from_here : text.toList.drop i = c :: rest) :
    text[i]? = some c ∧ text.toList.drop (i + 1) = rest ∧
      text.size - i = text.size - (i + 1) + 1 := by
  have here : text.toList[i]? = some c := by
    rw [← List.head?_drop, from_here]
    rfl
  have inside : i < text.size := (List.getElem?_eq_some_iff.mp here).1
  refine ⟨by rw [← Array.getElem?_toList, here], ?_, by omega⟩
  rw [← List.drop_drop, from_here]
  rfl

/-- The search for a closing brace goes over a text that closes what is open in it. -/
theorem closeFrom_eq {text : Array Char} {inner after : List Char} {i n : Nat}
    (from_here : text.toList.drop i = inner ++ '}' :: after)
    (inside : openAfter? n inner = some 0) :
    closeFrom text '{' '}' i (n + 1) (text.size - i) = i + inner.length := by
  fun_induction openAfter? n inner generalizing i with
  | case1 n =>
    obtain ⟨here, -, room⟩ := getElem?_of_drop from_here
    cases inside
    rw [room, closeFrom, here]
    rfl
  | case2 n rest ih =>
    obtain ⟨here, next, room⟩ := getElem?_of_drop from_here
    rw [room, closeFrom, here]
    simp only [beq_self_eq_true, if_true, ih next inside, List.length_cons]
    omega
  | case3 => cases inside
  | case4 rest n _ ih =>
    obtain ⟨here, next, room⟩ := getElem?_of_drop from_here
    have deeper : ¬ n + 1 + 1 ≤ 1 := by omega
    have notOpen : ('}' == '{') = false := rfl
    rw [room, closeFrom, here]
    simp only [notOpen, beq_self_eq_true, if_true, if_neg deeper, Bool.false_eq_true, if_false,
      Nat.add_sub_cancel, ih next inside, List.length_cons]
    omega
  | case5 n c rest notOpen notClose ih =>
    obtain ⟨here, next, room⟩ := getElem?_of_drop from_here
    rw [room, closeFrom, here]
    simp only [beq_iff_eq, if_neg notOpen, if_neg notClose, ih next inside, List.length_cons]
    omega

/-- The search for the closing bracket finds the partner of a brace. -/
theorem closing_of_partners {text : Array Char} {i j : Nat} (h : Partners text.toList i j) :
    closing text i = j := by
  obtain ⟨before, inner, after, split, rfl, rfl, balanced⟩ := h
  have from_here : text.toList.drop before.length = '{' :: (inner ++ '}' :: after) := by
    rw [split, List.drop_left]
  obtain ⟨here, next, room⟩ := getElem?_of_drop from_here
  rw [closing, here]
  show closeFrom text '{' '}' before.length 0 (text.size - before.length) = _
  rw [room, closeFrom, here]
  simp only [beq_self_eq_true, if_true]
  exact closeFrom_eq next (openAfter?_eq_zero_iff.mpr balanced)

theorem Partners.unique {text : List Char} {i j k : Nat} (h : Partners text i j)
    (h' : Partners text i k) : j = k := by
  rw [← text.toList_toArray] at h h'
  rw [← closing_of_partners h, closing_of_partners h']

/-- In a balanced text an opening brace has a partner. -/
theorem Balanced.exists_partner {text before after : List Char} (balanced : Balanced text)
    (split : text = before ++ '{' :: after) : ∃ j, Partners text before.length j := by
  subst split
  have read := openAfter?_eq_zero_iff.mpr balanced
  rw [openAfter?_append] at read
  obtain ⟨level, -, further⟩ := Option.bind_eq_some_iff.mp read
  have raised : openAfter? (0 + 1 + level) after = some 0 := by
    rw [Nat.zero_add, Nat.add_comm]
    exact further
  obtain ⟨inner, rest, rfl, inside⟩ := exists_close raised (Nat.zero_le level)
  exact ⟨_, before, inner, rest, rfl, rfl, rfl, openAfter?_eq_zero_iff.mp inside⟩

theorem exists_split_of_getElem? {text : List Char} {i : Nat} {c : Char}
    (here : text[i]? = some c) :
    ∃ before after, text = before ++ c :: after ∧ before.length = i := by
  obtain ⟨inside, rfl⟩ := List.getElem?_eq_some_iff.mp here
  refine ⟨text.take i, text.drop (i + 1), ?_, List.length_take_of_le (Nat.le_of_lt inside)⟩
  rw [List.getElem_cons_drop, List.take_append_drop]

/-- In a balanced text the search for the closing bracket leads from every
opening brace to its partner and nowhere else. -/
theorem closing_eq_iff {text : Array Char} {i j : Nat} (balanced : Balanced text.toList)
    (here : text[i]? = some '{') : closing text i = j ↔ Partners text.toList i j := by
  refine ⟨?_, closing_of_partners⟩
  rintro rfl
  rw [← Array.getElem?_toList] at here
  obtain ⟨before, after, split, rfl⟩ := exists_split_of_getElem? here
  obtain ⟨j, partners⟩ := balanced.exists_partner split
  rwa [closing_of_partners partners]

/-! ## Partners do not cross -/

theorem Partners.ends {text : List Char} {i j : Nat} (h : Partners text i j) :
    text[i]? = some '{' ∧ text[j]? = some '}' ∧ i < j := by
  obtain ⟨before, inner, after, rfl, rfl, rfl, -⟩ := h
  refine ⟨?_, ?_, by omega⟩
  · rw [List.getElem?_append_right (Nat.le_refl _), Nat.sub_self]
    rfl
  · rw [Nat.add_assoc, List.getElem?_append_right (Nat.le_add_right _ _), Nat.add_sub_cancel_left,
      Nat.add_comm 1, List.getElem?_cons_succ, List.getElem?_append_right (Nat.le_refl _),
      Nat.sub_self]
    rfl

/-- Of two pairs of partners the later one lies inside the earlier one, or after it. -/
theorem Partners.apart {text : List Char} {i j k l : Nat} (outer : Partners text i j)
    (inner : Partners text k l) (later : i < k) : l < j ∨ j < k := by
  obtain ⟨opens, -, -⟩ := inner.ends
  obtain ⟨-, closes, -⟩ := outer.ends
  by_cases within : k < j
  · left
    obtain ⟨before, body, after, rfl, rfl, rfl, balanced⟩ := outer
    have here : body[k - (before.length + 1)]? = some '{' := by
      rw [List.getElem?_append_right (by omega), show k - before.length =
        k - (before.length + 1) + 1 by omega, List.getElem?_cons_succ,
        List.getElem?_append_left (by omega)] at opens
      exact opens
    obtain ⟨first, second, split, place⟩ := exists_split_of_getElem? here
    -- its partner inside the body is its partner in the whole text
    obtain ⟨m, found⟩ := balanced.exists_partner split
    obtain ⟨start, middle, rest, same, length, rfl, inside⟩ := found
    have whole : Partners (before ++ '{' :: (body ++ '}' :: after)) k (k + 1 + middle.length) := by
      refine ⟨before ++ '{' :: start, middle, rest ++ '}' :: after, ?_, ?_, rfl, inside⟩
      · rw [same]
        simp only [List.append_assoc, List.cons_append]
      · rw [List.length_append, List.length_cons]
        omega
    have bound := congrArg List.length same
    simp only [List.length_append, List.length_cons] at bound
    have same_end := inner.unique whole
    omega
  · right
    have other : k ≠ j := by
      rintro rfl
      rw [opens] at closes
      cases closes
    omega

end RepoSurvey.JavaScript
