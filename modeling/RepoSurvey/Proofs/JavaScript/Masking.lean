import Mathlib.Data.List.Forall2
import RepoSurvey.JavaScript.Mask
import RepoSurvey.JavaScript.Span
import RepoSurvey.Proofs.JavaScript.Nesting

/-!
# What masking keeps

`Masks` says what the two copies may show for a character of the source: the
character itself or a space, a line feed always as it is, and a space in the
code only where the skeleton has one too.

The reader keeps two things from step to step (`Reader.HasRead`): every
character that has been read has its cell, and the braces that are left in the
skeleton are open as many deep as the reader's own stack. A step passes over
braces only inside comments and literals, where it blanks them, so the second
holds after every step (`Reader.HasRead.step`) and the skeleton of a source
that is read to its end is balanced (`mask_balanced`).
-/

namespace RepoSurvey.JavaScript

/-! ## Cells -/

/-- What the code and the skeleton may show for a character of the source. -/
structure Masks (c : Char) (cell : Cell) : Prop where
  /-- The code shows the character or a space. -/
  code : cell.1 = c ∨ cell.1 = ' '
  /-- The skeleton shows the character or a space. -/
  skeleton : cell.2 = c ∨ cell.2 = ' '
  /-- Line feeds stay in both. -/
  newline : c = '\n' → cell = ('\n', '\n')
  /-- What is blank in the code is blank in the skeleton. -/
  covered : cell.1 ≠ c → cell.2 = ' '

/-- A blanked character is a space, or the line feed that it was. -/
theorem blanked_eq (c : Char) : blanked c = c ∨ blanked c = ' ' := by
  by_cases newline : c = '\n'
  · subst newline
    exact .inl rfl
  · exact .inr (if_neg fun same => newline (beq_iff_eq.mp same))

theorem masks_kept (c : Char) : Masks c (kept c) where
  code := .inl rfl
  skeleton := .inl rfl
  newline := by
    rintro rfl
    rfl
  covered := fun other => absurd rfl other

theorem masks_hidden (c : Char) : Masks c (hidden c) where
  code := .inl rfl
  skeleton := blanked_eq c
  newline := by
    rintro rfl
    rfl
  covered := fun other => absurd rfl other

theorem masks_erased (c : Char) : Masks c (erased c) where
  code := blanked_eq c
  skeleton := blanked_eq c
  newline := by
    rintro rfl
    rfl
  covered := (blanked_eq c).resolve_left

theorem forall₂_masks_map {cell : Char → Cell} (each : ∀ c, Masks c (cell c)) (cs : List Char) :
    List.Forall₂ Masks cs (cs.map cell) :=
  List.forall₂_map_right_iff.mpr (List.forall₂_same.mpr fun c _ => each c)

theorem openAfter?_blanked (n : Nat) (cs : List Char) :
    openAfter? n (cs.map blanked) = some n := by
  induction cs with
  | nil => rfl
  | cons c rest ih =>
    have notBrace : blanked c ≠ '{' ∧ blanked c ≠ '}' := by
      rw [blanked]
      split <;> decide
    rw [List.map_cons, openAfter?_other notBrace.1 notBrace.2, ih]

theorem openAfter?_single {n : Nat} {c : Char} (notOpen : c ≠ '{') (notClose : c ≠ '}') :
    openAfter? n [c] = some n :=
  openAfter?_other notOpen notClose

/-! ## The ends of literals -/

/-- A string of some length is closed by its quote. -/
theorem getElem?_of_stringLength? {quote : Char} {seen n : Nat} {cs : List Char}
    (found : stringLength? quote seen cs = some n) :
    ∃ k, n = seen + k ∧ cs[k]? = some quote := by
  fun_induction stringLength? quote seen cs with
  | case1 => cases found
  | case2 => cases found
  | case3 seen skipped rest ih =>
    obtain ⟨k, rfl, here⟩ := ih found
    exact ⟨k + 2, by omega, here⟩
  | case4 seen c rest _ closes =>
    cases found
    exact ⟨0, rfl, congrArg some (beq_iff_eq.mp closes)⟩
  | case5 => cases found
  | case6 seen c rest _ _ _ ih =>
    obtain ⟨k, rfl, here⟩ := ih found
    exact ⟨k + 1, by omega, here⟩

/-- A regular expression of some length is closed by a slash. -/
theorem getElem?_of_regexLength? {inClass : Bool} {seen n : Nat} {cs : List Char}
    (found : regexLength? inClass seen cs = some n) :
    ∃ k, n = seen + k ∧ cs[k]? = some '/' := by
  fun_induction regexLength? inClass seen cs with
  | case1 => cases found
  | case2 => cases found
  | case3 inClass seen skipped rest ih =>
    obtain ⟨k, rfl, here⟩ := ih found
    exact ⟨k + 2, by omega, here⟩
  | case4 => cases found
  | case5 inClass seen c rest _ _ _ ih =>
    obtain ⟨k, rfl, here⟩ := ih found
    exact ⟨k + 1, by omega, here⟩
  | case6 inClass seen c rest _ _ _ _ ih =>
    obtain ⟨k, rfl, here⟩ := ih found
    exact ⟨k + 1, by omega, here⟩
  | case7 => cases found
  | case8 inClass seen c rest _ _ _ _ closes =>
    cases found
    exact ⟨0, rfl, congrArg some (beq_iff_eq.mp (Bool.and_eq_true_iff.mp closes).1)⟩
  | case9 inClass seen c rest _ _ _ _ _ ih =>
    obtain ⟨k, rfl, here⟩ := ih found
    exact ⟨k + 1, by omega, here⟩

/-! ## Steps of the reader -/

/-- The reader has a cell for everything that it has read, and its stack is as
deep as the braces that are open in the skeleton. -/
structure Reader.HasRead (r : Reader) (done : List Char) : Prop where
  /-- Every character has its cell. -/
  cells : List.Forall₂ Masks done r.cells.reverse
  /-- The stack counts the open braces. -/
  braces : openAfter? 0 (r.cells.reverse.map (·.2)) = some r.braces.length

namespace Reader.HasRead

variable {r next : Reader} {done rest : List Char} {c : Char} {taken : Nat}

theorem start : ({} : Reader).HasRead [] :=
  ⟨.nil, rfl⟩

theorem emit {chunk : List Char} {cells : List Cell} (h : r.HasRead done)
    (shown : List.Forall₂ Masks chunk cells)
    (counted : openAfter? r.braces.length (cells.map (·.2)) = some next.braces.length)
    (made : next.cells = cells.reverse ++ r.cells) : next.HasRead (done ++ chunk) where
  cells := by
    rw [made, List.reverse_append, List.reverse_reverse]
    exact List.rel_append h.cells shown
  braces := by
    rw [made, List.reverse_append, List.reverse_reverse, List.map_append, openAfter?_append,
      h.braces]
    exact counted

/-- A step inside a template. -/
theorem template (h : r.HasRead done) (stepped : templateStep r c rest = .go next taken) :
    next.HasRead (done ++ c :: rest.take taken) := by
  rw [templateStep] at stepped
  split at stepped
  · cases stepped
    refine h.emit (forall₂_masks_map masks_hidden (c :: rest.take 1)) ?_ rfl
    rw [List.map_map]
    exact openAfter?_blanked _ _
  · split at stepped
    next closes =>
      cases stepped
      refine h.emit (.cons (masks_kept c) .nil) ?_ rfl
      rw [beq_iff_eq.mp closes]
      rfl
    next =>
      split at stepped
      next opens =>
        cases stepped
        obtain ⟨dollar, brace⟩ := Bool.and_eq_true_iff.mp opens
        obtain ⟨more, rfl⟩ := List.head?_eq_some_iff.mp (beq_iff_eq.mp brace)
        refine h.emit (.cons (masks_kept c) (.cons (masks_kept '{') .nil)) ?_ rfl
        rw [beq_iff_eq.mp dollar]
        rfl
      next =>
        cases stepped
        exact h.emit (.cons (masks_hidden c) .nil) (openAfter?_blanked _ [c]) rfl

/-- A step at a character that starts neither a comment nor a literal. -/
theorem plain (h : r.HasRead done) (stepped : plainStep r c = .go next taken) :
    next.HasRead (done ++ c :: rest.take taken) := by
  have shown : List.Forall₂ Masks [c] [kept c] := .cons (masks_kept c) .nil
  rw [plainStep] at stepped
  split at stepped
  next opens =>
    cases stepped
    refine h.emit shown ?_ rfl
    rw [beq_iff_eq.mp opens]
    rfl
  next notOpen =>
    split at stepped
    next closes =>
      rw [beq_iff_eq.mp closes] at shown ⊢
      split at stepped
      next => cases stepped
      next outer stack =>
        cases stepped
        refine h.emit shown ?_ (by rw [beq_iff_eq.mp closes]; rfl)
        rw [stack]
        rfl
      next outer stack =>
        cases stepped
        refine h.emit shown ?_ (by rw [beq_iff_eq.mp closes]; rfl)
        rw [stack]
        rfl
    next notClose =>
      cases stepped
      exact h.emit shown (openAfter?_single (mt beq_iff_eq.mpr notOpen)
        (mt beq_iff_eq.mpr notClose)) rfl

/-- A step over a literal whose body is closed by a character that is no brace. -/
theorem literal {n : Nat} {closer : Char} (h : r.HasRead done) (notOpen : c ≠ '{')
    (notClose : c ≠ '}') (closed : rest[n]? = some closer)
    (plainCloser : closer ≠ '{' ∧ closer ≠ '}')
    (stepped : literalStep r c rest n = .go next taken) :
    next.HasRead (done ++ c :: rest.take taken) := by
  have last : (rest.drop n).take 1 = [closer] := by
    rw [List.take_one, List.head?_drop, closed]
    rfl
  rw [literalStep, last] at stepped
  cases stepped
  rw [List.take_add_one, closed]
  refine h.emit (.cons (masks_kept c) (List.rel_append
    (forall₂_masks_map masks_hidden (rest.take n)) (.cons (masks_kept closer) .nil))) ?_ rfl
  have hiddenBody : openAfter? r.braces.length (((rest.take n).map hidden).map (·.2)) =
      some r.braces.length := by
    rw [List.map_map]
    exact openAfter?_blanked _ _
  simp only [List.map_cons, List.map_append, List.map_nil, kept]
  rw [openAfter?_other notOpen notClose, openAfter?_append, hiddenBody]
  exact openAfter?_single plainCloser.1 plainCloser.2

theorem comment (h : r.HasRead done) (n : Nat)
    (made : next.cells = (r.emit (erased c :: (rest.take n).map erased)).cells)
    (same : next.braces = r.braces) : next.HasRead (done ++ c :: rest.take n) := by
  refine h.emit (forall₂_masks_map masks_erased (c :: rest.take n)) ?_ made
  rw [List.map_map, same]
  exact openAfter?_blanked _ _

/-- A step outside templates. -/
theorem code (h : r.HasRead done) (stepped : codeStep r c rest = .go next taken) :
    next.HasRead (done ++ c :: rest.take taken) := by
  have single (notOpen : c ≠ '{') (notClose : c ≠ '}') (made : next.cells = kept c :: r.cells)
      (same : next.braces = r.braces) : next.HasRead (done ++ [c]) :=
    h.emit (.cons (masks_kept c) .nil) (same ▸ openAfter?_single notOpen notClose) made
  rw [codeStep] at stepped
  split at stepped
  · cases stepped
    have body : rest.takeWhile (· != '\n') =
        rest.take (rest.takeWhile (· != '\n')).length :=
      List.prefix_iff_eq_take.mp (List.takeWhile_prefix _)
    exact h.comment _ (by rw [← body]) rfl
  · split at stepped
    · split at stepped
      next => cases stepped
      next n _ =>
        cases stepped
        exact h.comment _ rfl rfl
    · split at stepped
      next quoted =>
        have notBrace : c ≠ '{' ∧ c ≠ '}' := by
          rcases Bool.or_eq_true_iff.mp quoted with same | same
          all_goals
            rw [beq_iff_eq.mp same]
            decide
        split at stepped
        next =>
          cases stepped
          exact single notBrace.1 notBrace.2 rfl rfl
        next n found =>
          obtain ⟨k, length, closed⟩ := getElem?_of_stringLength? found
          rw [Nat.zero_add] at length
          exact h.literal notBrace.1 notBrace.2 (length ▸ closed) notBrace stepped
      next =>
        split at stepped
        next opens =>
          cases stepped
          have isTick : c = '\x60' := beq_iff_eq.mp opens
          exact single (by rw [isTick]; decide) (by rw [isTick]; decide) rfl rfl
        next =>
          split at stepped
          next slash =>
            have isSlash : c = '/' := beq_iff_eq.mp (Bool.and_eq_true_iff.mp slash).1
            split at stepped
            next => exact h.plain stepped
            next n found =>
              obtain ⟨k, length, closed⟩ := getElem?_of_regexLength? found
              rw [Nat.zero_add] at length
              exact h.literal (by rw [isSlash]; decide) (by rw [isSlash]; decide)
                (length ▸ closed) (by decide) stepped
          next => exact h.plain stepped

theorem step (h : r.HasRead done) (stepped : r.step c rest = .go next taken) :
    next.HasRead (done ++ c :: rest.take taken) := by
  rw [Reader.step] at stepped
  split at stepped
  · exact h.template stepped
  · exact h.code stepped

theorem read {last : Reader} {text : List Char} (h : r.HasRead done)
    (ran : r.read text = .ok last) : last.HasRead (done ++ text) := by
  fun_induction Reader.read r text generalizing done with
  | case1 r =>
    cases ran
    rwa [List.append_nil]
  | case2 r c rest e stepped => cases ran
  | case3 r c rest next taken stepped ih =>
    have whole := ih (h.step stepped) ran
    rwa [List.append_assoc, List.cons_append, List.take_append_drop] at whole

end Reader.HasRead

/-! ## The two copies -/

section

variable {source : List Char} {m : Masked}

theorem mask_eq_of_toOption (read : (mask source).toOption = some m) : mask source = .ok m := by
  cases masked : mask source with
  | error e =>
    rw [masked] at read
    cases read
  | ok own =>
    rw [masked] at read
    exact congrArg Except.ok (Option.some.inj read)

/-- A source that is read to its end has a cell for every character, and its
skeleton is balanced. -/
theorem exists_cells_of_mask (masked : mask source = .ok m) :
    ∃ cells, List.Forall₂ Masks source cells ∧ Balanced (cells.map (·.2)) ∧
      m.code.toList = cells.map (·.1) ∧ m.skeleton.toList = cells.map (·.2) := by
  cases ran : Reader.read {} source with
  | error e =>
    rw [mask, ran] at masked
    cases masked
  | ok r =>
    rw [mask, ran] at masked
    have read : r.HasRead source := Reader.HasRead.start.read ran
    change (if r.inTemplate then _ else _) = _ at masked
    split at masked
    next => cases masked
    next =>
      change (if !r.braces.isEmpty then _ else _) = _ at masked
      split at masked
      next => cases masked
      next closed =>
        cases masked
        have none : r.braces = [] := by
          cases stack : r.braces with
          | nil => rfl
          | cons inner outer => exact absurd (by rw [stack]; rfl) closed
        have counted := read.braces
        rw [none] at counted
        exact ⟨_, read.cells, openAfter?_eq_zero_iff.mp counted, rfl, rfl⟩

theorem mask_balanced (masked : mask source = .ok m) : Balanced m.skeleton.toList := by
  obtain ⟨cells, -, balanced, -, skeleton⟩ := exists_cells_of_mask masked
  rwa [skeleton]

theorem mask_size (masked : mask source = .ok m) :
    m.code.size = source.length ∧ m.skeleton.size = source.length := by
  obtain ⟨cells, shown, -, code, skeleton⟩ := exists_cells_of_mask masked
  rw [← Array.length_toList, ← Array.length_toList, code, skeleton, List.length_map,
    List.length_map, shown.length_eq]
  exact ⟨rfl, rfl⟩

/-- What the two copies show at a position of the source. -/
theorem masks_of_mask (masked : mask source = .ok m) {i : Nat} {c : Char}
    (here : source[i]? = some c) :
    ∃ x y, m.code[i]? = some x ∧ m.skeleton[i]? = some y ∧ Masks c (x, y) := by
  obtain ⟨cells, shown, -, code, skeleton⟩ := exists_cells_of_mask masked
  obtain ⟨inside, rfl⟩ := List.getElem?_eq_some_iff.mp here
  have bound : i < cells.length := shown.length_eq ▸ inside
  refine ⟨cells[i].1, cells[i].2, ?_, ?_, shown.get inside bound⟩
  · rw [← Array.getElem?_toList, code, List.getElem?_map, List.getElem?_eq_getElem bound]
    rfl
  · rw [← Array.getElem?_toList, skeleton, List.getElem?_map, List.getElem?_eq_getElem bound]
    rfl

/-- A cell has line feeds exactly where its character is one. -/
theorem Masks.newline_iff {c : Char} {cell : Cell} (h : Masks c cell) :
    (cell.1 = '\n' ↔ c = '\n') ∧ (cell.2 = '\n' ↔ c = '\n') := by
  have back {x : Char} (shows : x = c ∨ x = ' ') (feed : x = '\n') : c = '\n' := by
    rcases shows with rfl | rfl
    · exact feed
    · cases feed
  exact ⟨⟨back h.code, fun feed => congrArg Prod.fst (h.newline feed)⟩,
    ⟨back h.skeleton, fun feed => congrArg Prod.snd (h.newline feed)⟩⟩

/-- Texts with line feeds at the same places have the same lines. -/
theorem lineOf_eq_of_forall₂ {source copy : List Char}
    (same : List.Forall₂ (fun c d => d = '\n' ↔ c = '\n') source copy) (i : Nat) :
    Text.lineOf copy i = Text.lineOf source i := by
  unfold Text.lineOf
  induction same generalizing i with
  | nil => rfl
  | @cons c d source copy feed rest ih =>
    cases i with
    | zero => rfl
    | succ i =>
      have further := Nat.succ.inj (ih i)
      rw [List.take_succ_cons, List.take_succ_cons, List.count_cons, List.count_cons, further]
      simp only [beq_iff_eq, feed]

theorem lineAt_eq (text : Array Char) (i : Nat) : lineAt text i = Text.lineOf text.toList i := by
  have counted (cs : List Char) (n : Nat) :
      cs.foldl (fun n c => if c == '\n' then n + 1 else n) n = cs.count '\n' + n := by
    induction cs generalizing n with
    | nil => exact (Nat.zero_add n).symm
    | cons c rest ih =>
      rw [List.foldl_cons, ih, List.count_cons]
      split <;> omega
  rw [lineAt, Text.lineOfArray, Array.foldl_eq_foldl_extract, ← Array.foldl_toList, counted,
    Array.toList_extract, List.extract_eq_take_drop, List.drop_zero, Nat.sub_zero]
  rfl

/-- A position has the same line in the source and in both copies. -/
theorem lineOf_mask (masked : mask source = .ok m) (i : Nat) :
    Text.lineOf m.code.toList i = Text.lineOf source i ∧
      Text.lineOf m.skeleton.toList i = Text.lineOf source i := by
  obtain ⟨cells, shown, -, code, skeleton⟩ := exists_cells_of_mask masked
  rw [code, skeleton]
  exact ⟨lineOf_eq_of_forall₂ (List.forall₂_map_right_iff.mpr
      (shown.imp fun _ _ h => h.newline_iff.1)) i,
    lineOf_eq_of_forall₂ (List.forall₂_map_right_iff.mpr
      (shown.imp fun _ _ h => h.newline_iff.2)) i⟩

end

end RepoSurvey.JavaScript
