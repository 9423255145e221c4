import Mathlib.Data.List.TakeWhile
import RepoSurvey.Text.Blank
import RepoSurvey.Text.Lines

/-!
# Texts that are cut and joined

A text is cut into one more piece than it has separators, and the pieces joined
again are the text; pieces without a separator come out of a cut as they went
in (`split_join`). So names joined to a path can be told from the path.

What stands around a character of a class, or between two of them, is determined
by the text if the pieces have none of the class (`append_cons_inj_of_class`,
`enclosed_inj_of_class`), and so is a run of the class (`run_inj`).
-/

namespace RepoSurvey.Text

section

variable {sep : Char}

theorem exists_splitAt_eq_cons (sep : Char) (cs : List Char) :
    ∃ piece pieces, splitAt sep cs = piece :: pieces := by
  cases cs with
  | nil => exact ⟨[], [], rfl⟩
  | cons c rest =>
    rw [splitAt]
    split
    · exact ⟨_, _, rfl⟩
    · split
      · exact ⟨_, _, rfl⟩
      · exact ⟨_, _, rfl⟩

theorem splitAt_cons_of_ne {c : Char} {rest piece : List Char} {pieces : List (List Char)}
    (other : c ≠ sep) (cut : splitAt sep rest = piece :: pieces) :
    splitAt sep (c :: rest) = (c :: piece) :: pieces := by
  simp only [splitAt, cut, beq_iff_eq, other, if_false]

theorem splitAt_cons_self (rest : List Char) :
    splitAt sep (sep :: rest) = [] :: splitAt sep rest := by
  simp only [splitAt, beq_self_eq_true, if_true]

/-- There is one more piece than separators. -/
theorem length_splitAt (cs : List Char) : (splitAt sep cs).length = cs.count sep + 1 := by
  induction cs with
  | nil => rfl
  | cons c rest ih =>
    by_cases same : c = sep
    · subst same
      rw [splitAt_cons_self, List.length_cons, ih, List.count_cons_self]
    · obtain ⟨piece, pieces, cut⟩ := exists_splitAt_eq_cons sep rest
      rw [splitAt_cons_of_ne same cut, List.count_cons_of_ne same, ← ih, cut]
      rfl

/-- A text without the separator is one piece. -/
theorem splitAt_of_not_mem {cs : List Char} (free : sep ∉ cs) : splitAt sep cs = [cs] := by
  induction cs with
  | nil => rfl
  | cons c rest ih =>
    have other : c ≠ sep := fun same => free (List.mem_cons.mpr (.inl same.symm))
    exact splitAt_cons_of_ne other (ih fun inside => free (List.mem_cons_of_mem c inside))

/-- A cut goes through the two sides of a separator one after the other. -/
theorem splitAt_append_cons (cs rest : List Char) :
    splitAt sep (cs ++ sep :: rest) = splitAt sep cs ++ splitAt sep rest := by
  induction cs with
  | nil => exact splitAt_cons_self rest
  | cons c more ih =>
    by_cases same : c = sep
    · subst same
      rw [List.cons_append, splitAt_cons_self, ih, splitAt_cons_self, List.cons_append]
    · obtain ⟨piece, pieces, cut⟩ := exists_splitAt_eq_cons sep more
      have whole : splitAt sep (more ++ sep :: rest) = piece :: (pieces ++ splitAt sep rest) := by
        rw [ih, cut, List.cons_append]
      rw [List.cons_append, splitAt_cons_of_ne same whole, splitAt_cons_of_ne same cut,
        List.cons_append]

theorem splitAt_append {cs : List Char} (free : sep ∉ cs) (rest : List Char) :
    splitAt sep (cs ++ sep :: rest) = cs :: splitAt sep rest := by
  rw [splitAt_append_cons, splitAt_of_not_mem free, List.singleton_append]

theorem not_mem_of_mem_splitAt {cs piece : List Char} (mem : piece ∈ splitAt sep cs) :
    sep ∉ piece := by
  induction cs generalizing piece with
  | nil =>
    rw [List.mem_singleton.mp mem]
    exact List.not_mem_nil
  | cons c rest ih =>
    by_cases same : c = sep
    · subst same
      rw [splitAt_cons_self] at mem
      rcases List.mem_cons.mp mem with rfl | later
      · exact List.not_mem_nil
      · exact ih later
    · obtain ⟨first, pieces, cut⟩ := exists_splitAt_eq_cons sep rest
      rw [splitAt_cons_of_ne same cut] at mem
      rcases List.mem_cons.mp mem with rfl | later
      · refine List.not_mem_cons_of_ne_of_not_mem (Ne.symm same) (ih ?_)
        rw [cut]
        exact List.mem_cons_self
      · refine ih ?_
        rw [cut]
        exact List.mem_cons_of_mem first later

theorem split_append (s t : String) :
    split sep (s ++ String.singleton sep ++ t) = split sep s ++ split sep t := by
  rw [split, split, split, String.append_assoc, String.toList_append, String.toList_append,
    String.toList_singleton, List.singleton_append, splitAt_append_cons, List.map_append]

theorem not_mem_of_mem_split {s piece : String} (mem : piece ∈ split sep s) :
    sep ∉ piece.toList := by
  obtain ⟨cs, cut, rfl⟩ := List.mem_map.mp mem
  rw [String.toList_ofList]
  exact not_mem_of_mem_splitAt cut

/-- Pieces without the separator come out of a cut as they were joined. -/
theorem split_join {pieces : List String} (some_piece : pieces ≠ [])
    (free : ∀ piece ∈ pieces, sep ∉ piece.toList) :
    split sep (join (String.singleton sep) pieces) = pieces := by
  have cut : splitAt sep (join (String.singleton sep) pieces).toList =
      pieces.map String.toList := by
    induction pieces with
    | nil => exact absurd rfl some_piece
    | cons piece rest ih =>
      have here : sep ∉ piece.toList := free piece List.mem_cons_self
      cases rest with
      | nil => exact splitAt_of_not_mem here
      | cons next more =>
        have later := ih (List.cons_ne_nil next more) fun p mem =>
          free p (List.mem_cons_of_mem piece mem)
        rw [join, String.intercalate_cons_cons, String.append_assoc, String.toList_append,
          String.toList_append, String.toList_singleton]
        exact (splitAt_append here _).trans (congrArg _ later)
  rw [split, cut, List.map_map]
  exact List.map_id'' (fun piece => String.ofList_toList) pieces

/-- Joined pieces are the first of them, and each of the others behind the separator. -/
theorem toList_join_cons (between first : String) (others : List String) :
    (join between (first :: others)).toList =
      first.toList ++ others.flatMap fun piece => between.toList ++ piece.toList := by
  induction others generalizing first with
  | nil => exact (List.append_nil first.toList).symm
  | cons next more ih =>
    rw [join, String.intercalate_cons_cons, String.append_assoc, String.toList_append,
      String.toList_append, List.flatMap_cons, List.append_assoc]
    exact congrArg (fun tail => first.toList ++ (between.toList ++ tail)) (ih next)

theorem join_cons_ne_empty {between first : String} {others : List String}
    (some_text : first ≠ "") : join between (first :: others) ≠ "" := by
  intro empty
  have whole := toList_join_cons between first others
  rw [empty] at whole
  exact some_text (String.toList_eq_nil_iff.mp (List.append_eq_nil_iff.mp whole.symm).1)

/-- Where a gap stands behind each separator, the gap comes out with the next piece. -/
theorem splitAt_join_gap {lead gap : List Char} {first : String} {others : List String}
    (free_lead : sep ∉ lead) (free_gap : sep ∉ gap)
    (free : ∀ piece ∈ first :: others, sep ∉ piece.toList) :
    splitAt sep (lead ++ (join (String.ofList (sep :: gap)) (first :: others)).toList) =
      (lead ++ first.toList) :: others.map fun piece => gap ++ piece.toList := by
  have here : sep ∉ lead ++ first.toList := by
    rw [List.mem_append, not_or]
    exact ⟨free_lead, free first List.mem_cons_self⟩
  induction others generalizing lead first with
  | nil => exact splitAt_of_not_mem here
  | cons next more ih =>
    have later : ∀ piece ∈ next :: more, sep ∉ piece.toList := fun piece mem =>
      free piece (List.mem_cons_of_mem first mem)
    have next_free : sep ∉ gap ++ next.toList := by
      rw [List.mem_append, not_or]
      exact ⟨free_gap, later next List.mem_cons_self⟩
    rw [join, String.intercalate_cons_cons, String.append_assoc, String.toList_append,
      String.toList_append, String.toList_ofList, ← List.append_assoc, List.cons_append,
      splitAt_append here, List.map_cons]
    exact congrArg _ (ih free_gap later next_free)

/-- What is read from the pieces of a joined text, with the gaps in front of them. -/
theorem map_split_join {α β : Type} {items : List α} {text : α → String} {read : String → β}
    {image : α → β} {lead gap : List Char} (some_item : items ≠ []) (free_lead : sep ∉ lead)
    (free_gap : sep ∉ gap) (free : ∀ a ∈ items, sep ∉ (text a).toList)
    (each : ∀ a ∈ items, ∀ blanks, blanks = lead ∨ blanks = gap →
      read (String.ofList (blanks ++ (text a).toList)) = image a) :
    (split sep (String.ofList
      (lead ++ (join (String.ofList (sep :: gap)) (items.map text)).toList))).map read =
        items.map image := by
  obtain ⟨first, others, rfl⟩ := List.exists_cons_of_ne_nil some_item
  rw [← List.forall_mem_map (P := fun piece : String => sep ∉ piece.toList)] at free
  have cut := splitAt_join_gap free_lead free_gap free
  rw [split, String.toList_ofList, List.map_cons, cut, List.map_cons, List.map_cons, List.map_cons,
    each first List.mem_cons_self lead (.inl rfl), List.map_map, List.map_map, List.map_map]
  refine congrArg _ (List.map_congr_left fun a mem => ?_)
  exact each a (List.mem_cons_of_mem first mem) gap (.inr rfl)

end

/-- What is joined is made of the pieces and of what stands between them. -/
theorem forall_mem_join {motive : Char → Prop} {sep : String} {pieces : List String}
    (between : ∀ c ∈ sep.toList, motive c) (each : ∀ piece ∈ pieces, ∀ c ∈ piece.toList, motive c) :
    ∀ c ∈ (join sep pieces).toList, motive c := by
  induction pieces with
  | nil => exact nofun
  | cons piece rest ih =>
    have here := each piece List.mem_cons_self
    cases rest with
    | nil => exact here
    | cons next more =>
      rw [join, String.intercalate_cons_cons, String.toList_append, String.toList_append,
        List.forall_mem_append, List.forall_mem_append]
      exact ⟨⟨here, between⟩, ih fun p mem => each p (List.mem_cons_of_mem piece mem)⟩

/-- Two ways to write a text around the first character of a class are the same. -/
theorem append_cons_inj_of_class {inClass : Char → Bool} {xs ys rest rest' : List Char} {a b : Char}
    (free : ∀ c ∈ xs, inClass c = false) (free' : ∀ c ∈ ys, inClass c = false)
    (first : inClass a = true) (first' : inClass b = true)
    (same : xs ++ a :: rest = ys ++ b :: rest') : xs = ys ∧ a = b ∧ rest = rest' := by
  induction xs generalizing ys with
  | nil =>
    cases ys with
    | nil =>
      obtain ⟨rfl, rfl⟩ := List.cons.inj same
      exact ⟨rfl, rfl, rfl⟩
    | cons y ys =>
      obtain ⟨rfl, -⟩ := List.cons.inj same
      rw [free' a List.mem_cons_self] at first
      cases first
  | cons x xs ih =>
    cases ys with
    | nil =>
      obtain ⟨rfl, -⟩ := List.cons.inj same
      rw [free x List.mem_cons_self] at first'
      cases first'
    | cons y ys =>
      obtain ⟨rfl, tails⟩ := List.cons.inj same
      obtain ⟨rfl, equal⟩ := ih (fun c mem => free c (List.mem_cons_of_mem x mem))
        (fun c mem => free' c (List.mem_cons_of_mem x mem)) tails
      exact ⟨rfl, equal⟩

theorem append_cons_inj {xs ys rest rest' : List Char} {a : Char} (free : a ∉ xs) (free' : a ∉ ys)
    (same : xs ++ a :: rest = ys ++ a :: rest') : xs = ys ∧ rest = rest' := by
  have other : ∀ {cs : List Char}, a ∉ cs → ∀ c ∈ cs, (c == a) = false := by
    rintro cs free c mem
    exact beq_eq_false_iff_ne.mpr fun same => free (same ▸ mem)
  obtain ⟨pieces, -, rests⟩ := append_cons_inj_of_class (other free) (other free')
    (beq_self_eq_true a) (beq_self_eq_true a) same
  exact ⟨pieces, rests⟩

/-- In a text with two characters of a class, the two are found again with what is between them,
whatever stands before the first. -/
theorem enclosed_inj_of_class {inClass : Char → Bool}
    {before xs after before' ys after' : List Char} {a b a' b' : Char}
    (first : inClass a = true) (free : ∀ c ∈ xs, inClass c = false)
    (last : inClass b = true) (first' : inClass a' = true)
    (free_before : ∀ c ∈ before', inClass c = false) (free' : ∀ c ∈ ys, inClass c = false)
    (last' : inClass b' = true) (free_after : ∀ c ∈ after', inClass c = false)
    (same : before ++ a :: (xs ++ b :: after) = before' ++ a' :: (ys ++ b' :: after')) :
    xs = ys := by
  have uncounted : ∀ {cs : List Char}, (∀ c ∈ cs, inClass c = false) → cs.countP inClass = 0 :=
    fun free => List.countP_eq_zero.mpr fun c mem => Bool.eq_false_iff.mp (free c mem)
  -- two are counted on the right, so none is left to stand before the first on the left
  have none_before : ∀ c ∈ before, inClass c = false := by
    have counts := congrArg (List.countP inClass) same
    rw [List.countP_append, List.countP_cons_of_pos first, List.countP_append,
      List.countP_cons_of_pos last, List.countP_append, List.countP_cons_of_pos first',
      List.countP_append, List.countP_cons_of_pos last', uncounted free, uncounted free_before,
      uncounted free', uncounted free_after] at counts
    have none_there : before.countP inClass = 0 := by omega
    exact fun c mem => Bool.eq_false_iff.mpr (List.countP_eq_zero.mp none_there c mem)
  obtain ⟨-, -, inner⟩ := append_cons_inj_of_class none_before free_before first first' same
  exact (append_cons_inj_of_class free free' last last' inner).1

/-- A run of a class that ends where the class does is taken as a whole. -/
theorem takeWhile_run {accepts : Char → Bool} {xs rest : List Char}
    (all : ∀ c ∈ xs, accepts c = true) (stop : rest.head?.any accepts = false) :
    (xs ++ rest).takeWhile accepts = xs := by
  rw [List.takeWhile_append_of_pos all]
  cases rest with
  | nil => exact List.append_nil xs
  | cons c more =>
    have outside : accepts c = false := stop
    rw [List.takeWhile_cons_of_neg (Bool.eq_false_iff.mp outside), List.append_nil]

/-- Every text begins with such a run. -/
theorem exists_run (accepts : Char → Bool) (cs : List Char) :
    ∃ xs rest, cs = xs ++ rest ∧ (∀ c ∈ xs, accepts c = true) ∧
      rest.head?.any accepts = false := by
  refine ⟨cs.takeWhile accepts, cs.dropWhile accepts, List.takeWhile_append_dropWhile.symm,
    List.all_eq_true.mp List.all_takeWhile, ?_⟩
  have stops := List.head?_dropWhile_not accepts cs
  cases first : (cs.dropWhile accepts).head? with
  | none => rfl
  | some c => rwa [first] at stops

/-- A text up to a character that it does not hold. -/
theorem takeWhile_append_cons {cs rest : List Char} {c : Char} (free : c ∉ cs) :
    (cs ++ c :: rest).takeWhile (· != c) = cs ∧
      (cs ++ c :: rest).dropWhile (· != c) = c :: rest := by
  have kept : ∀ d ∈ cs, (d != c) = true :=
    fun d mem => bne_iff_ne.mpr fun same => free (same ▸ mem)
  have stop : (c :: rest).head?.any (· != c) = false := bne_self_eq_false c
  refine ⟨takeWhile_run kept stop, ?_⟩
  rw [List.dropWhile_append_of_pos kept, List.dropWhile_cons_of_neg]
  exact Bool.eq_false_iff.mp stop

theorem takeWhile_of_not_mem {cs : List Char} {c : Char} (free : c ∉ cs) :
    cs.takeWhile (· != c) = cs ∧ cs.dropWhile (· != c) = [] := by
  have kept : ∀ d ∈ cs, (d != c) = true :=
    fun d mem => bne_iff_ne.mpr fun same => free (same ▸ mem)
  exact ⟨List.takeWhile_eq_self_iff.mpr kept, List.dropWhile_eq_nil_iff.mpr kept⟩

/-- A run of a class that ends where the class does is as long as any other. -/
theorem run_inj {accepts : Char → Bool} {xs ys rest rest' : List Char}
    (all : ∀ c ∈ xs, accepts c = true) (all' : ∀ c ∈ ys, accepts c = true)
    (stop : rest.head?.any accepts = false) (stop' : rest'.head?.any accepts = false)
    (same : xs ++ rest = ys ++ rest') : xs = ys := by
  rw [← takeWhile_run all stop, same, takeWhile_run all' stop']

/-! ## Trimming -/

section

variable {drop : Char → Bool} {front last : List Char} {c : Char}

theorem trimStartBy_cons_of_not (kept : drop c = false) (rest : List Char) :
    trimStartBy drop (c :: rest) = c :: rest :=
  List.dropWhile_cons_of_neg (Bool.eq_false_iff.mp kept)

theorem trimEndBy_append_of_all (all : ∀ c ∈ last, drop c = true) (front : List Char) :
    trimEndBy drop (front ++ last) = trimEndBy drop front := by
  rw [trimEndBy, List.reverse_append, List.dropWhile_append_of_pos]
  · rfl
  · exact fun c mem => all c (List.mem_reverse.mp mem)

/-- What stands up to a character that is kept is kept. -/
theorem trimEndBy_append_cons (kept : drop c = false) (front rest : List Char) :
    trimEndBy drop (front ++ c :: rest) = front ++ c :: trimEndBy drop rest := by
  have here : List.dropWhile drop (c :: front.reverse) = c :: front.reverse :=
    List.dropWhile_cons_of_neg (Bool.eq_false_iff.mp kept)
  rw [trimEndBy, trimEndBy, List.reverse_append, List.reverse_cons, List.append_assoc,
    List.singleton_append, List.dropWhile_append]
  split
  next none =>
    rw [here, List.isEmpty_iff.mp none]
    simp
  next => simp

/-- A text that begins and ends with characters that are kept. -/
structure Firm (drop : Char → Bool) (cs : List Char) : Prop where
  /-- It holds characters. -/
  some_char : cs ≠ []
  /-- The first is kept. -/
  starts : ∀ c ∈ cs.head?, drop c = false
  /-- The last is kept. -/
  ends : ∀ c ∈ cs.getLast?, drop c = false

/-- A firm text stays when what is around it goes. -/
theorem Firm.trimBy_enclosed {cs : List Char} (firm : Firm drop cs)
    (dropped : ∀ c ∈ front, drop c = true) (dropped' : ∀ c ∈ last, drop c = true) :
    trimBy drop (front ++ (cs ++ last)) = cs := by
  obtain ⟨c, more, rfl⟩ := List.exists_cons_of_ne_nil firm.some_char
  have starts : trimStartBy drop (front ++ (c :: more ++ last)) = c :: more ++ last := by
    rw [trimStartBy, List.dropWhile_append_of_pos dropped]
    exact trimStartBy_cons_of_not (firm.starts c rfl) (more ++ last)
  have whole := List.dropLast_concat_getLast firm.some_char
  have kept := firm.ends _ (List.getLast?_eq_some_getLast firm.some_char)
  rw [trimBy, starts, trimEndBy_append_of_all dropped', ← whole, trimEndBy_append_cons kept]
  rfl

theorem Firm.trimBy_eq {cs : List Char} (firm : Firm drop cs) : trimBy drop cs = cs := by
  have alone : trimBy drop ([] ++ (cs ++ [])) = cs :=
    firm.trimBy_enclosed (List.forall_mem_nil _) (List.forall_mem_nil _)
  rwa [List.nil_append, List.append_nil] at alone

/-- A firm string stays when the blanks in front of it go. -/
theorem Firm.trim_behind {blanks : List Char} {s : String} (firm : Firm isBlank s.toList)
    (blank : ∀ c ∈ blanks, isBlank c = true) :
    trim (String.ofList (blanks ++ s.toList)) = s := by
  have kept := firm.trimBy_enclosed blank (List.forall_mem_nil _)
  rw [List.append_nil] at kept
  rw [trim, String.toList_ofList, trimChars, kept, String.ofList_toList]

theorem Firm.trim_eq {s : String} (firm : Firm isBlank s.toList) : trim s = s := by
  rw [trim, trimChars, firm.trimBy_eq, String.ofList_toList]

theorem firm_of_none {cs : List Char} (some_char : cs ≠ []) (kept : ∀ c ∈ cs, drop c = false) :
    Firm drop cs where
  some_char := some_char
  starts := fun c first => kept c (List.mem_of_mem_head? first)
  ends := fun c final => kept c (List.mem_of_getLast? final)

/-- Firm texts with anything between them make a firm text. -/
theorem Firm.append {xs ys : List Char} (firm : Firm drop xs) (firm' : Firm drop ys)
    (between : List Char) : Firm drop (xs ++ (between ++ ys)) where
  some_char := List.append_ne_nil_of_left_ne_nil firm.some_char _
  starts := by
    obtain ⟨x, more, rfl⟩ := List.exists_cons_of_ne_nil firm.some_char
    exact firm.starts
  ends := by
    have final := List.getLast?_eq_some_getLast firm'.some_char
    rw [← List.append_assoc, List.getLast?_append, final, Option.some_or, ← final]
    exact firm'.ends

theorem firm_join {between first : String} {others : List String}
    (each : ∀ piece ∈ first :: others, Firm drop piece.toList) :
    Firm drop (join between (first :: others)).toList := by
  induction others generalizing first with
  | nil => exact each first List.mem_cons_self
  | cons next more ih =>
    obtain ⟨here, later⟩ := List.forall_mem_cons.mp each
    rw [join, String.intercalate_cons_cons, String.append_assoc, String.toList_append,
      String.toList_append]
    exact here.append (ih later) between.toList

theorem trimBy_of_none {cs : List Char} (kept : ∀ c ∈ cs, drop c = false) :
    trimBy drop cs = cs := by
  cases cs with
  | nil => rfl
  | cons c rest => exact (firm_of_none (List.cons_ne_nil c rest) kept).trimBy_eq

end

/-! ## Before a separator -/

section

variable {c : Char} {sep cs : List Char}

/-- In front of a separator, what does not hold its first character is kept. -/
theorem beforeTextChars_append (free : c ∉ cs) (rest : List Char) :
    beforeTextChars (c :: sep) (cs ++ rest) = cs ++ beforeTextChars (c :: sep) rest := by
  induction cs with
  | nil => rfl
  | cons d cs ih =>
    obtain ⟨other, later⟩ := List.ne_and_not_mem_of_not_mem_cons free
    have none : (c :: sep).isPrefixOf (d :: cs ++ rest) = false := by
      rw [List.cons_append, List.isPrefixOf_cons_cons, beq_false_of_ne other, Bool.false_and]
    rw [List.cons_append, beforeTextChars, ← List.cons_append, none, ih later]
    rfl

theorem beforeTextChars_of_not_mem (free : c ∉ cs) : beforeTextChars (c :: sep) cs = cs := by
  have all : beforeTextChars (c :: sep) (cs ++ []) = cs ++ beforeTextChars (c :: sep) [] :=
    beforeTextChars_append free []
  rwa [List.append_nil, beforeTextChars, List.append_nil] at all

theorem beforeTextChars_self (c : Char) (sep rest : List Char) :
    beforeTextChars (c :: sep) (c :: sep ++ rest) = [] := by
  rw [List.cons_append, beforeTextChars, if_pos]
  exact List.isPrefixOf_iff_prefix.mpr (List.prefix_append (c :: sep) rest)

end

theorem occursIn_iff {part cs : List Char} : occursIn part cs = true ↔ part <:+: cs := by
  induction cs with
  | nil => rw [occursIn, List.isEmpty_iff, List.infix_nil]
  | cons c rest ih =>
    rw [occursIn, Bool.or_eq_true, ih, List.isPrefixOf_iff_prefix, List.infix_cons_iff]

theorem holds_iff {s part : String} : holds s part = true ↔ part.toList <:+: s.toList :=
  occursIn_iff

/-- The lines of a text are counted by its line feeds. -/
theorem length_lines (s : String) : (lines s).length = s.toList.count '\n' + 1 := by
  rw [lines, split, List.length_map, length_splitAt]

end RepoSurvey.Text
