import RepoSurvey.Path
import RepoSurvey.Proofs.Text.Cutting
import RepoSurvey.Text.Casing

/-!
# How texts end

The suffix of a path is an ending of it, if it is the suffix of the text after the last
slash, and stays one when both are written in lower case. The latter is not a matter of
single characters, as the case of a capital sigma depends on what stands before it;
an ending without one has the same lower case everywhere (`lowerChars_suffix`).
-/

namespace RepoSurvey

namespace Text

/-! ## After the last separator -/

section

variable {sep : Char}

theorem toList_afterLast (sep : Char) (s : String) :
    (afterLast sep s).toList = (s.toList.reverse.takeWhile (· != sep)).reverse :=
  String.toList_ofList

theorem not_mem_afterLast (sep : Char) (s : String) : sep ∉ (afterLast sep s).toList := by
  rw [toList_afterLast, List.mem_reverse]
  intro mem
  have other := List.all_eq_true.mp List.all_takeWhile sep mem
  rw [bne_self_eq_false] at other
  cases other

/-- A text is what follows the last separator, or ends in that after one. -/
theorem eq_or_eq_append_afterLast (sep : Char) (s : String) :
    s.toList = (afterLast sep s).toList ∨
      ∃ front, s.toList = front ++ sep :: (afterLast sep s).toList := by
  have cut : (s.toList.reverse.dropWhile (· != sep)).reverse ++ (afterLast sep s).toList =
      s.toList := by
    rw [toList_afterLast, ← List.reverse_append, List.takeWhile_append_dropWhile,
      List.reverse_reverse]
  have stops := List.head?_dropWhile_not (· != sep) s.toList.reverse
  cases later : s.toList.reverse.dropWhile (· != sep) with
  | nil =>
    rw [later, List.reverse_nil, List.nil_append] at cut
    exact .inl cut.symm
  | cons c front =>
    rw [later] at cut stops
    obtain rfl : c = sep := bne_eq_false_iff_eq.mp stops
    rw [List.reverse_cons, List.append_assoc, List.singleton_append] at cut
    exact .inr ⟨front.reverse, cut.symm⟩

theorem afterLast_eq_self {s : String} (free : sep ∉ s.toList) : afterLast sep s = s := by
  rcases eq_or_eq_append_afterLast sep s with whole | ⟨front, cut⟩
  · exact (String.toList_inj.mp whole).symm
  · exact absurd (cut ▸ List.mem_append_right front List.mem_cons_self) free

/-- What is written after a separator, and has none in it, is what follows the last one. -/
theorem afterLast_append {s t : String} (free : sep ∉ t.toList) :
    afterLast sep (s ++ String.singleton sep ++ t) = t := by
  refine String.toList_inj.mp ?_
  have ending : sep ∉ t.toList.reverse := fun mem => free (List.mem_reverse.mp mem)
  rw [toList_afterLast, String.toList_append, String.toList_append, String.toList_singleton,
    List.reverse_append, List.reverse_append, List.reverse_singleton, List.singleton_append,
    (takeWhile_append_cons ending).1, List.reverse_reverse]

theorem afterLast_join {last : String} (free : sep ∉ last.toList) (pieces : List String) :
    afterLast sep (join (String.singleton sep) (pieces ++ [last])) = last := by
  cases pieces with
  | nil => exact afterLast_eq_self free
  | cons piece rest =>
    rw [join, String.intercalate_append_of_ne_nil (List.cons_ne_nil _ _) (List.cons_ne_nil _ _),
      String.intercalate_singleton, afterLast_append free]

theorem afterLast_suffix (sep : Char) (s : String) : (afterLast sep s).toList <:+ s.toList := by
  rcases eq_or_eq_append_afterLast sep s with whole | ⟨front, cut⟩
  · refine ⟨[], ?_⟩
    rw [List.nil_append, whole]
  · rw [cut]
    exact (List.suffix_cons sep _).trans (List.suffix_append front _)

/-- The last piece of a text is what follows the last separator. -/
theorem exists_split_eq_append (sep : Char) (s : String) :
    ∃ pieces, split sep s = pieces ++ [afterLast sep s] := by
  have last : splitAt sep (afterLast sep s).toList = [(afterLast sep s).toList] :=
    splitAt_of_not_mem (not_mem_afterLast sep s)
  rcases eq_or_eq_append_afterLast sep s with whole | ⟨front, cut⟩
  · refine ⟨[], ?_⟩
    rw [split, whole, last, List.map_singleton, String.ofList_toList, List.nil_append]
  · refine ⟨(splitAt sep front).map String.ofList, ?_⟩
    rw [split, cut, splitAt_append_cons, last, List.map_append, List.map_singleton,
      String.ofList_toList]

end

/-! ## Lower case -/

theorem exists_lowerFrom_append (before xs ys : List Char) :
    ∃ zs, lowerFrom before (xs ++ ys) = zs ++ lowerFrom (xs.reverse ++ before) ys := by
  induction xs generalizing before with
  | nil => exact ⟨[], rfl⟩
  | cons c xs ih =>
    obtain ⟨zs, later⟩ := ih (c :: before)
    rw [List.cons_append, lowerFrom, later, List.reverse_cons, List.append_assoc]
    exact ⟨_, (List.append_assoc _ zs _).symm⟩

/-- Without a capital sigma the lower case does not depend on what stands before. -/
theorem lowerFrom_eq {cs : List Char} (free : 'Σ' ∉ cs) (before before' : List Char) :
    lowerFrom before cs = lowerFrom before' cs := by
  induction cs generalizing before before' with
  | nil => rfl
  | cons c rest ih =>
    have other : (c == 'Σ') = false :=
      beq_eq_false_iff_ne.mpr fun same => free (List.mem_cons.mpr (.inl same.symm))
    have later := ih (fun mem => free (List.mem_cons_of_mem c mem)) (c :: before) (c :: before')
    rw [lowerFrom, lowerFrom, later, other]
    rfl

/-- A capital sigma becomes a small one of either form. -/
theorem sigma_mem_lowerFrom {cs : List Char} (mem : 'Σ' ∈ cs) (before : List Char) :
    'ς' ∈ lowerFrom before cs ∨ 'σ' ∈ lowerFrom before cs := by
  induction cs generalizing before with
  | nil => cases mem
  | cons c rest ih =>
    rw [lowerFrom, List.mem_append, List.mem_append]
    rcases List.mem_cons.mp mem with rfl | mem
    · simp only [beq_self_eq_true, if_true, List.mem_singleton]
      split
      · exact .inl (.inl rfl)
      · exact .inr (.inl rfl)
    · exact (ih mem (c :: before)).imp .inr .inr

/-- An ending without a sigma is one in lower case as well. -/
theorem lowerChars_suffix {xs ys : List Char} (ends : ys <:+ xs)
    (free : 'ς' ∉ lowerChars ys ∧ 'σ' ∉ lowerChars ys) : lowerChars ys <:+ lowerChars xs := by
  have bare : 'Σ' ∉ ys := fun mem => (sigma_mem_lowerFrom mem []).elim free.1 free.2
  obtain ⟨front, rfl⟩ := ends
  obtain ⟨zs, cut⟩ := exists_lowerFrom_append [] front ys
  rw [lowerChars, lowerChars, cut, lowerFrom_eq bare (front.reverse ++ []) []]
  exact List.suffix_append zs _

end Text

namespace Path

/-- The suffix of a name is an ending of it. -/
theorem nameSuffix_suffix (name : String) : (nameSuffix name).toList <:+ name.toList := by
  rw [nameSuffix]
  split
  next inside =>
    rcases Text.eq_or_eq_append_afterLast '.' name with whole | ⟨front, cut⟩
    · rw [← String.toList_inj.mp whole, Nat.sub_self] at inside
      cases inside
    · exact ⟨front, by rw [cut, String.toList_append]; rfl⟩
  next => exact List.nil_suffix

/-- The last part of a path that does not end in a slash or in a single point is what
follows the last slash. -/
theorem fileName_eq_afterLast {path : String} (named : Text.afterLast '/' path ≠ "")
    (apart : Text.afterLast '/' path ≠ ".") : fileName path = Text.afterLast '/' path := by
  obtain ⟨pieces, cut⟩ := Text.exists_split_eq_append '/' path
  obtain ⟨front, counts⟩ : ∃ front, parts path = front ++ [Text.afterLast '/' path] := by
    refine ⟨pieces.filter fun part => part != "" && part != ".", ?_⟩
    simp only [parts, cut, List.filter_append, List.filter_cons, List.filter_nil,
      bne_iff_ne.mpr named, bne_iff_ne.mpr apart, Bool.and_self, if_true]
  rw [fileName, counts, List.getLast?_concat]
  rfl

end Path

end RepoSurvey
