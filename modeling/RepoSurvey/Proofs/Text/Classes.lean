import RepoSurvey.Text.Blank
import RepoSurvey.Text.Letter

/-!
# How classes of characters relate

Letters of sources and of tags are told by different tests. A letter or digit of
ASCII is a word character everywhere, and a blank is none.
-/

namespace RepoSurvey.Text

variable {c d : Char}

/-- What holds of every character of a text is decided along the text, never over all the
characters there are. -/
instance decidableForallMem {p : Char → Prop} [DecidablePred p] {text : List Char} :
    Decidable (∀ c ∈ text, p c) :=
  List.decidableBAll p text

theorem cases_of_isAlpha (letter : c.isAlpha = true) : 'a' ≤ c ∧ c ≤ 'z' ∨ 'A' ≤ c ∧ c ≤ 'Z' := by
  rcases Bool.or_eq_true_iff.mp letter with upper | lower
  · exact .inr (of_decide_eq_true upper)
  · obtain ⟨above, below⟩ := Bool.and_eq_true_iff.mp lower
    exact .inl ⟨of_decide_eq_true above, of_decide_eq_true below⟩

theorem isAscii_of_isAlpha (letter : c.isAlpha = true) : isAsciiAlphanumeric c = true := by
  simp only [isAsciiAlphanumeric, Bool.or_eq_true, Bool.and_eq_true, decide_eq_true_eq]
  exact .inl (cases_of_isAlpha letter)

theorem toNat_lt_of_ascii (letter : isAsciiAlphanumeric c = true) : c.toNat < 128 := by
  simp only [isAsciiAlphanumeric, Bool.or_eq_true, Bool.and_eq_true, decide_eq_true_eq] at letter
  have bound : c ≤ 'z' := by
    rcases letter with (⟨-, below⟩ | ⟨-, below⟩) | ⟨-, below⟩
    · exact below
    · exact Char.le_trans below (by decide)
    · exact Char.le_trans below (by decide)
  exact Nat.lt_of_le_of_lt bound (by decide : 'z'.toNat < 128)

theorem isWordChar_of_ascii (letter : isAsciiAlphanumeric c = true) : isWordChar c = true := by
  rw [isWordChar, isAlphanumeric, if_pos (toNat_lt_of_ascii letter), letter, Bool.true_or]

/-- The numbers of the blanks. -/
def blankNumbers : List Nat :=
  [9, 10, 11, 12, 13, 28, 29, 30, 31, 32, 0x85, 0xA0, 0x1680, 0x2000, 0x2001, 0x2002, 0x2003,
    0x2004, 0x2005, 0x2006, 0x2007, 0x2008, 0x2009, 0x200A, 0x2028, 0x2029, 0x202F, 0x205F, 0x3000]

theorem toNat_mem_of_isBlank (blank : isBlank c = true) : c.toNat ∈ blankNumbers := by
  simp only [isBlank, Bool.or_eq_true, Bool.and_eq_true, decide_eq_true_eq, beq_iff_eq] at blank
  simp only [blankNumbers, List.mem_cons, List.not_mem_nil, or_false]
  omega

theorem not_isWordChar_of_isBlank (blank : isBlank c = true) : isWordChar c = false := by
  have each : ∀ n ∈ blankNumbers, isWordChar (Char.ofNat n) = false := by decide +kernel
  have found := each _ (toNat_mem_of_isBlank blank)
  rwa [Char.ofNat_toNat] at found

/-- Characters are different when a class tells them apart. -/
theorem ne_of_class {inClass : Char → Bool} (inside : inClass c = true)
    (outside : inClass d = false) : c ≠ d := by
  rintro rfl
  rw [inside] at outside
  cases outside

/-- Classes that are apart one way round are apart the other way round. -/
theorem apart_symm {inClass other : Char → Bool} (apart : inClass c = true → other c = false)
    (held : other c = true) : inClass c = false := by
  refine Bool.eq_false_iff.mpr fun inside => ?_
  rw [apart inside] at held
  cases held

/-- A character of a class is none of some signs that are not of the class. -/
theorem not_contains_of_class {inClass : Char → Bool} {signs : List Char}
    (outside : ∀ d ∈ signs, inClass d = false) (inside : inClass c = true) :
    signs.contains c = false := by
  refine Bool.eq_false_iff.mpr fun mem => ?_
  rw [outside c (List.contains_iff_mem.mp mem)] at inside
  cases inside

end RepoSurvey.Text
