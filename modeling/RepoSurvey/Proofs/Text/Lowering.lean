import RepoSurvey.Text.Casing

/-!
# Lower case stays

A text that is put in lower case twice is as it was after the first time
(`lower_lower`). Nothing that the table, the capitals of ASCII or the dotted
capital I turn a character into is itself turned into another
(`image_not_turned`), so lower case leaves alone what it has written (`IsLow`).

The table has more than a thousand characters. That none of them is an image is
decided for all of them at once, on two numbers with a bit for every member of
a list.
-/

namespace RepoSurvey.Text

/-! ## Lists without a common member -/

/-- The number with a bit for every member of a list. -/
def bitsOf (ns : List Nat) : Nat :=
  ns.foldr (fun n bits => 1 <<< n ||| bits) 0

theorem bitsOf_cons (n : Nat) (rest : List Nat) : bitsOf (n :: rest) = 1 <<< n ||| bitsOf rest :=
  rfl

theorem testBit_bitsOf {ns : List Nat} {n : Nat} : (bitsOf ns).testBit n = true ↔ n ∈ ns := by
  induction ns with
  | nil => simp [bitsOf]
  | cons m rest ih =>
    rw [bitsOf_cons, Nat.testBit_or, Bool.or_eq_true, Nat.one_shiftLeft, Nat.testBit_two_pow,
      decide_eq_true_eq, List.mem_cons]
    exact or_congr eq_comm ih

theorem bitsOf_append (ns ms : List Nat) : bitsOf (ns ++ ms) = bitsOf ns ||| bitsOf ms := by
  induction ns with
  | nil => exact (Nat.zero_or _).symm
  | cons n rest ih => rw [List.cons_append, bitsOf_cons, bitsOf_cons, ih, Nat.or_assoc]

/-- The bits of many lists one after the other are told list by list. -/
theorem bitsOf_flatMap {α : Type} (l : List α) (f : α → List Nat) :
    bitsOf (l.flatMap f) = l.foldr (fun a bits => bitsOf (f a) ||| bits) 0 := by
  induction l with
  | nil => rfl
  | cons a rest ih => rw [List.flatMap_cons, bitsOf_append, ih, List.foldr_cons]

theorem not_mem_of_bits {ns ms : List Nat} {n : Nat} (apart : bitsOf ns &&& bitsOf ms = 0)
    (mem : n ∈ ns) : n ∉ ms := by
  intro mem'
  have bit : (bitsOf ns &&& bitsOf ms).testBit n = true := by
    rw [Nat.testBit_and, testBit_bitsOf.mpr mem, testBit_bitsOf.mpr mem', Bool.and_self]
  rw [apart, Nat.zero_testBit] at bit
  cases bit

/-! ## Runs -/

/-- How far the characters of a run are from its first one. -/
def offsets (first last step : Nat) : List Nat :=
  (List.range (last + 1 - first)).filter (· % step == 0)

/-- The numbers that a table maps. -/
def runSources (table : List (Nat × Nat × Nat × Nat)) : List Nat :=
  table.flatMap fun (first, last, step, _) => (offsets first last step).map (first + ·)

/-- What a table maps them to. -/
def runImages (table : List (Nat × Nat × Nat × Nat)) : List Nat :=
  table.flatMap fun (first, last, step, image) => (offsets first last step).map (image + ·)

section

variable {table : List (Nat × Nat × Nat × Nat)} {n : Nat}

theorem mem_offsets {first last step k : Nat} :
    k ∈ offsets first last step ↔ first + k ≤ last ∧ k % step = 0 := by
  rw [offsets, List.mem_filter, List.mem_range, beq_iff_eq]
  refine and_congr ?_ Iff.rfl
  omega

/-- A table leaves a number alone, or its run tells the image. -/
theorem runImage_cases (table : List (Nat × Nat × Nat × Nat)) (n : Nat) :
    (runImage table n = n ∧ n ∉ runSources table) ∨
      (n ∈ runSources table ∧ runImage table n ∈ runImages table) := by
  rw [runImage]
  split
  next first last step image found =>
    have holds := List.find?_some found
    simp only [Bool.and_eq_true, decide_eq_true_eq, beq_iff_eq] at holds
    obtain ⟨⟨above, below⟩, divides⟩ := holds
    have whole := Nat.add_sub_cancel' above
    have offset : n - first ∈ offsets first last step :=
      mem_offsets.mpr ⟨whole.symm ▸ below, divides⟩
    have run := List.mem_of_find?_eq_some found
    refine .inr ⟨List.mem_flatMap.mpr ⟨_, run, ?_⟩, List.mem_flatMap.mpr ⟨_, run, ?_⟩⟩
    · exact List.mem_map.mpr ⟨_, offset, whole⟩
    · exact List.mem_map.mpr ⟨_, offset, rfl⟩
  next missed =>
    refine .inl ⟨rfl, fun mem => ?_⟩
    obtain ⟨⟨first, last, step, image⟩, run, inside⟩ := List.mem_flatMap.mp mem
    obtain ⟨k, offset, rfl⟩ := List.mem_map.mp inside
    have failed := List.find?_eq_none.mp missed _ run
    simp [mem_offsets.mp offset] at failed

theorem runImage_cons {first last step image : Nat} :
    runImage ((first, last, step, image) :: table) n =
      if first ≤ n ∧ n ≤ last ∧ (n - first) % step = 0 then image + (n - first)
      else runImage table n := by
  by_cases here : first ≤ n ∧ n ≤ last ∧ (n - first) % step = 0
  · simp [runImage, here]
  · rw [if_neg here, runImage, List.find?_cons_of_neg (by simpa [and_assoc] using here), runImage]

theorem exists_run_of_mem (mem : n ∈ runSources table) : ∃ run ∈ table, run.1 ≤ n := by
  obtain ⟨run, inside, source⟩ := List.mem_flatMap.mp mem
  obtain ⟨k, -, rfl⟩ := List.mem_map.mp source
  exact ⟨run, inside, Nat.le_add_right _ _⟩

theorem runImage_of_not_mem (outside : n ∉ runSources table) : runImage table n = n := by
  rcases runImage_cases table n with ⟨same, -⟩ | ⟨inside, -⟩
  · exact same
  · exact absurd inside outside

end

/-! ## Characters -/

/-- The table together with the capitals of ASCII. -/
def capitalRuns : List (Nat × Nat × Nat × Nat) :=
  (65, 90, 1, 97) :: lowerRuns

/-- The numbers of all characters that lower case turns into others. -/
def capitals : List Nat :=
  'İ'.toNat :: runSources capitalRuns

theorem lowerChar_eq (c : Char) : lowerChar c = Char.ofNat (runImage capitalRuns c.toNat) := by
  have beyond : ∀ run ∈ lowerRuns, 128 ≤ run.1 := by decide +kernel
  have alone : c.toNat < 128 → runImage lowerRuns c.toNat = c.toNat := by
    intro ascii
    refine runImage_of_not_mem fun mem => ?_
    obtain ⟨run, inside, below⟩ := exists_run_of_mem mem
    exact Nat.not_lt.mpr (Nat.le_trans (beyond run inside) below) ascii
  have capital : 'A' ≤ c ∧ c ≤ 'Z' ↔ 65 ≤ c.toNat ∧ c.toNat ≤ 90 := Iff.rfl
  rw [lowerChar, capitalRuns, runImage_cons]
  simp only [Bool.and_eq_true, decide_eq_true_eq, Nat.mod_one, and_true, capital]
  by_cases among : 65 ≤ c.toNat ∧ c.toNat ≤ 90
  · rw [if_pos (by omega), if_pos among, if_pos among]
    congr 1
    omega
  · rw [if_neg among, if_neg among]
    split
    next ascii => rw [alone ascii, Char.ofNat_toNat]
    next => rfl

/-- The bits of the capitals, told run by run. -/
theorem bitsOf_capitals : bitsOf capitals =
    1 <<< 'İ'.toNat ||| capitalRuns.foldr (fun (first, last, step, _) bits =>
      bitsOf ((offsets first last step).map (first + ·)) ||| bits) 0 := by
  rw [capitals, bitsOf_cons, runSources, bitsOf_flatMap]

theorem image_not_turned {n : Nat} (image : n ∈ runImages capitalRuns) : n ∉ capitals := by
  refine not_mem_of_bits ?_ image
  rw [bitsOf_capitals, runImages, bitsOf_flatMap]
  decide +kernel

/-- The numbers of what lower case writes by its two rules, and of the character that stands for
numbers of no character. -/
def specials : List Nat :=
  ['ς'.toNat, 'σ'.toNat, 'i'.toNat, 0x307, 0]

theorem special_not_turned {n : Nat} (special : n ∈ specials) : n ∉ capitals := by
  refine not_mem_of_bits ?_ special
  rw [bitsOf_capitals]
  decide +kernel

/-- Lower case leaves the character alone. -/
def IsLow (c : Char) : Prop :=
  c.toNat ∉ capitals

section

variable {c : Char} {cs : List Char}

theorem IsLow.ne {d : Char} (low : IsLow c) (capital : d.toNat ∈ capitals) : c ≠ d := by
  rintro rfl
  exact low capital

theorem IsLow.ne_dotted (low : IsLow c) : c ≠ 'İ' := by
  refine low.ne ?_
  rw [capitals]
  exact List.mem_cons_self

theorem IsLow.ne_sigma (low : IsLow c) : c ≠ 'Σ' := by
  refine low.ne (List.mem_cons_of_mem _ (List.mem_flatMap.mpr ⟨(931, 939, 1, 963), ?_, ?_⟩))
  · decide +kernel
  · decide +kernel

theorem IsLow.lowerChar_eq (low : IsLow c) : lowerChar c = c := by
  rw [Text.lowerChar_eq, runImage_of_not_mem (fun mem => low (List.mem_cons_of_mem _ mem)),
    Char.ofNat_toNat]

/-- A number that stands for a low character stands for one after it has been read as one. -/
theorem isLow_ofNat {n : Nat} (low : n ∉ capitals) : IsLow (Char.ofNat n) := by
  by_cases valid : n.isValidChar
  · have same : Char.ofNat n = Char.ofNatAux n valid := dif_pos valid
    rw [same]
    exact low
  · have same : Char.ofNat n = '\x00' := dif_neg valid
    rw [same]
    exact special_not_turned (by decide)

theorem isLow_lowerChar (plain : c ≠ 'İ') : IsLow (lowerChar c) := by
  rw [lowerChar_eq]
  apply isLow_ofNat
  rcases runImage_cases capitalRuns c.toNat with ⟨same, outside⟩ | ⟨-, image⟩
  · rw [same]
    intro mem
    rcases List.mem_cons.mp mem with dotted | inside
    · exact plain (Char.toNat_inj.mp dotted)
    · exact outside inside
  · exact image_not_turned image

/-! ## Texts -/

theorem isLow_of_mem_lowerFrom {before : List Char} (mem : c ∈ lowerFrom before cs) :
    IsLow c := by
  induction cs generalizing before with
  | nil => cases mem
  | cons first rest ih =>
    rw [lowerFrom] at mem
    rcases List.mem_append.mp mem with here | later
    · split at here
      next =>
        rw [List.mem_singleton.mp here]
        split
        · exact special_not_turned (by decide)
        · exact special_not_turned (by decide)
      next =>
        split at here
        next =>
          rcases List.mem_cons.mp here with same | point
          · exact special_not_turned (same ▸ by decide)
          · exact special_not_turned (List.mem_singleton.mp point ▸ by decide)
        next plain =>
          rw [List.mem_singleton.mp here]
          exact isLow_lowerChar fun same => plain (beq_iff_eq.mpr same)
    · exact ih later

/-- A text of characters that lower case leaves alone is its own lower case. -/
theorem lowerFrom_of_low {before : List Char} (low : ∀ c ∈ cs, IsLow c) :
    lowerFrom before cs = cs := by
  induction cs generalizing before with
  | nil => rfl
  | cons first rest ih =>
    obtain ⟨here, later⟩ := List.forall_mem_cons.mp low
    have sigma : (first == 'Σ') = false := beq_eq_false_iff_ne.mpr here.ne_sigma
    have dotted : (first == 'İ') = false := beq_eq_false_iff_ne.mpr here.ne_dotted
    rw [lowerFrom, sigma, dotted, here.lowerChar_eq, ih later]
    rfl

end

theorem lower_of_low {s : String} (low : ∀ c ∈ s.toList, IsLow c) : lower s = s := by
  rw [lower, lowerChars, lowerFrom_of_low low, String.ofList_toList]

theorem isLow_of_mem_lower {s : String} {c : Char} (mem : c ∈ (lower s).toList) : IsLow c := by
  rw [lower, String.toList_ofList] at mem
  exact isLow_of_mem_lowerFrom mem

theorem lower_lower (s : String) : lower (lower s) = lower s :=
  lower_of_low fun _ mem => isLow_of_mem_lower mem

end RepoSurvey.Text
