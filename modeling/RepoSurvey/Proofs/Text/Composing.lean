import RepoSurvey.Proofs.Text.Classes
import RepoSurvey.Text.Composed
import RepoSurvey.Text.Identifier

/-!
# Composed names hold no signs

Names are written apart by blanks and by a few signs (`separates`). Such a character is in no
name, and none comes into a name when it is composed: no decomposition and no composition has
one as a part (`not_separates_of_mem_composed`).

The tables are gone through row by row. Each row is spelled out as a list of characters first
(`Spelled`) and then read with what is asked of its numbers in mind (`rowJoins`).
-/

namespace RepoSurvey.Text

/-- A blank, or a sign that stands right behind a name or before it. -/
def separates (c : Char) : Bool :=
  isBlank c || ['(', '.', '<'].contains c

/-- The number is that of a character that separates nothing. -/
def joins (n : Nat) : Bool :=
  !separates (Char.ofNat n)

section

variable {c : Char} {n m : Nat}

/-- The numbers of the characters that separate. -/
def separatorNumbers : List Nat :=
  blankNumbers ++ [40, 46, 60]

theorem toNat_mem_of_separates (apart : separates c = true) : c.toNat ∈ separatorNumbers := by
  rw [separates, Bool.or_eq_true] at apart
  refine List.mem_append.mpr (apart.imp toNat_mem_of_isBlank fun sign => ?_)
  rcases List.mem_cons.mp (List.contains_iff_mem.mp sign) with rfl | sign
  · decide
  rcases List.mem_cons.mp sign with rfl | sign
  · decide
  · rw [List.mem_singleton.mp sign]
    decide

theorem joins_of_not_mem (other : n ∉ separatorNumbers) : joins n = true := by
  rw [joins, Bool.not_eq_true']
  refine Bool.eq_false_iff.mpr fun apart => other ?_
  have known := toNat_mem_of_separates apart
  by_cases valid : n.isValidChar
  · have same : Char.ofNat n = Char.ofNatAux n valid := dif_pos valid
    rwa [same] at known
  · have same : Char.ofNat n = '\x00' := dif_neg valid
    rw [same] at known
    exact absurd known (by decide)

theorem joins_toNat : joins c.toNat = !separates c := by
  rw [joins, Char.ofNat_toNat]

/-- A character of a class that holds no separator separates nothing. -/
theorem not_separates_of_class {inClass : Char → Bool}
    (outside : ∀ n ∈ separatorNumbers, inClass (Char.ofNat n) = false) (inside : inClass c = true) :
    separates c = false := by
  refine Bool.eq_false_iff.mpr fun apart => ?_
  have found := outside _ (toNat_mem_of_separates apart)
  rw [Char.ofNat_toNat, inside] at found
  cases found

theorem not_separates_of_isNameStart (starts : isNameStart c = true) : separates c = false :=
  not_separates_of_class (by decide +kernel) starts

theorem not_separates_of_isNameContinue (continues : isNameContinue c = true) :
    separates c = false :=
  not_separates_of_class (by decide +kernel) continues

end

/-! ## Rows of a table -/

/-- The characters of rows, spelled out. -/
inductive Spelled : List (List Char) → List String → Prop
  | nil : Spelled [] []
  | cons {cs : List Char} {spelled : List (List Char)} {rows : List String}
    (rest : Spelled spelled rows) : Spelled (cs :: spelled) (String.ofList cs :: rows)

theorem Spelled.forall_mem {holds : List Char → Bool} {spelled : List (List Char)}
    {rows : List String} (h : Spelled spelled rows) (each : spelled.all holds = true) :
    ∀ row ∈ rows, holds row.toList = true := by
  induction h with
  | nil => exact nofun
  | cons rest ih =>
    rw [List.all_cons, Bool.and_eq_true] at each
    refine List.forall_mem_cons.mpr ⟨?_, ih each.2⟩
    rw [String.toList_ofList]
    exact each.1

/-- The numbers in a row join, besides the first of each entry; `first` tells whether the one at
hand is such a one, and `value` is what has been read of it. -/
def rowJoins (first : Bool) (value : Nat) : List Char → Bool
  | [] => first || joins value
  | c :: rest =>
    if c == ',' then (first || joins value) && rowJoins true 0 rest
    else if c == ' ' then (first || joins value) && rowJoins false 0 rest
    else rowJoins first (16 * value + rowDigit c) rest

/-- The numbers of an entry join, besides the first. -/
def EntryJoins (entry : List Nat) : Prop :=
  ∀ n ∈ entry.drop 1, joins n = true

/-- The numbers read so far, last first, join besides the first. -/
def SoFar (numbers : List Nat) : Prop :=
  ∀ n ∈ numbers.dropLast, joins n = true

theorem SoFar.cons {numbers : List Nat} {value : Nat} (h : SoFar numbers)
    (last : (numbers.isEmpty || joins value) = true) : SoFar (value :: numbers) := by
  cases numbers with
  | nil => exact nofun
  | cons n rest =>
    rw [SoFar, List.dropLast_cons_cons]
    exact List.forall_mem_cons.mpr ⟨last, h⟩

theorem SoFar.entryJoins {numbers : List Nat} (h : SoFar numbers) : EntryJoins numbers.reverse := by
  intro n mem
  rw [List.drop_one, List.tail_reverse, List.mem_reverse] at mem
  exact h n mem

theorem RowScan.entryJoins_close {s : RowScan} (done : ∀ entry ∈ s.entries, EntryJoins entry)
    (open_ : SoFar s.numbers) (last : (s.numbers.isEmpty || joins s.value) = true) :
    ∀ entry ∈ s.close.entries, EntryJoins entry :=
  List.forall_mem_cons.mpr ⟨(open_.cons last).entryJoins, done⟩

theorem entryJoins_of_rowJoins {cs : List Char} {s : RowScan}
    (done : ∀ entry ∈ s.entries, EntryJoins entry) (open_ : SoFar s.numbers)
    (reads : rowJoins s.numbers.isEmpty s.value cs = true) :
    ∀ entry ∈ (cs.foldl RowScan.step s).close.entries, EntryJoins entry := by
  induction cs generalizing s with
  | nil => exact s.entryJoins_close done open_ reads
  | cons c rest ih =>
    rw [rowJoins] at reads
    rw [List.foldl_cons, RowScan.step]
    split
    · next comma =>
      rw [if_pos comma, Bool.and_eq_true] at reads
      have closed := s.entryJoins_close done open_ reads.1
      exact ih (s := s.close) closed nofun reads.2
    next other =>
    rw [if_neg other] at reads
    split
    · next blank =>
      rw [if_pos blank, Bool.and_eq_true] at reads
      have more := open_.cons reads.1
      exact ih (s := { s with numbers := s.value :: s.numbers, value := 0 }) done more reads.2
    · next digit =>
      rw [if_neg digit] at reads
      exact ih (s := { s with value := 16 * s.value + rowDigit c }) done open_ reads

theorem Spelled.entryJoins {spelled : List (List Char)} {rows : List String}
    (h : Spelled spelled rows) (each : spelled.all (rowJoins true 0) = true) :
    ∀ entry ∈ tableEntries rows, EntryJoins entry := by
  intro entry mem
  obtain ⟨row, there, inside⟩ := List.mem_flatMap.mp mem
  have reads := h.forall_mem each row there
  exact entryJoins_of_rowJoins (s := {}) nofun nofun reads entry (List.mem_reverse.mp inside)

theorem entryJoins_of_mem_decompositions : ∀ entry ∈ decompositions, EntryJoins entry := by
  apply Spelled.entryJoins
  · rw [decompositionRows]
    repeat apply Spelled.cons
    apply Spelled.nil
  · decide +kernel

theorem entryJoins_of_mem_compositions : ∀ entry ∈ compositions, EntryJoins entry := by
  apply Spelled.entryJoins
  · rw [compositionRows]
    repeat apply Spelled.cons
    apply Spelled.nil
  · decide +kernel

/-! ## The three passes -/

section

variable {n m : Nat} {ns : List Nat}

/-- No separator has a number as high as a syllable or a part of one. -/
theorem joins_of_hangul (high : 0x1100 ≤ n ∧ n < 0x1680 ∨ 0x3001 ≤ n) : joins n = true := by
  refine joins_of_not_mem fun mem => ?_
  have each : ∀ n ∈ separatorNumbers, ¬ (0x1100 ≤ n ∧ n < 0x1680 ∨ 0x3001 ≤ n) := by decide
  exact each n mem high

theorem joins_of_mem_hangulParts (low : 0xAC00 ≤ n) (high : n ≤ 0xD7A3)
    (mem : m ∈ hangulParts n) : joins m = true := by
  have parts : m = 0x1100 + (n - 0xAC00) / 588 ∨ m = 0x1161 + (n - 0xAC00) % 588 / 28 ∨
      m = 0x11A7 + (n - 0xAC00) % 28 := by
    rw [hangulParts] at mem
    split at mem
    all_goals
      simp only [List.cons_append, List.nil_append, List.mem_cons, List.not_mem_nil,
        or_false] at mem
      omega
  exact joins_of_hangul (by omega)

theorem joins_of_mem_decompose (whole : joins n = true) (mem : m ∈ decompose n) :
    joins m = true := by
  rw [decompose] at mem
  split at mem
  · rwa [List.mem_singleton.mp mem]
  split at mem
  · next syllable =>
    rw [Bool.and_eq_true, decide_eq_true_eq, decide_eq_true_eq] at syllable
    exact joins_of_mem_hangulParts syllable.1 syllable.2 mem
  split at mem
  · next entry found =>
    exact entryJoins_of_mem_decompositions entry (List.mem_of_find?_eq_some found) m mem
  · rwa [List.mem_singleton.mp mem]

theorem mem_placeMark {mark x : Nat × Nat} {done : List (Nat × Nat)}
    (mem : x ∈ placeMark mark done) : x = mark ∨ x ∈ done := by
  induction done with
  | nil => exact .inl (List.mem_singleton.mp mem)
  | cons last before ih =>
    rw [placeMark] at mem
    split at mem
    · rcases List.mem_cons.mp mem with rfl | mem
      · exact .inr List.mem_cons_self
      · exact (ih mem).imp_right (List.mem_cons_of_mem last)
    · exact List.mem_cons.mp mem

/-- Putting marks in order brings in no other character. -/
theorem fst_mem_of_mem_orderMarks {x : Nat × Nat} (mem : x ∈ orderMarks ns) : x.1 ∈ ns := by
  have among : ∀ done : List (Nat × Nat), (∀ y ∈ done, y.1 ∈ ns) → ∀ more ⊆ ns,
      ∀ y ∈ more.foldl (fun done n => placeMark (n, combiningClass n) done) done, y.1 ∈ ns := by
    intro done known more
    induction more generalizing done with
    | nil => exact fun _ => known
    | cons n rest ih =>
      intro within
      obtain ⟨here, later⟩ := List.cons_subset.mp within
      refine ih _ (fun y mem => ?_) later
      rcases mem_placeMark mem with rfl | old
      · exact here
      · exact known y old
  exact among [] nofun ns (List.Subset.refl ns) x (List.mem_reverse.mp mem)

theorem joins_of_composePair? {a b : Nat} (made : composePair? a b = some n) :
    joins n = true := by
  rw [composePair?] at made
  split at made
  · next syllable =>
    simp only [Bool.and_eq_true, decide_eq_true_eq] at syllable
    obtain rfl := Option.some.inj made
    exact joins_of_hangul (by omega)
  split at made
  · next syllable =>
    simp only [Bool.and_eq_true, decide_eq_true_eq] at syllable
    obtain rfl := Option.some.inj made
    exact joins_of_hangul (by omega)
  · obtain ⟨entry, found, last⟩ := Option.bind_eq_some_iff.mp made
    have known := entryJoins_of_mem_compositions entry (List.mem_of_find?_eq_some found)
    have triple := List.find?_some found
    split at triple
    · obtain rfl := Option.some.inj last
      exact known _ (by simp)
    · cases triple

theorem joins_of_mem_composeFrom {base : Nat} {kept rest : List (Nat × Nat)}
    (first : joins base = true) (held : ∀ x ∈ kept, joins x.1 = true)
    (more : ∀ x ∈ rest, joins x.1 = true) : ∀ m ∈ composeFrom base kept rest, joins m = true := by
  have marks : ∀ {base : Nat} {kept : List (Nat × Nat)}, joins base = true →
      (∀ x ∈ kept, joins x.1 = true) →
      ∀ m ∈ base :: kept.reverse.map (·.1), joins m = true := by
    intro base kept first held
    refine List.forall_mem_cons.mpr ⟨first, fun m mem => ?_⟩
    obtain ⟨x, there, rfl⟩ := List.mem_map.mp mem
    exact held x (List.mem_reverse.mp there)
  induction rest generalizing base kept with
  | nil => exact marks first held
  | cons x rest ih =>
    obtain ⟨n, k⟩ := x
    obtain ⟨here, later⟩ := List.forall_mem_cons.mp more
    rw [composeFrom.eq_def]
    simp only
    split
    · next made composed =>
      have joined := (Option.ite_none_left_eq_some.mp composed).2
      exact ih (joins_of_composePair? joined) held later
    · split
      · exact List.forall_mem_append.mpr ⟨marks first held, ih here nofun later⟩
      · exact ih first (List.forall_mem_cons.mpr ⟨here, held⟩) later

theorem joins_of_mem_composeAll (whole : ∀ n ∈ ns, joins n = true) :
    ∀ m ∈ composeAll ns, joins m = true := by
  have ordered : ∀ x ∈ orderMarks (ns.flatMap decompose), joins x.1 = true := by
    intro x mem
    obtain ⟨n, there, part⟩ := List.mem_flatMap.mp (fst_mem_of_mem_orderMarks mem)
    exact joins_of_mem_decompose (whole n there) part
  rw [composeAll]
  split
  · exact nofun
  · next n _ rest same =>
    rw [same] at ordered
    obtain ⟨first, later⟩ := List.forall_mem_cons.mp ordered
    exact joins_of_mem_composeFrom first nofun later

/-- Composing brings no separator into a name. -/
theorem not_separates_of_mem_composed {cs : List Char} (whole : ∀ c ∈ cs, separates c = false) :
    ∀ c ∈ composed cs, separates c = false := by
  intro c mem
  rw [composed] at mem
  split at mem
  · exact whole c mem
  · obtain ⟨m, made, rfl⟩ := List.mem_map.mp mem
    have joined : joins m = true := by
      refine joins_of_mem_composeAll (fun n there => ?_) m made
      obtain ⟨d, known, rfl⟩ := List.mem_map.mp there
      rw [joins_toNat, whole d known]
      rfl
    rwa [joins, Bool.not_eq_true'] at joined

end

end RepoSurvey.Text
