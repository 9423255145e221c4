import RepoSurvey.Proofs.JavaScript.Extents
import RepoSurvey.Proofs.JavaScript.Tags

/-!
# Who owns a position

A position belongs to the innermost callable around it, the first of the
shortest (`Innermost`). The search for it starts from the extent of the whole
text and takes only shorter callables, so it finds the innermost one when that
does not reach from the first character to the end of the text
(`owner_eq_some_iff`); otherwise the top level owns the position
(`owner_eq_none_iff`).

A callable takes up all of the text only when the text ends without a line
feed in the expression of an arrow function. What such a function does is then
recorded on the top level (`tag_of_lone_arrow_on_top`).
-/

namespace RepoSurvey.JavaScript

/-- The callable reaches from the first character of the text to its end. -/
def Span.IsWhole (size : Nat) (s : Span) : Prop :=
  s.start = 0 ∧ s.stop = size

/-- The first of the shortest callables around a position stands at a place. -/
structure Innermost (spans : List Span) (position place : Nat) (s : Span) : Prop where
  /-- The callable stands there. -/
  here : spans[place]? = some s
  /-- The position lies inside it. -/
  covers : s.covers position = true
  /-- No other around the position is shorter. -/
  least : ∀ t ∈ spans, t.covers position = true → s.extent ≤ t.extent
  /-- Those before it are longer. -/
  first : ∀ i t, i < place → spans[i]? = some t → t.covers position = true → s.extent < t.extent

namespace Innermost

variable {spans : List Span} {position place place' : Nat} {s s' : Span}

theorem unique (h : Innermost spans position place s) (h' : Innermost spans position place' s') :
    place = place' := by
  have apart {p q : Nat} {t u : Span} (first : Innermost spans position p t)
      (second : Innermost spans position q u) : ¬ p < q := by
    intro before
    have longer := second.first p t before first.here first.covers
    have bound := first.least u (List.mem_of_getElem? second.here) second.covers
    omega
  have below := apart h h'
  have above := apart h' h
  omega

theorem cons {t : Span} (h : Innermost spans position place s)
    (longer : t.covers position = true → s.extent < t.extent) :
    Innermost (t :: spans) position (place + 1) s where
  here := h.here
  covers := h.covers
  least := List.forall_mem_cons.mpr ⟨fun around => Int.le_of_lt (longer around), h.least⟩
  first := by
    intro i u before there around
    cases i with
    | zero =>
      cases there
      exact longer around
    | succ i => exact h.first i u (Nat.lt_of_succ_lt_succ before) there around

end Innermost

/-! ## The search for the owner -/

section

variable {spans : List Span} {position size : Nat}

/-- The search stays with what it has, when no callable around the position is
shorter, or ends at the innermost callable. -/
theorem ownerAmong_cases (spans : List Span) (position : Nat) (best : Option Nat) (extent : Int)
    (offset : Nat) :
    (ownerAmong position best extent ((spans.zipIdx offset).map fun (s, place) => (place, s)) =
        best ∧ ∀ t ∈ spans, t.covers position = true → extent ≤ t.extent) ∨
      ∃ place s, Innermost spans position place s ∧ s.extent < extent ∧
        ownerAmong position best extent ((spans.zipIdx offset).map fun (s, place) => (place, s)) =
          some (offset + place) := by
  -- over the callables, for whatever the search has so far; the first disjunct is the invariant
  -- of a search that has refused all callables up to here
  induction spans generalizing best extent offset with
  | nil => exact .inl ⟨rfl, fun t mem => by cases mem⟩
  | cons t rest ih =>
    simp only [List.zipIdx_cons, List.map_cons, ownerAmong]
    split
    next taken =>
      obtain ⟨around, shorter⟩ := Bool.and_eq_true_iff.mp taken
      have shorter := of_decide_eq_true shorter
      right
      rcases ih (some offset) t.extent (offset + 1) with
        ⟨same, longest⟩ | ⟨place, s, inner, less, found⟩
      · refine ⟨0, t, ⟨rfl, around, ?_, fun i u before => by omega⟩, shorter, same⟩
        exact List.forall_mem_cons.mpr ⟨fun _ => Int.le_refl _, longest⟩
      · refine ⟨place + 1, s, inner.cons fun _ => less, Int.lt_trans less shorter, ?_⟩
        rw [found, Nat.add_assoc, Nat.add_comm 1]
    next refused =>
      have long (around : t.covers position = true) : extent ≤ t.extent := by
        by_contra shorter
        exact refused (Bool.and_eq_true_iff.mpr ⟨around, decide_eq_true (Int.not_le.mp shorter)⟩)
      rcases ih best extent (offset + 1) with ⟨same, longest⟩ | ⟨place, s, inner, less, found⟩
      · exact .inl ⟨same, List.forall_mem_cons.mpr ⟨long, longest⟩⟩
      · refine .inr ⟨place + 1, s, inner.cons fun around => Int.lt_of_lt_of_le less (long around),
          less, ?_⟩
        rw [found, Nat.add_assoc, Nat.add_comm 1]

/-- The owner of a position is the innermost callable around it that is shorter
than the text. -/
theorem owner_cases (spans : List Span) (size position : Nat) :
    (owner spans size position = none ∧
        ∀ t ∈ spans, t.covers position = true → (size : Int) ≤ t.extent) ∨
      ∃ place s, Innermost spans position place s ∧ s.extent < size ∧
        owner spans size position = some place := by
  have found := ownerAmong_cases spans position none size 0
  simp only [Nat.zero_add] at found
  exact found

/-- In a text that no callable leaves, one as long as the text takes up all of it. -/
theorem Span.isWhole_iff {s : Span} (inside : s.stop ≤ size) (around : s.covers position = true) :
    s.IsWhole size ↔ (size : Int) ≤ s.extent := by
  obtain ⟨from_start, to_stop⟩ := Bool.and_eq_true_iff.mp around
  have from_start := of_decide_eq_true from_start
  have to_stop := of_decide_eq_true to_stop
  rw [Span.IsWhole, Span.extent]
  omega

/-- The top level owns a position when every callable around it takes up all of the text. -/
theorem owner_eq_none_iff (inside : ∀ s ∈ spans, s.stop ≤ size) :
    owner spans size position = none ↔
      ∀ s ∈ spans, s.covers position = true → s.IsWhole size := by
  rcases owner_cases spans size position with ⟨top, long⟩ | ⟨place, s, inner, shorter, found⟩
  · refine ⟨fun _ s mem around => ?_, fun _ => top⟩
    exact (Span.isWhole_iff (inside s mem) around).mpr (long s mem around)
  · have mem := List.mem_of_getElem? inner.here
    rw [found]
    refine ⟨nofun, fun whole => ?_⟩
    have long := (Span.isWhole_iff (inside s mem) inner.covers).mp (whole s mem inner.covers)
    omega

theorem owner_eq_some_iff {place : Nat} (inside : ∀ s ∈ spans, s.stop ≤ size) :
    owner spans size position = some place ↔
      ∃ s, Innermost spans position place s ∧ ¬ s.IsWhole size := by
  have short {s : Span} {place : Nat} (inner : Innermost spans position place s) :
      ¬ s.IsWhole size ↔ s.extent < size := by
    rw [Span.isWhole_iff (inside s (List.mem_of_getElem? inner.here)) inner.covers, Int.not_le]
  rcases owner_cases spans size position with ⟨top, long⟩ | ⟨found, s, inner, shorter, owns⟩
  · rw [top]
    refine ⟨nofun, ?_⟩
    rintro ⟨s, inner, part⟩
    have bound := long s (List.mem_of_getElem? inner.here) inner.covers
    have less := (short inner).mp part
    omega
  · rw [owns]
    constructor
    · intro same
      cases same
      exact ⟨s, inner, (short inner).mpr shorter⟩
    · rintro ⟨s', inner', -⟩
      rw [inner.unique inner']

end

/-! ## What is recorded where -/

/-- The place to which a position belongs: the innermost callable around it, or
the top level when every callable around it takes up all of the text. -/
def Masked.Owns (m : Masked) (position : Nat) : Option Nat → Prop
  | none => ∀ s ∈ m.declarations.spans, s.covers position = true → s.IsWhole m.code.size
  | some place =>
    ∃ s, Innermost m.declarations.spans position place s ∧ ¬ s.IsWhole m.code.size

/-- In a source that is read, the owner is the place to which a position belongs. -/
theorem owner_eq_iff_owns {source : List Char} {m : Masked} (masked : mask source = .ok m)
    (position : Nat) (place : Option Nat) :
    owner m.declarations.spans m.code.size position = place ↔ m.Owns position place := by
  have same : m.skeleton.size = m.code.size := by
    rw [(mask_size masked).1, (mask_size masked).2]
  have inside : ∀ s ∈ m.declarations.spans, s.stop ≤ m.code.size := same ▸ m.stop_le_size
  cases place with
  | none => exact owner_eq_none_iff inside
  | some place => exact owner_eq_some_iff inside

/-- Of a source that is read, every position belongs to one place, and what a
match leaves is recorded where the match belongs and nowhere else. -/
theorem trace_recorded_iff_owns {content path : String} {a : FileAnalysis}
    (parsed : parse content path = .ok a) :
    ∃ m, mask content.toList = .ok m ∧
      (∀ position, ∃! place, m.Owns position place) ∧
      (∀ scope, a.moduleScope = some scope →
        scope = (assignAll m.code m.declarations.spans).top) ∧
      (∀ t : Trace, t.isIn (assignAll m.code m.declarations.spans).top ↔
        ∃ found mark, Speaks m.code found mark ∧ mark.trace (lineAt m.code found.start) = t ∧
          m.Owns found.start none) ∧
      ∀ place s, m.declarations.spans[place]? = some s →
        ∃ f, (assignAll m.code m.declarations.spans).spans[place]? = some f ∧
          ∀ t : Trace, t.isIn f.info ↔
            ∃ found mark, Speaks m.code found mark ∧ mark.trace (lineAt m.code found.start) = t ∧
              m.Owns found.start (some place) := by
  obtain ⟨m, masked, rfl⟩ := parse_eq_ok_iff.mp parsed
  have recorded {place : Option Nat} {f : Callable}
      (filled : written m.code m.declarations.spans place = some f) (t : Trace) :
      t.isIn f ↔ ∃ found mark, Speaks m.code found mark ∧
        mark.trace (lineAt m.code found.start) = t ∧ m.Owns found.start place := by
    rw [Trace.isIn_written m.untouched filled]
    constructor
    · rintro ⟨s, signal, owned, leaves⟩
      obtain ⟨found, speaks, start⟩ := mem_signals_iff.mp signal
      rw [← start] at owned leaves
      exact ⟨found, s.mark, speaks, leaves, (owner_eq_iff_owns masked _ _).mp owned⟩
    · rintro ⟨found, mark, speaks, leaves, owned⟩
      exact ⟨_, speaks.mem_signals, (owner_eq_iff_owns masked _ _).mpr owned, leaves⟩
  refine ⟨m, masked, fun position => ?_, fun scope kept => ?_, recorded top_assignAll, ?_⟩
  · refine ⟨_, (owner_eq_iff_owns masked position _).mp rfl, fun place owns => ?_⟩
    exact ((owner_eq_iff_owns masked position place).mpr owns).symm
  · exact (Option.some.inj (Option.ite_none_right_eq_some.mp kept).2).symm
  · intro place s here
    refine ⟨filledSpan m.code m.declarations.spans place s, ?_, recorded ?_⟩
    · rw [getElem?_spans_assignAll, here]
      rfl
    · rw [written, here]
      rfl

/-- An arrow function that takes up all of its file and calls a setter. -/
def loneArrow : String :=
  "const f = () => setX(1)"

/-- The source with the arrow function has nothing to mask. -/
def loneArrowMasked : Masked where
  code := loneArrow.toList.toArray
  skeleton := loneArrow.toList.toArray

theorem parse_loneArrow (path : String) :
    mask loneArrow.toList = .ok loneArrowMasked ∧
      parse loneArrow path = .ok (analyse loneArrowMasked path) := by
  have masked : mask loneArrow.toList = .ok loneArrowMasked :=
    mask_eq_of_toOption (by decide +kernel)
  exact ⟨masked, parse_eq_ok_iff.mpr ⟨_, masked, rfl⟩⟩

theorem trace_recorded_iff_owns_of_lone_arrow :
    parse loneArrow "a.js" = .ok (analyse loneArrowMasked "a.js") ∧
    ∃ m, mask loneArrow.toList = .ok m ∧
      (∀ position, ∃! place, m.Owns position place) ∧
      (∀ scope, (analyse loneArrowMasked "a.js").moduleScope = some scope →
        scope = (assignAll m.code m.declarations.spans).top) ∧
      (∀ t : Trace, t.isIn (assignAll m.code m.declarations.spans).top ↔
        ∃ found mark, Speaks m.code found mark ∧ mark.trace (lineAt m.code found.start) = t ∧
          m.Owns found.start none) ∧
      ∀ place s, m.declarations.spans[place]? = some s →
        ∃ f, (assignAll m.code m.declarations.spans).spans[place]? = some f ∧
          ∀ t : Trace, t.isIn f.info ↔
            ∃ found mark, Speaks m.code found mark ∧ mark.trace (lineAt m.code found.start) = t ∧
              m.Owns found.start (some place) :=
  ⟨(parse_loneArrow "a.js").2, trace_recorded_iff_owns (parse_loneArrow "a.js").2⟩

/-- The setter that a lone arrow function calls is recorded on the top level,
although it stands inside the function. -/
theorem tag_of_lone_arrow_on_top :
    ¬ ∀ (content path : String) (a : FileAnalysis) (m : Masked),
      parse content path = .ok a → mask content.toList = .ok m →
        ∀ found mark, Speaks m.code found mark →
          (∃ s ∈ m.declarations.spans, s.covers found.start = true) →
            ∃ (place : Nat) (s f : Span), m.declarations.spans[place]? = some s ∧
              s.covers found.start = true ∧
              (assignAll m.code m.declarations.spans).spans[place]? = some f ∧
              (mark.trace (lineAt m.code found.start)).isIn f.info := by
  intro claim
  have signal : ⟨16, .state "setX("⟩ ∈ signals loneArrowMasked.code := by decide +kernel
  have around : ∃ s ∈ loneArrowMasked.declarations.spans, s.covers 16 = true := by
    decide +kernel
  have empty : ∀ f ∈ (assignAll loneArrowMasked.code loneArrowMasked.declarations.spans).spans,
      "setX(" ∉ f.info.stateTags := by decide +kernel
  obtain ⟨found, speaks, start⟩ := mem_signals_iff.mp signal
  obtain ⟨masked, parsed⟩ := parse_loneArrow "a.js"
  obtain ⟨place, s, f, -, -, recorded, held⟩ :=
    claim loneArrow "a.js" _ _ parsed masked found _ speaks (start ▸ around)
  exact empty f (Array.mem_of_getElem? recorded) held

end RepoSurvey.JavaScript
