import RepoSurvey.Proofs.JavaScript.Checked
import RepoSurvey.Proofs.JavaScript.Extents
import RepoSurvey.Proofs.JavaScript.Tags
import RepoSurvey.Proofs.Outcomes

/-!
# Every lookup has an answer

After masking the parser asks for characters, partners, lines and pieces at positions that it
computes from matches in the skeleton, in class bodies that are cut out of it, and after
partners it has found. All of these positions lie in the text, and whatever partner is asked
for, it is that of an opening bracket: each head of a declaration ends in one, and so does the
piece up to the body. So the checked parser answers what the parser answers
(`Checked.analyse_eq_ok`).
-/

namespace RepoSurvey.JavaScript

open Text (Pattern Match)
open Outcome (bind_of_eq_ok filterMapM_eq_ok mapM_eq_ok foldlM_eq_ok)

/-! ## Where heads end -/

theorem bodyAfterParameters_endsIn : bodyAfterParameters.EndsIn (· == '{') :=
  .seq (.seq .one)

/-- What stands before a position in a class body stands in the text as well. -/
theorem getElem?_of_body {skeleton : Array Char} {offset stop i j : Nat} {c : Char} (early : i < j)
    (here : (skeleton.extract offset stop)[j - 1]? = some c) :
    skeleton[offset + j - 1]? = some c := by
  obtain ⟨inside, rfl⟩ := Array.getElem?_eq_some_iff.mp here
  rw [Array.getElem_extract, Nat.add_sub_assoc (Nat.zero_lt_of_lt early)]
  exact Array.getElem?_eq_getElem _

theorem paren_of_functionHead {skeleton : Array Char} {m : Match}
    (found : m ∈ functionHead.findAll skeleton) :
    m.start < m.stop ∧ skeleton[m.stop - 1]? = some '(' := by
  have ends : functionHead.EndsIn (· == '(') :=
    .seq (.seq (.seq (.seq (.seq (.seq (.seq (.seq (.seq (.seq .one)))))))))
  exact Pattern.getElem?_of_mem_findAll ends found

theorem paren_of_methodHead {skeleton : Array Char} {offset stop : Nat} {m : Match}
    (found : m ∈ methodHead.findAll (skeleton.extract offset stop)) :
    m.start < m.stop ∧ skeleton[offset + m.stop - 1]? = some '(' := by
  have ends : methodHead.EndsIn (· == '(') := .seq (.seq (.seq (.seq (.seq (.seq .one)))))
  obtain ⟨further, last⟩ := Pattern.getElem?_of_mem_findAll ends found
  exact ⟨further, getElem?_of_body further last⟩

theorem singleParameter_captures : singleParameter.captures 3 = true :=
  rfl

/-- A variable has a parenthesis after it, or a single parameter. -/
theorem paren_of_variableHead {skeleton : Array Char} {m : Match}
    (found : m ∈ variableHead.findAll skeleton) (several : m.group? skeleton 3 = none) :
    m.start < m.stop ∧ skeleton[m.stop - 1]? = some '(' := by
  have ends : variableHead.EndsInOr 3 (· == '(') :=
    .seq (.seq (.seq (.seq (.seq (.seq (.seq (.seq (.seq (.seq
      (.alt (.seq (.seq (.seq (.seq (.seq (.seq (.seq .one)))))))
        (.alt .one (.captured singleParameter_captures))))))))))))
  exact Pattern.getElem?_of_endsInOr ends found several

/-- So does a field. -/
theorem paren_of_memberArrowHead {skeleton : Array Char} {offset stop : Nat} {m : Match}
    (found : m ∈ memberArrowHead.findAll (skeleton.extract offset stop))
    (several : m.group? (skeleton.extract offset stop) 3 = none) :
    m.start < m.stop ∧ skeleton[offset + m.stop - 1]? = some '(' := by
  have ends : memberArrowHead.EndsInOr 3 (· == '(') :=
    .seq (.seq (.seq (.seq (.seq (.seq (.seq (.seq
      (.alt .one (.captured singleParameter_captures)))))))))
  obtain ⟨further, last⟩ := Pattern.getElem?_of_endsInOr ends found several
  exact ⟨further, getElem?_of_body further last⟩

/-- A decorator ends in the parenthesis that it captures. -/
theorem paren_of_decoratorHead {skeleton : Array Char} {m : Match} {place : Nat × Nat}
    (found : m ∈ decoratorHead.findAll skeleton) (held : m.place? 2 = some place) :
    m.start < m.stop ∧ skeleton[m.stop - 1]? = some '(' := by
  obtain ⟨inside, matched⟩ := Pattern.matchAt?_of_mem_findAll found
  obtain ⟨-, -, bound⟩ := Pattern.bounds_of_matchAt? inside matched
  obtain ⟨sign, rest, mid, whole, ⟨-, rfl⟩, title, rest', mid', rfl,
    ⟨inner, ⟨-, rfl⟩, rfl⟩, gap, paren, mid'', rfl, ⟨-, rfl⟩, last⟩ :=
    Pattern.reads_of_matchAt? inside matched
  rcases last with ⟨own, ⟨⟨c, rfl, same⟩, rfl⟩, -⟩ | ⟨-, only⟩
  · rw [beq_iff_eq.mp same, ← List.append_assoc, ← List.append_assoc] at whole
    exact Pattern.getElem?_of_between bound whole
  · have free : (Text.texts skeleton m.captures).lookup 2 = none := by
      rw [only]
      rfl
    rw [Text.lookup_texts, show m.captures.lookup 2 = some place from held] at free
    cases free

theorem start_lt_of_decoratorHead {skeleton : Array Char} {m : Match}
    (found : m ∈ decoratorHead.findAll skeleton) : m.start < m.stop := by
  obtain ⟨inside, matched⟩ := Pattern.matchAt?_of_mem_findAll found
  obtain ⟨-, -, bound⟩ := Pattern.bounds_of_matchAt? inside matched
  obtain ⟨sign, rest, mid, whole, ⟨⟨c, rfl, -⟩, -⟩, -⟩ := Pattern.reads_of_matchAt? inside matched
  have length := congrArg List.length whole
  rw [Text.length_between bound, List.length_append, List.length_singleton] at length
  omega

namespace Checked

/-! ## Single lookups -/

section

variable {text : Array Char} {i j number : Nat} {c : Char} {m : Match} {p : Pattern}

theorem charAt_eq_ok (here : text[i]? = some c) : charAt text i = .ok c := by
  rw [charAt, here]

theorem upTo_eq_ok (inside : i ≤ text.size) : upTo text i = .ok () :=
  if_pos inside

theorem back_eq_ok (positive : 0 < i) : back i = .ok (i - 1) := by
  cases i with
  | zero => cases positive
  | succ i => rfl

theorem part_eq_ok (start : i ≤ text.size) (stop : j ≤ text.size) :
    part text i j = .ok (text.extract i j) :=
  bind_of_eq_ok (upTo_eq_ok start) (bind_of_eq_ok (upTo_eq_ok stop) rfl)

theorem lineAt_eq_ok (inside : i ≤ text.size) : lineAt text i = .ok (JavaScript.lineAt text i) :=
  bind_of_eq_ok (upTo_eq_ok inside) rfl

theorem partner_eq_ok (here : text[i]? = some c) (opens : isOpening c = true) :
    partner text i = .ok (closing text i) :=
  bind_of_eq_ok (charAt_eq_ok here) (if_pos opens)

theorem follow_eq_ok (inside : i ≤ text.size) : follow text p i = .ok (p.matchAt? text i) :=
  bind_of_eq_ok (upTo_eq_ok inside) rfl

theorem parametersBetween_eq_ok (start : i ≤ text.size) (stop : j ≤ text.size) :
    parametersBetween text i j = .ok (JavaScript.parametersBetween text i j) :=
  bind_of_eq_ok (upTo_eq_ok start) (bind_of_eq_ok (upTo_eq_ok stop) rfl)

theorem atClassDepth_eq_ok (start : i ≤ text.size) (stop : j ≤ text.size) :
    atClassDepth text i j = .ok (JavaScript.atClassDepth text i j) :=
  bind_of_eq_ok (upTo_eq_ok start) (bind_of_eq_ok (upTo_eq_ok stop) rfl)

/-- A piece that the pattern always captures is there, and lies in the text. -/
theorem place_eq_ok (found : m ∈ p.findAll text) (always : p.captures number = true) :
    ∃ place, m.place? number = some place ∧ Checked.place m number = .ok place ∧
      place.1 ≤ text.size := by
  obtain ⟨held, group⟩ := Pattern.exists_group?_of_captures found always
  obtain ⟨place, there, -⟩ := Option.map_eq_some_iff.mp group
  obtain ⟨inside, matched⟩ := Pattern.matchAt?_of_mem_findAll found
  have bounds := Pattern.bounds_of_place? inside matched there
  exact ⟨place, there, by rw [Checked.place, there], Nat.le_trans bounds.1 bounds.2⟩

theorem group_eq_ok (found : m ∈ p.findAll text) (always : p.captures number = true) :
    group text m number = .ok (m.group text number) := by
  obtain ⟨place, there, looked, -⟩ := place_eq_ok found always
  refine bind_of_eq_ok looked ?_
  rw [Match.group, Match.group?, there]
  rfl

theorem skipBlanks_eq_ok {room : Nat} (inside : i + room ≤ text.size) :
    skipBlanks text i room = .ok (JavaScript.skipBlanks text i room) := by
  induction room generalizing i with
  | zero => rfl
  | succ room ih =>
    obtain ⟨c, here⟩ : ∃ c, text[i]? = some c := ⟨_, Array.getElem?_eq_getElem (by omega)⟩
    unfold skipBlanks JavaScript.skipBlanks
    refine bind_of_eq_ok (charAt_eq_ok here) ?_
    simp only [Text.classAt, here]
    by_cases blank : Text.isBlank c = true
    · rw [if_pos blank, if_pos blank]
      exact ih (by omega)
    · rw [if_neg blank, if_neg blank]
      rfl

theorem skipBlanksBack_eq_ok (inside : i ≤ text.size) :
    skipBlanksBack text i = .ok (JavaScript.skipBlanksBack text i) := by
  induction i with
  | zero => rfl
  | succ i ih =>
    obtain ⟨c, here⟩ : ∃ c, text[i]? = some c := ⟨_, Array.getElem?_eq_getElem (by omega)⟩
    unfold skipBlanksBack JavaScript.skipBlanksBack
    refine bind_of_eq_ok (charAt_eq_ok here) ?_
    simp only [Text.classAt, here]
    by_cases blank : Text.isBlank c = true
    · rw [if_pos blank, if_pos blank]
      exact ih (by omega)
    · rw [if_neg blank, if_neg blank]
      rfl

theorem skipBlanksBack_le (text : Array Char) (i : Nat) : JavaScript.skipBlanksBack text i ≤ i := by
  induction i with
  | zero => exact Nat.le_refl _
  | succ i ih =>
    unfold JavaScript.skipBlanksBack
    split
    · exact Nat.le_succ_of_le ih
    · exact Nat.le_refl _

end

/-! ## Decorators -/

section

variable {code skeleton : Array Char} {placed : List PlacedDecorator}

theorem insideWord_eq_ok {m : Match} (inside : m.start ≤ skeleton.size) :
    insideWord skeleton m = .ok (m.start != 0 && Text.classAt skeleton
      (fun c => Text.isAlphanumeric c || c == '$' || c == '_') (m.start - 1)) := by
  unfold insideWord
  by_cases first : m.start = 0
  · simp [first, pure, Except.pure]
  · obtain ⟨c, here⟩ : ∃ c, skeleton[m.start - 1]? = some c :=
      ⟨_, Array.getElem?_eq_getElem (by omega)⟩
    rw [if_neg (mt beq_iff_eq.mp first)]
    refine bind_of_eq_ok (back_eq_ok (by omega)) (bind_of_eq_ok (charAt_eq_ok here) ?_)
    simp [Text.classAt, here, first, pure, Except.pure]

theorem decorators_eq_ok (same : code.size = skeleton.size) :
    decorators code skeleton = .ok (JavaScript.decorators code skeleton) := by
  refine filterMapM_eq_ok fun m found => ?_
  obtain ⟨inside, matched⟩ := Pattern.matchAt?_of_mem_findAll found
  obtain ⟨-, -, bound⟩ := Pattern.bounds_of_matchAt? inside matched
  refine bind_of_eq_ok (insideWord_eq_ok inside) ?_
  split
  · rfl
  · refine bind_of_eq_ok (group_eq_ok found rfl) ?_
    cases held : m.place? 2 with
    | none => rfl
    | some place =>
      obtain ⟨further, opens⟩ := paren_of_decoratorHead found held
      have close := closing_le skeleton (m.stop - 1)
      refine bind_of_eq_ok (back_eq_ok (by omega)) (bind_of_eq_ok (partner_eq_ok opens rfl) ?_)
      exact bind_of_eq_ok (part_eq_ok (by omega) (by omega)) rfl

/-- A decorator ends after it begins, and in the text. -/
theorem bounds_of_decorators {d : PlacedDecorator}
    (mem : d ∈ JavaScript.decorators code skeleton) :
    d.start < d.stop ∧ d.stop ≤ skeleton.size := by
  obtain ⟨m, found, made⟩ := List.mem_filterMap.mp mem
  obtain ⟨inside, matched⟩ := Pattern.matchAt?_of_mem_findAll found
  obtain ⟨-, -, bound⟩ := Pattern.bounds_of_matchAt? inside matched
  have further := start_lt_of_decoratorHead found
  split at made
  · cases made
  · simp only at made
    cases held : m.place? 2 with
    | none =>
      rw [held] at made
      cases made
      exact ⟨further, bound⟩
    | some place =>
      rw [held] at made
      cases made
      have opens := (paren_of_decoratorHead found held).2
      have after := le_closing opens
      have close := closing_le skeleton (m.stop - 1)
      show m.start < closing _ _ + 1 ∧ closing _ _ + 1 ≤ _
      omega

theorem decoratorEnd_eq_ok {i : Nat} (inside : i ≤ skeleton.size) :
    decoratorEnd skeleton i = .ok (JavaScript.decoratorEnd skeleton i) := by
  have scan := skipBlanksBack_le skeleton i
  unfold decoratorEnd JavaScript.decoratorEnd
  refine bind_of_eq_ok (skipBlanksBack_eq_ok inside) ?_
  by_cases exported : exportBefore skeleton (JavaScript.skipBlanksBack skeleton i) = true
  · simp only [exported, if_true]
    exact skipBlanksBack_eq_ok (by omega)
  · simp only [exported]
    rfl

theorem decoratorEnd_le (skeleton : Array Char) (i : Nat) :
    JavaScript.decoratorEnd skeleton i ≤ i := by
  have scan := skipBlanksBack_le skeleton i
  have again := skipBlanksBack_le skeleton (JavaScript.skipBlanksBack skeleton i - 6)
  unfold JavaScript.decoratorEnd
  simp only
  split <;> omega

theorem countP_start_lt {d : PlacedDecorator} (mem : d ∈ placed) {i : Nat} (early : d.start < i) :
    placed.countP (fun e => decide (e.start < d.start)) <
      placed.countP (fun e => decide (e.start < i)) := by
  obtain ⟨front, back, rfl⟩ := List.append_of_mem mem
  have still (l : List PlacedDecorator) : l.countP (fun e => decide (e.start < d.start)) ≤
      l.countP (fun e => decide (e.start < i)) := by
    refine List.countP_mono_left fun e _ before => decide_eq_true ?_
    exact Nat.lt_trans (of_decide_eq_true before) early
  have first := still front
  have later := still back
  simp only [List.countP_append, List.countP_cons, Nat.lt_irrefl, early, decide_false, decide_true,
    if_true, Bool.false_eq_true, if_false]
  omega

/-- Each decorator that is met leaves fewer before it, so there is an end to them. -/
theorem decoratorsBefore_eq_ok
    (bounds : ∀ d ∈ placed, d.start < d.stop ∧ d.stop ≤ skeleton.size) {i fuel : Nat}
    (inside : i ≤ skeleton.size) (enough : placed.countP (fun d => decide (d.start < i)) < fuel)
    (found : List Decorator) :
    decoratorsBefore skeleton placed found i fuel =
      .ok (JavaScript.decoratorsBefore skeleton placed found i fuel) := by
  induction fuel generalizing i found with
  | zero => omega
  | succ fuel ih =>
    unfold decoratorsBefore JavaScript.decoratorsBefore
    refine bind_of_eq_ok (decoratorEnd_eq_ok inside) ?_
    cases met : placed.reverse.find? fun d => d.stop == JavaScript.decoratorEnd skeleton i with
    | none => rfl
    | some d =>
      have mem : d ∈ placed := List.mem_reverse.mp (List.mem_of_find?_eq_some met)
      have ends : d.stop = JavaScript.decoratorEnd skeleton i := by
        simpa using List.find?_some met
      have upto := decoratorEnd_le skeleton i
      have own := bounds d mem
      have fewer := countP_start_lt mem (i := i) (by omega)
      exact ih (by omega) (by omega) _

theorem decoratorsOf_eq_ok (bounds : ∀ d ∈ placed, d.start < d.stop ∧ d.stop ≤ skeleton.size)
    {i : Nat} (inside : i ≤ skeleton.size) :
    decoratorsOf skeleton placed i = .ok (JavaScript.decoratorsOf skeleton placed i) :=
  decoratorsBefore_eq_ok bounds inside (Nat.lt_succ_of_le List.countP_le_length) []

end

/-! ## Callables -/

section

variable {code skeleton : Array Char} {placed : List PlacedDecorator}

theorem bodyEnd_eq_ok {i : Nat} (inside : i ≤ skeleton.size) :
    bodyEnd skeleton i = .ok (JavaScript.bodyEnd skeleton i) := by
  unfold bodyEnd JavaScript.bodyEnd
  refine bind_of_eq_ok (skipBlanks_eq_ok (by omega)) ?_
  simp only
  by_cases within : JavaScript.skipBlanks skeleton i (skeleton.size - i) < skeleton.size
  · have here := Array.getElem?_eq_getElem within
    rw [if_pos within]
    refine bind_of_eq_ok (charAt_eq_ok here) ?_
    simp only [Text.classAt, here]
    split
    next opens =>
      refine partner_eq_ok here ?_
      rw [isOpening, Bool.or_comm (_ == '('), opens, Bool.true_or]
    next => rfl
  · have none : skeleton[JavaScript.skipBlanks skeleton i (skeleton.size - i)]? = none :=
      Array.getElem?_eq_none (Nat.le_of_not_lt within)
    simp only [if_neg within, Text.classAt, none]
    rfl

theorem usesFunctionWord_eq_ok {title : String} {start paren : Nat} (begins : start ≤ skeleton.size)
    (inside : paren ≤ skeleton.size) : usesFunctionWord skeleton title start paren =
      .ok (JavaScript.usesFunctionWord skeleton title start paren) :=
  bind_of_eq_ok (upTo_eq_ok begins) (bind_of_eq_ok (upTo_eq_ok inside) rfl)

theorem valueSpan_eq_ok {title : String} {start bodyFrom : Nat} {isAsync : Bool}
    {parameters : List String} (same : code.size = skeleton.size) (begins : start ≤ skeleton.size)
    (body : bodyFrom ≤ skeleton.size) :
    valueSpan code skeleton title start isAsync parameters bodyFrom = .ok {
      name := title, start := start, stop := JavaScript.bodyEnd skeleton bodyFrom,
      info := {
        line := JavaScript.lineAt code start, parameters := parameters, isAsync := isAsync } } :=
  bind_of_eq_ok (bodyEnd_eq_ok body) (bind_of_eq_ok (lineAt_eq_ok (by omega)) rfl)

/-- The head of a value ends behind an opening parenthesis, unless a single parameter is captured. -/
theorem valueSpan?_eq_ok {title : String} {start matchStop : Nat} {isAsync : Bool}
    {single : Option String} (same : code.size = skeleton.size) (begins : start ≤ skeleton.size)
    (ends : matchStop ≤ skeleton.size)
    (opens : single = none → 0 < matchStop ∧ skeleton[matchStop - 1]? = some '(') :
    valueSpan? code skeleton title start matchStop isAsync single =
      .ok (JavaScript.valueSpan? code skeleton title start matchStop isAsync single) := by
  cases single with
  | some p => exact congrArg (some <$> ·) (valueSpan_eq_ok same begins ends)
  | none =>
    obtain ⟨positive, paren⟩ := opens rfl
    have close := closing_le skeleton (matchStop - 1)
    unfold valueSpan? JavaScript.valueSpan?
    refine bind_of_eq_ok (back_eq_ok positive) (bind_of_eq_ok (partner_eq_ok paren rfl) ?_)
    refine bind_of_eq_ok (parametersBetween_eq_ok (by omega) (by omega)) ?_
    refine bind_of_eq_ok (usesFunctionWord_eq_ok begins (by omega)) ?_
    have inside : closing skeleton (matchStop - 1) + 1 ≤ skeleton.size := by omega
    simp only
    split
    · refine bind_of_eq_ok (follow_eq_ok inside) ?_
      cases matched : bodyAfterParameters.matchAt? skeleton (closing skeleton (matchStop - 1) + 1) with
      | none => rfl
      | some m =>
        obtain ⟨further, -⟩ := Pattern.getElem?_of_endsIn bodyAfterParameters_endsIn inside matched
        obtain ⟨-, -, bound⟩ := Pattern.bounds_of_matchAt? inside matched
        refine bind_of_eq_ok (back_eq_ok (by omega)) ?_
        exact congrArg (some <$> ·) (valueSpan_eq_ok same begins (by omega))
    · refine bind_of_eq_ok (follow_eq_ok inside) ?_
      cases matched : arrowAfterParameters.matchAt? skeleton (closing skeleton (matchStop - 1) + 1) with
      | none => rfl
      | some m =>
        obtain ⟨-, -, bound⟩ := Pattern.bounds_of_matchAt? inside matched
        exact congrArg (some <$> ·) (valueSpan_eq_ok same begins bound)

theorem methodSpans_eq_ok (same : code.size = skeleton.size)
    (bounds : ∀ d ∈ placed, d.start < d.stop ∧ d.stop ≤ skeleton.size) {bodyOpen bodyClose : Nat}
    (opens : bodyOpen < skeleton.size) (closes : bodyClose ≤ skeleton.size) :
    methodSpans code skeleton placed bodyOpen bodyClose =
      .ok (JavaScript.methodSpans code skeleton placed bodyOpen bodyClose) := by
  refine bind_of_eq_ok (part_eq_ok opens closes) (filterMapM_eq_ok fun m found => ?_)
  have named : methodHead.captures 1 = true := rfl
  obtain ⟨place, held, looked, within⟩ := place_eq_ok found named
  have bound := stop_le_of_body opens closes found
  obtain ⟨further, paren⟩ := paren_of_methodHead found
  rw [Array.size_extract] at within
  refine bind_of_eq_ok (group_eq_ok found rfl) (bind_of_eq_ok looked ?_)
  refine bind_of_eq_ok (atClassDepth_eq_ok opens (by omega)) ?_
  simp only [held, Option.bind_eq_bind, Option.bind_some]
  split
  · rfl
  · have close := closing_le skeleton (bodyOpen + 1 + m.stop - 1)
    have after : closing skeleton (bodyOpen + 1 + m.stop - 1) + 1 ≤ skeleton.size := by omega
    refine bind_of_eq_ok (back_eq_ok (by omega)) (bind_of_eq_ok (partner_eq_ok paren rfl) ?_)
    refine bind_of_eq_ok (follow_eq_ok after) ?_
    cases follows : bodyAfterParameters.matchAt? skeleton
        (closing skeleton (bodyOpen + 1 + m.stop - 1) + 1) with
    | none => rfl
    | some n =>
      obtain ⟨later, brace⟩ := Pattern.getElem?_of_endsIn bodyAfterParameters_endsIn after follows
      refine bind_of_eq_ok (back_eq_ok (by omega)) (bind_of_eq_ok (partner_eq_ok brace rfl) ?_)
      refine bind_of_eq_ok (lineAt_eq_ok (by omega)) ?_
      refine bind_of_eq_ok (parametersBetween_eq_ok (by omega) (by omega)) ?_
      refine bind_of_eq_ok (decoratorsOf_eq_ok bounds (by omega)) ?_
      exact bind_of_eq_ok (part_eq_ok (by omega) (by omega)) rfl

theorem fieldSpans_eq_ok (same : code.size = skeleton.size) {bodyOpen bodyClose : Nat}
    (opens : bodyOpen < skeleton.size) (closes : bodyClose ≤ skeleton.size) :
    fieldSpans code skeleton bodyOpen bodyClose =
      .ok (JavaScript.fieldSpans code skeleton bodyOpen bodyClose) := by
  refine bind_of_eq_ok (part_eq_ok opens closes) (filterMapM_eq_ok fun m found => ?_)
  have named : memberArrowHead.captures 1 = true := rfl
  obtain ⟨place, held, looked, within⟩ := place_eq_ok found named
  have bound := stop_le_of_body opens closes found
  rw [Array.size_extract] at within
  refine bind_of_eq_ok looked (bind_of_eq_ok (atClassDepth_eq_ok opens (by omega)) ?_)
  simp only [held, Option.bind_eq_bind, Option.bind_some]
  split
  · refine bind_of_eq_ok (group_eq_ok found rfl) ?_
    refine valueSpan?_eq_ok same (by omega) bound fun several => ?_
    exact (paren_of_memberArrowHead found several).imp_left fun _ => by omega
  · rfl

theorem classSpans_eq_ok (same : code.size = skeleton.size)
    (bounds : ∀ d ∈ placed, d.start < d.stop ∧ d.stop ≤ skeleton.size) :
    classSpans code skeleton placed = .ok (JavaScript.classSpans code skeleton placed) := by
  refine mapM_eq_ok fun m found => ?_
  obtain ⟨inside, -⟩ := Pattern.matchAt?_of_mem_findAll found
  obtain ⟨further, brace⟩ := brace_of_classHead found
  have opens := (Array.getElem?_eq_some_iff.mp brace).1
  have close := closing_le skeleton (m.stop - 1)
  have closes : closing skeleton (m.stop - 1) ≤ skeleton.size := by omega
  refine bind_of_eq_ok (group_eq_ok found rfl) (bind_of_eq_ok (back_eq_ok (by omega)) ?_)
  refine bind_of_eq_ok (partner_eq_ok brace rfl) (bind_of_eq_ok (lineAt_eq_ok (by omega)) ?_)
  refine bind_of_eq_ok (decoratorsOf_eq_ok bounds inside) ?_
  refine bind_of_eq_ok (methodSpans_eq_ok same bounds opens closes) ?_
  exact bind_of_eq_ok (fieldSpans_eq_ok same opens closes) rfl

theorem functionSpans_eq_ok (same : code.size = skeleton.size) (classes : List ClassSpan) :
    functionSpans code skeleton classes = .ok (JavaScript.functionSpans code skeleton classes) := by
  refine bind_of_eq_ok (filterMapM_eq_ok ?_) (bind_of_eq_ok (filterMapM_eq_ok ?_) rfl)
  · intro m found
    obtain ⟨inside, -⟩ := Pattern.matchAt?_of_mem_findAll found
    obtain ⟨further, paren⟩ := paren_of_functionHead found
    have close := closing_le skeleton (m.stop - 1)
    have filled := (Array.getElem?_eq_some_iff.mp paren).1
    have after : closing skeleton (m.stop - 1) + 1 ≤ skeleton.size := by omega
    refine bind_of_eq_ok (back_eq_ok (by omega)) (bind_of_eq_ok (partner_eq_ok paren rfl) ?_)
    refine bind_of_eq_ok (follow_eq_ok after) ?_
    cases follows : bodyAfterParameters.matchAt? skeleton (closing skeleton (m.stop - 1) + 1) with
    | none =>
      simp only [follows]
      rfl
    | some n =>
      obtain ⟨later, brace⟩ := Pattern.getElem?_of_endsIn bodyAfterParameters_endsIn after follows
      simp only [follows]
      refine bind_of_eq_ok (group_eq_ok found rfl) ?_
      refine bind_of_eq_ok (back_eq_ok (by omega)) (bind_of_eq_ok (partner_eq_ok brace rfl) ?_)
      refine bind_of_eq_ok (lineAt_eq_ok (by omega)) ?_
      exact bind_of_eq_ok (parametersBetween_eq_ok (by omega) (by omega)) rfl
  · intro m found
    obtain ⟨inside, matched⟩ := Pattern.matchAt?_of_mem_findAll found
    obtain ⟨-, -, bound⟩ := Pattern.bounds_of_matchAt? inside matched
    refine bind_of_eq_ok (bind_of_eq_ok (upTo_eq_ok inside) rfl) ?_
    split
    next member => simp only [member, if_true]; rfl
    next free =>
      simp only [free]
      refine bind_of_eq_ok (group_eq_ok found rfl) ?_
      refine valueSpan?_eq_ok same inside bound fun several => ?_
      exact (paren_of_variableHead found several).imp_left (Nat.zero_lt_of_lt ·)

end

/-! ## The analysis -/

section

variable {m : Masked}

theorem declarations_eq_ok (same : m.code.size = m.skeleton.size) :
    declarations m = .ok m.declarations := by
  refine bind_of_eq_ok (decorators_eq_ok same) ?_
  refine bind_of_eq_ok (classSpans_eq_ok same fun _ => bounds_of_decorators) ?_
  exact bind_of_eq_ok (functionSpans_eq_ok same _) rfl

theorem imports_eq_ok (code : Array Char) : imports code = .ok (JavaScript.imports code) := by
  refine bind_of_eq_ok (mapM_eq_ok ?_) (bind_of_eq_ok (mapM_eq_ok ?_)
    (bind_of_eq_ok (mapM_eq_ok ?_) rfl))
  · intro m found
    exact bind_of_eq_ok (group_eq_ok found rfl) (bind_of_eq_ok (group_eq_ok found rfl) rfl)
  · intro m found
    exact bind_of_eq_ok (group_eq_ok found rfl) rfl
  · intro m found
    exact bind_of_eq_ok (group_eq_ok found rfl) (bind_of_eq_ok (group_eq_ok found rfl) rfl)

theorem signals_eq_ok (code : Array Char) : signals code = .ok (JavaScript.signals code) := by
  have routes : JavaScript.signals code = stateSignals code ++ eventSignals code ++
      (routeCall.findAll code).map fun m => ⟨m.start, .route (routeKind (m.group code 1))
        (Text.upper (m.group code 2)) (m.group code 4)⟩ := by
    rw [JavaScript.signals, routeSignals, signalsOf, ← List.filterMap_eq_map]
    rfl
  rw [routes]
  refine bind_of_eq_ok (mapM_eq_ok fun m found => ?_) rfl
  refine bind_of_eq_ok (group_eq_ok found rfl) (bind_of_eq_ok (group_eq_ok found rfl) ?_)
  exact bind_of_eq_ok (group_eq_ok found rfl) rfl

end

end Checked

/-- A signal stands in the code. -/
theorem position_le_of_mem_signals {code : Array Char} {s : Signal} (mem : s ∈ signals code) :
    s.position ≤ code.size := by
  obtain ⟨m, speaks, place⟩ := mem_signals_iff.mp mem
  rw [← place]
  generalize s.mark = mark at speaks
  cases speaks with
  | pair found | hook found | setState found | dispatch found | setter found | observable found
  | property found | listener found | assignment found | channel found | emitter found
  | route found => exact (Pattern.matchAt?_of_mem_findAll found).1

/-- After masking the parser takes no misstep: with every lookup checked it makes the same
analysis. -/
theorem Checked.analyse_eq_ok {m : Masked} (same : m.code.size = m.skeleton.size) (path : String) :
    Checked.analyse m path = .ok (JavaScript.analyse m path) := by
  refine bind_of_eq_ok (imports_eq_ok m.code) (bind_of_eq_ok (declarations_eq_ok same) ?_)
  refine bind_of_eq_ok (signals_eq_ok m.code) (bind_of_eq_ok (foldlM_eq_ok fun o s mem => ?_) rfl)
  exact bind_of_eq_ok (upTo_eq_ok (position_le_of_mem_signals mem)) rfl

end RepoSurvey.JavaScript
