import RepoSurvey.JavaScript.Parse

/-!
# What is written into a callable

Every signal of a source is written into the callable that owns its position.
One step of that changes one callable and nothing of it but its tags, hints
and lines (`Owners.top_assign`, `Owners.getElem?_spans_assign`), so at the end
each callable holds what its own signals left, in the order of the signals:
`written` says what stands at a place, and `top_assignAll` and
`getElem?_spans_assignAll` say that the fold over all signals puts it there.

A `Trace` is what one signal leaves. A callable that starts out untouched has
the traces of its own signals and no others (`Trace.isIn_written`).
-/

namespace RepoSurvey.JavaScript

/-! ## Traces -/

/-- A tag or a hint in a callable. -/
inductive Trace where
  /-- A tag of a state change. -/
  | stateTag (tag : String)
  /-- A tag of an event. -/
  | eventTag (tag : String)
  /-- The hint of a route. -/
  | hint (value : Json)

/-- What a mark found on a line leaves. -/
def Mark.trace (mark : Mark) (line : Int) : Trace :=
  match mark with
  | .state tag => .stateTag tag
  | .event tag => .eventTag tag
  | .route kind method path => .hint (routeHint kind method path line)

/-- The callable holds the trace. -/
def Trace.isIn (t : Trace) (f : Callable) : Prop :=
  match t with
  | .stateTag tag => tag ∈ f.stateTags
  | .eventTag tag => tag ∈ f.eventTags
  | .hint value => value ∈ f.routeHints

/-- Nothing has been written into the callable. -/
structure Untouched (f : Callable) : Prop where
  /-- It has no tag of a state change. -/
  noState : f.stateTags = []
  /-- It has no tag of an event. -/
  noEvent : f.eventTags = []
  /-- It has no hint of a route. -/
  noHint : f.routeHints = []
  /-- It has no line of a tag. -/
  noLine : f.tagLines = []

/-- A callable into which nothing has been written holds no trace. -/
theorem Untouched.not_isIn {f : Callable} (h : Untouched f) (t : Trace) : ¬ t.isIn f := by
  cases t with
  | stateTag tag => simp only [Trace.isIn, h.noState, List.not_mem_nil, not_false_eq_true]
  | eventTag tag => simp only [Trace.isIn, h.noEvent, List.not_mem_nil, not_false_eq_true]
  | hint value => simp only [Trace.isIn, h.noHint, List.not_mem_nil, not_false_eq_true]

/-- A callable carries a signal when it holds a trace. -/
theorem carriesSignal_iff {f : Callable} : carriesSignal f = true ↔ ∃ t : Trace, t.isIn f := by
  simp only [carriesSignal, Bool.or_eq_true, Bool.not_eq_true',
    List.isEmpty_eq_false_iff_exists_mem]
  constructor
  · rintro ((⟨tag, mem⟩ | ⟨tag, mem⟩) | ⟨value, mem⟩)
    · exact ⟨.stateTag tag, mem⟩
    · exact ⟨.eventTag tag, mem⟩
    · exact ⟨.hint value, mem⟩
  · rintro ⟨t, held⟩
    cases t with
    | stateTag tag => exact .inl (.inl ⟨tag, held⟩)
    | eventTag tag => exact .inl (.inr ⟨tag, held⟩)
    | hint value => exact .inr ⟨value, held⟩

/-- A trace that is there adds nothing. -/
theorem Trace.isIn_or_of_isIn {t there : Trace} {f : Callable} (held : there.isIn f) :
    t.isIn f ∨ there = t ↔ t.isIn f := by
  refine ⟨?_, .inl⟩
  rintro (own | rfl)
  · exact own
  · exact held

/-! ## One signal -/

/-- A tag of a state change that is there is not written again. -/
theorem record_state_of_mem {f : Callable} {tag : String} (known : tag ∈ f.stateTags) (line : Int) :
    record f (.state tag) line = f :=
  if_pos (List.contains_iff_mem.mpr known)

/-- A new tag of a state change is appended, with its line. -/
theorem record_state_of_not_mem {f : Callable} {tag : String} (new : tag ∉ f.stateTags)
    (line : Int) :
    record f (.state tag) line =
      { f with stateTags := f.stateTags ++ [tag], tagLines := f.tagLines.set tag line } :=
  if_neg fun known => new (List.contains_iff_mem.mp known)

/-- A tag of an event that is there is not written again. -/
theorem record_event_of_mem {f : Callable} {tag : String} (known : tag ∈ f.eventTags) (line : Int) :
    record f (.event tag) line = f :=
  if_pos (List.contains_iff_mem.mpr known)

/-- A new tag of an event is appended, with its line. -/
theorem record_event_of_not_mem {f : Callable} {tag : String} (new : tag ∉ f.eventTags)
    (line : Int) :
    record f (.event tag) line =
      { f with eventTags := f.eventTags ++ [tag], tagLines := f.tagLines.set tag line } :=
  if_neg fun known => new (List.contains_iff_mem.mp known)

/-- Writing a mark adds its trace and takes none away. -/
theorem Trace.isIn_record {t : Trace} {f : Callable} {mark : Mark} {line : Int} :
    t.isIn (record f mark line) ↔ t.isIn f ∨ mark.trace line = t := by
  cases mark with
  | state tag =>
    by_cases known : tag ∈ f.stateTags
    · have there : ((Mark.state tag).trace line).isIn f := known
      rw [record_state_of_mem known, Trace.isIn_or_of_isIn there]
    · rw [record_state_of_not_mem known]
      cases t <;> simp [Trace.isIn, Mark.trace, eq_comm]
  | event tag =>
    by_cases known : tag ∈ f.eventTags
    · have there : ((Mark.event tag).trace line).isIn f := known
      rw [record_event_of_mem known, Trace.isIn_or_of_isIn there]
    · rw [record_event_of_not_mem known]
      cases t <;> simp [Trace.isIn, Mark.trace, eq_comm]
  | route kind method path => cases t <;> simp [record, Trace.isIn, Mark.trace, eq_comm]

/-- Writing a mark leaves the parameters and the line alone. -/
theorem record_keeps (f : Callable) (mark : Mark) (line : Int) :
    (record f mark line).parameters = f.parameters ∧ (record f mark line).line = f.line := by
  unfold record
  repeat' split
  all_goals exact ⟨rfl, rfl⟩

/-! ## Many signals -/

/-- A callable with signals written into it one after another. -/
def recordAll (code : Array Char) (f : Callable) (found : List Signal) : Callable :=
  found.foldl (fun f s => record f s.mark (lineAt code s.position)) f

/-- The traces of a callable with signals written into it. -/
theorem Trace.isIn_recordAll {t : Trace} {code : Array Char} {f : Callable}
    {found : List Signal} :
    t.isIn (recordAll code f found) ↔
      t.isIn f ∨ ∃ s ∈ found, s.mark.trace (lineAt code s.position) = t := by
  induction found generalizing f with
  | nil =>
    simp only [recordAll, List.foldl_nil, List.not_mem_nil, false_and, exists_false, or_false]
  | cons s rest ih =>
    have step : recordAll code f (s :: rest) =
        recordAll code (record f s.mark (lineAt code s.position)) rest := rfl
    rw [step, ih, Trace.isIn_record, or_assoc]
    simp only [List.mem_cons, or_and_right, exists_or, exists_eq_left]

/-- Writing signals leaves the parameters and the line alone. -/
theorem recordAll_keeps (code : Array Char) (f : Callable) (found : List Signal) :
    (recordAll code f found).parameters = f.parameters ∧
      (recordAll code f found).line = f.line := by
  induction found generalizing f with
  | nil => exact ⟨rfl, rfl⟩
  | cons s rest ih =>
    obtain ⟨parameters, line⟩ := ih (record f s.mark (lineAt code s.position))
    obtain ⟨parameters', line'⟩ := record_keeps f s.mark (lineAt code s.position)
    exact ⟨parameters.trans parameters', line.trans line'⟩

/-- The signals whose positions belong to a place, in the order in which they are written. -/
def ownedBy (code : Array Char) (spans : List Span) (place : Option Nat) (found : List Signal) :
    List Signal :=
  found.filter fun s => owner spans code.size s.position == place

/-- The signals of one place, taken one after another. -/
theorem recordAll_ownedBy_cons (code : Array Char) (spans : List Span) (place : Option Nat)
    (f : Callable) (s : Signal) (rest : List Signal) :
    recordAll code f (ownedBy code spans place (s :: rest)) =
      recordAll code (recordAll code f (ownedBy code spans place [s]))
        (ownedBy code spans place rest) := by
  have split : ownedBy code spans place (s :: rest) =
      ownedBy code spans place [s] ++ ownedBy code spans place rest :=
    List.filter_append [s] rest
  rw [split, recordAll, List.foldl_append]
  rfl

/-! ## Every signal of a source -/

section

variable {code : Array Char} {spans : List Span}

/-- One signal changes the top level when it belongs there. -/
theorem Owners.top_assign (o : Owners) (s : Signal) :
    (o.assign code spans s).top = recordAll code o.top (ownedBy code spans none [s]) := by
  cases place : owner spans code.size s.position with
  | none => simp [Owners.assign, place, ownedBy, recordAll]
  | some i => simp [Owners.assign, place, ownedBy, recordAll]

/-- One signal changes the span it belongs to, and of it the callable. -/
theorem Owners.getElem?_spans_assign (o : Owners) (s : Signal) (i : Nat) :
    (o.assign code spans s).spans[i]? = o.spans[i]?.map fun span =>
      { span with info := recordAll code span.info (ownedBy code spans (some i) [s]) } := by
  cases place : owner spans code.size s.position with
  | none => simp [Owners.assign, place, ownedBy, recordAll]
  | some j =>
    by_cases same : j = i
    · simp [Owners.assign, place, ownedBy, recordAll, Array.getElem?_modify, same]
    · simp [Owners.assign, place, ownedBy, recordAll, Array.getElem?_modify, same]

/-- Of a run of signals the top level gets those that belong there. -/
theorem Owners.top_foldl (o : Owners) (found : List Signal) :
    (found.foldl (fun o s => o.assign code spans s) o).top =
      recordAll code o.top (ownedBy code spans none found) := by
  induction found generalizing o with
  | nil => rfl
  | cons s rest ih =>
    rw [List.foldl_cons, ih, Owners.top_assign, ← recordAll_ownedBy_cons]

/-- Of a run of signals each span gets those that belong to it. -/
theorem Owners.getElem?_spans_foldl (o : Owners) (found : List Signal) (i : Nat) :
    (found.foldl (fun o s => o.assign code spans s) o).spans[i]? = o.spans[i]?.map fun span =>
      { span with info := recordAll code span.info (ownedBy code spans (some i) found) } := by
  induction found generalizing o with
  | nil => exact Option.map_id'.symm
  | cons s rest ih =>
    rw [List.foldl_cons, ih, Owners.getElem?_spans_assign, Option.map_map]
    simp only [recordAll_ownedBy_cons code spans (some i) _ s rest, Function.comp_def]

variable (code spans)

/-- A span with the callable that stands at its place once every signal is written. -/
def filledSpan (i : Nat) (span : Span) : Span :=
  { span with info := recordAll code span.info (ownedBy code spans (some i) (signals code)) }

/-- The callable at a place, the top level at none, once every signal is written. -/
def written : Option Nat → Option Callable
  | none => some (recordAll code { line := 1 } (ownedBy code spans none (signals code)))
  | some i => spans[i]?.map fun span => (filledSpan code spans i span).info

variable {code spans}

/-- The top level at the end. -/
theorem top_assignAll : written code spans none = some (assignAll code spans).top := by
  rw [assignAll, Owners.top_foldl]
  rfl

/-- The spans at the end. -/
theorem getElem?_spans_assignAll (i : Nat) :
    (assignAll code spans).spans[i]? = spans[i]?.map (filledSpan code spans i) := by
  rw [assignAll, Owners.getElem?_spans_foldl, List.getElem?_toArray]
  rfl

/-- A span keeps its signature while signals are written. -/
theorem Span.signature_filledSpan (i : Nat) (span : Span) :
    (filledSpan code spans i span).signature = span.signature := by
  simp only [Span.signature, filledSpan, (recordAll_keeps _ _ _).1]

section

variable {place : Option Nat} {f : Callable} (untouched : ∀ span ∈ spans, Untouched span.info)
  (filled : written code spans place = some f)

include untouched filled

/-- Where spans start out untouched, what stands at a place at the end was untouched before the
signals of the place were written. -/
theorem exists_untouched_of_written : ∃ start, Untouched start ∧
    f = recordAll code start (ownedBy code spans place (signals code)) := by
  cases place with
  | none =>
    cases filled
    exact ⟨_, ⟨rfl, rfl, rfl, rfl⟩, rfl⟩
  | some i =>
    obtain ⟨span, here, rfl⟩ := Option.map_eq_some_iff.mp filled
    exact ⟨span.info, untouched span (List.mem_of_getElem? here), rfl⟩

/-- So a callable has at the end the traces of the signals that belong to its place, and no
others. -/
theorem Trace.isIn_written {t : Trace} :
    t.isIn f ↔ ∃ s ∈ signals code,
      owner spans code.size s.position = place ∧ s.mark.trace (lineAt code s.position) = t := by
  obtain ⟨start, bare, rfl⟩ := exists_untouched_of_written untouched filled
  simp only [Trace.isIn_recordAll, bare.not_isIn t, false_or, ownedBy, List.mem_filter,
    beq_iff_eq, and_assoc]

/-- A hint in a callable was left by a route. -/
theorem exists_route_of_written {hint : Json} (mem : hint ∈ f.routeHints) :
    ∃ kind method path i, hint = routeHint kind method path (lineAt code i) := by
  have trace : (Trace.hint hint).isIn f := mem
  obtain ⟨s, -, -, left⟩ := (Trace.isIn_written untouched filled).mp trace
  cases mark : s.mark with
  | state tag => rw [mark] at left; cases left
  | event tag => rw [mark] at left; cases left
  | route kind method path =>
    rw [mark] at left
    cases left
    exact ⟨kind, method, path, s.position, rfl⟩

end

end

end RepoSurvey.JavaScript
