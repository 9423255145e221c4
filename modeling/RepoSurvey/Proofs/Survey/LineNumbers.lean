import RepoSurvey.Proofs.Python.Sightings
import RepoSurvey.Proofs.Survey.Tiers

/-!
# The line numbers of a survey

An analysis records the lines of functions, classes and methods, of tags and of
route hints (`FileAnalysis.LinesWithin`). In a script each of them is the line of a
position of the source. In a Python source each of them is a line of a token, and
there a carriage return that no line feed follows ends a line, too: the lines that a
survey counts do not include these (`recorded_lines_within`).
-/

namespace RepoSurvey

open Detection (containers)

/-- The line in a route hint. -/
def hintLine? : Json → Option Int
  | .obj fields =>
    match Json.field? fields "line" with
    | some (.int line) => some line
    | _ => none
  | _ => none

/-- The number is that of one of so many lines. -/
def IsLine (last line : Int) : Prop :=
  1 ≤ line ∧ line ≤ last

/-- The lines that a callable records are among the first lines. -/
structure Callable.LinesWithin (last : Int) (f : Callable) : Prop where
  /-- The line of the callable itself. -/
  line : IsLine last f.line
  /-- The lines of its tags. -/
  tags : ∀ line ∈ f.tagLines.values, IsLine last line
  /-- The lines of its route hints: each hint has one. -/
  hints : ∀ hint ∈ f.routeHints, ∃ line, hintLine? hint = some line ∧ IsLine last line

/-- The lines that an analysis records are among the first lines. -/
structure FileAnalysis.LinesWithin (last : Int) (a : FileAnalysis) : Prop where
  /-- The lines in functions, methods and the top level. -/
  callables : ∀ c ∈ containers a, c.info.LinesWithin last
  /-- The lines of classes. -/
  classes : ∀ entry ∈ a.classes, IsLine last entry.2.line

/-! ## Scripts -/

namespace JavaScript

variable {content path : String} {m : Masked} {place : Option Nat} {f : Callable}

/-- The line of a position of the source. -/
theorem isLine_lineAt (masked : mask content.toList = .ok m) (i : Nat) :
    IsLine (content.toList.count '\n' + 1) (lineAt m.code i) := by
  rw [lineAt_eq, (lineOf_mask masked i).1]
  exact ⟨Int.ofNat_le.mpr Text.one_le_lineOf, Int.ofNat_le.mpr Text.lineOf_le⟩

/-- A callable is on the first line or on that of its beginning. -/
theorem exists_line_of_written (filled : written m.code m.declarations.spans place = some f) :
    ∃ i, f.line = lineAt m.code i := by
  cases place with
  | none =>
    cases filled
    refine ⟨0, (recordAll_keeps _ _ _).2.trans ?_⟩
    rw [lineAt_eq]
    rfl
  | some i =>
    obtain ⟨span, here, rfl⟩ := Option.map_eq_some_iff.mp filled
    have fresh := m.fresh span (List.mem_of_getElem? here)
    exact ⟨span.start, (recordAll_keeps _ _ _).2.trans fresh.line_eq⟩

theorem linesWithin_written (masked : mask content.toList = .ok m)
    (filled : written m.code m.declarations.spans place = some f) :
    f.LinesWithin (content.toList.count '\n' + 1) where
  line := by
    obtain ⟨i, own⟩ := exists_line_of_written filled
    rw [own]
    exact isLine_lineAt masked i
  tags := by
    intro line mem
    obtain ⟨s, ⟨found, mark, -, -, told⟩, rfl⟩ :=
      (accounts_written masked filled).exists_of_mem_values mem
    rw [(rank_of_sighting? told).2]
    exact isLine_lineAt masked found.start
  hints := by
    intro hint mem
    obtain ⟨kind, method, path, i, rfl⟩ := exists_route_of_written m.untouched filled mem
    exact ⟨lineAt m.code i, rfl, isLine_lineAt masked i⟩

/-- Every line that the analysis of a script records is a line of the script. -/
theorem linesWithin_of_parse {a : FileAnalysis} (parsed : parse content path = .ok a) :
    a.LinesWithin (content.toList.count '\n' + 1) := by
  obtain ⟨m, masked, rfl⟩ := parse_eq_ok_iff.mp parsed
  constructor
  · intro c mem
    obtain ⟨place, -, filled, -⟩ := exists_container_iff_kept.mp ⟨c, mem, rfl⟩
    exact linesWithin_written masked filled
  · rintro ⟨name, c⟩ mem
    obtain ⟨place, k, first, -, rfl⟩ := mem_classTable.mp mem
    obtain ⟨found, -, rfl⟩ := List.mem_map.mp (List.mem_of_getElem? first.here)
    exact isLine_lineAt masked found.start

end JavaScript

/-! ## Python -/

namespace Python

open Outcome (exists_of_bind_ok foldlM_ok)

variable {body held : List Stmt} {f : Callable} {last : Int}

/-- Every hint of a function has the line of the function. -/
theorem hintLine?_routeHints {line : Nat} {name : String} {decorators : List Decorator}
    {isMethod : Bool} : ∀ hint ∈ routeHints line name decorators isMethod,
      hintLine? hint = some ↑line := by
  intro hint mem
  rcases List.mem_append.mp mem with view | verb
  · obtain ⟨d, -, rfl⟩ := List.mem_map.mp view
    rfl
  · split at verb
    · rw [List.mem_singleton.mp verb]
      rfl
    · cases verb

/-- The lines of the calls in statements are lines of the statements. -/
theorem mem_lines_of_tells {s : Sighting} (told : Tells held s) :
    ∃ n ∈ lines held, s.line = (n : Int) := by
  obtain ⟨c, mem, told⟩ := told
  refine ⟨c.position.line, mem_lines_of_bodyCalls (List.mem_map.mpr ⟨c, mem, rfl⟩), ?_⟩
  exact line_of_sighting? told

/-- A function records lines of its statement only. -/
theorem linesWithin_of_functionOf? {isMethod : Bool} {s : Stmt} {signature : String}
    (made : functionOf? isMethod s = .ok (some (signature, f)))
    (inside : ∀ n ∈ lines s, IsLine last n) : f.LinesWithin last := by
  have accounts := accounts_of_functionOf? made
  cases s with
  | function line isAsync name params returns decorators body =>
    have own : IsLine last line := inside line (List.mem_append_right _ (List.mem_singleton_self _))
    obtain ⟨decorated, -, made⟩ := exists_of_bind_ok made
    obtain ⟨tagged, recorded, made⟩ := exists_of_bind_ok made
    cases made
    refine ⟨?_, ?_, ?_⟩
    · show IsLine last tagged.line
      rw [eq_noteAll_of_recordCalls recorded, Callable.line_noteAll]
      exact own
    · intro line mem
      obtain ⟨t, told, rfl⟩ := accounts.exists_of_mem_values mem
      obtain ⟨n, mem, same⟩ := mem_lines_of_tells told
      rw [same]
      exact inside n (lines_singleton (Stmt.function ..) ▸ mem)
    · exact fun hint mem => ⟨line, hintLine?_routeHints hint mem, own⟩
  | _ => cases made

/-- A class speaks of the lines of its methods. -/
theorem mem_lines_of_member {line : Nat} {name : String} {bases : List Expr}
    {keywords : List Keyword} {decorators : List Expr} {inner : List Stmt} {s : Stmt}
    {signature : String} (mem : s ∈ inner) (method : s.signature? = some signature) {n : Nat}
    (spoken : n ∈ lines s) :
    n ∈ lines (Stmt.classDef line name bases keywords decorators inner) := by
  rcases List.mem_append.mp spoken with call | defined
  · refine mem_lines_of_calls ?_
    obtain ⟨c, called, rfl⟩ := List.mem_map.mp call
    refine List.mem_map.mpr ⟨c, ?_, rfl⟩
    rw [Stmt.calls]
    have inner := mem_bodyCalls.mpr ⟨s, mem, called⟩
    simp only [List.mem_append]
    exact .inl (.inr inner)
  · cases s with
    | function own isAsync title params returns decorators body =>
      cases List.mem_singleton.mp defined
      refine List.mem_append_right _ (List.mem_cons_of_mem _ ?_)
      exact List.mem_filterMap.mpr ⟨_, mem, rfl⟩
    | _ => cases method

theorem linesWithin_of_answers {source : String} (read : module? source = some body)
    (inside : ∀ n ∈ lines body, IsLine last n) (first : 1 ≤ last)
    (answers : Answers body held f) : f.LinesWithin last := by
  have among {s : Stmt} (mem : s ∈ body) : ∀ n ∈ lines s, IsLine last n :=
    fun n spoken => inside n (mem_lines_iff.mpr ⟨s, mem, spoken⟩)
  cases answers with
  | function lastOf made => exact linesWithin_of_functionOf? made (among lastOf.mem)
  | method lastClass lastOf made =>
    refine linesWithin_of_functionOf? made fun n spoken => among lastClass.mem n ?_
    exact mem_lines_of_member lastOf.mem lastOf.key spoken
  | top made carries =>
    have accounts := accounts_of_answers read (.top made carries)
    refine ⟨?_, ?_, ?_⟩
    · rw [eq_noteAll_of_topLevel made, Callable.line_noteAll]
      exact ⟨Int.le_refl 1, first⟩
    · intro line mem
      obtain ⟨t, told, rfl⟩ := accounts.exists_of_mem_values mem
      obtain ⟨n, spoken, same⟩ := mem_lines_of_tells told
      rw [same]
      obtain ⟨s, mem, spoken⟩ := mem_lines_iff.mp spoken
      exact among (List.mem_of_mem_filter mem) n spoken
    · rw [routeHints_topLevel made]
      exact nofun

/-- Every line that the analysis of a Python source records is one of its lines, where a
lone carriage return ends a line. -/
theorem linesWithin_of_parse {content path : String} {a : FileAnalysis}
    (parsed : parse content path = .ok a) :
    a.LinesWithin (content.toList.count '\n' + 1 + Text.loneReturns content.toList) := by
  obtain ⟨body, read, made⟩ := exists_of_parse parsed
  have inside : ∀ n ∈ lines body,
      IsLine (content.toList.count '\n' + 1 + Text.loneReturns content.toList) n := by
    intro n spoken
    obtain ⟨low, high⟩ := (lines_of_module read).1 n spoken
    rw [Text.count_unifyLineEnds] at high
    constructor <;> omega
  constructor
  · intro c mem
    obtain ⟨held, answers⟩ := (exists_container_iff_answers made).mp ⟨c, mem, rfl⟩
    exact linesWithin_of_answers read inside (by omega) answers
  · rintro ⟨name, c⟩ mem
    obtain ⟨functions, classes, top, -, grouped, -, rfl⟩ := exists_of_analyse made
    obtain ⟨s, lastClass, madeClass⟩ := (mem_classTable_iff grouped).mp mem
    obtain ⟨line, _, _, _, _, rfl, own, -⟩ := exists_of_classOf? madeClass
    rw [own]
    refine inside line (mem_lines_iff.mpr ⟨_, lastClass.mem, ?_⟩)
    exact List.mem_append_right _ List.mem_cons_self

end Python

/-! ## Surveyed files -/

namespace Survey

theorem linesWithin_withSize {last : Int} {content : String} {a : FileAnalysis}
    (h : a.LinesWithin last) : (withSize content a).LinesWithin last := by
  rw [withSize]
  split
  · exact ⟨h.callables, h.classes⟩
  · exact ⟨h.callables, h.classes⟩

/-- The lines in the survey of a file that was read by one of the two parsers. -/
theorem linesWithin_surveyed (f : Faults) (library : GrammarLibrary) (path content : String)
    {file : SurveyedFile} (same : (f.components library).surveyed path content = file) :
    (file.tier = .regex → file.analysis.lines = some ↑(content.toList.count '\n' + 1) ∧
      file.analysis.LinesWithin (content.toList.count '\n' + 1)) ∧
    (file.tier = .python → file.analysis.lines = some ↑(content.toList.count '\n' + 1) ∧
      file.analysis.LinesWithin
        (content.toList.count '\n' + 1 + Text.loneReturns content.toList)) := by
  cases detected : (f.components library).detectLanguage path content with
  | error failure =>
    simp only [Components.surveyed, detected] at same
    subst same
    exact ⟨Tier.noConfusion, Tier.noConfusion⟩
  | ok language =>
    simp only [Components.surveyed, detected] at same
    subst same
    have decided : Decision (f.components library) path content language
        ((f.components library).reading path content language) := decision_reading
    have sized := congrArg FileAnalysis.lines decided.sized.2
    generalize (f.components library).reading path content language = routed at decided sized
    cases decided with
    | script _ read =>
      have parsed := parse_of_parseScript (eq_ok_of_barring read)
      exact ⟨fun _ => ⟨sized, linesWithin_withSize (JavaScript.linesWithin_of_parse parsed)⟩, Tier.noConfusion⟩
    | python _ read =>
      have parsed := parse_of_parsePython (eq_ok_of_barring read)
      exact ⟨Tier.noConfusion, fun _ => ⟨sized, linesWithin_withSize (Python.linesWithin_of_parse parsed)⟩⟩
    | _ => exact ⟨Tier.noConfusion, Tier.noConfusion⟩

/-- Whatever fails, the lines that are recorded for a script are lines of the file, and so
are those for a Python source when lone carriage returns are counted as ends of lines. -/
theorem recorded_lines_within (f : Faults) (library : GrammarLibrary) (path content : String)
    {r : Run} (sound : r.session.Sound (f.components library)) :
    ∃ file r', (surveyFile (f.components library) path content).run r = (file, r') ∧
      (file.tier = .regex → file.analysis.lines = some ↑(content.toList.count '\n' + 1) ∧
        file.analysis.LinesWithin (content.toList.count '\n' + 1)) ∧
      (file.tier = .python → file.analysis.lines = some ↑(content.toList.count '\n' + 1) ∧
        file.analysis.LinesWithin
          (content.toList.count '\n' + 1 + Text.loneReturns content.toList)) := by
  obtain ⟨r', ran, -⟩ := gives_surveyFile path content r sound
  exact ⟨_, r', ran, linesWithin_surveyed f library path content rfl⟩

/-- A Python source with a carriage return before its only function. -/
def returnFirst : String := "\rdef f(): pass"

theorem recorded_lines_within_of_returnFirst :
    Session.Sound (Faults.components {} {}) {} ∧
      ∃ file r', (surveyFile (Faults.components {} {}) "a.py" returnFirst).run {} = (file, r') ∧
        file.tier = .python ∧ file.analysis.lines = some 1 ∧ file.analysis.LinesWithin 2 := by
  have new : Session.Sound (Faults.components {} {}) {} := nofun
  obtain ⟨file, r', ran, -, python⟩ :=
    recorded_lines_within {} {} "a.py" returnFirst (r := {}) new
  have tier : ((surveyFile (Faults.components {} {}) "a.py" returnFirst).run {}).1.tier =
      .python := by decide +kernel
  rw [ran] at tier
  exact ⟨new, file, r', ran, tier, python tier⟩

/-- The function after the carriage return is recorded on a line that is not counted. -/
theorem line_recorded_past_end :
    ¬ ∀ path content : String,
      ((surveyFile (usual {}) path content).run {}).1.tier ∈ [Tier.regex, Tier.python] →
        ∃ last, ((surveyFile (usual {}) path content).run {}).1.analysis.lines = some last ∧
          ((surveyFile (usual {}) path content).run {}).1.analysis.LinesWithin last := by
  intro within
  have counted : ((surveyFile (usual {}) "a.py" returnFirst).run {}).1.analysis.lines = some 1 := by
    decide +kernel
  have recorded : ∃ c ∈ containers
      ((surveyFile (usual {}) "a.py" returnFirst).run {}).1.analysis, c.info.line = 2 := by
    decide +kernel
  obtain ⟨last, same, lines⟩ := within "a.py" returnFirst (by decide +kernel)
  cases same.symm.trans counted
  obtain ⟨c, mem, on⟩ := recorded
  exact absurd (lines.callables c mem).line.2 (by rw [on]; decide)

end Survey

end RepoSurvey
