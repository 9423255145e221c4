import RepoSurvey.Proofs.Detection.Places
import RepoSurvey.Proofs.Outcomes

/-!
# What is wrong with route hints

A route hint is JSON of any shape. What it lacks or has in another shape than
expected is passed over, with two exceptions (`Flaw`).

A text in its line that consists of digits is read as a number, and among these
digits may be some, such as a raised two, that make no decimal number. A number
of more than 4300 digits is refused, too. And a value in the place of a text is
written out, which fails where an integer of more than 4300 digits stands
somewhere in it (`failsIff_spelled`). Then looking for routes fails for the
whole corpus (`not_detect_superscript`, `not_detect_of_overlong_type`).

There is no other way to fail (`detect_or_flawed`), as long as there is room to
write values out: how deeply they are nested is not limited here. A line that is
no positive number gives way to that of the container.
-/

namespace RepoSurvey

/-! ## Values that are not written out -/

namespace Json

open Outcome (FailsIff failsIff_ok failsIff_mapM)

/-- Somewhere in the value stands an integer of more digits than are written out. -/
inductive HasOverlong : Json → Prop where
  | int {n : Int} (long : Decimal.IsOverlong n) : HasOverlong (.int n)
  | item {items : List Json} {value : Json} (mem : value ∈ items) (inside : HasOverlong value) :
    HasOverlong (.arr items)
  | field {fields : List (String × Json)} {entry : String × Json} (mem : entry ∈ fields)
    (inside : HasOverlong entry.2) : HasOverlong (.obj fields)

theorem hasOverlong_int_iff {n : Int} : (Json.int n).HasOverlong ↔ Decimal.IsOverlong n := by
  refine ⟨fun h => ?_, .int⟩
  cases h with
  | int long => exact long

theorem hasOverlong_arr_iff {items : List Json} :
    (Json.arr items).HasOverlong ↔ ∃ value ∈ items, value.HasOverlong := by
  constructor
  · intro h
    cases h with
    | item mem inside => exact ⟨_, mem, inside⟩
  · rintro ⟨value, mem, inside⟩
    exact .item mem inside

theorem hasOverlong_obj_iff {fields : List (String × Json)} :
    (Json.obj fields).HasOverlong ↔ ∃ entry ∈ fields, entry.2.HasOverlong := by
  constructor
  · intro h
    cases h with
    | field mem inside => exact ⟨_, mem, inside⟩
  · rintro ⟨entry, mem, inside⟩
    exact .field mem inside

theorem spelledItems_eq (items : List Json) : spelledItems items = items.mapM spelledInside := by
  induction items with
  | nil => rfl
  | cons item rest ih =>
    rw [spelledItems, ih, List.mapM_cons]

/-- A field of an object spelled out. -/
def spelledEntry (entry : String × Json) : Except Failure String :=
  (spelledInside entry.2).map fun text => Text.quotedText entry.1 ++ ": " ++ text

theorem spelledFields_eq (fields : List (String × Json)) :
    spelledFields fields = fields.mapM spelledEntry := by
  induction fields with
  | nil => rfl
  | cons entry rest ih =>
    rw [spelledFields, ih, List.mapM_cons, spelledEntry]
    cases spelledInside entry.2 <;> rfl

/-- A value is written out inside a collection, unless there is an overlong integer in it. -/
theorem failsIff_spelledInside :
    (value : Json) → FailsIff unspelled value.HasOverlong value.spelledInside
  | .null => failsIff_ok nofun _
  | .bool _ => failsIff_ok nofun _
  | .real _ => failsIff_ok nofun _
  | .str _ => failsIff_ok nofun _
  | .int n => by
    rw [spelledInside, Decimal.integerText?]
    by_cases long : Decimal.IsOverlong n
    · rw [if_pos long]
      exact .inl ⟨.int long, rfl⟩
    · rw [if_neg long]
      exact failsIff_ok (fun h => long (hasOverlong_int_iff.mp h)) _
  | .arr items => by
    have each : ∀ value ∈ items, FailsIff unspelled value.HasOverlong value.spelledInside :=
      fun value _ => failsIff_spelledInside value
    rw [spelledInside, spelledItems_eq]
    exact ((failsIff_mapM each).congr hasOverlong_arr_iff.symm).map _
  | .obj fields => by
    have each : ∀ entry ∈ fields, FailsIff unspelled entry.2.HasOverlong (spelledEntry entry) :=
      fun entry _ => (failsIff_spelledInside entry.2).map _
    rw [spelledInside, spelledFields_eq]
    exact ((failsIff_mapM each).congr hasOverlong_obj_iff.symm).map _
decreasing_by
  · have smaller := List.sizeOf_lt_of_mem ‹value ∈ items›
    simp only [arr.sizeOf_spec]
    omega
  · have smaller := List.sizeOf_lt_of_mem ‹entry ∈ fields›
    have part : sizeOf entry.2 < sizeOf entry := by
      cases entry
      simp only [Prod.mk.sizeOf_spec]
      omega
    simp only [obj.sizeOf_spec]
    omega

theorem not_hasOverlong_str (text : String) : ¬ (Json.str text).HasOverlong :=
  nofun

theorem not_hasOverlong_strings (texts : List String) : ¬ (strings texts).HasOverlong := by
  rw [strings, hasOverlong_arr_iff]
  rintro ⟨value, mem, inside⟩
  obtain ⟨text, -, rfl⟩ := List.mem_map.mp mem
  exact not_hasOverlong_str text inside

/-- So it is where a text may stand as it is. -/
theorem failsIff_spelled (value : Json) :
    FailsIff unspelled value.HasOverlong value.spelled := by
  cases value
  case str => exact failsIff_ok nofun _
  all_goals exact failsIff_spelledInside _

end Json

namespace Detection.Route

variable {ctx : Context} {c : Container} {hint : Hint}

/-! ## Flaws -/

/-- The hint gives a positive line, as a number or in digits. -/
structure GivesLine (hint : Hint) (line : Int) : Prop where
  positive : 0 < line
  given : Json.field? hint "line" = some (.int line) ∨
    ∃ text, Json.field? hint "line" = some (.str text) ∧ Json.isDigits text = true ∧
      Decimal.integer? 10 text.toList = some line

/-- The text in the line of the hint consists of digits, and they make no number. -/
structure Misnumbered (hint : Hint) (text : String) : Prop where
  line : Json.field? hint "line" = some (.str text)
  digits : Json.isDigits text = true
  numberless : Decimal.integer? 10 text.toList = none

/-- The failure to read digits as a number: there are too many, or they make none. -/
def digitsFailure (text : String) : Failure :=
  let digits := (Decimal.plainNumeral text.toList).length
  if Decimal.maximalDigits < digits then .longLine digits else .badLine text

/-- The fields of a hint that are read as texts. -/
def textFields : List String :=
  ["type", "method", "route", "path", "url"]

/-- Where the hint is read for a text, or for verbs, there is an overlong integer. -/
inductive Overlong (hint : Hint) : Prop where
  | text (key : String) (asked : key ∈ textFields) (value : Json)
    (given : Json.field? hint key = some value) (inside : value.HasOverlong)
  | verb (items : List Json) (given : Json.field? hint "methods" = some (.arr items))
    (value : Json) (mem : value ∈ items) (inside : value.HasOverlong)

/-- What is wrong with a hint, with the failure that comes of it. -/
inductive Flaw (hint : Hint) : Failure → Prop where
  | line (text : String) (misnumbered : Misnumbered hint text) : Flaw hint (digitsFailure text)
  | value (long : Overlong hint) : Flaw hint Json.unspelled

/-- The failure comes of a flaw of the value as a hint. -/
def Blamed (value : Json) (failure : Failure) : Prop :=
  ∃ hint, value = .obj hint ∧ Flaw hint failure

theorem Flaw.blamed {failure : Failure} (flaw : Flaw hint failure) : Blamed (.obj hint) failure :=
  ⟨hint, rfl, flaw⟩

/-- The line is that of the container, or one that a hint gives. -/
def LineFrom (c : Container) (value : Json) (line : Int) : Prop :=
  line = c.info.line ∨ ∃ hint, value = .obj hint ∧ GivesLine hint line

/-! ## Readings of a hint -/

theorem returns_spelled {value : Json} (blamed : value.HasOverlong → Overlong hint) :
    Returns (.among (Flaw hint)) value.spelled fun _ => True := by
  rcases Json.failsIff_spelled value with ⟨inside, failed⟩ | ⟨-, text, written⟩
  · exact .inr ⟨_, .value (blamed inside), failed⟩
  · exact .inl ⟨text, written, trivial⟩

theorem returns_field {key : String} {value : Json} (asked : key ∈ textFields)
    (given : Json.field? hint key = some value) :
    Returns (.among (Flaw hint)) value.spelled fun _ => True :=
  returns_spelled (.text key asked value given)

theorem field?_of_presentField? {key : String} {value : Json}
    (present : Json.presentField? hint key = some value) : Json.field? hint key = some value :=
  (Option.filter_eq_some_iff.mp present).1

theorem hintKind_returns (hint : Hint) :
    Returns (.among (Flaw hint)) (hintKind hint) fun _ => True := by
  rw [hintKind, Json.spelledField]
  split
  next value given => exact returns_field (by decide) given
  next => exact returns_pure trivial

theorem hintVerb?_returns (hint : Hint) :
    Returns (.among (Flaw hint)) (hintVerb? hint) fun _ => True := by
  rw [hintVerb?]
  split
  next method present =>
    have written := returns_field (by decide) (field?_of_presentField? present)
    exact written.bind fun _ _ => returns_pure trivial
  next => exact (hintKind_returns hint).bind fun _ _ => returns_pure trivial

theorem hintRoute?_returns (hint : Hint) :
    Returns (.among (Flaw hint)) (hintRoute? hint) fun _ => True := by
  rw [hintRoute?]
  split
  next route found =>
    obtain ⟨key, mem, present⟩ := List.exists_of_findSome?_eq_some found
    have asked : key ∈ textFields := List.mem_cons_of_mem _ (List.mem_cons_of_mem _ mem)
    have written := returns_field asked (field?_of_presentField? present)
    exact written.bind fun _ _ => returns_pure trivial
  next => exact returns_pure trivial

theorem genericKind_returns (hint : Hint) :
    Returns (.among (Flaw hint)) (genericKind hint) fun _ => True := by
  rw [genericKind]
  split
  next kind present => exact returns_field (by decide) (field?_of_presentField? present)
  next => exact returns_pure trivial

/-- A decorated view function declares some verb. -/
theorem declaredVerbs_returns (hint : Hint) :
    Returns (.among (Flaw hint)) (declaredVerbs hint) fun methods => methods ≠ [] := by
  have default (known : List String) : (if known.isEmpty then ["GET"] else known) ≠ [] := by
    cases known with
    | nil => exact List.cons_ne_nil _ _
    | cons verb rest => exact List.cons_ne_nil _ _
  rw [declaredVerbs]
  split
  next items given =>
    have each : ∀ value ∈ items, Returns (.among (Flaw hint)) value.spelled fun _ => True :=
      fun value mem => returns_spelled (.verb items given value mem)
    exact (returns_mapM each).bind fun declared _ => returns_pure (default _)
  next => exact returns_pure (default _)

/-- The line of a hint gives way to that of the container, unless it is digits without a number. -/
theorem hintLine_returns (hint : Hint) (c : Container) :
    Returns (.among (Flaw hint)) (hintLine hint c) (LineFrom c (.obj hint)) := by
  have default : Returns (.among (Flaw hint)) (.ok c.info.line : Except Failure Int)
      (LineFrom c (.obj hint)) :=
    returns_pure (.inl rfl)
  have number {n : Int} (given : 0 < n → GivesLine hint n) :
      Returns (.among (Flaw hint))
        (.ok (if 0 < n then n else c.info.line) : Except Failure Int) (LineFrom c (.obj hint)) := by
    split
    next positive => exact returns_pure (.inr ⟨hint, rfl, given positive⟩)
    next => exact default
  rw [hintLine]
  cases field : Json.field? hint "line" with
  | none => exact default
  | some value =>
    cases value
    case int n => exact number fun positive => ⟨positive, .inl field⟩
    case str text =>
      rw [Json.lineOr]
      cases digits : Json.isDigits text with
      | false => exact default
      | true =>
        cases read : Decimal.integer? 10 text.toList with
        | some n => exact number fun positive => ⟨positive, .inr ⟨text, field, digits, read⟩⟩
        | none =>
          refine .inr ⟨_, .line text ⟨field, digits, read⟩, ?_⟩
          simp only [Bool.not_true, Bool.false_eq_true, ↓reduceIte, digitsFailure]
          split <;> rfl
    all_goals exact default

/-! ## Single hints -/

/-- What a hint of a framework stands for lies in the container, at the line that is given. -/
theorem hintFindings_returns (ctx : Context) (c : Container) (hint : Hint) (kind : String)
    (origin : Origin) (line : Int) :
    Returns (.among (Flaw hint)) (hintFindings ctx c hint kind origin line) fun found =>
      ∀ e ∈ found, Specific look ctx.path c.name e ∧ e.line = line := by
  have single {framework : String} (known : framework ≠ noFramework)
      (kind method route source : String) : Returns (.among (Flaw hint))
        (.ok [endpoint ctx c line kind framework method route source]) fun found =>
          ∀ e ∈ found, Specific look ctx.path c.name e ∧ e.line = line :=
    returns_pure (List.forall_mem_singleton.mpr (specific_endpoint known line _ _ _ _))
  cases origin with
  | generic => exact returns_pure nofun
  | express =>
    refine (hintVerb?_returns hint).bind fun _ _ => (hintRoute?_returns hint).bind fun _ _ => ?_
    split
    · exact single (by decide) _ _ _ _
    · exact returns_pure nofun
  | nest =>
    refine (hintVerb?_returns hint).bind fun _ _ => (hintRoute?_returns hint).bind fun _ _ => ?_
    split
    · exact single (by decide) _ _ _ _
    · exact returns_pure nofun
  | django =>
    rw [hintFindings]
    split
    · refine (declaredVerbs_returns hint).bind fun methods _ => returns_pure fun e mem => ?_
      obtain ⟨method, -, rfl⟩ := List.mem_map.mp mem
      exact specific_endpoint (by decide) _ _ _ _ _
    · refine (hintVerb?_returns hint).bind fun _ _ => ?_
      split
      · split
        · exact single (by decide) _ _ _ _
        · exact single (by decide) _ _ _ _
      · exact returns_pure nofun

theorem adds_verdictOf {found : List Endpoint} {good : Endpoint → Prop}
    (each : ∀ e ∈ found, good e) : (verdictOf found).Adds good True := by
  cases found with
  | nil => trivial
  | cons first more => exact each

/-- Judging a hint can fail only for a flaw, and what it finds lies in the container. -/
theorem judge_returns (ctx : Context) (c : Container) (value : Json) :
    Returns (.among (Blamed value)) (judge ctx c value)
      (Verdict.Adds (fun e => Specific look ctx.path c.name e ∧ LineFrom c value e.line) True) := by
  cases value
  case obj hint =>
    have judged : Returns (.among (Flaw hint)) (judge ctx c (.obj hint)) (Verdict.Adds
        (fun e => Specific look ctx.path c.name e ∧ LineFrom c (.obj hint) e.line) True) := by
      refine (hintKind_returns hint).bind fun kind _ => ?_
      split
      · exact returns_pure trivial
      · split
        · exact returns_pure trivial
        · refine (hintLine_returns hint c).bind fun line source => ?_
          refine (hintFindings_returns ctx c hint kind _ line).bind fun found made => ?_
          refine returns_pure (adds_verdictOf fun e mem => ?_)
          obtain ⟨specific, same⟩ := made e mem
          exact ⟨specific, same ▸ source⟩
    exact judged.weaken (fun _ flaw => flaw.blamed) fun _ adds => adds
  all_goals exact returns_pure trivial

/-- So does a hint that belongs to no framework. -/
theorem genericFinding_returns (ctx : Context) (c : Container) (value : Json) :
    Returns (.among (Blamed value)) (genericFinding ctx c value) fun o =>
      ∀ e ∈ o, Generic look ctx.path c.name e ∧ LineFrom c value e.line := by
  cases value
  case obj hint =>
    have taken : Returns (.among (Flaw hint)) (genericFinding ctx c (.obj hint)) fun o =>
        ∀ e ∈ o, Generic look ctx.path c.name e ∧ LineFrom c (.obj hint) e.line := by
      refine (hintVerb?_returns hint).bind fun _ _ => (hintRoute?_returns hint).bind fun _ _ => ?_
      split
      · refine (hintLine_returns hint c).bind fun line source => ?_
        refine (genericKind_returns hint).bind fun kind _ => returns_pure fun e made => ?_
        cases made
        exact ⟨⟨rfl, rfl, rfl⟩, source⟩
      · exact returns_pure nofun
    exact taken.weaken (fun _ flaw => flaw.blamed) fun _ found => found
  all_goals exact returns_pure nofun

/-! ## Files -/

/-- The value is a hint in one of the containers. -/
def IsHint (a : FileAnalysis) (value : Json) : Prop :=
  ∃ c ∈ containers a, value ∈ c.info.routeHints

/-- The failure comes of a flaw of some hint in the file. -/
def Blames (a : FileAnalysis) (failure : Failure) : Prop :=
  ∃ value, IsHint a value ∧ Blamed value failure

/-- The route is in the file. In a container it is at the line of the container or at
a positive one that a hint gives, else at the line of its class. -/
structure Sited (path : String) (a : FileAnalysis) (e : Endpoint) : Prop where
  file : e.file = path
  line : (∃ c ∈ containers a, e.container = some c.name ∧
      (e.line = c.info.line ∨ ∃ hint, IsHint a (.obj hint) ∧ GivesLine hint e.line)) ∨
    ∃ klass ∈ a.classes, e.container = some klass.1 ∧ e.line = klass.2.line

section

variable {path : String} {a : FileAnalysis} {e : Endpoint}

theorem sited_of_hint {value : Json} (there : c ∈ containers a) (known : IsHint a value)
    (file : e.file = path) (container : e.container = some c.name)
    (line : LineFrom c value e.line) : Sited path a e := by
  refine ⟨file, .inl ⟨c, there, container, ?_⟩⟩
  rcases line with own | ⟨hint, rfl, given⟩
  · exact .inl own
  · exact .inr ⟨hint, known, given⟩

theorem sited_of_container (there : c ∈ containers a) (specific : Specific look path c.name e)
    (line : e.line = c.info.line) : Sited path a e :=
  ⟨specific.file, .inl ⟨c, there, specific.container, .inl line⟩⟩

theorem sited_of_classDefaults {found : List Endpoint}
    (mem : e ∈ classDefaults (contextOf path a) found) : Sited path a e := by
  obtain ⟨klass, there, specific, line⟩ := specific_classDefaults mem
  exact ⟨specific.file, .inr ⟨klass, there, specific.container, line⟩⟩

/-- Looking for the routes of a file can fail only for a flaw of a hint in it. -/
theorem detectFile_returns (path : String) (a : FileAnalysis) :
    Returns (.among (Blames a)) (detectFile path a) fun found => ∀ e ∈ found, Sited path a e := by
  -- A hint put aside is judged again in a container of the same name, so all that is
  -- known of it there is that it belongs to some container of the file.
  have start : Ledger.Holds (Sited path a) (IsHint a) {} := .start nofun
  have judged : ∀ c ∈ containers a, ∀ value ∈ c.info.routeHints,
      Returns (.among (Blames a)) (judge (contextOf path a) c value)
        (Verdict.Adds (Sited path a) (IsHint a value)) := by
    intro c there value hint
    have known : IsHint a value := ⟨c, there, hint⟩
    refine (judge_returns _ c value).weaken (fun _ blamed => ⟨value, known, blamed⟩) ?_
    intro verdict adds
    refine (adds.imp ?_).put_aside known
    intro e ⟨specific, line⟩
    exact sited_of_hint there known specific.file specific.container line
  have taken : ∀ c ∈ containers a, ∀ value, IsHint a value →
      Returns (.among (Blames a)) (genericFinding (contextOf path a) c value)
        fun o => ∀ e ∈ o, Sited path a e := by
    intro c there value known
    refine (genericFinding_returns _ c value).weaken (fun _ blamed => ⟨value, known, blamed⟩) ?_
    intro o found e made
    obtain ⟨generic, line⟩ := found e made
    exact sited_of_hint there known generic.file generic.container line
  refine (start.judgeSignals judged).bind fun l holds => ?_
  have matched : (l.matchStructure (structuralFindings (contextOf path a))
      (containers a)).Holds (Sited path a) (IsHint a) := by
    refine holds.matchStructure fun c there e mem => ?_
    obtain ⟨specific, line⟩ := specific_structuralFindings mem
    exact sited_of_container there specific line
  have defaults : ∀ found, ∀ e ∈ classDefaults (contextOf path a) found, Sited path a e :=
    fun found e mem => sited_of_classDefaults mem
  refine ((matched.note (defaults _)).takePending taken).bind fun l holds => returns_pure ?_
  split
  · refine (holds.matchNames fun c there e made => ?_).findings
    obtain ⟨specific, line⟩ := specific_namedFinding made
    exact sited_of_container there specific line
  · exact holds.findings

/-- A hint gives its line as a number, if at all, and nothing that is not written out. -/
def Legible : Json → Prop
  | .obj hint => (∀ text, Json.field? hint "line" ≠ some (.str text)) ∧ ¬ Overlong hint
  | _ => True

theorem Legible.not_blamed {value : Json} {failure : Failure} (legible : Legible value) :
    ¬ Blamed value failure := by
  rintro ⟨hint, rfl, flaw⟩
  cases flaw with
  | line text misnumbered => exact legible.1 text misnumbered.line
  | value long => exact legible.2 long

theorem mem_of_field? {hint : Hint} {key : String} {value : Json}
    (given : Json.field? hint key = some value) : (key, value) ∈ hint := by
  obtain ⟨entry, found, rfl⟩ := Option.map_eq_some_iff.mp given
  obtain rfl : entry.1 = key := by simpa using List.find?_some found
  exact List.mem_of_find?_eq_some found

/-- A hint is legible that has no text for a line and is written out besides. -/
theorem legible_of_fields {hint : Hint} (numbered : ∀ text, ("line", .str text) ∉ hint)
    (written : ∀ entry ∈ hint, entry.1 ≠ "line" → ¬ entry.2.HasOverlong) :
    Legible (.obj hint) := by
  refine ⟨fun text given => numbered text (mem_of_field? given), fun long => ?_⟩
  cases long with
  | text key asked value given inside =>
    have other : key ≠ "line" := by
      rintro rfl
      exact absurd asked (by decide)
    exact written _ (mem_of_field? given) other inside
  | verb items given value mem inside =>
    have other : "methods" ≠ "line" := by decide
    exact written _ (mem_of_field? given) other (.item mem inside)

/-- Routes are found in a file whose hints are legible. -/
theorem exists_detectFile (path : String)
    (legible : ∀ c ∈ containers a, ∀ value ∈ c.info.routeHints, Legible value) :
    ∃ found, detectFile path a = .ok found ∧ ∀ e ∈ found, e.file = path := by
  rcases detectFile_returns path a with ⟨found, returned, sited⟩ | ⟨failure, blames, -⟩
  · exact ⟨found, returned, fun e mem => (sited e mem).file⟩
  · obtain ⟨value, ⟨c, there, hint⟩, blamed⟩ := blames
    exact absurd blamed (legible c there value hint).not_blamed

end

/-! ## Corpora -/

/-- The route is in one of the files that the detector looks at. -/
def SitedIn (corpus : Corpus) (e : Endpoint) : Prop :=
  ∃ entry ∈ corpus.usable, Sited entry.1 entry.2 e

/-- The failure comes of a flaw of some hint in one of these files. -/
def BlamedIn (corpus : Corpus) (failure : Failure) : Prop :=
  ∃ entry ∈ corpus.usable, Blames entry.2 failure

theorem detect_returns (corpus : Corpus) :
    Returns (.among (BlamedIn corpus)) (detect corpus) fun found =>
      ∀ e ∈ found, SitedIn corpus e := by
  have each : ∀ entry ∈ corpus.usable,
      Returns (.among (BlamedIn corpus)) (detectFile entry.1 entry.2) fun found =>
        ∀ e ∈ found, SitedIn corpus e := by
    intro entry usable
    refine (detectFile_returns entry.1 entry.2).weaken (fun _ blames => ⟨entry, usable, blames⟩) ?_
    exact fun found sited e mem => ⟨entry, usable, sited e mem⟩
  refine (returns_mapM each).bind fun results sited => returns_pure fun e mem => ?_
  obtain ⟨found, there, mem⟩ := List.mem_flatten.mp (List.mem_mergeSort.mp mem)
  exact sited found there e mem

/-- In a corpus with arbitrary hints the routes are found, each at the line of its
container or class or at a positive one that a hint gives, unless the line of some hint
consists of digits that make no number, or some hint has an overlong integer where a
text is read. -/
theorem detect_or_flawed (corpus : Corpus) :
    (∃ found, detect corpus = .ok found ∧ ∀ e ∈ found, SitedIn corpus e) ∨
    ∃ failure, detect corpus = .error failure ∧
      ∃ entry ∈ corpus.usable, ∃ c ∈ containers entry.2, ∃ hint,
        .obj hint ∈ c.info.routeHints ∧
          ((∃ text, Misnumbered hint text ∧ failure = digitsFailure text) ∨
            (Overlong hint ∧ failure = Json.unspelled)) := by
  rcases detect_returns corpus with ⟨found, returned, sited⟩ | ⟨failure, blamed, failed⟩
  · exact .inl ⟨found, returned, sited⟩
  · obtain ⟨entry, usable, value, ⟨c, there, known⟩, hint, rfl, flaw⟩ := blamed
    refine .inr ⟨failure, failed, entry, usable, c, there, hint, known, ?_⟩
    cases flaw with
    | line text misnumbered => exact .inl ⟨text, misnumbered, rfl⟩
    | value long => exact .inr ⟨long, rfl⟩

theorem hintKind_of_overlong {value : Json} (given : Json.field? hint "type" = some value)
    (inside : value.HasOverlong) : hintKind hint = .error Json.unspelled := by
  rw [hintKind, Json.spelledField, given]
  exact (Json.failsIff_spelled value).eq_error inside

/-- The type of every hint is read, so an overlong integer in one ends the search for routes. -/
theorem not_detect_of_overlong_type {corpus : Corpus} {entry : String × FileAnalysis}
    (usable : entry ∈ corpus.usable) (there : c ∈ containers entry.2)
    (known : .obj hint ∈ c.info.routeHints) {value : Json}
    (given : Json.field? hint "type" = some value) (inside : value.HasOverlong) :
    ¬ ∃ found, detect corpus = .ok found := by
  rintro ⟨found, returned⟩
  obtain ⟨results, each, -⟩ := Outcome.exists_of_bind_ok returned
  obtain ⟨routes, file⟩ := Outcome.exists_of_mapM_ok each entry usable
  obtain ⟨judged, signals, -⟩ := Outcome.exists_of_bind_ok file
  obtain ⟨before, after, container⟩ := Outcome.exists_step_of_mem signals c there
  obtain ⟨before', after', signal⟩ := Outcome.exists_step_of_mem container _ known
  obtain ⟨verdict, judge, -⟩ := Outcome.exists_of_bind_ok signal
  obtain ⟨kind, written, -⟩ := Outcome.exists_of_bind_ok judge
  rw [hintKind_of_overlong given inside] at written
  cases written

/-- A hint whose line is a raised two. -/
def superscriptHint : Hint :=
  [("type", .str "express_route"), ("method", .str "get"), ("route", .str "/x"), ("line", .str "²")]

/-- A script with this hint. -/
def superscriptScript : FileAnalysis where
  path := "a.js"
  language := "javascript"
  imports := [("express", ["express"])]
  functions := [("f()", { line := 3, routeHints := [.obj superscriptHint] })]

/-- The line of one hint ends the search for routes in a whole corpus. -/
theorem not_detect_superscript :
    detect [("a.js", superscriptScript)] = .error (.badLine "²") ∧
      ¬ ∀ corpus : Corpus, ∃ found, detect corpus = .ok found := by
  have failed : detect [("a.js", superscriptScript)] = .error (.badLine "²") := by
    have failure : (match detect [("a.js", superscriptScript)] with
        | .ok _ => none
        | .error failure => some failure) = some (.badLine "²") := by
      decide +kernel
    split at failure
    next => cases failure
    next outcome => rw [outcome, Option.some.inj failure]
  refine ⟨failed, fun total => ?_⟩
  obtain ⟨found, returned⟩ := total [("a.js", superscriptScript)]
  rw [failed] at returned
  cases returned

end Detection.Route

end RepoSurvey
