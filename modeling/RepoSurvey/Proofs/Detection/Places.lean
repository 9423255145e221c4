import RepoSurvey.Detection.Event
import RepoSurvey.Detection.Route
import RepoSurvey.Detection.State
import RepoSurvey.Proofs.Detection.Ledger

/-!
# Findings name their place

Whatever a detector finds carries the path under which the file was given to
it, the name of the container or class that it was found in, and a framework.
The sure ways to find something name a framework (`Specific`), the vague ones
none (`Generic`), except that routes which a name suggests count for Express.

There is one lemma for each way to find something, but for the hints of routes,
whose reading may fail. Together they say what the ledgers that collect findings
hold (`State.file_detectFile`, `Event.file_detectFile`).
-/

namespace RepoSurvey.Detection

/-- How findings of some type are read: the file, the framework, and the container or class
that they name. -/
structure Look (α : Type) where
  file : α → String
  framework : α → String
  container : α → Option String

/-- What stands for the framework of a finding that belongs to none. -/
def noFramework : String := "Generic"

/-- A finding of a framework, under a name in a file. -/
structure Specific {α : Type} (look : Look α) (path name : String) (found : α) : Prop where
  file : look.file found = path
  container : look.container found = some name
  framework : look.framework found ≠ noFramework

/-- A finding of no framework, under a name in a file. -/
structure Generic {α : Type} (look : Look α) (path name : String) (found : α) : Prop where
  file : look.file found = path
  container : look.container found = some name
  framework : look.framework found = noFramework

/-! ## Changes of state -/

namespace State

/-- How changes of state are read. -/
def look : Look StateChange where
  file := StateChange.file
  framework := StateChange.framework
  container := StateChange.container

variable {ctx : Context} {c : Container} {found : StateChange}

theorem specific_change {name framework : String} (known : framework ≠ noFramework) (line : Int)
    (kind variableName mutation source : String) :
    Specific look ctx.path name
      (change ctx name line kind framework variableName mutation source) :=
  ⟨rfl, rfl, known⟩

theorem specific_classChanges {name : String} {klass : ClassDef}
    (mem : found ∈ classChanges ctx name klass) : Specific look ctx.path name found := by
  rw [classChanges] at mem
  rcases List.mem_append.mp mem with model | observed
  · split at model
    · rw [List.mem_singleton.mp model]
      exact specific_change (by decide) _ _ _ _ _
    · cases model
  · split at observed
    · rw [List.mem_singleton.mp observed]
      exact specific_change (by decide) _ _ _ _ _
    · cases observed

theorem specific_methodChange? {klass : ClassDef}
    (made : methodChange? ctx c klass = some found) : Specific look ctx.path c.name found := by
  simp only [methodChange?] at made
  split at made
  · cases made
    exact specific_change (by decide) _ _ _ _ _
  · split at made
    · cases made
      exact specific_change (by decide) _ _ _ _ _
    · split at made
      · cases made
        exact specific_change (by decide) _ _ _ _ _
      · obtain ⟨-, made⟩ := Option.ite_none_right_eq_some.mp made
        obtain ⟨mutation, -, rfl⟩ := Option.map_eq_some_iff.mp made
        exact specific_change (by decide) _ _ _ _ _

theorem specific_structuralChange? (made : structuralChange? ctx c = some found) :
    Specific look ctx.path c.name found := by
  rw [structuralChange?] at made
  split at made
  next klass _ => exact specific_methodChange? made
  next =>
    obtain ⟨change?, mem, made⟩ := List.exists_of_findSome?_eq_some made
    simp only [List.mem_cons, List.not_mem_nil, or_false] at mem
    rcases mem with rfl | rfl | rfl | rfl
    · grind [componentChange?, specific_change, noFramework]
    · grind [toolkitChange?, specific_change, noFramework]
    · grind [reduxFunctionChange?, specific_change, noFramework]
    · grind [otherFunctionChange?, specific_change, noFramework]

theorem specific_tagChange? {tag : String} (made : tagChange? ctx c tag = some found) :
    Specific look ctx.path c.name found := by
  grind [tagChange?, specific_change, noFramework]

theorem generic_genericChange? {tag : String} (made : genericChange? ctx c tag = some found) :
    Generic look ctx.path c.name found := by
  obtain ⟨word, -, rfl⟩ := Option.map_eq_some_iff.mp made
  exact ⟨rfl, rfl, rfl⟩

theorem generic_namedChange? (made : namedChange? ctx c = some found) :
    Generic look ctx.path c.name found := by
  obtain ⟨-, made⟩ := Option.ite_none_right_eq_some.mp made
  cases made
  exact ⟨rfl, rfl, rfl⟩

theorem judge_adds (tag : String) {aside : Prop} (h : aside) :
    (judge ctx c tag).Adds (Specific look ctx.path c.name) aside := by
  rw [judge]
  split
  next f made => exact List.forall_mem_singleton.mpr (specific_tagChange? made)
  next => exact h

/-- The changes of state in a file carry its path. -/
theorem file_detectFile {path : String} {a : FileAnalysis} (mem : found ∈ detectFile path a) :
    found.file = path := by
  have start : Ledger.Holds (fun f => StateChange.file f = path) (fun _ : String => True) {
      findings := a.classes.flatMap fun klass =>
        classChanges (contextOf path a) klass.1 klass.2 } := by
    refine .start fun f mem => ?_
    obtain ⟨klass, -, mem⟩ := List.mem_flatMap.mp mem
    exact (specific_classChanges mem).file
  refine (start.rounds _ _ _ _ _ (fun c tag => ?_) (fun c f mem => ?_) (fun c tag _ f made => ?_)
    (fun c f made => ?_)).findings found mem
  · exact (judge_adds tag trivial).imp fun f specific => specific.file
  · exact (specific_structuralChange? (Option.mem_toList.mp mem)).file
  · exact (generic_genericChange? made).file
  · exact (generic_namedChange? made).file

end State

/-! ## Events -/

namespace Event

/-- How events are read. -/
def look : Look EventRecord where
  file := EventRecord.file
  framework := EventRecord.framework
  container := EventRecord.container

variable {ctx : Context} {c : Container} {found : EventRecord}

theorem specific_record {framework : String} (known : framework ≠ noFramework) (line : Int)
    (kind event source : String) (more : Table Json) :
    Specific look ctx.path c.name (record ctx c line kind framework event source more) :=
  ⟨rfl, rfl, known⟩

theorem generic_record (line : Int) (kind event source : String) (more : Table Json) :
    Generic look ctx.path c.name (record ctx c line kind noFramework event source more) :=
  ⟨rfl, rfl, rfl⟩

theorem specific_formRecord (tag : String) (form : Form) :
    Specific look ctx.path c.name (formRecord ctx c tag form) := by
  cases form
  all_goals exact specific_record (by decide) _ _ _ _ _

theorem specific_structuralRecord? (made : structuralRecord? ctx c = some found) :
    Specific look ctx.path c.name found := by
  have python {f : EventRecord} (made : pythonRecord? ctx c = some f) :
      Specific look ctx.path c.name f := by
    grind [pythonRecord?, specific_record, noFramework]
  grind [structuralRecord?, specific_record, noFramework]

theorem generic_genericRecord (tag : String) :
    Generic look ctx.path c.name (genericRecord ctx c tag) :=
  generic_record _ _ _ _ _

theorem generic_namedRecord? (made : namedRecord? ctx c = some found) :
    Generic look ctx.path c.name found := by
  simp only [namedRecord?] at made
  split at made
  · rw [← Option.some.inj made]
    exact generic_record _ _ _ _ _
  · cases made

theorem judge_adds (tag : String) {aside : Prop} (h : aside) :
    (judge ctx c tag).Adds (Specific look ctx.path c.name) aside := by
  unfold judge
  split
  next form _ => exact List.forall_mem_singleton.mpr (specific_formRecord tag form)
  next => exact h

/-- The events in a file carry its path. -/
theorem file_detectFile {path : String} {a : FileAnalysis} (mem : found ∈ detectFile path a) :
    found.file = path := by
  have start : Ledger.Holds (fun f => EventRecord.file f = path) (fun _ : String => True) {} :=
    .start nofun
  refine (start.rounds _ _ _ _ _ (fun c tag => ?_) (fun c f mem => ?_) (fun c tag _ f made => ?_)
    (fun c f made => ?_)).findings found mem
  · exact (judge_adds tag trivial).imp fun f specific => specific.file
  · exact (specific_structuralRecord? (Option.mem_toList.mp mem)).file
  · have generic : Generic look (contextOf path a).path c.name
        (genericRecord (contextOf path a) c tag) :=
      generic_genericRecord tag
    rw [← Option.some.inj made]
    exact generic.file
  · exact (generic_namedRecord? made).file

end Event

/-! ## Routes -/

namespace Route

/-- How routes are read. -/
def look : Look Endpoint where
  file := Endpoint.file
  framework := Endpoint.framework
  container := Endpoint.container

variable {ctx : Context} {c : Container} {found : Endpoint}

theorem specific_endpoint {framework : String} (known : framework ≠ noFramework) (line : Int)
    (kind method route source : String) :
    Specific look ctx.path c.name (endpoint ctx c line kind framework method route source) ∧
      (endpoint ctx c line kind framework method route source).line = line :=
  ⟨⟨rfl, rfl, known⟩, rfl⟩

theorem specific_structuralFindings (mem : found ∈ structuralFindings ctx c) :
    Specific look ctx.path c.name found ∧ found.line = c.info.line := by
  have controller {klass : ClassDef} {f : Endpoint} (mem : f ∈ controllerFindings ctx c klass) :
      Specific look ctx.path c.name f ∧ f.line = c.info.line := by
    obtain ⟨d, -, made⟩ := List.mem_filterMap.mp mem
    obtain ⟨method, -, rfl⟩ := Option.map_eq_some_iff.mp made
    exact specific_endpoint (by decide) _ _ _ _ _
  grind [structuralFindings, specific_endpoint, noFramework]

/-- What a view class without a handler counts as. -/
theorem specific_classDefaults {others : List Endpoint}
    (mem : found ∈ classDefaults ctx others) :
    ∃ klass ∈ ctx.analysis.classes,
      Specific look ctx.path klass.1 found ∧ found.line = klass.2.line := by
  rw [classDefaults] at mem
  split at mem
  · cases mem
  · obtain ⟨⟨name, klass⟩, view, rfl⟩ := List.mem_map.mp mem
    refine ⟨(name, klass), (List.mem_filter.mp view).1, ⟨rfl, rfl, ?_⟩, rfl⟩
    show (if isRestView klass then "Django REST Framework" else "Django") ≠ noFramework
    split <;> decide

theorem specific_namedFinding (made : namedFinding ctx c = some found) :
    Specific look ctx.path c.name found ∧ found.line = c.info.line := by
  obtain ⟨word, -, made⟩ := List.exists_of_findSome?_eq_some made
  obtain ⟨resource, -, rfl⟩ := Option.map_eq_some_iff.mp made
  exact specific_endpoint (by decide) _ _ _ _ _

theorem framework_namedFinding (made : namedFinding ctx c = some found) :
    found.framework = "Express" := by
  obtain ⟨word, -, made⟩ := List.exists_of_findSome?_eq_some made
  obtain ⟨resource, -, rfl⟩ := Option.map_eq_some_iff.mp made
  rfl

end Route

end RepoSurvey.Detection
