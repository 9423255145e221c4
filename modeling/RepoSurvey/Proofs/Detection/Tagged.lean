import RepoSurvey.Proofs.Detection.Rounds

/-!
# The lines of tags

Events and changes of state are found in the same rounds, so what goes for both is said of a
`TagDetector`: which tags belong to a library, what such a tag stands for, and what any other one
means. A finding names the tag that it was made of as its source.

A tag that belongs to a library is found in the container that carries it, at its line there. Any
other tag is put aside under the name of its container and counts in the first container of that
name, so its line is the one that the first container has for it, even if another one carries it
(`tags_traced`). Among functions of one name that is the wrong line (`line_of_namesake`).
-/

namespace RepoSurvey.Detection

variable {α : Type}

/-- A detector that goes by the tags of containers. -/
structure TagDetector (α : Type) where
  look : Look α
  source : α → Option String
  line : α → Int
  /-- The tags of a container. -/
  tags : Container → List String
  /-- The tag belongs to a library. -/
  known : String → Bool
  judge : Container → String → Verdict α
  /-- What the classes of the file are. -/
  classes : List α
  structural : Container → List α
  generic : Container → String → Option α
  naming : Container → Option α

namespace TagDetector

variable {d : TagDetector α} {cs : List Container} {c : Container} {tag : String} {f : α}

/-- The finding is in the container and names the tag as its source. -/
structure OfTag (d : TagDetector α) (c : Container) (tag : String) (f : α) : Prop where
  container : d.look.container f = some c.name
  source : d.source f = some tag

/-- What the parts of a detector have in common. -/
structure Lawful (d : TagDetector α) : Prop where
  judged : ∀ c tag, (d.known tag = false ∧ d.judge c tag = .undecided) ∨
    (d.known tag = true ∧ ∃ f, d.judge c tag = .found f [] ∧ d.OfTag c tag f ∧
      d.look.framework f ≠ noFramework ∧ d.line f = c.info.lineFor tag)
  classes : ∀ f ∈ d.classes, d.look.framework f ≠ noFramework ∧
    ∀ tag, d.known tag = true → d.source f ≠ some tag
  structural : ∀ c, ∀ f ∈ d.structural c,
    d.look.container f = some c.name ∧ d.look.framework f ≠ noFramework
  generic : ∀ c tag f, d.generic c tag = some f →
    d.OfTag c tag f ∧ d.look.framework f = noFramework ∧ d.line f = c.info.lineFor tag
  alike : ∀ c c' tag, (d.generic c tag).isSome = (d.generic c' tag).isSome
  naming : ∀ c f, d.naming c = some f →
    d.look.container f = some c.name ∧ d.look.framework f = noFramework

/-- The ledger before names are looked at. -/
def early (d : TagDetector α) (cs : List Container) : Ledger String α :=
  ({ findings := d.classes } : Ledger String α).beforeNames d.tags d.judge d.structural d.generic cs

/-- All that is found. -/
def found (d : TagDetector α) (cs : List Container) : List α :=
  (d.early cs).findings ++ (d.early cs).named d.naming cs

/-- Where a finding comes from, and at which line it is. -/
inductive Traced (d : TagDetector α) (cs : List Container) (f : α) : Prop where
  /-- A tag that belongs to a library, at its line in the container that carries it. -/
  | known (c : Container) (tag : String) (there : c ∈ cs) (carries : tag ∈ d.tags c)
      (known : d.known tag = true) (made : d.OfTag c tag f) (line : d.line f = c.info.lineFor tag)
  /-- Any other tag, at its line in the first container of the name. -/
  | vague (c first : Container) (tag : String) (there : c ∈ cs) (carries : tag ∈ d.tags c)
      (unknown : d.known tag = false) (made : d.OfTag c tag f)
      (leads : cs.find? (fun e => e.name == c.name) = some first)
      (line : d.line f = first.info.lineFor tag)
  /-- No tag, but what a container is or what its name suggests. -/
  | container (c : Container) (there : c ∈ cs)
      (made : f ∈ d.structural c ∨ d.naming c = some f)
  /-- No tag, but what a class is. -/
  | klass (made : f ∈ d.classes)

theorem Lawful.traced (h : d.Lawful) (mem : f ∈ d.found cs) : d.Traced cs f := by
  rcases List.mem_append.mp mem with early | late
  · rcases Ledger.exists_of_mem_beforeNames rfl h.alike early with
      klass | ⟨c, there, tag, carries, judged⟩ | ⟨c, there, structural⟩ |
        ⟨c, there, tag, carries, open_, first, leads, means⟩
    · exact .klass klass
    · rcases h.judged c tag with ⟨-, undecided⟩ | ⟨known, g, decided, made, -, line⟩
      · rw [undecided] at judged
        cases judged
      · rw [decided] at judged
        obtain rfl := List.mem_singleton.mp judged
        exact .known c tag there carries known made line
    · exact .container c there (.inl structural)
    · rcases h.judged c tag with ⟨unknown, -⟩ | ⟨-, g, decided, -⟩
      · obtain ⟨made, -, line⟩ := h.generic first tag f means
        have same : first.name = c.name := by
          simpa only [beq_iff_eq] using List.find?_some leads
        have here : d.OfTag c tag f := ⟨same ▸ made.container, made.source⟩
        exact .vague c first tag there carries unknown here leads line
      · rw [decided] at open_
        cases open_
  · obtain ⟨c, there, -, named⟩ := Ledger.exists_of_mem_named late
    exact .container c there (.inr named)

end TagDetector

/-- The source that a finding names among its details. -/
def sourceOf (details : Table Json) : Option String :=
  match details.get? "source" with
  | some (.str source) => some source
  | _ => none

/-! ## Events -/

namespace Event

/-- The detector of events in a file. -/
def detector (path : String) (a : FileAnalysis) : TagDetector EventRecord where
  look := look
  source := fun f => sourceOf f.details
  line := EventRecord.line
  tags := fun c => c.info.eventTags
  known := fun tag => (form? (contextOf path a) tag).isSome
  judge := judge (contextOf path a)
  classes := []
  structural := fun c => (structuralRecord? (contextOf path a) c).toList
  generic := fun c tag => some (genericRecord (contextOf path a) c tag)
  naming := namedRecord? (contextOf path a)

variable {path : String} {a : FileAnalysis}

theorem tells_formRecord_source (ctx : Context) (c : Container) (tag : String) (form : Form) :
    sourceOf (formRecord ctx c tag form).details = some tag ∧
      (formRecord ctx c tag form).line = c.info.lineFor tag := by
  cases form <;> exact ⟨rfl, rfl⟩

theorem lawful_detector (path : String) (a : FileAnalysis) : (detector path a).Lawful := by
  rw [detector]
  constructor
  case judged =>
    intro c tag
    dsimp only [judge]
    cases form? (contextOf path a) tag with
    | none => exact .inl ⟨rfl, rfl⟩
    | some form =>
      have specific := @specific_formRecord (contextOf path a) c tag form
      obtain ⟨source, line⟩ := tells_formRecord_source (contextOf path a) c tag form
      exact .inr ⟨rfl, _, rfl, ⟨specific.container, source⟩, specific.framework, line⟩
  case classes => exact nofun
  case structural =>
    intro c f mem
    dsimp only at mem
    have specific := specific_structuralRecord? (Option.mem_toList.mp mem)
    exact ⟨specific.container, specific.framework⟩
  case generic =>
    intro c tag f made
    dsimp only at made
    cases made
    exact ⟨⟨rfl, rfl⟩, rfl, rfl⟩
  case alike =>
    intro c c' tag
    dsimp only [Option.isSome_some]
  case naming =>
    intro c f made
    dsimp only at made
    have generic := generic_namedRecord? made
    exact ⟨generic.container, generic.framework⟩

theorem detectFile_eq_found (path : String) (a : FileAnalysis) :
    detectFile path a = (detector path a).found (containers a) := by
  have early : (detector path a).early (containers a) = beforeNames path a := by
    rw [TagDetector.early, detector, beforeNames]
  have naming : (detector path a).naming = namedRecord? (contextOf path a) := by
    rw [detector]
  rw [TagDetector.found, early, naming]
  exact (exclusive_detectFile path a).parts

end Event

/-! ## Changes of state -/

namespace State

/-- The detector of changes of state in a file. -/
def detector (path : String) (a : FileAnalysis) : TagDetector StateChange where
  look := look
  source := fun f => sourceOf f.details
  line := StateChange.line
  tags := fun c => c.info.stateTags
  known := fun tag => originOf (contextOf path a) tag != .generic
  judge := judge (contextOf path a)
  classes := (ofClasses path a).findings
  structural := fun c => (structuralChange? (contextOf path a) c).toList
  generic := genericChange? (contextOf path a)
  naming := namedChange? (contextOf path a)

variable {path : String} {a : FileAnalysis}

theorem source_tagChange? {ctx : Context} {c : Container} {tag : String} {f : StateChange}
    (made : tagChange? ctx c tag = some f) :
    sourceOf f.details = some tag ∧ f.line = c.info.lineFor tag := by
  rw [tagChange?] at made
  split at made
  all_goals cases made
  all_goals exact ⟨rfl, rfl⟩

theorem isSome_tagChange? (ctx : Context) (c : Container) (tag : String) :
    (tagChange? ctx c tag).isSome = (originOf ctx tag != .generic) := by
  rw [tagChange?]
  cases originOf ctx tag <;> rfl

/-- No library knows the word, whatever the file imports. -/
def isUnknown (word : String) : Bool :=
  !(modelCall.occurs word || begins mobxCall word || isDispatch word || word == selectorTag ||
    reactWords.any (Text.holds word) || begins setterCall word)

theorem originOf_of_isUnknown {word : String} (unknown : isUnknown word = true) (ctx : Context) :
    originOf ctx word = .generic := by
  simp only [isUnknown, Bool.not_eq_true', Bool.or_eq_false_iff] at unknown
  obtain ⟨⟨⟨⟨⟨model, mobx⟩, dispatch⟩, selector⟩, react⟩, setter⟩ := unknown
  simp [originOf, model, mobx, dispatch, selector, react, setter]

/-- What a class is does not go back to a tag of a library. -/
theorem source_classChanges {ctx : Context} {name tag : String} {klass : ClassDef} {f : StateChange}
    (mem : f ∈ classChanges ctx name klass) (known : (originOf ctx tag != .generic) = true) :
    sourceOf f.details ≠ some tag := by
  have sources : ∀ word ∈ ["model_class", "class_decorator"], isUnknown word = true := by
    decide +kernel
  have source : ∃ word ∈ ["model_class", "class_decorator"], sourceOf f.details = some word := by
    rw [classChanges] at mem
    rcases List.mem_append.mp mem with model | observed
    · split at model
      · exact ⟨_, List.mem_cons_self, List.mem_singleton.mp model ▸ rfl⟩
      · cases model
    · split at observed
      · exact ⟨_, List.mem_cons_of_mem _ List.mem_cons_self, List.mem_singleton.mp observed ▸ rfl⟩
      · cases observed
  obtain ⟨word, there, source⟩ := source
  rintro same
  obtain rfl := Option.some.inj (source.symm.trans same)
  rw [originOf_of_isUnknown (sources word there)] at known
  cases known

theorem lawful_detector (path : String) (a : FileAnalysis) : (detector path a).Lawful := by
  rw [detector]
  constructor
  case judged =>
    intro c tag
    dsimp only [judge]
    rw [← isSome_tagChange? (contextOf path a) c]
    cases made : tagChange? (contextOf path a) c tag with
    | none => exact .inl ⟨rfl, rfl⟩
    | some f =>
      have specific := specific_tagChange? made
      obtain ⟨source, line⟩ := source_tagChange? made
      exact .inr ⟨rfl, f, rfl, ⟨specific.container, source⟩, specific.framework, line⟩
  case classes =>
    intro f mem
    obtain ⟨klass, -, mem⟩ := List.mem_flatMap.mp mem
    exact ⟨(specific_classChanges mem).framework, fun tag known => source_classChanges mem known⟩
  case structural =>
    intro c f mem
    dsimp only at mem
    have specific := specific_structuralChange? (Option.mem_toList.mp mem)
    exact ⟨specific.container, specific.framework⟩
  case generic =>
    intro c tag f made
    dsimp only at made
    obtain ⟨word, -, rfl⟩ := Option.map_eq_some_iff.mp made
    exact ⟨⟨rfl, rfl⟩, rfl, rfl⟩
  case alike =>
    intro c c' tag
    dsimp only
    simp only [genericChange?, Option.isSome_map]
  case naming =>
    intro c f made
    dsimp only at made
    have generic := generic_namedChange? made
    exact ⟨generic.container, generic.framework⟩

theorem detectFile_eq_found (path : String) (a : FileAnalysis) :
    detectFile path a = (detector path a).found (containers a) := by
  have early : (detector path a).early (containers a) = beforeNames path a := by
    have classes : ({ findings := (ofClasses path a).findings } : Ledger String StateChange) =
        ofClasses path a := rfl
    rw [TagDetector.early, detector, beforeNames, classes]
  have naming : (detector path a).naming = namedChange? (contextOf path a) := by
    rw [detector]
  rw [TagDetector.found, early, naming]
  exact Ledger.matchNames_findings _ _

end State

/-! ## Files -/

/-- Every event and every change of state in a file is found by a tag at its line in the container
that carries it, by a tag of no library at its line in the first container of the name, or without
a tag. -/
theorem tags_traced (path : String) (a : FileAnalysis) :
    (∀ f ∈ Event.detectFile path a, (Event.detector path a).Traced (containers a) f) ∧
      ∀ f ∈ State.detectFile path a, (State.detector path a).Traced (containers a) f := by
  constructor
  · intro f mem
    rw [Event.detectFile_eq_found] at mem
    exact (Event.lawful_detector path a).traced mem
  · intro f mem
    rw [State.detectFile_eq_found] at mem
    exact (State.lawful_detector path a).traced mem

/-- A script with two functions of one name, of which only the second has tags. -/
def namesakes : FileAnalysis where
  path := "a.js"
  language := "javascript"
  functions := [("f(a)", { line := 1 }),
    ("f(b)", { line := 5, eventTags := ["odd"], stateTags := ["setThing("],
               tagLines := [("odd", 6), ("setThing(", 7)] })]

theorem tags_traced_of_namesakes :
    (∃ f ∈ Event.detectFile "a.js" namesakes,
        (Event.detector "a.js" namesakes).Traced (containers namesakes) f) ∧
      ∃ f ∈ State.detectFile "a.js" namesakes,
        (State.detector "a.js" namesakes).Traced (containers namesakes) f := by
  have events : Event.detectFile "a.js" namesakes ≠ [] := by decide +kernel
  have states : State.detectFile "a.js" namesakes ≠ [] := by decide +kernel
  obtain ⟨event, event_found⟩ := List.exists_mem_of_ne_nil _ events
  obtain ⟨state, state_found⟩ := List.exists_mem_of_ne_nil _ states
  exact ⟨⟨event, event_found, (tags_traced "a.js" namesakes).1 event event_found⟩,
    state, state_found, (tags_traced "a.js" namesakes).2 state state_found⟩

/-- The tags are found, at the line of the function that does not have them. -/
theorem line_of_namesake :
    (∃ f ∈ Event.detectFile "a.js" namesakes, sourceOf f.details = some "odd" ∧
      ¬ ∃ c ∈ containers namesakes, f.container = some c.name ∧ "odd" ∈ c.info.eventTags ∧
        f.line = c.info.lineFor "odd") ∧
    ∃ f ∈ State.detectFile "a.js" namesakes, sourceOf f.details = some "setThing(" ∧
      ¬ ∃ c ∈ containers namesakes, f.container = some c.name ∧ "setThing(" ∈ c.info.stateTags ∧
        f.line = c.info.lineFor "setThing(" := by
  decide +kernel

end RepoSurvey.Detection
