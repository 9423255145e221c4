import RepoSurvey.Detection.Container
import RepoSurvey.Proofs.JavaScript.Writing
import RepoSurvey.Proofs.Table

/-!
# Which callables are kept

Signals are written into the callables of a source by their places, and the
analysis keeps callables by their signatures and classes by their names, the
first of each. A place is *kept* (`Declarations.Kept`) when its callable comes
through that: the top level, a function that is the first with its signature,
and a member that is the first with its signature in a class that is the first
with its name.

The containers of an analysis hold what was written at the kept places and
nothing else (`exists_container_iff`). What was written at the other places is
not in the analysis.
-/

namespace RepoSurvey.JavaScript

/-! ## Declarations start out untouched -/

/-- A declaration as it is found: nothing has been written into its callable,
whose line is that of its beginning. -/
structure Span.Fresh (code : Array Char) (s : Span) : Prop where
  /-- Nothing has been written into the callable. -/
  untouched : Untouched s.info
  /-- The line of the callable is that of the beginning. -/
  line_eq : s.info.line = lineAt code s.start

section

variable {code skeleton : Array Char} {s : Span}

/-- A name that is given a function starts out fresh. -/
theorem fresh_valueSpan? {title : String} {start matchStop : Nat} {isAsync : Bool}
    {single : Option String}
    (made : valueSpan? code skeleton title start matchStop isAsync single = some s) :
    s.Fresh code := by
  cases single with
  | some p =>
    cases made
    exact ⟨⟨rfl, rfl, rfl, rfl⟩, rfl⟩
  | none =>
    simp only [valueSpan?] at made
    split at made
    all_goals
      obtain ⟨_, -, rfl⟩ := Option.map_eq_some_iff.mp made
      exact ⟨⟨rfl, rfl, rfl, rfl⟩, rfl⟩

/-- A method starts out fresh. -/
theorem fresh_methodSpans {placed : List PlacedDecorator} {bodyOpen bodyClose : Nat}
    (mem : s ∈ methodSpans code skeleton placed bodyOpen bodyClose) : s.Fresh code := by
  obtain ⟨m, -, made⟩ := List.mem_filterMap.mp mem
  obtain ⟨_, -, made⟩ := Option.bind_eq_some_iff.mp made
  simp only at made
  split at made
  · cases made
  · obtain ⟨_, -, made⟩ := Option.bind_eq_some_iff.mp made
    cases made
    exact ⟨⟨rfl, rfl, rfl, rfl⟩, rfl⟩

/-- A field that holds a function starts out fresh. -/
theorem fresh_fieldSpans {bodyOpen bodyClose : Nat}
    (mem : s ∈ fieldSpans code skeleton bodyOpen bodyClose) : s.Fresh code := by
  obtain ⟨m, -, made⟩ := List.mem_filterMap.mp mem
  obtain ⟨_, -, made⟩ := Option.bind_eq_some_iff.mp made
  simp only at made
  split at made
  · exact fresh_valueSpan? made
  · cases made

/-- A function starts out fresh. -/
theorem fresh_functionSpans {classes : List ClassSpan}
    (mem : s ∈ functionSpans code skeleton classes) : s.Fresh code := by
  obtain ⟨bare, found, rfl⟩ := List.mem_map.mp mem
  have start : bare.Fresh code := by
    rcases List.mem_append.mp found with declared | held
    · obtain ⟨m, -, made⟩ := List.mem_filterMap.mp declared
      obtain ⟨_, -, made⟩ := Option.bind_eq_some_iff.mp made
      cases made
      exact ⟨⟨rfl, rfl, rfl, rfl⟩, rfl⟩
    · obtain ⟨m, -, made⟩ := List.mem_filterMap.mp held
      simp only at made
      split at made
      · cases made
      · exact fresh_valueSpan? made
  obtain ⟨⟨noState, noEvent, noHint, noLine⟩, line⟩ := start
  exact ⟨⟨noState, noEvent, noHint, noLine⟩, line⟩

end

/-- Every callable of a source starts out fresh. -/
theorem Masked.fresh (m : Masked) : ∀ s ∈ m.declarations.spans, s.Fresh m.code := by
  intro s mem
  rcases List.mem_append.mp mem with function | member
  · exact fresh_functionSpans function
  · obtain ⟨c, known, member⟩ := List.mem_flatMap.mp member
    obtain ⟨head, -, rfl⟩ := List.mem_map.mp known
    rcases List.mem_append.mp member with method | field
    · exact fresh_methodSpans method
    · exact fresh_fieldSpans field

/-- Every callable of a source starts out untouched. -/
theorem Masked.untouched (m : Masked) : ∀ s ∈ m.declarations.spans, Untouched s.info :=
  fun s mem => (m.fresh s mem).untouched

/-! ## What the tables keep -/

/-- The callables under signatures are those of the first spans. -/
theorem mem_bySignature {spans : List Span} {signature : String} {f : Callable} :
    (signature, f) ∈ bySignature spans ↔
      ∃ place s, FirstAt Span.signature spans place s ∧ s.signature = signature ∧ s.info = f := by
  rw [bySignature, Table.mem_foldl_setNew Span.signature Span.info]
  simp only [List.not_mem_nil, false_or, Table.has, List.any_nil, true_and]

/-- The number of members of the classes before a place. -/
def membersBefore (classes : List ClassSpan) (place : Nat) : Nat :=
  ((classes.take place).flatMap (·.members)).length

/-- The members of the class at a place, in a list that holds those of class after class. -/
def membersAt (members : List Span) (classes : List ClassSpan) (place : Nat) (c : ClassSpan) :
    List Span :=
  (members.drop (membersBefore classes place)).take c.members.length

/-- The classes with their members, which are taken class after class from a list. -/
def withMembers : List Span → List ClassSpan → List (ClassSpan × List Span)
  | _, [] => []
  | members, c :: rest =>
    (c, members.take c.members.length) :: withMembers (members.drop c.members.length) rest

/-- The class at a place gets the members that follow those of the classes before it. -/
theorem getElem?_withMembers (members : List Span) (classes : List ClassSpan) (place : Nat) :
    (withMembers members classes)[place]? =
      classes[place]?.map fun c => (c, membersAt members classes place c) := by
  induction classes generalizing members place with
  | nil => rfl
  | cons c rest ih =>
    cases place with
    | zero => rfl
    | succ place =>
      simp only [withMembers, List.getElem?_cons_succ, ih, membersAt, List.drop_drop, membersBefore,
        List.take_succ_cons, List.flatMap_cons, List.length_append]

/-- The class with the members that were taken for it. -/
def filledClass (c : ClassSpan × List Span) : ClassDef :=
  { c.1.shell with methods := bySignature c.2 }

/-- The table of classes is offered each class with its members in turn. -/
theorem classTable_eq_foldl (members : List Span) (classes : List ClassSpan) (t : Table ClassDef) :
    classTable members classes t =
      (withMembers members classes).foldl (fun t c => t.setNew c.1.name (filledClass c)) t := by
  induction classes generalizing members t with
  | nil => rfl
  | cons c rest ih => exact ih _ _

/-- The classes under names are the first ones, with the members that were taken for them. -/
theorem mem_classTable {members : List Span} {classes : List ClassSpan} {name : String}
    {c : ClassDef} :
    (name, c) ∈ classTable members classes [] ↔
      ∃ place k, FirstAt ClassSpan.name classes place k ∧ k.name = name ∧
        filledClass (k, membersAt members classes place k) = c := by
  have first {place : Nat} {x : ClassSpan × List Span} :
      FirstAt (fun c => c.1.name) (withMembers members classes) place x ↔
        ∃ k, FirstAt ClassSpan.name classes place k ∧ x = (k, membersAt members classes place k) :=
    FirstAt.iff_of_changed (getElem?_withMembers members classes) fun _ _ => rfl
  rw [classTable_eq_foldl, Table.mem_foldl_setNew (fun c => c.1.name) filledClass]
  simp only [List.not_mem_nil, false_or, Table.has, List.any_nil, true_and]
  constructor
  · rintro ⟨place, x, taken, rfl, rfl⟩
    obtain ⟨k, here, rfl⟩ := first.mp taken
    exact ⟨place, k, here, rfl, rfl⟩
  · rintro ⟨place, k, here, rfl, rfl⟩
    exact ⟨place, _, first.mpr ⟨k, here, rfl⟩, rfl, rfl⟩

/-! ## Kept places -/

/-- The place of a member among all callables, by the place of its class and
its own place in the class. -/
def Declarations.memberPlace (d : Declarations) (place i : Nat) : Nat :=
  d.functions.length + membersBefore d.classes place + i

/-- The callable at a place, the top level at none, comes into the analysis. -/
inductive Declarations.Kept (d : Declarations) : Option Nat → Prop
  /-- The top level does. -/
  | top : d.Kept none
  /-- A function does that is the first with its signature. -/
  | function {place : Nat} {s : Span} (first : FirstAt Span.signature d.functions place s) :
    d.Kept (some place)
  /-- A member does that is the first with its signature in the first class of a name. -/
  | member {place i : Nat} {c : ClassSpan} {s : Span}
    (known : FirstAt ClassSpan.name d.classes place c)
    (first : FirstAt Span.signature c.members i s) : d.Kept (some (d.memberPlace place i))

section

variable {d : Declarations} {code : Array Char}

/-- Functions stand first among all callables. -/
theorem Declarations.getElem?_spans_function {place : Nat} (inside : place < d.functions.length) :
    d.spans[place]? = d.functions[place]? :=
  List.getElem?_append_left inside

/-- The members of a class stand after the functions and the members of the classes before. -/
theorem Declarations.getElem?_spans_member {place i : Nat} {c : ClassSpan}
    (known : d.classes[place]? = some c) (inside : i < c.members.length) :
    d.spans[d.memberPlace place i]? = c.members[i]? := by
  have cut : d.classes = d.classes.take place ++ c :: d.classes.drop (place + 1) := by
    obtain ⟨bound, rfl⟩ := List.getElem?_eq_some_iff.mp known
    rw [List.getElem_cons_drop, List.take_append_drop]
  have flat : d.classes.flatMap (·.members) = (d.classes.take place).flatMap (·.members) ++
      (c.members ++ (d.classes.drop (place + 1)).flatMap (·.members)) := by
    conv => lhs; rw [cut]
    rw [List.flatMap_append, List.flatMap_cons]
  rw [Declarations.spans, Declarations.memberPlace, Nat.add_assoc,
    List.getElem?_append_right (Nat.le_add_right _ _), Nat.add_sub_cancel_left, flat,
    membersBefore, List.getElem?_append_right (Nat.le_add_right _ _), Nat.add_sub_cancel_left,
    List.getElem?_append_left inside]

/-- What stands at the place of a function at the end. -/
theorem written_function {place : Nat} {s : Span} (here : d.functions[place]? = some s) :
    written code d.spans (some place) = some (filledSpan code d.spans place s).info := by
  obtain ⟨inside, -⟩ := List.getElem?_eq_some_iff.mp here
  rw [written, Declarations.getElem?_spans_function inside, here]
  rfl

/-- What stands at the place of a member at the end. -/
theorem written_member {place i : Nat} {c : ClassSpan} {s : Span}
    (known : d.classes[place]? = some c) (here : c.members[i]? = some s) :
    written code d.spans (some (d.memberPlace place i)) =
      some (filledSpan code d.spans (d.memberPlace place i) s).info := by
  obtain ⟨inside, -⟩ := List.getElem?_eq_some_iff.mp here
  rw [written, Declarations.getElem?_spans_member known inside, here]
  rfl

/-- The functions at the end. -/
theorem getElem?_filled_functions (place : Nat) :
    ((assignAll code d.spans).spans.toList.take d.functions.length)[place]? =
      d.functions[place]?.map (filledSpan code d.spans place) := by
  by_cases inside : place < d.functions.length
  · rw [List.getElem?_take_of_lt inside, Array.getElem?_toList, getElem?_spans_assignAll,
      Declarations.getElem?_spans_function inside]
  · have outside := Nat.le_of_not_lt inside
    rw [List.getElem?_eq_none (Nat.le_trans (List.length_take_le _ _) outside),
      List.getElem?_eq_none outside]
    rfl

/-- The members of a class at the end. -/
theorem getElem?_filled_members {place : Nat} {c : ClassSpan} (known : d.classes[place]? = some c)
    (i : Nat) :
    (membersAt ((assignAll code d.spans).spans.toList.drop d.functions.length)
        d.classes place c)[i]? =
      c.members[i]?.map (filledSpan code d.spans (d.memberPlace place i)) := by
  by_cases inside : i < c.members.length
  · rw [membersAt, List.getElem?_take_of_lt inside, List.getElem?_drop, List.getElem?_drop,
      ← Nat.add_assoc, Array.getElem?_toList, getElem?_spans_assignAll]
    exact congrArg _ (Declarations.getElem?_spans_member known inside)
  · have outside := Nat.le_of_not_lt inside
    rw [membersAt, List.getElem?_eq_none (Nat.le_trans (List.length_take_le _ _) outside),
      List.getElem?_eq_none outside]
    rfl

/-- What is written into functions does not change which are the first of a signature. -/
theorem first_filled_functions {place : Nat} {x : Span} :
    FirstAt Span.signature
        ((assignAll code d.spans).spans.toList.take d.functions.length) place x ↔
      ∃ s, FirstAt Span.signature d.functions place s ∧ x = filledSpan code d.spans place s :=
  FirstAt.iff_of_changed getElem?_filled_functions Span.signature_filledSpan

/-- What is written into members does not change which are the first of a signature. -/
theorem first_filled_members {place i : Nat} {c : ClassSpan} {x : Span}
    (known : d.classes[place]? = some c) :
    FirstAt Span.signature (membersAt
        ((assignAll code d.spans).spans.toList.drop d.functions.length) d.classes place c) i x ↔
      ∃ s, FirstAt Span.signature c.members i s ∧
        x = filledSpan code d.spans (d.memberPlace place i) s :=
  FirstAt.iff_of_changed (getElem?_filled_members known) fun _ => Span.signature_filledSpan _

end

/-! ## Containers -/

/-- A source is analysed when it can be masked, and only then. -/
theorem parse_eq_ok_iff {content path : String} {a : FileAnalysis} :
    parse content path = .ok a ↔ ∃ m, mask content.toList = .ok m ∧ analyse m path = a := by
  rw [parse]
  cases mask content.toList with
  | error e =>
    refine ⟨nofun, ?_⟩
    rintro ⟨m, masked, -⟩
    cases masked
  | ok m =>
    constructor
    · intro parsed
      exact ⟨m, rfl, Except.ok.inj parsed⟩
    · rintro ⟨_, masked, rfl⟩
      cases masked
      rfl

/-- The containers of an analysis hold the functions, the methods and the top level. -/
theorem exists_container_iff {a : FileAnalysis} {f : Callable} :
    (∃ c ∈ Detection.containers a, c.info = f) ↔
      (∃ signature, (signature, f) ∈ a.functions) ∨
        (∃ name c, (name, c) ∈ a.classes ∧ ∃ signature, (signature, f) ∈ c.methods) ∨
          a.moduleScope = some f := by
  constructor
  · rintro ⟨c, mem, rfl⟩
    rcases List.mem_append.mp mem with named | top
    · rcases List.mem_append.mp named with function | method
      · obtain ⟨⟨signature, f⟩, known, rfl⟩ := List.mem_map.mp function
        exact .inl ⟨signature, known⟩
      · obtain ⟨⟨name, k⟩, known, inner⟩ := List.mem_flatMap.mp method
        obtain ⟨⟨signature, f⟩, member, rfl⟩ := List.mem_map.mp inner
        exact .inr (.inl ⟨name, k, known, signature, member⟩)
    · obtain ⟨f, known, rfl⟩ := List.mem_map.mp top
      exact .inr (.inr (Option.mem_toList.mp known))
  · rintro (⟨signature, known⟩ | ⟨name, k, known, signature, member⟩ | known)
    · exact ⟨_, List.mem_append_left _ (List.mem_append_left _
        (List.mem_map.mpr ⟨(signature, f), known, rfl⟩)), rfl⟩
    · exact ⟨_, List.mem_append_left _ (List.mem_append_right _
        (List.mem_flatMap.mpr ⟨(name, k), known,
          List.mem_map.mpr ⟨(signature, f), member, rfl⟩⟩)), rfl⟩
    · exact ⟨_, List.mem_append_right _
        (List.mem_map.mpr ⟨f, Option.mem_toList.mpr known, rfl⟩), rfl⟩

section

variable {m : Masked} {path : String} {f : Callable}

/-- The functions of an analysis are those of the kept places. -/
theorem exists_function_iff :
    (∃ signature, (signature, f) ∈ (analyse m path).functions) ↔
      ∃ place s, FirstAt Span.signature m.declarations.functions place s ∧
        (filledSpan m.code m.declarations.spans place s).info = f := by
  constructor
  · rintro ⟨signature, known⟩
    obtain ⟨place, x, filled, rfl, rfl⟩ := mem_bySignature.mp known
    obtain ⟨s, first, rfl⟩ := first_filled_functions.mp filled
    exact ⟨place, s, first, rfl⟩
  · rintro ⟨place, s, first, rfl⟩
    exact ⟨_, mem_bySignature.mpr ⟨place, _, first_filled_functions.mpr ⟨s, first, rfl⟩, rfl, rfl⟩⟩

/-- The methods of an analysis are those of the kept places. -/
theorem exists_method_iff :
    (∃ name c, (name, c) ∈ (analyse m path).classes ∧ ∃ signature, (signature, f) ∈ c.methods) ↔
      ∃ place c i s, FirstAt ClassSpan.name m.declarations.classes place c ∧
        FirstAt Span.signature c.members i s ∧
          (filledSpan m.code m.declarations.spans (m.declarations.memberPlace place i) s).info =
            f := by
  constructor
  · rintro ⟨name, _, entry, signature, member⟩
    obtain ⟨place, c, known, rfl, rfl⟩ := mem_classTable.mp entry
    obtain ⟨i, x, filled, rfl, rfl⟩ := mem_bySignature.mp member
    obtain ⟨s, first, rfl⟩ := (first_filled_members known.here).mp filled
    exact ⟨place, c, i, s, known, first, rfl⟩
  · rintro ⟨place, c, i, s, known, first, rfl⟩
    exact ⟨_, _, mem_classTable.mpr ⟨place, c, known, rfl, rfl⟩, _, mem_bySignature.mpr
      ⟨i, _, (first_filled_members known.here).mpr ⟨s, first, rfl⟩, rfl, rfl⟩⟩

/-- The containers of an analysis hold what was written at the kept places,
the top level only when it carries a signal. -/
theorem exists_container_iff_kept :
    (∃ c ∈ Detection.containers (analyse m path), c.info = f) ↔
      ∃ place, m.declarations.Kept place ∧ written m.code m.declarations.spans place = some f ∧
        (place = none → carriesSignal f = true) := by
  have top : (analyse m path).moduleScope = some f ↔
      written m.code m.declarations.spans none = some f ∧ carriesSignal f = true := by
    rw [top_assignAll, analyse]
    simp only [Option.ite_none_right_eq_some, Option.some.injEq]
    refine ⟨?_, ?_⟩
    · rintro ⟨carries, rfl⟩
      exact ⟨rfl, carries⟩
    · rintro ⟨rfl, carries⟩
      exact ⟨carries, rfl⟩
  rw [exists_container_iff, exists_function_iff, exists_method_iff, top]
  constructor
  · rintro (⟨place, s, first, rfl⟩ | ⟨place, c, i, s, known, first, rfl⟩ | ⟨filled, carries⟩)
    · exact ⟨some place, .function first, written_function first.here, nofun⟩
    · exact ⟨_, .member known first, written_member known.here first.here, nofun⟩
    · exact ⟨none, .top, filled, fun _ => carries⟩
  · rintro ⟨place, kept, filled, carries⟩
    cases kept with
    | top => exact .inr (.inr ⟨filled, carries rfl⟩)
    | @function place s first =>
      rw [written_function first.here] at filled
      exact .inl ⟨place, s, first, Option.some.inj filled⟩
    | @member place i c s known first =>
      rw [written_member known.here first.here] at filled
      exact .inr (.inl ⟨place, c, i, s, known, first, Option.some.inj filled⟩)

/-- A callable stands at every kept place. -/
theorem Declarations.Kept.exists_written {d : Declarations} {place : Option Nat}
    (kept : d.Kept place) (code : Array Char) : ∃ f, written code d.spans place = some f := by
  cases kept with
  | top => exact ⟨_, rfl⟩
  | function first => exact ⟨_, written_function first.here⟩
  | member known first => exact ⟨_, written_member known.here first.here⟩

end

end RepoSurvey.JavaScript
