import RepoSurvey.Proofs.JavaScript.Keeping
import RepoSurvey.Proofs.JavaScript.Lookups
import RepoSurvey.Proofs.JavaScript.Parameters

/-!
# Signatures

A callable is found by the head of its declaration, which ends in the parenthesis of its
parameters (`Masked.Heads`) or has captured its single parameter (`Masked.Single`). The
parameters are read between that parenthesis and its partner, and they and the name are what the
callable is kept under (`parameters_recorded`).
-/

namespace RepoSurvey.JavaScript

open Text (Pattern Match)

/-! ## Heads of declarations -/

/-- The body of a class in the skeleton. -/
def Masked.body (m : Masked) (c : ClassSpan) : Array Char :=
  m.skeleton.extract (c.bodyOpen + 1) c.bodyClose

/-- A declaration of a name starts at a position, and the parenthesis of its parameters stands
at another. -/
inductive Masked.Heads (m : Masked) : String → Nat → Nat → Prop
  /-- A declared function. -/
  | declared {head : Match} (found : head ∈ functionHead.findAll m.skeleton) :
    m.Heads (head.group m.skeleton 2) head.start (head.stop - 1)
  /-- A variable that is given a function. -/
  | held {head : Match} (found : head ∈ variableHead.findAll m.skeleton)
    (several : head.group? m.skeleton 3 = none) :
    m.Heads (head.group m.skeleton 1) head.start (head.stop - 1)
  /-- A method in the body of a class. -/
  | method {c : ClassSpan} {head : Match} {place : Nat × Nat} (known : c ∈ m.declarations.classes)
    (found : head ∈ methodHead.findAll (m.body c)) (named : head.place? 1 = some place) :
    m.Heads (head.group (m.body c) 1) (c.bodyOpen + 1 + place.1) (c.bodyOpen + 1 + head.stop - 1)
  /-- A field in the body of a class that is given a function. -/
  | field {c : ClassSpan} {head : Match} {place : Nat × Nat} (known : c ∈ m.declarations.classes)
    (found : head ∈ memberArrowHead.findAll (m.body c)) (named : head.place? 1 = some place)
    (several : head.group? (m.body c) 3 = none) :
    m.Heads (head.group (m.body c) 1) (c.bodyOpen + 1 + place.1) (c.bodyOpen + 1 + head.stop - 1)

/-- A declaration of a name starts at a position, of an arrow function with a single parameter
that has no parenthesis. -/
inductive Masked.Single (m : Masked) : String → Nat → String → Prop
  /-- A variable. -/
  | held {head : Match} {parameter : String} (found : head ∈ variableHead.findAll m.skeleton)
    (only : head.group? m.skeleton 3 = some parameter) :
    m.Single (head.group m.skeleton 1) head.start parameter
  /-- A field in the body of a class. -/
  | field {c : ClassSpan} {head : Match} {place : Nat × Nat} {parameter : String}
    (known : c ∈ m.declarations.classes) (found : head ∈ memberArrowHead.findAll (m.body c))
    (named : head.place? 1 = some place) (only : head.group? (m.body c) 3 = some parameter) :
    m.Single (head.group (m.body c) 1) (c.bodyOpen + 1 + place.1) parameter

/-- The text between the parenthesis at a position and its partner. -/
def Masked.enclosed (m : Masked) (paren : Nat) : List Char :=
  slice m.code (paren + 1) (closing m.skeleton paren)

/-- The parameters of a span are those between its parenthesis and the partner of it. -/
structure Masked.Reads (m : Masked) (s : Span) (paren : Nat) : Prop where
  /-- Its declaration has the parenthesis. -/
  head : m.Heads s.name s.start paren
  /-- The parenthesis is closed. -/
  closed : m.skeleton[closing m.skeleton paren]? = some ')'
  /-- The parameters are read from the text between the two. -/
  read : s.info.parameters = parameterNames (cutAtCommas 0 [] (m.enclosed paren))

/-- Where the parameters of a span come from. -/
inductive Masked.Takes (m : Masked) (s : Span) : Prop
  /-- A single parameter without parentheses. -/
  | single {p : String} (alone : m.Single s.name s.start p) (only : s.info.parameters = [p])
  /-- The text between two parentheses. -/
  | between {paren : Nat} (reads : m.Reads s paren)

section

variable {m : Masked}

/-- A head ends in a parenthesis. -/
theorem Masked.Heads.opens {title : String} {start paren : Nat} (heads : m.Heads title start paren) :
    m.skeleton[paren]? = some '(' := by
  cases heads with
  | declared found => exact (paren_of_functionHead found).2
  | held found several => exact (paren_of_variableHead found several).2
  | method _ found _ => exact (paren_of_methodHead found).2
  | field _ found _ several => exact (paren_of_memberArrowHead found several).2

/-- Behind a partner that something follows stands the text that it closes. -/
theorem closed_of_matchAt? {skeleton : Array Char} {i : Nat} {c : Char} {p : Pattern} {after : Match}
    (opens : skeleton[i]? = some '(') (ends : p.EndsIn (· == c))
    (follows : p.matchAt? skeleton (closing skeleton i + 1) = some after) :
    skeleton[closing skeleton i]? = some ')' := by
  have inside := (Array.getElem?_eq_some_iff.mp opens).1
  have close := closing_le skeleton i
  have bound : closing skeleton i + 1 ≤ skeleton.size := by omega
  obtain ⟨further, -⟩ := Pattern.getElem?_of_endsIn ends bound follows
  obtain ⟨-, -, stop⟩ := Pattern.bounds_of_matchAt? bound follows
  rcases closing_cases opens with closer | last
  · exact closer
  · omega

theorem arrowAfterParameters_endsIn : arrowAfterParameters.EndsIn (· == '>') :=
  .seq (.seq (.seq .one))

/-- A value has a single parameter, or its parameters stand between parentheses. -/
theorem takes_of_valueSpan? {title : String} {start matchStop : Nat} {isAsync : Bool}
    {single : Option String} {s : Span} (alone : ∀ p, single = some p → m.Single title start p)
    (several : single = none → m.Heads title start (matchStop - 1))
    (made : valueSpan? m.code m.skeleton title start matchStop isAsync single = some s) :
    m.Takes s := by
  cases single with
  | some p =>
    cases made
    exact .single (alone p rfl) rfl
  | none =>
    have heads := several rfl
    simp only [valueSpan?] at made
    split at made
    · obtain ⟨after, follows, rfl⟩ := Option.map_eq_some_iff.mp made
      exact .between
        ⟨heads, closed_of_matchAt? heads.opens bodyAfterParameters_endsIn follows, rfl⟩
    · obtain ⟨after, follows, rfl⟩ := Option.map_eq_some_iff.mp made
      exact .between
        ⟨heads, closed_of_matchAt? heads.opens arrowAfterParameters_endsIn follows, rfl⟩

theorem takes_of_functions {s : Span} (mem : s ∈ m.declarations.functions) : m.Takes s := by
  obtain ⟨bare, known, rfl⟩ := List.mem_map.mp mem
  suffices takes : m.Takes bare by
    cases takes with
    | single alone only => exact .single alone only
    | between reads => exact .between ⟨reads.head, reads.closed, reads.read⟩
  rcases List.mem_append.mp known with declared | held
  · obtain ⟨head, found, made⟩ := List.mem_filterMap.mp declared
    obtain ⟨after, follows, made⟩ := Option.bind_eq_some_iff.mp made
    cases made
    have heads := Masked.Heads.declared found
    exact .between ⟨heads, closed_of_matchAt? heads.opens bodyAfterParameters_endsIn follows, rfl⟩
  · obtain ⟨head, found, made⟩ := List.mem_filterMap.mp held
    simp only at made
    split at made
    · cases made
    · exact takes_of_valueSpan? (fun _ only => .held found only) (.held found) made

theorem takes_of_members {c : ClassSpan} {s : Span} (known : c ∈ m.declarations.classes)
    (mem : s ∈ c.members) : m.Takes s := by
  obtain ⟨shell, -, rfl⟩ := List.mem_map.mp known
  rcases List.mem_append.mp mem with method | field
  · obtain ⟨head, found, made⟩ := List.mem_filterMap.mp method
    obtain ⟨place, named, made⟩ := Option.bind_eq_some_iff.mp made
    simp only at made
    split at made
    · cases made
    · obtain ⟨after, follows, made⟩ := Option.bind_eq_some_iff.mp made
      cases made
      have heads := Masked.Heads.method known found named
      exact .between
        ⟨heads, closed_of_matchAt? heads.opens bodyAfterParameters_endsIn follows, rfl⟩
  · obtain ⟨head, found, made⟩ := List.mem_filterMap.mp field
    obtain ⟨place, named, made⟩ := Option.bind_eq_some_iff.mp made
    simp only at made
    split at made
    · exact takes_of_valueSpan? (fun _ only => .field known found named only)
        (.field known found named) made
    · cases made

/-- Every callable of a source has a single parameter, or its parameters stand between
parentheses. -/
theorem Masked.takes (m : Masked) : ∀ s ∈ m.declarations.spans, m.Takes s := by
  intro s mem
  rcases List.mem_append.mp mem with function | member
  · exact takes_of_functions function
  · obtain ⟨c, known, mem⟩ := List.mem_flatMap.mp member
    exact takes_of_members known mem

end

/-! ## Recorded signatures -/

/-- The analysis has the callable under the signature, as a function or as a method. -/
def Records (a : FileAnalysis) (signature : String) (f : Callable) : Prop :=
  (signature, f) ∈ a.functions ∨ ∃ name c, (name, c) ∈ a.classes ∧ (signature, f) ∈ c.methods

theorem exists_span_of_records {m : Masked} {path signature : String} {f : Callable}
    (records : Records (analyse m path) signature f) :
    ∃ s ∈ m.declarations.spans, signature = s.signature ∧ f.parameters = s.info.parameters := by
  rcases records with function | ⟨name, _, entry, member⟩
  · obtain ⟨place, x, filled, rfl, rfl⟩ := mem_bySignature.mp function
    obtain ⟨s, first, rfl⟩ := first_filled_functions.mp filled
    refine ⟨s, List.mem_append_left _ (List.mem_of_getElem? first.here), ?_, ?_⟩
    · exact Span.signature_filledSpan place s
    · exact (recordAll_keeps _ _ _).1
  · obtain ⟨place, c, known, rfl, rfl⟩ := mem_classTable.mp entry
    obtain ⟨i, x, filled, rfl, rfl⟩ := mem_bySignature.mp member
    obtain ⟨s, first, rfl⟩ := (first_filled_members known.here).mp filled
    refine ⟨s, List.mem_append_right _ (List.mem_flatMap.mpr
      ⟨c, List.mem_of_getElem? known.here, List.mem_of_getElem? first.here⟩), ?_, ?_⟩
    · exact Span.signature_filledSpan _ s
    · exact (recordAll_keeps _ _ _).1

/-- The parameters of a recorded callable are those that its declaration lists, if the commas
between them are those at which the list is cut. In any case the list is cut at the commas before
which as many brackets have been opened as closed, angle brackets and those in literals counted,
and the parameters are the names in the pieces. They are in the signature as they are recorded. -/
theorem parameters_recorded {content path signature : String} {a : FileAnalysis} {f : Callable}
    (parsed : parse content path = .ok a) (records : Records a signature f) :
    ∃ m s, mask content.toList = .ok m ∧ s ∈ m.declarations.spans ∧
      signature = s.name ++ "(" ++ Text.join ", " f.parameters ++ ")" ∧
      ((∃ p, m.Single s.name s.start p ∧ f.parameters = [p]) ∨
        ∃ paren, m.Heads s.name s.start paren ∧
          m.skeleton[paren]? = some '(' ∧ m.skeleton[closing m.skeleton paren]? = some ')' ∧
          (∃ pieces, Cut (m.enclosed paren) pieces ∧ f.parameters = parameterNames pieces) ∧
          ∀ listed, Lists listed (m.enclosed paren) → Settled listed →
            f.parameters = listed.map (·.name) ∧
            signature = s.name ++ "(" ++ Text.join ", " (listed.map (·.name)) ++ ")") := by
  obtain ⟨m, masked, rfl⟩ := parse_eq_ok_iff.mp parsed
  obtain ⟨s, mem, rfl, own⟩ := exists_span_of_records records
  refine ⟨m, s, masked, mem, ?_, ?_⟩
  · rw [own]
    rfl
  rw [own]
  cases m.takes s mem with
  | single alone only => exact .inl ⟨_, alone, only⟩
  | @between paren reads =>
    refine .inr ⟨paren, reads.head, reads.head.opens, reads.closed, ?_, fun listed lists settled => ?_⟩
    · exact ⟨_, cutAtCommas_eq_iff.mp rfl, reads.read⟩
    · have names := reads.read.trans (parameterNames_of_lists lists settled)
      exact ⟨names, by rw [Span.signature, names]; rfl⟩

/-- A function with a call as a default, and a comma in the call. -/
def callDefault : String :=
  "function f(a, b = g(1, 2)) \x7b\x7d"

/-- The source with the call has nothing to mask. -/
def callDefaultMasked : Masked where
  code := callDefault.toList.toArray
  skeleton := callDefault.toList.toArray

/-- What the function with the call lists. -/
def callParameters : List Parameter :=
  [{ before := [], name := "a", after := [], default := none
     blankBefore := List.forall_mem_nil _
     named := ⟨'a', [], rfl, by decide, List.forall_mem_nil _⟩
     blankAfter := List.forall_mem_nil _ },
   { before := [' '], name := "b", after := [' '], default := some " g(1, 2)".toList
     blankBefore := List.forall_mem_singleton.mpr (by decide)
     named := ⟨'b', [], rfl, by decide, List.forall_mem_nil _⟩
     blankAfter := List.forall_mem_singleton.mpr (by decide) }]

theorem lists_callParameters : Lists callParameters (callDefaultMasked.enclosed 10) := by
  have written : callDefaultMasked.enclosed 10 = "a".toList ++ ',' :: " b = g(1, 2)".toList := by
    decide +kernel
  rw [written]
  exact .comma _ (.last _)

/-- The comma of the call stands in brackets. -/
theorem settled_callParameters : Settled callParameters := by
  have call : Nested false " g(1, 2)".toList := by
    refine .plain (by decide) (by decide) (.plain (by decide) (by decide) ?_)
    refine @Nested.group false '(' ')' "1, 2".toList [] (by decide) (by decide) ?_ .nil
    exact .plain (by decide) (by decide) (.plain (by decide) (by decide)
      (.plain (by decide) (by decide) (.plain (by decide) (by decide) .nil)))
  refine .of_nested ?_ (by decide +kernel)
  intro p mem d given
  rcases List.mem_pair.mp mem with rfl | rfl
  · cases given
  · cases given
    exact call

theorem parameters_recorded_of_call_default :
    (∃ listed, Lists listed (callDefaultMasked.enclosed 10) ∧ Settled listed ∧
      listed.map (·.name) = ["a", "b"]) ∧
    ∃ f : Callable, f.parameters = ["a", "b"] ∧
      (parse callDefault "a.js" = .ok (analyse callDefaultMasked "a.js") ∧
        Records (analyse callDefaultMasked "a.js") "f(a, b)" f) ∧
      ∃ m s, mask callDefault.toList = .ok m ∧ s ∈ m.declarations.spans ∧
        "f(a, b)" = s.name ++ "(" ++ Text.join ", " f.parameters ++ ")" ∧
        ((∃ p, m.Single s.name s.start p ∧ f.parameters = [p]) ∨
          ∃ paren, m.Heads s.name s.start paren ∧
            m.skeleton[paren]? = some '(' ∧ m.skeleton[closing m.skeleton paren]? = some ')' ∧
            (∃ pieces, Cut (m.enclosed paren) pieces ∧ f.parameters = parameterNames pieces) ∧
            ∀ listed, Lists listed (m.enclosed paren) → Settled listed →
              f.parameters = listed.map (·.name) ∧
              "f(a, b)" = s.name ++ "(" ++ Text.join ", " (listed.map (·.name)) ++ ")") := by
  have masked : mask callDefault.toList = .ok callDefaultMasked :=
    mask_eq_of_toOption (by decide +kernel)
  have parsed : parse callDefault "a.js" = .ok (analyse callDefaultMasked "a.js") :=
    parse_eq_ok_iff.mpr ⟨_, masked, rfl⟩
  obtain ⟨⟨signature, f⟩, kept, rfl, own⟩ : ∃ e ∈ (analyse callDefaultMasked "a.js").functions,
      e.1 = "f(a, b)" ∧ e.2.parameters = ["a", "b"] := by decide +kernel
  exact ⟨⟨callParameters, lists_callParameters, settled_callParameters, rfl⟩,
    f, own, ⟨parsed, .inl kept⟩, parameters_recorded parsed (.inl kept)⟩

/-- A function with an arrow function as the default of its first parameter. -/
def arrowDefault : String :=
  "function f(cb = () => 1, b) \x7b\x7d"

/-- The source with the arrow function has nothing to mask. -/
def arrowDefaultMasked : Masked where
  code := arrowDefault.toList.toArray
  skeleton := arrowDefault.toList.toArray

/-- What the function with the arrow function lists. -/
def arrowParameters : List Parameter :=
  [{ before := [], name := "cb", after := [' '], default := some " () => 1".toList
     blankBefore := List.forall_mem_nil _
     named := ⟨'c', ['b'], rfl, by decide, List.forall_mem_singleton.mpr (by decide +kernel)⟩
     blankAfter := List.forall_mem_singleton.mpr (by decide) },
   { before := [' '], name := "b", after := [], default := none
     blankBefore := List.forall_mem_singleton.mpr (by decide)
     named := ⟨'b', [], rfl, by decide, List.forall_mem_nil _⟩
     blankAfter := List.forall_mem_nil _ }]

theorem lists_arrowParameters : Lists arrowParameters (arrowDefaultMasked.enclosed 10) := by
  have written : arrowDefaultMasked.enclosed 10 = "cb = () => 1".toList ++ ',' :: " b".toList := by
    decide +kernel
  rw [written]
  exact .comma _ (.last _)

/-- The angle of an arrow closes a bracket that nothing opens, so a parameter behind it is lost,
although no default has a comma. -/
theorem parameter_lost_behind_arrow :
    ¬ ∀ (content path : String) (a : FileAnalysis) (m : Masked), parse content path = .ok a →
      mask content.toList = .ok m → ∀ signature f, Records a signature f →
        ∀ s ∈ m.declarations.spans, s.signature = signature →
          ∀ paren, m.Heads s.name s.start paren → ∀ listed, Lists listed (m.enclosed paren) →
            (∀ p ∈ listed, ∀ d ∈ p.default, ',' ∉ d) → f.parameters = listed.map (·.name) := by
  intro claim
  have masked : mask arrowDefault.toList = .ok arrowDefaultMasked :=
    mask_eq_of_toOption (by decide +kernel)
  have parsed : parse arrowDefault "a.js" = .ok (analyse arrowDefaultMasked "a.js") :=
    parse_eq_ok_iff.mpr ⟨_, masked, rfl⟩
  obtain ⟨⟨key, f⟩, kept, rfl, own⟩ : ∃ e ∈ (analyse arrowDefaultMasked "a.js").functions,
      e.1 = "f(cb)" ∧ e.2.parameters = ["cb"] := by decide +kernel
  obtain ⟨s, mem, signature, title, start⟩ : ∃ s ∈ arrowDefaultMasked.declarations.spans,
      s.signature = "f(cb)" ∧ s.name = "f" ∧ s.start = 0 := by decide +kernel
  obtain ⟨head, found, named, first, last⟩ :
      ∃ head ∈ functionHead.findAll arrowDefaultMasked.skeleton,
        head.group arrowDefaultMasked.skeleton 2 = "f" ∧ head.start = 0 ∧ head.stop - 1 = 10 := by
    decide +kernel
  have heads : arrowDefaultMasked.Heads s.name s.start 10 := by
    rw [title, start, ← named, ← last]
    have declared := Masked.Heads.declared found
    rwa [first] at declared
  have recorded := claim arrowDefault "a.js" _ _ parsed masked _ _ (.inl kept) s mem signature 10
    heads _ lists_arrowParameters (by decide)
  rw [own] at recorded
  revert recorded
  decide

end RepoSurvey.JavaScript
