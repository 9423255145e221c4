import RepoSurvey.Outline.Collect
import RepoSurvey.Proofs.Detection.Corpora
import RepoSurvey.Proofs.JavaScript.Keeping
import RepoSurvey.Proofs.Outcomes
import RepoSurvey.Python.Parse

/-!
# The hints that parsers leave

A parser writes the line of a hint as a number and all else in it as texts, so
looking for routes never fails on what it has read. `Legible` says so of an
analysis; it is shown for each parser along the way in which it makes callables:
a callable has the hints of the signals written into it, those of its
decorators, or none.

Besides, an analysis carries the path that the parser was given.
-/

namespace RepoSurvey

open Detection (containers)
open Detection.Route (Legible)

/-- Every hint in the callable is legible. -/
def Callable.Legible (f : Callable) : Prop :=
  ∀ value ∈ f.routeHints, Detection.Route.Legible value

/-- Every hint in the methods of the class is legible. -/
def ClassDef.Legible (c : ClassDef) : Prop :=
  ∀ member ∈ c.methods, member.2.Legible

/-- Every hint in the analysis is legible. -/
def FileAnalysis.Legible (a : FileAnalysis) : Prop :=
  ∀ c ∈ containers a, c.info.Legible

theorem Callable.legible_of_nil {f : Callable} (none : f.routeHints = []) : f.Legible := by
  rw [Callable.Legible, none]
  exact List.forall_mem_nil _

theorem FileAnalysis.legible_of_parts {a : FileAnalysis}
    (functions : ∀ e ∈ a.functions, e.2.Legible) (classes : ∀ e ∈ a.classes, e.2.Legible)
    (top : ∀ f ∈ a.moduleScope, f.Legible) : a.Legible := by
  intro c mem
  rcases JavaScript.exists_container_iff.mp ⟨c, mem, rfl⟩ with
    ⟨signature, known⟩ | ⟨name, k, known, signature, member⟩ | known
  · exact functions _ known
  · exact classes _ known _ member
  · exact top _ known

theorem FileAnalysis.legible_of_empty {a : FileAnalysis} (functions : a.functions = [])
    (classes : a.classes = []) (top : a.moduleScope = none) : a.Legible := by
  refine legible_of_parts ?_ ?_ ?_
  · rw [functions]
    exact List.forall_mem_nil _
  · rw [classes]
    exact List.forall_mem_nil _
  · rw [top]
    nofun

/-! ## JavaScript -/

theorem JavaScript.legible_routeHint (kind method path : String) (line : Int) :
    Legible (routeHint kind method path line) := by
  refine Detection.Route.legible_of_fields (by simp) ?_
  simp [Json.not_hasOverlong_str]

/-- The analysis of a masked source is legible. -/
theorem JavaScript.legible_analyse (m : Masked) (path : String) : (analyse m path).Legible := by
  intro c mem value held
  obtain ⟨place, -, filled, -⟩ := exists_container_iff_kept.mp ⟨c, mem, rfl⟩
  obtain ⟨kind, method, path, i, rfl⟩ := exists_route_of_written m.untouched filled held
  exact legible_routeHint kind method path (lineAt m.code i)

/-! ## Python -/

namespace Python

open Outcome (exists_of_bind_ok foldlM_ok)

/-- Tags leave the hints alone. -/
theorem routeHints_recordCall {f f' : Callable} {c : MethodCall} (ok : recordCall f c = .ok f') :
    f'.routeHints = f.routeHints := by
  obtain ⟨receiver, -, ok⟩ := exists_of_bind_ok ok
  -- every branch adds tags, or nothing
  dsimp only at ok
  repeat' split at ok
  all_goals
    cases ok
    rfl

theorem routeHints_recordCalls {f f' : Callable} {calls : List MethodCall}
    (ok : recordCalls f calls = .ok f') : f'.routeHints = f.routeHints := by
  refine foldlM_ok (motive := fun b => b.routeHints = f.routeHints) ?_ rfl ok
  intro b c b' same taken
  exact (routeHints_recordCall taken).trans same

theorem legible_routeHints {line : Nat} {name : String} {decorators : List Decorator}
    {isMethod : Bool} : ∀ value ∈ routeHints line name decorators isMethod, Legible value := by
  intro value mem
  rcases List.mem_append.mp mem with view | verb
  · obtain ⟨d, -, rfl⟩ := List.mem_map.mp view
    refine Detection.Route.legible_of_fields (by simp [Json.strings]) ?_
    simp [Json.not_hasOverlong_str, Json.not_hasOverlong_strings]
  · split at verb
    · rw [List.mem_singleton.mp verb]
      refine Detection.Route.legible_of_fields (by simp) ?_
      simp [Json.not_hasOverlong_str]
    · cases verb

theorem legible_functionOf? {isMethod : Bool} {s : Stmt} {signature : String} {f : Callable}
    (ok : functionOf? isMethod s = .ok (some (signature, f))) : f.Legible := by
  cases s with
  | function line isAsync name params returns decorators body =>
    obtain ⟨decorated, -, ok⟩ := exists_of_bind_ok ok
    obtain ⟨tagged, -, ok⟩ := exists_of_bind_ok ok
    cases ok
    exact legible_routeHints
  | _ => cases ok

theorem legible_functionTable {isMethod : Bool} {body : List Stmt} {t : Table Callable}
    (ok : functionTable isMethod body = .ok t) : ∀ e ∈ t, e.2.Legible := by
  refine foldlM_ok (motive := fun t : Table Callable => ∀ e ∈ t, e.2.Legible) ?_
    (List.forall_mem_nil _) ok
  intro t s t' kind taken
  obtain ⟨made, known, taken⟩ := exists_of_bind_ok taken
  cases made with
  | none =>
    cases taken
    exact kind
  | some made =>
    cases taken
    exact Table.forall_set kind (legible_functionOf? known)

theorem legible_classTable {body : List Stmt} {t : Table ClassDef} (ok : classTable body = .ok t) :
    ∀ e ∈ t, e.2.Legible := by
  refine foldlM_ok (motive := fun t : Table ClassDef => ∀ e ∈ t, e.2.Legible) ?_
    (List.forall_mem_nil _) ok
  intro t s t' kind taken
  cases s with
  | classDef line name bases keywords decorators inner =>
    obtain ⟨methods, known, taken⟩ := exists_of_bind_ok taken
    obtain ⟨bases, -, taken⟩ := exists_of_bind_ok taken
    obtain ⟨decorated, -, taken⟩ := exists_of_bind_ok taken
    cases taken
    exact Table.forall_set kind (legible_functionTable known)
  | _ =>
    cases taken
    exact kind

theorem routeHints_topLevel {body : List Stmt} {f : Callable} (ok : topLevel body = .ok f) :
    f.routeHints = [] := by
  refine foldlM_ok (motive := fun b => b.routeHints = []) ?_ rfl ok
  intro b s b' none taken
  exact (routeHints_recordCalls taken).trans none

/-- The analysis of a tree is made of what its parts give. -/
theorem exists_of_analyse {body : List Stmt} {path : String} {a : FileAnalysis}
    (ok : analyse body path = .ok a) :
    ∃ functions classes top, functionTable false body = .ok functions ∧
      classTable body = .ok classes ∧ topLevel body = .ok top ∧
      a = {
        path := path
        language := "python"
        imports := importTable body
        functions := functions
        classes := classes
        moduleScope :=
          if top.stateTags.isEmpty && top.eventTags.isEmpty then none else some top } := by
  obtain ⟨functions, named, ok⟩ := exists_of_bind_ok ok
  obtain ⟨classes, grouped, ok⟩ := exists_of_bind_ok ok
  obtain ⟨top, outside, ok⟩ := exists_of_bind_ok ok
  exact ⟨functions, classes, top, named, grouped, outside, (Except.ok.inj ok).symm⟩

/-- The analysis of a tree is legible and carries its path. -/
theorem legible_analyse {body : List Stmt} {path : String} {a : FileAnalysis}
    (ok : analyse body path = .ok a) : a.Legible ∧ a.path = path := by
  obtain ⟨functions, classes, top, named, grouped, outside, rfl⟩ := exists_of_analyse ok
  refine ⟨FileAnalysis.legible_of_parts (legible_functionTable named)
    (legible_classTable grouped) ?_, rfl⟩
  intro f kept
  obtain ⟨-, same⟩ := Option.ite_none_left_eq_some.mp kept
  rw [← Option.some.inj same]
  exact Callable.legible_of_nil (routeHints_topLevel outside)

theorem exists_of_parse {content path : String} {a : FileAnalysis}
    (ok : parse content path = .ok a) :
    ∃ body, module? content = some body ∧ analyse body path = .ok a := by
  rw [parse] at ok
  split at ok
  next => cases ok
  next body read =>
    split at ok
    next a made =>
      cases ok
      exact ⟨body, read, made⟩
    next => cases ok

end Python

/-! ## Syntax trees -/

namespace Outline

variable {g : Grammar} {source : ByteArray}

theorem legible_functionOf? {decorators : List Decorator} {n : Node} {entry : String × Callable}
    (made : functionOf? g source decorators n = some entry) : entry.2.Legible := by
  obtain ⟨-, made⟩ := Option.ite_none_left_eq_some.mp made
  cases made
  exact Callable.legible_of_nil rfl

theorem legible_variableFunction? {n value : Node} {entry : String × Callable}
    (made : variableFunction? g source n value = some entry) : entry.2.Legible := by
  rw [variableFunction?] at made
  split at made
  · cases made
  · obtain ⟨-, made⟩ := Option.ite_none_left_eq_some.mp made
    cases made
    exact Callable.legible_of_nil rfl

mutual

/-- The methods in a class body have no hints. -/
theorem legible_methodsAt (n : Node) : ∀ entry ∈ methodsAt g source n, entry.2.Legible := by
  obtain ⟨kind, start, stop, row, field, children⟩ := n
  rw [methodsAt]
  -- which node defines the method does not matter to what is left out of it
  generalize (if kind == decoratedKind then
    (Node.mk kind start stop row field children).child? "definition" else none) = definition
  intro entry mem
  split at mem
  · exact legible_functionOf? (Option.mem_toList.mp mem)
  · split at mem
    · cases mem
    · split at mem
      · exact legible_methodsInDefinition children entry mem
      · exact legible_methodsAmong children entry mem

theorem legible_methodsAmong (ns : List Node) :
    ∀ entry ∈ methodsAmong g source ns, entry.2.Legible := by
  cases ns with
  | nil => nofun
  | cons n rest =>
    intro entry mem
    rw [methodsAmong] at mem
    rcases List.mem_append.mp mem with here | later
    · exact legible_methodsAt n entry here
    · exact legible_methodsAmong rest entry later

theorem legible_methodsInDefinition (ns : List Node) :
    ∀ entry ∈ methodsInDefinition g source ns, entry.2.Legible := by
  cases ns with
  | nil => nofun
  | cons n rest =>
    obtain ⟨kind, start, stop, row, field, children⟩ := n
    intro entry mem
    rw [methodsInDefinition] at mem
    split at mem
    · exact legible_methodsAmong children entry mem
    · exact legible_methodsInDefinition rest entry mem

end

theorem forall_firstEntries {α : Type} {good : α → Prop} {entries : List (String × α)}
    (kind : ∀ e ∈ entries, good e.2) : ∀ e ∈ firstEntries entries, good e.2 := by
  refine List.foldlRecOn entries _ (motive := fun t : Table α => ∀ e ∈ t, good e.2)
    (List.forall_mem_nil _) ?_
  intro t known e mem
  exact Table.forall_setNew known (kind e mem)

theorem legible_classOf? {decorators : List Decorator} {n : Node} {entry : String × ClassDef}
    (made : classOf? g source decorators n = some entry) : entry.2.Legible := by
  obtain ⟨-, made⟩ := Option.ite_none_left_eq_some.mp made
  cases made
  exact forall_firstEntries (legible_methodsAmong _)

/-- The hints in the item have lines. -/
def Item.Legible : Item → Prop
  | .imported _ => True
  | .function _ f => f.Legible
  | .klass _ c => c.Legible

theorem legible_definitionItems {language : String} {decorators : List Decorator} {n : Node} :
    ∀ item ∈ definitionItems g language source decorators n, item.Legible := by
  intro item mem
  rw [definitionItems] at mem
  split at mem
  · split at mem
    next name c made =>
      rw [List.mem_singleton.mp mem]
      exact legible_classOf? made
    next => cases mem
  · split at mem
    next signature f made =>
      rw [List.mem_singleton.mp mem]
      exact legible_functionOf? made
    next => cases mem

mutual

/-- The items in a syntax tree have no hints. -/
theorem legible_itemsAt {language : String} (n : Node) :
    ∀ item ∈ itemsAt g language source n, item.Legible := by
  obtain ⟨kind, start, stop, row, field, children⟩ := n
  rw [itemsAt]
  intro item mem
  split at mem
  · rw [List.mem_singleton.mp mem]
    trivial
  · split at mem
    · split at mem
      next => exact legible_definitionItems item mem
      next => cases mem
    · split at mem
      · exact legible_definitionItems item mem
      · split at mem
        · split at mem
          next value _ =>
            split at mem
            next signature f made =>
              rw [List.mem_singleton.mp mem]
              exact legible_variableFunction? made
            next => cases mem
          next => cases mem
        · exact legible_itemsAmong children item mem

theorem legible_itemsAmong {language : String} (ns : List Node) :
    ∀ item ∈ itemsAmong g language source ns, item.Legible := by
  cases ns with
  | nil => nofun
  | cons n rest =>
    intro item mem
    rw [itemsAmong] at mem
    rcases List.mem_append.mp mem with here | later
    · exact legible_itemsAt n item here
    · exact legible_itemsAmong rest item later

end

/-- An analysis under construction. -/
structure Outlined (path : String) (a : FileAnalysis) : Prop where
  /-- It carries its path. -/
  path : a.path = path
  /-- The hints in its functions have lines. -/
  functions : ∀ e ∈ a.functions, e.2.Legible
  /-- The hints in its classes have lines. -/
  classes : ∀ e ∈ a.classes, e.2.Legible
  /-- It has no top level. -/
  top : a.moduleScope = none

theorem Outlined.addItem {path : String} {a : FileAnalysis} {item : Item} (h : Outlined path a)
    (legible : item.Legible) : Outlined path (addItem a item) := by
  cases item with
  | imported text => exact ⟨h.path, h.functions, h.classes, h.top⟩
  | function signature f =>
    exact ⟨h.path, Table.forall_setNew h.functions legible, h.classes, h.top⟩
  | klass name c => exact ⟨h.path, h.functions, Table.forall_setNew h.classes legible, h.top⟩

/-- The analysis of a syntax tree is legible and carries its path. -/
theorem legible_collect (language content path : String) (root : Node) :
    (collect g language content path root).Legible ∧
      (collect g language content path root).path = path := by
  have outlined : Outlined path (collect g language content path root) := by
    refine List.foldlRecOn _ addItem (motive := Outlined path)
      ⟨rfl, List.forall_mem_nil _, List.forall_mem_nil _, rfl⟩ ?_
    intro a h item mem
    exact h.addItem (legible_itemsAmong _ item mem)
  refine ⟨FileAnalysis.legible_of_parts outlined.functions outlined.classes fun f kept => ?_,
    outlined.path⟩
  rw [outlined.top] at kept
  cases kept

end Outline

end RepoSurvey
