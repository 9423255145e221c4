import RepoSurvey.Proofs.Tally
import RepoSurvey.Proofs.Text.Classes
import RepoSurvey.Proofs.Text.Cutting
import RepoSurvey.Proofs.Text.Matching
import RepoSurvey.Survey.Structural

/-!
# What an outline takes from a tree

An outline is made by a walk that stops at every node which imports or defines something. Said
of the tree as a whole: a node below the root is *exposed* when nothing that it stands in stops
the walk (`exposed`), and each exposed node gives its own items, whatever the others are
(`itemsAmong_eq_flatMap`). Of several definitions with one key the first in the source is kept
(`Table.Firsts`).

So the outline of a tree is told by its exposed nodes (`exposed_nodes_recorded`). A definition
without a name gives nothing, with one exception: a variable whose name is an identifier of no
characters is recorded as if it had one (`nameless_variable_recorded`).
-/

namespace RepoSurvey

/-! ## The first entry of each key -/

namespace Table

variable {α : Type}

/-- A table holds the first entry of each key, and the keys in the order of these. -/
structure Firsts (t : Table α) (entries : List (String × α)) : Prop where
  keys : t.keys = distinct (entries.map (·.1))
  get? : ∀ key, t.get? key = (entries.find? fun entry => entry.1 == key).map (·.2)

theorem firsts_foldl_setNew (entries : List (String × α)) :
    Firsts (entries.foldl (fun t entry => t.setNew entry.1 entry.2) []) entries := by
  induction entries using List.reverseRecOn with
  | nil => exact ⟨rfl, fun _ => rfl⟩
  | append_singleton entries entry ih =>
    rw [List.foldl_append]
    refine ⟨?_, fun key => ?_⟩
    · rw [List.foldl_cons, List.foldl_nil, setNew, keys_update, ih.keys, List.map_append,
        List.map_singleton, distinct_append]
      simp only [List.contains_iff_mem]
    · rw [List.foldl_cons, List.foldl_nil, setNew, get?_update, List.find?_append, ih.get?,
        ih.get?]
      by_cases same : key = entry.1
      · have here : [entry].find? (fun e => e.1 == key) = some entry := by simp [same]
        rw [if_pos same, here, same]
        cases entries.find? fun earlier => earlier.1 == entry.1 <;> rfl
      · have none : [entry].find? (fun e => e.1 == key) = none := by simp [Ne.symm same]
        rw [if_neg same, none, Option.or_none]

end Table

namespace Outline

open Survey (GrammarLibrary StructuralParser)
open Text (beginsUpper isWordOrDollar)

/-! ## Nodes below the root -/

/-- A node below the root of a tree, and the nodes below the root that it stands in, outermost
first. -/
structure Placed where
  /-- What it stands in. -/
  above : List Node
  /-- The node. -/
  node : Node

mutual

/-- A node that stands in others, and the nodes inside it, in the order of the source. -/
def placedAt (above : List Node) : Node → List Placed
  | .mk kind start stop row field children =>
    let n := Node.mk kind start stop row field children
    ⟨above, n⟩ :: placedAmong (above ++ [n]) children

/-- Several nodes that stand in others, and the nodes inside them. -/
def placedAmong (above : List Node) : List Node → List Placed
  | [] => []
  | n :: rest => placedAt above n ++ placedAmong above rest

end

/-- The nodes below a root, in the order of the source. -/
def below (root : Node) : List Placed :=
  placedAmong [] root.children

/-- The node imports or defines something, or decorates a definition, or is a variable that
holds a function. -/
def hides (g : Grammar) (n : Node) : Bool :=
  g.imports.contains n.kind || g.classes.contains n.kind || g.functions.contains n.kind ||
    n.kind == decoratedKind || (n.kind == variableKind && (functionValue? n).isSome)

/-- Nothing that the node stands in hides it. -/
def Placed.isExposed (g : Grammar) (p : Placed) : Bool :=
  p.above.all fun n => !hides g n

/-- The exposed ones among nodes. -/
def exposedIn (g : Grammar) (ps : List Placed) : List Node :=
  (ps.filter (Placed.isExposed g)).map Placed.node

/-- The exposed nodes below a root, in the order of the source. -/
def exposed (g : Grammar) (root : Node) : List Node :=
  exposedIn g (below root)

/-! ## What a node gives -/

/-- The definitions that a node makes: itself, when it is of a defining kind, or the one that
it decorates. -/
def definitionsAt (g : Grammar) (n : Node) : List Node :=
  (if g.classes.contains n.kind || g.functions.contains n.kind then [n] else []) ++
    if n.kind == decoratedKind then (n.child? "definition").toList else []

/-- A function with the marks that its signature earns in a language. -/
def withMarks (language : String) : String × Callable → String × Callable
  | (signature, f) => (signature, { f with
      isComponent :=
        beginsUpper signature && (language == "javascript" || language == "typescript")
      isHook := beginsAsHook signature })

section

variable (g : Grammar) (language : String) (source : ByteArray) (n : Node)

/-- The classes that a node defines, by name. -/
def classesAt : List (String × ClassDef) :=
  (definitionsAt g n).filterMap fun d =>
    if g.classes.contains d.kind then classOf? g source (decoratorsOf source n) d else none

/-- The function that a node keeps in a variable, by signature. -/
def variablesAt : List (String × Callable) :=
  if n.kind == variableKind then ((functionValue? n).bind (variableFunction? g source n)).toList
  else []

/-- The functions that a node defines or keeps in a variable, by signature. -/
def functionsAt : List (String × Callable) :=
  ((definitionsAt g n).filterMap fun d =>
    if g.classes.contains d.kind then none
    else (functionOf? g source (decoratorsOf source n) d).map (withMarks language)) ++
  variablesAt g source n

/-- The texts of the imports that a node makes. -/
def importsAt : List String :=
  if g.imports.contains n.kind then [n.text source] else []

/-- All that a node gives. -/
def ownItems : List Item :=
  (importsAt g source n).map .imported ++
    (classesAt g source n).map (fun (name, c) => .klass name c) ++
    (functionsAt g language source n).map fun (signature, f) => .function signature f

end

/-- No kind of node plays two parts. -/
structure Grammar.Apart (g : Grammar) : Prop where
  imports : ∀ kind ∈ g.imports, kind ∉ g.classes ∧ kind ∉ g.functions
  marks : ∀ kind ∈ [decoratedKind, variableKind],
    kind ∉ g.imports ∧ kind ∉ g.classes ∧ kind ∉ g.functions

theorem apart_of_known {language : String} {g : Grammar}
    (known : grammars.get? language = some g) : g.Apart := by
  have each : ∀ entry ∈ grammars,
      (∀ kind ∈ entry.2.imports, kind ∉ entry.2.classes ∧ kind ∉ entry.2.functions) ∧
      ∀ kind ∈ [decoratedKind, variableKind],
        kind ∉ entry.2.imports ∧ kind ∉ entry.2.classes ∧ kind ∉ entry.2.functions := by
    decide
  obtain ⟨entry, found, rfl⟩ := Option.map_eq_some_iff.mp known
  have mem := List.mem_of_find?_eq_some found
  exact ⟨(each entry mem).1, (each entry mem).2⟩

/-! ## The walk -/

section

variable {g : Grammar} {language : String} {source : ByteArray} {n : Node}

theorem contains_eq_false {kinds : List String} {kind : String} (new : kind ∉ kinds) :
    kinds.contains kind = false := by
  rw [List.contains_eq_mem, decide_eq_false new]

theorem filterMap_singleton {α β : Type} (f : α → Option β) (a : α) :
    [a].filterMap f = (f a).toList := by
  cases h : f a <;> simp [h]

/-- A mark is of no other kind. -/
theorem Grammar.Apart.of_mark (apart : g.Apart) (mark : String)
    (known : mark ∈ [decoratedKind, variableKind]) :
    g.imports.contains mark = false ∧ g.classes.contains mark = false ∧
      g.functions.contains mark = false := by
  obtain ⟨no_import, no_class, no_function⟩ := apart.marks mark known
  exact ⟨contains_eq_false no_import, contains_eq_false no_class, contains_eq_false no_function⟩

/-- A kind of node that plays a part is not a mark. -/
theorem Grammar.Apart.not_mark (apart : g.Apart) (kind : String)
    (known : (g.imports.contains kind || g.classes.contains kind ||
      g.functions.contains kind) = true) :
    (kind == decoratedKind) = false ∧ (kind == variableKind) = false := by
  refine ⟨beq_false_of_ne fun same => ?_, beq_false_of_ne fun same => ?_⟩
  all_goals
    obtain ⟨no_import, no_class, no_function⟩ := apart.of_mark kind (by simp [same])
    simp only [no_import, no_class, no_function] at known
    exact Bool.noConfusion known

/-- What a definition with certain decorators gives. -/
theorem definitionItems_eq (decorators : List Decorator) (d : Node) :
    definitionItems g language source decorators d =
      ((if g.classes.contains d.kind then classOf? g source decorators d else none).toList.map
        fun (name, c) => Item.klass name c) ++
      ((if g.classes.contains d.kind then none
        else (functionOf? g source decorators d).map (withMarks language)).toList.map
        fun (signature, f) => Item.function signature f) := by
  rw [definitionItems]
  split
  · cases classOf? g source decorators d <;> rfl
  · cases functionOf? g source decorators d <;> rfl

theorem ownItems_of_import (apart : g.Apart) (imports : g.imports.contains n.kind = true) :
    ownItems g language source n = [.imported (n.text source)] := by
  obtain ⟨no_class, no_function⟩ := apart.imports n.kind (List.contains_iff_mem.mp imports)
  obtain ⟨no_decorated, no_variable⟩ := apart.not_mark n.kind (by rw [imports]; rfl)
  simp only [ownItems, importsAt, classesAt, functionsAt, variablesAt, definitionsAt, imports,
    contains_eq_false no_class, contains_eq_false no_function, no_decorated, no_variable]
  rfl

theorem ownItems_of_decorated (apart : g.Apart) (decorated : (n.kind == decoratedKind) = true) :
    ownItems g language source n = match n.child? "definition" with
      | some d => definitionItems g language source (decoratorsOf source n) d
      | none => [] := by
  obtain ⟨no_import, no_class, no_function⟩ := apart.of_mark n.kind
    (by rw [eq_of_beq decorated]; decide)
  have no_variable : (n.kind == variableKind) = false := by
    rw [eq_of_beq decorated]
    decide
  simp only [ownItems, importsAt, classesAt, functionsAt, variablesAt, definitionsAt, no_import,
    no_class, no_function, decorated, no_variable]
  cases n.child? "definition" with
  | none => rfl
  | some d =>
    simp only [definitionItems_eq, Option.toList_some, filterMap_singleton, List.append_nil,
      List.nil_append, List.map_nil, if_true, Bool.or_false, Bool.false_eq_true, if_false]

theorem ownItems_of_definition (apart : g.Apart)
    (defines : (g.classes.contains n.kind || g.functions.contains n.kind) = true) :
    ownItems g language source n =
      definitionItems g language source (decoratorsOf source n) n := by
  have no_import : g.imports.contains n.kind = false := by
    refine contains_eq_false fun mem => ?_
    obtain ⟨no_class, no_function⟩ := apart.imports n.kind mem
    rw [contains_eq_false no_class, contains_eq_false no_function] at defines
    exact Bool.noConfusion defines
  obtain ⟨no_decorated, no_variable⟩ := apart.not_mark n.kind
    (by rw [Bool.or_assoc, defines, Bool.or_true])
  simp only [ownItems, importsAt, classesAt, functionsAt, variablesAt, definitionsAt, no_import,
    defines, no_decorated, no_variable, definitionItems_eq, if_true, Bool.false_eq_true,
    if_false, List.append_nil, filterMap_singleton, List.map_nil, List.nil_append]

theorem ownItems_of_variable (apart : g.Apart) (held : (n.kind == variableKind) = true) :
    ownItems g language source n = match functionValue? n with
      | some value => match variableFunction? g source n value with
        | some (signature, f) => [.function signature f]
        | none => []
      | none => [] := by
  obtain ⟨no_import, no_class, no_function⟩ := apart.of_mark n.kind
    (by rw [eq_of_beq held]; decide)
  have no_decorated : (n.kind == decoratedKind) = false := by
    rw [eq_of_beq held]
    decide
  simp only [ownItems, importsAt, classesAt, functionsAt, variablesAt, definitionsAt, no_import,
    no_class, no_function, no_decorated, held]
  cases functionValue? n with
  | none => rfl
  | some value => cases h : variableFunction? g source n value <;> simp [h]

/-- Any other node gives nothing. -/
theorem ownItems_of_plain (plain : hides g n = false) : ownItems g language source n = [] := by
  simp only [hides, Bool.or_eq_false_iff] at plain
  obtain ⟨⟨⟨⟨no_import, no_class⟩, no_function⟩, no_decorated⟩, no_variable⟩ := plain
  have no_variables : variablesAt g source n = [] := by
    rw [variablesAt]
    split
    · next held =>
      rw [held, Bool.true_and, Option.isSome_eq_false_iff, Option.isNone_iff_eq_none]
        at no_variable
      rw [no_variable]
      rfl
    · rfl
  simp only [ownItems, importsAt, classesAt, functionsAt, definitionsAt, no_import, no_class,
    no_function, no_decorated, no_variables]
  rfl

/-- A node that hides what is inside it gives its own items, and any other node gives none and
is looked into. -/
theorem itemsAt_eq (apart : g.Apart) (n : Node) : itemsAt g language source n =
    ownItems g language source n ++
      if hides g n then [] else itemsAmong g language source n.children := by
  obtain ⟨kind, start, stop, row, field, children⟩ := n
  rw [itemsAt]
  set n := Node.mk kind start stop row field children with whole
  have own : n.kind = kind := rfl
  have inside : n.children = children := rfl
  rw [← own, ← inside]
  -- The cases are those of the walk, in its order.
  split
  · next imports =>
    have hidden : hides g n = true := by rw [hides, imports]; rfl
    rw [ownItems_of_import apart imports, hidden]
    rfl
  split
  · next decorated =>
    have hidden : hides g n = true := by rw [hides, decorated, Bool.or_true, Bool.true_or]
    rw [hidden, if_pos rfl, List.append_nil]
    exact (ownItems_of_decorated apart decorated).symm
  split
  · next defines =>
    have hidden : hides g n = true := by
      rw [hides, Bool.or_assoc (g.imports.contains _), defines, Bool.or_true, Bool.true_or,
        Bool.true_or]
    rw [hidden, if_pos rfl, List.append_nil]
    exact (ownItems_of_definition apart defines).symm
  split
  · next held =>
    have hidden : hides g n = true := by rw [hides, held, Bool.or_true]
    rw [hidden, if_pos rfl, List.append_nil]
    exact (ownItems_of_variable apart (Bool.and_eq_true_iff.mp held).1).symm
  next no_import no_decorated no_definition no_variable =>
    have plain : hides g n = false := by
      rw [Bool.not_eq_true, Bool.or_eq_false_iff] at no_definition
      rw [Bool.not_eq_true] at no_import no_decorated no_variable
      rw [hides, no_import, no_definition.1, no_definition.2, no_decorated, no_variable]
      rfl
    rw [ownItems_of_plain plain, plain]
    rfl

mutual

/-- What is inside a node stands in all that the node stands in. -/
theorem above_prefix_of_mem_placedAt {above : List Node} {q : Placed} :
    (n : Node) → q ∈ placedAt above n → above <+: q.above
  | .mk kind start stop row field children, mem => by
    rw [placedAt] at mem
    rcases List.mem_cons.mp mem with rfl | inner
    · exact List.prefix_rfl
    · exact (List.prefix_append _ _).trans (above_prefix_of_mem_placedAmong children inner)

theorem above_prefix_of_mem_placedAmong {above : List Node} {q : Placed} :
    (ns : List Node) → q ∈ placedAmong above ns → above <+: q.above
  | [], mem => nomatch mem
  | n :: rest, mem => by
    rw [placedAmong] at mem
    rcases List.mem_append.mp mem with here | later
    · exact above_prefix_of_mem_placedAt n here
    · exact above_prefix_of_mem_placedAmong rest later

end

/-- Nothing is exposed in what hides. -/
theorem exposedIn_placedAmong_of_hidden {above ns : List Node} (mem : n ∈ above)
    (hidden : hides g n = true) : exposedIn g (placedAmong above ns) = [] := by
  rw [exposedIn, List.map_eq_nil_iff, List.filter_eq_nil_iff]
  intro q inner clear
  have outside := (above_prefix_of_mem_placedAmong ns inner).subset mem
  have shown := List.all_eq_true.mp clear n outside
  rw [hidden] at shown
  exact Bool.noConfusion shown

theorem exposedIn_append (ps qs : List Placed) :
    exposedIn g (ps ++ qs) = exposedIn g ps ++ exposedIn g qs := by
  rw [exposedIn, List.filter_append, List.map_append]
  rfl

theorem exposedIn_cons {q : Placed} (clear : q.isExposed g = true) (ps : List Placed) :
    exposedIn g (q :: ps) = q.node :: exposedIn g ps := by
  rw [exposedIn, List.filter_cons_of_pos clear, List.map_cons]
  rfl

mutual

/-- The walk through a node that nothing hides meets the exposed nodes. -/
theorem itemsAt_eq_flatMap (apart : g.Apart) (above : List Node)
    (clear : (above.all fun n => !hides g n) = true) :
    (n : Node) → itemsAt g language source n =
      (exposedIn g (placedAt above n)).flatMap (ownItems g language source)
  | .mk kind start stop row field children => by
    rw [itemsAt_eq apart, placedAt, exposedIn_cons (q := ⟨above, _⟩) clear, List.flatMap_cons]
    congr 1
    set n := Node.mk kind start stop row field children
    cases hidden : hides g n with
    | true =>
      have within : n ∈ above ++ [n] := List.mem_append_right _ List.mem_cons_self
      rw [if_pos rfl, exposedIn_placedAmong_of_hidden within hidden]
      rfl
    | false =>
      have further : ((above ++ [n]).all fun n => !hides g n) = true := by
        rw [List.all_append, clear, List.all_cons, hidden]
        rfl
      exact itemsAmong_eq_flatMap apart _ further children

theorem itemsAmong_eq_flatMap (apart : g.Apart) (above : List Node)
    (clear : (above.all fun n => !hides g n) = true) :
    (ns : List Node) → itemsAmong g language source ns =
      (exposedIn g (placedAmong above ns)).flatMap (ownItems g language source)
  | [] => rfl
  | n :: rest => by
    rw [itemsAmong, placedAmong, exposedIn_append, List.flatMap_append,
      itemsAt_eq_flatMap apart above clear n, itemsAmong_eq_flatMap apart above clear rest]

end

/-! ## The record of the items -/

/-- An analysis with what several nodes give. -/
def withNodes (g : Grammar) (source : ByteArray) (a : FileAnalysis) (ns : List Node) :
    FileAnalysis :=
  { a with
    imports := (ns.flatMap (importsAt g source)).foldl (fun t text => addImport a.language text t)
      a.imports
    classes := (ns.flatMap (classesAt g source)).foldl (fun t entry => t.setNew entry.1 entry.2)
      a.classes
    functions := (ns.flatMap (functionsAt g a.language source)).foldl
      (fun t entry => t.setNew entry.1 entry.2) a.functions }

theorem foldl_addItem_imports (texts : List String) (a : FileAnalysis) :
    (texts.map Item.imported).foldl addItem a =
      { a with imports := texts.foldl (fun t text => addImport a.language text t) a.imports } := by
  induction texts generalizing a with
  | nil => rfl
  | cons text rest ih =>
    rw [List.map_cons, List.foldl_cons, ih]
    rfl

theorem foldl_addItem_classes (entries : List (String × ClassDef)) (a : FileAnalysis) :
    (entries.map fun (name, c) => Item.klass name c).foldl addItem a =
      { a with classes := entries.foldl (fun t entry => t.setNew entry.1 entry.2) a.classes } := by
  induction entries generalizing a with
  | nil => rfl
  | cons entry rest ih =>
    rw [List.map_cons, List.foldl_cons, ih]
    rfl

theorem foldl_addItem_functions (entries : List (String × Callable)) (a : FileAnalysis) :
    (entries.map fun (signature, f) => Item.function signature f).foldl addItem a =
      { a with functions :=
          entries.foldl (fun t entry => t.setNew entry.1 entry.2) a.functions } := by
  induction entries generalizing a with
  | nil => rfl
  | cons entry rest ih =>
    rw [List.map_cons, List.foldl_cons, ih]
    rfl

/-- The items of several nodes are recorded kind by kind. -/
theorem foldl_addItem_ownItems (ns : List Node) (a : FileAnalysis) :
    (ns.flatMap (ownItems g a.language source)).foldl addItem a = withNodes g source a ns := by
  induction ns generalizing a with
  | nil => rfl
  | cons n rest ih =>
    rw [List.flatMap_cons, List.foldl_append, ownItems, List.foldl_append, List.foldl_append,
      foldl_addItem_imports, foldl_addItem_classes, foldl_addItem_functions]
    refine (ih _).trans ?_
    simp only [withNodes, List.flatMap_cons, List.foldl_append]

/-- The outline of a tree is told by its exposed nodes. -/
theorem collect_eq_withNodes (apart : g.Apart) (content path : String) (root : Node) :
    collect g language content path root =
      withNodes g content.toUTF8 { path := path, language := language } (exposed g root) := by
  rw [collect, itemsAmong_eq_flatMap apart [] rfl, exposed, below,
    ← foldl_addItem_ownItems]

end

/-! ## Names -/

/-- The node keeps a function in a variable whose name is an identifier of no characters. -/
def isNameless (source : ByteArray) (n : Node) : Bool :=
  n.kind == variableKind && (functionValue? n).isSome &&
    (n.child? "name").any fun name => name.kind == "identifier" && (name.text source).isEmpty

/-- The functions that a node defines or keeps in a variable under a name. -/
def namedFunctionsAt (g : Grammar) (language : String) (source : ByteArray) (n : Node) :
    List (String × Callable) :=
  if isNameless source n then [] else functionsAt g language source n

section

variable {g : Grammar} {language : String} {source : ByteArray} {n : Node}

/-- A class is recorded under a name. -/
theorem ne_empty_of_mem_classesAt {name : String} {c : ClassDef}
    (mem : (name, c) ∈ classesAt g source n) : name ≠ "" := by
  obtain ⟨d, -, found⟩ := List.mem_filterMap.mp mem
  obtain ⟨-, made⟩ := Option.ite_none_right_eq_some.mp found
  obtain ⟨named, same⟩ := Option.ite_none_left_eq_some.mp made
  obtain rfl := congrArg Prod.fst (Option.some.inj same)
  exact fun empty => named (String.isEmpty_iff.mpr empty)

/-- A defined function is recorded under a name. -/
theorem exists_name_of_functionOf? {decorators : List Decorator} {d : Node} {signature : String}
    {f : Callable} (found : functionOf? g source decorators d = some (signature, f)) :
    ∃ name parameters, name ≠ "" ∧ signature = signatureOf name parameters := by
  obtain ⟨named, same⟩ := Option.ite_none_left_eq_some.mp found
  exact ⟨nameOf source d, _, fun empty => named (String.isEmpty_iff.mpr empty),
    (congrArg Prod.fst (Option.some.inj same)).symm⟩

/-- The name of a variable is recorded as it is. -/
theorem exists_name_of_variableFunction? {value : Node} {signature : String} {f : Callable}
    (found : variableFunction? g source n value = some (signature, f)) :
    ∃ name parameters, n.child? "name" = some name ∧ name.kind = "identifier" ∧
      signature = signatureOf (name.text source) (namesUnder g source parameters) := by
  rw [variableFunction?] at found
  split at found
  · cases found
  · next name held =>
    obtain ⟨identifies, same⟩ := Option.ite_none_left_eq_some.mp found
    refine ⟨name, _, held, ?_, (congrArg Prod.fst (Option.some.inj same)).symm⟩
    simpa using identifies

theorem mem_variablesAt {entry : String × Callable} : entry ∈ variablesAt g source n ↔
    (n.kind == variableKind) = true ∧
      ∃ value, functionValue? n = some value ∧ variableFunction? g source n value = some entry := by
  rw [variablesAt]
  split
  · next held => rw [Option.mem_toList, Option.bind_eq_some_iff, and_iff_right held]
  · next other => exact ⟨nofun, fun given => absurd given.1 other⟩

/-- A function is recorded under a name, if it is not kept in a variable without one. -/
theorem exists_name_of_mem_functionsAt {signature : String} {f : Callable}
    (mem : (signature, f) ∈ functionsAt g language source n) :
    ∃ name parameters, signature = signatureOf name parameters ∧
      (name = "" → isNameless source n = true) := by
  rcases List.mem_append.mp mem with defined | kept
  · obtain ⟨d, -, found⟩ := List.mem_filterMap.mp defined
    obtain ⟨-, found⟩ := Option.ite_none_left_eq_some.mp found
    obtain ⟨⟨signature', f'⟩, made, same⟩ := Option.map_eq_some_iff.mp found
    obtain ⟨name, parameters, named, written⟩ := exists_name_of_functionOf? made
    exact ⟨name, parameters, (congrArg Prod.fst same).symm.trans written,
      fun empty => absurd empty named⟩
  · obtain ⟨held, value, is_value, made⟩ := mem_variablesAt.mp kept
    obtain ⟨name, parameters, is_name, identifies, written⟩ :=
      exists_name_of_variableFunction? made
    refine ⟨_, _, written, fun empty => ?_⟩
    rw [isNameless, held, is_value, is_name, Option.any_some, identifies, empty]
    rfl

/-- A variable without a name is recorded all the same. -/
theorem exists_mem_functionsAt_of_isNameless (g : Grammar) (language : String)
    (nameless : isNameless source n = true) :
    ∃ parameters f, (signatureOf "" (namesUnder g source parameters), f) ∈
      functionsAt g language source n := by
  rw [isNameless, Bool.and_eq_true, Bool.and_eq_true] at nameless
  obtain ⟨⟨held, is_value⟩, named⟩ := nameless
  obtain ⟨value, is_value⟩ := Option.isSome_iff_exists.mp is_value
  obtain ⟨name, is_name, empty⟩ := (Option.any_eq_true _ _).mp named
  rw [Bool.and_eq_true, beq_iff_eq, String.isEmpty_iff] at empty
  obtain ⟨⟨signature, f⟩, made⟩ : ∃ entry, variableFunction? g source n value = some entry := by
    rw [variableFunction?, is_name]
    simp only [empty.1]
    exact ⟨_, rfl⟩
  obtain ⟨name', parameters, is_name', -, written⟩ := exists_name_of_variableFunction? made
  obtain rfl := Option.some.inj (is_name.symm.trans is_name')
  rw [empty.2] at written
  subst written
  exact ⟨parameters, f,
    List.mem_append_right _ (mem_variablesAt.mpr ⟨held, value, is_value, made⟩)⟩

end

/-! ## Signatures without a name -/

theorem isWordOrDollar_of_starts {c : Char} (starts : startsIdentifier c = true) :
    isWordOrDollar c = true := by
  simp only [startsIdentifier, Bool.or_eq_true] at starts
  simp only [isWordOrDollar, Bool.or_eq_true]
  refine starts.imp_left fun word => ?_
  rcases word with letter | line
  · exact Text.isWordChar_of_ascii (Text.isAscii_of_isAlpha letter)
  · rw [eq_of_beq line]
    decide

/-- A matched identifier has no other characters than an identifier may have. -/
theorem continues_of_mem_matchedTexts {text name : String}
    (mem : name ∈ matchedTexts identifier text) :
    ∀ c ∈ name.toList, isWordOrDollar c = true := by
  obtain ⟨m, found, rfl⟩ := List.mem_map.mp mem
  obtain ⟨inside, matched⟩ := Text.Pattern.matchAt?_of_mem_findAll found
  obtain ⟨first, rest, mid, split, ⟨⟨c, rfl, starts⟩, -⟩, continues⟩ :=
    Text.Pattern.reads_of_matchAt? inside matched
  rw [Text.textBetween_eq, String.toList_ofList, split, List.forall_mem_append]
  exact ⟨by simpa using isWordOrDollar_of_starts starts,
    (Text.Pattern.reads_many.mp continues).1⟩

theorem exists_word_of_parameterName? {typed : Bool} {piece name : String}
    (found : parameterName? typed piece = some name) :
    ∃ text word, word ∈ matchedTexts identifier text ∧ name = collectMark text ++ word := by
  simp only [parameterName?] at found
  generalize (ite (typed = true) _ (Text.trim _)) = text at found
  obtain ⟨word, taken, same⟩ := Option.map_eq_some_iff.mp found
  refine ⟨text, word, ?_, same.symm⟩
  split at taken
  · exact List.mem_of_getLast? taken
  · exact List.mem_of_head? taken

/-- No parameter has a parenthesis in its name. -/
theorem not_mem_of_mem_parameterNames {typed : Bool} {text name : String}
    (mem : name ∈ parameterNames typed text) : '(' ∉ name.toList := by
  obtain ⟨piece, -, found⟩ := List.mem_filterMap.mp mem
  obtain ⟨text, word, matched, rfl⟩ := exists_word_of_parameterName? found
  have free : '(' ∉ word.toList := by
    intro inside
    have outside : isWordOrDollar '(' = false := by decide +kernel
    rw [continues_of_mem_matchedTexts matched _ inside] at outside
    cases outside
  have mark : '(' ∉ (collectMark text).toList := by
    rw [collectMark]
    cases starts : ["**", "*", "..."].find? fun mark => Text.startsWith text mark with
    | none => exact List.not_mem_nil
    | some mark =>
      have each : ∀ mark ∈ ["**", "*", "..."], '(' ∉ mark.toList := by decide
      exact each mark (List.mem_of_find?_eq_some starts)
  rw [String.toList_append, List.mem_append]
  exact not_or_intro mark free

theorem not_mem_of_mem_namesUnder {g : Grammar} {source : ByteArray} {parameters : Option Node}
    {name : String} (mem : name ∈ namesUnder g source parameters) : '(' ∉ name.toList := by
  cases parameters with
  | none => cases mem
  | some p =>
    have whole : namesUnder g source (some p) =
      parameterNames g.typedParameters (p.text source) := by rw [namesUnder]
    exact not_mem_of_mem_parameterNames (whole ▸ mem)

/-- A signature with a name is not one without. -/
theorem signatureOf_ne {name : String} (named : name ≠ "") (parameters others : List String)
    (free : ∀ other ∈ others, '(' ∉ other.toList) :
    signatureOf name parameters ≠ signatureOf "" others := by
  intro same
  have inner : ∀ c ∈ (Text.join ", " others ++ ")").toList, c ≠ '(' := by
    rw [String.toList_append, List.forall_mem_append]
    refine ⟨Text.forall_mem_join (by decide) fun other mem c inside opens => ?_, by decide⟩
    exact free other mem (opens ▸ inside)
  have chars := congrArg String.toList same
  rw [signatureOf, signatureOf, String.empty_append, String.append_assoc, String.append_assoc,
    String.append_assoc, String.toList_append] at chars
  cases front : name.toList with
  | nil => exact named (String.toList_eq_nil_iff.mp front)
  | cons c cs =>
    have first : ("(" ++ (Text.join ", " others ++ ")")).toList =
      '(' :: (Text.join ", " others ++ ")").toList := String.toList_append
    rw [front, first] at chars
    -- The parenthesis after the name would stand among the other parameters.
    refine inner '(' ?_ rfl
    rw [← (List.cons.inj chars).2, String.toList_append]
    exact List.mem_append_right cs List.mem_cons_self

/-! ## The outline -/

/-- An analysis records of a tree what its exposed nodes give, where the functions that a node
gives are told. -/
structure Outlines (g : Grammar) (language : String) (source : ByteArray) (root : Node)
    (functions : Node → List (String × Callable)) (a : FileAnalysis) : Prop where
  classes : a.classes.Firsts ((exposed g root).flatMap (classesAt g source))
  functions : a.functions.Firsts ((exposed g root).flatMap functions)
  imports : a.imports = ((exposed g root).flatMap (importsAt g source)).foldl
    (fun t text => addImport language text t) []

section

variable {g : Grammar} {language content path : String} {root : Node}

theorem outlines_collect (apart : g.Apart) :
    Outlines g language content.toUTF8 root (functionsAt g language content.toUTF8)
      (collect g language content path root) := by
  rw [collect_eq_withNodes apart]
  exact ⟨Table.firsts_foldl_setNew _, Table.firsts_foldl_setNew _, rfl⟩

/-- Only named functions are recorded, exactly if no exposed variable is without a name. -/
theorem outlines_named_iff (apart : g.Apart) :
    Outlines g language content.toUTF8 root (namedFunctionsAt g language content.toUTF8)
        (collect g language content path root) ↔
      ∀ n ∈ exposed g root, isNameless content.toUTF8 n = false := by
  have outlined : Outlines g language content.toUTF8 root _
    (collect g language content path root) := outlines_collect apart
  refine ⟨fun named n mem => ?_, fun all_named => ⟨outlined.classes, ?_, outlined.imports⟩⟩
  · by_contra nameless
    rw [Bool.not_eq_false] at nameless
    obtain ⟨parameters, f, given⟩ := exists_mem_functionsAt_of_isNameless g language nameless
    have recorded : signatureOf "" (namesUnder g content.toUTF8 parameters) ∈
        (collect g language content path root).functions.keys := by
      rw [outlined.functions.keys, mem_distinct]
      exact List.mem_map.mpr ⟨_, List.mem_flatMap.mpr ⟨n, mem, given⟩, rfl⟩
    rw [named.functions.keys, mem_distinct] at recorded
    obtain ⟨⟨signature, f'⟩, given', same⟩ := List.mem_map.mp recorded
    obtain ⟨n', mem', given'⟩ := List.mem_flatMap.mp given'
    obtain ⟨has_name, given'⟩ := (List.mem_ite_nil_left).mp given'
    obtain ⟨name, parameters', rfl, empty⟩ := exists_name_of_mem_functionsAt given'
    exact signatureOf_ne (fun none => has_name (empty none)) parameters' _
      (fun _ => not_mem_of_mem_namesUnder) same
  · have alike : (exposed g root).flatMap (namedFunctionsAt g language content.toUTF8) =
        (exposed g root).flatMap (functionsAt g language content.toUTF8) := by
      refine List.flatMap_congr fun n mem => ?_
      rw [namedFunctionsAt, all_named n mem]
      rfl
    rw [alike]
    exact outlined.functions

theorem parse_eq_collect {p : StructuralParser} {library : GrammarLibrary} {given : Option String}
    (named : (given.filter fun l => !l.isEmpty).or (languageOfPath? path) = some language)
    (known : grammars.get? language = some g) (loadable : p.has library language = true)
    (drawn : library.tree? language content = some root) :
    p.parse library given content path = .ok (collect g language content path root) := by
  simp only [StructuralParser.parse, named, loadable, if_true, GrammarLibrary.analyse, known, drawn]

/-- Where a grammar is at hand and there is a tree, parsing succeeds, and what it records is
told by the exposed nodes of the tree: their classes and functions, the first of each key and
the keys in the order of the source, and their imports. No class is without a name, and no
function but those of exposed variables without a name; the functions are those of the nodes
that have a name exactly if no exposed variable has none. -/
theorem exposed_nodes_recorded {p : StructuralParser} {library : GrammarLibrary}
    {given : Option String}
    (named : (given.filter fun l => !l.isEmpty).or (languageOfPath? path) = some language)
    (known : grammars.get? language = some g) (loadable : p.has library language = true)
    (drawn : library.tree? language content = some root) :
    ∃ a, p.parse library given content path = .ok a ∧ a.path = path ∧ a.language = language ∧
      Outlines g language content.toUTF8 root (functionsAt g language content.toUTF8) a ∧
      "" ∉ a.classes.keys ∧
      (∀ key ∈ a.functions.keys, ∃ name parameters, key = signatureOf name parameters ∧
        (name = "" → ∃ n ∈ exposed g root, isNameless content.toUTF8 n = true)) ∧
      (Outlines g language content.toUTF8 root (namedFunctionsAt g language content.toUTF8) a ↔
        ∀ n ∈ exposed g root, isNameless content.toUTF8 n = false) := by
  have apart := apart_of_known known
  have outlined : Outlines g language content.toUTF8 root _
    (collect g language content path root) := outlines_collect apart
  have whole : collect g language content path root = _ := collect_eq_withNodes apart _ _ root
  refine ⟨_, parse_eq_collect named known loadable drawn, by rw [whole]; rfl, by rw [whole]; rfl,
    outlined, fun mem => ?_, fun key mem => ?_, outlines_named_iff apart⟩
  · rw [outlined.classes.keys, mem_distinct] at mem
    obtain ⟨⟨name, c⟩, mem, empty⟩ := List.mem_map.mp mem
    obtain ⟨n, -, mem⟩ := List.mem_flatMap.mp mem
    exact ne_empty_of_mem_classesAt mem empty
  · rw [outlined.functions.keys, mem_distinct] at mem
    obtain ⟨⟨signature, f⟩, given, rfl⟩ := List.mem_map.mp mem
    obtain ⟨n, shown, given⟩ := List.mem_flatMap.mp given
    obtain ⟨name, parameters, written, nameless⟩ := exists_name_of_mem_functionsAt given
    exact ⟨name, parameters, written, fun empty => ⟨n, shown, nameless empty⟩⟩

end

/-- The tree of a function with a function inside. -/
def nestedTree : Node :=
  .mk "module" 0 25 0 none [
    .mk "function_definition" 0 25 0 none [
      .mk "identifier" 4 5 0 (some "name") [],
      .mk "parameters" 5 8 0 (some "parameters") [],
      .mk "block" 12 25 1 (some "body") [
        .mk "function_definition" 12 25 1 none [
          .mk "identifier" 16 17 1 (some "name") []]]]]

/-- A library that knows one tree. -/
def oneTree (language : String) (root : Node) : GrammarLibrary where
  available := true
  languages := [language]
  tree? := ⟨fun _ _ => some root⟩

theorem exposed_nodes_recorded_of_nested : ∃ a,
    StructuralParser.parse { enabled := true } (oneTree "python" nestedTree) none
      "def f(x):\n  def g(): pass\n" "a.py" = .ok a ∧
      a.functions.keys = ["f(x)"] ∧ a.classes.keys = [] ∧ a.imports = [] := by
  have named : (none.filter fun l : String => !l.isEmpty).or (languageOfPath? "a.py") =
    some "python" := by decide +kernel
  have loadable : StructuralParser.has { enabled := true } (oneTree "python" nestedTree)
    "python" = true := by decide +kernel
  have drawn : (oneTree "python" nestedTree).tree? "python" "def f(x):\n  def g(): pass\n" =
    some nestedTree := rfl
  obtain ⟨a, parsed, -, -, outlined, -⟩ := exposed_nodes_recorded named rfl loadable drawn
  refine ⟨a, parsed, ?_, ?_, ?_⟩
  · rw [outlined.functions.keys]
    decide +kernel
  · rw [outlined.classes.keys]
    decide +kernel
  · rw [outlined.imports]
    decide +kernel

/-- The tree of a script that keeps a function in a variable whose name is missing. -/
def namelessTree : Node :=
  .mk "program" 0 13 0 none [
    .mk "variable_declarator" 4 13 0 none [
      .mk "identifier" 4 4 0 (some "name") [],
      .mk "arrow_function" 6 13 0 (some "value") []]]

/-- Nodes without a name do give something: it is not so that the recorded functions are
those of the exposed nodes that have a name. -/
theorem nameless_variable_recorded : ¬ ∀ (p : StructuralParser) (library : GrammarLibrary)
    (given : Option String) (language content path : String) (g : Grammar) (root : Node),
    (given.filter fun l => !l.isEmpty).or (languageOfPath? path) = some language →
    grammars.get? language = some g → p.has library language = true →
    library.tree? language content = some root →
    ∃ a, p.parse library given content path = .ok a ∧
      Outlines g language content.toUTF8 root (namedFunctionsAt g language content.toUTF8) a := by
  intro claim
  have named : (none.filter fun l : String => !l.isEmpty).or (languageOfPath? "a.js") =
    some "javascript" := by decide +kernel
  have loadable : StructuralParser.has { enabled := true } (oneTree "javascript" namelessTree)
    "javascript" = true := by decide +kernel
  obtain ⟨a, parsed, outlined⟩ :=
    claim _ _ none "javascript" "var = () => 1" "a.js" _ namelessTree named rfl loadable rfl
  rw [parse_eq_collect named rfl loadable rfl] at parsed
  obtain rfl := Except.ok.inj parsed
  have apart := apart_of_known (show grammars.get? "javascript" = some _ from rfl)
  have all_named := (outlines_named_iff apart).mp outlined
  exact absurd all_named (by decide +kernel)

end Outline

end RepoSurvey
