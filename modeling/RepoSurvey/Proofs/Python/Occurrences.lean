import RepoSurvey.Proofs.Python.Sightings

/-!
# Calls that occur in a source

An expression occurs in a statement when it stands in the head of the statement or
of one nested in it, at any depth (`Stmt.Holds`). The calls of a statement are
collected by one function for each kind of node; none that occurs is missed
(`Stmt.Holds.mem_calls`). So a call whose statement is kept has its tag in the analysis
(`tag_recorded`).
-/

namespace RepoSurvey.Python

/-! ## Occurrences -/

mutual

/-- The expressions in the pieces of a formatted string and in their formats. -/
def partExprs : List Part → List Expr
  | [] => []
  | .text _ :: rest => partExprs rest
  | .place value _ format :: rest => value :: (formatExprs format ++ partExprs rest)

/-- The expressions in a format. -/
def formatExprs : Option (List Part) → List Expr
  | none => []
  | some parts => partExprs parts

end

/-- The value of an argument by name. -/
def Keyword.value : Keyword → Expr
  | .mk _ value => value

/-- The key of an entry, where it has one, and its value. -/
def Entry.children : Entry → List Expr
  | .mk key value => key.toList ++ [value]

/-- The target, the source and the conditions of a clause. -/
def Clause.children : Clause → List Expr
  | .mk _ target source conditions => target :: source :: conditions

/-- The operand of a link. -/
def Link.operand : Link → Expr
  | .mk _ operand => operand

/-- The type and the default value of a parameter, where it has them. -/
def Param.children : Param → List Expr
  | .mk _ _ note value => note.toList ++ value.toList

/-- The expressions right inside an expression. -/
def Expr.children : Expr → List Expr
  | .name _ => []
  | .constant _ => []
  | .joined parts => partExprs parts
  | .attribute value _ => [value]
  | .subscript value index => [value, index]
  | .call _ func args keywords => func :: args ++ keywords.map Keyword.value
  | .starred value => [value]
  | .tuple items => items
  | .list items => items
  | .set items => items
  | .dict entries => entries.flatMap Entry.children
  | .listComp item clauses => item :: clauses.flatMap Clause.children
  | .setComp item clauses => item :: clauses.flatMap Clause.children
  | .generator item clauses => item :: clauses.flatMap Clause.children
  | .dictComp key value clauses => key :: value :: clauses.flatMap Clause.children
  | .slice lower upper step => lower.toList ++ upper.toList ++ step.toList
  | .boolean _ values => values
  | .binary left _ right => [left, right]
  | .unary _ operand => [operand]
  | .compare first links => first :: links.map Link.operand
  | .named target value => [target, value]
  | .lambda params body => params.flatMap Param.children ++ [body]
  | .conditional test body orelse => [test, body, orelse]
  | .await value => [value]
  | .yield value => value.toList
  | .yieldFrom value => [value]

/-- The expression is the other one or stands in it, at any depth. -/
inductive Expr.Within (e : Expr) : Expr → Prop
  | self : Within e e
  | child {inner root : Expr} (mem : inner ∈ root.children) (h : Within e inner) : Within e root

/-- The expressions right inside a statement: those of its head. -/
def Stmt.heads : Stmt → List Expr
  | .function _ _ _ params returns decorators _ =>
    params.flatMap Param.children ++ returns.toList ++ decorators
  | .classDef _ _ bases keywords decorators _ => bases ++ keywords.map Keyword.value ++ decorators
  | .expression value => [value]
  | .simple parts => parts
  | .importModules _ => []
  | .importFrom _ _ _ => []
  | .compound heads suites => heads ++ suites.flatMap (·.parts.1)

/-- The statements right inside a statement. -/
def Stmt.inner : Stmt → List Stmt
  | .function _ _ _ _ _ _ body => body
  | .classDef _ _ _ _ _ body => body
  | .expression _ => []
  | .simple _ => []
  | .importModules _ => []
  | .importFrom _ _ _ => []
  | .compound _ suites => suites.flatMap (·.parts.2)

/-- The expression stands in the statement, at any depth. -/
inductive Stmt.Holds (e : Expr) : Stmt → Prop
  | head {s : Stmt} {root : Expr} (mem : root ∈ s.heads) (h : e.Within root) : Holds e s
  | inner {s t : Stmt} (mem : t ∈ s.inner) (h : Holds e t) : Holds e s

/-! ## Every call that occurs is collected -/

theorem allCalls_append (front back : List Expr) :
    allCalls (front ++ back) = allCalls front ++ allCalls back := by
  induction front with
  | nil => rfl
  | cons e rest ih => rw [List.cons_append, allCalls, allCalls, ih, List.append_assoc]

theorem mem_allCalls {es : List Expr} {c : MethodCall} :
    c ∈ allCalls es ↔ ∃ e ∈ es, c ∈ e.calls := by
  induction es with
  | nil => exact ⟨nofun, nofun⟩
  | cons e rest ih => simp only [allCalls, List.mem_append, ih, List.exists_mem_cons_iff]

theorem bodyCalls_append (front back : List Stmt) :
    bodyCalls (front ++ back) = bodyCalls front ++ bodyCalls back := by
  induction front with
  | nil => rfl
  | cons s rest ih => rw [List.cons_append, bodyCalls, bodyCalls, ih, List.append_assoc]

theorem optionCalls_eq (e? : Option Expr) : optionCalls e? = allCalls e?.toList := by
  cases e? with
  | none => rfl
  | some e => exact (List.append_nil _).symm

mutual

theorem partCalls_eq : ∀ parts : List Part, partCalls parts = allCalls (partExprs parts)
  | [] => by rw [partCalls, partExprs, allCalls]
  | .text _ :: rest => by rw [partCalls, partExprs, partCalls_eq rest]
  | .place value _ format :: rest => by
    rw [partCalls, partExprs, allCalls, allCalls_append, formatCalls_eq format, partCalls_eq rest,
      List.append_assoc]

theorem formatCalls_eq : ∀ format : Option (List Part),
    formatCalls format = allCalls (formatExprs format)
  | none => by rw [formatCalls, formatExprs, allCalls]
  | some parts => by rw [formatCalls, formatExprs, partCalls_eq parts]

end

theorem keywordCalls_eq (ks : List Keyword) :
    keywordCalls ks = allCalls (ks.map Keyword.value) := by
  induction ks with
  | nil => rfl
  | cons k rest ih =>
    obtain ⟨name, value⟩ := k
    rw [keywordCalls, ih]
    rfl

theorem entryCalls_eq (entries : List Entry) :
    entryCalls entries = allCalls (entries.flatMap Entry.children) := by
  induction entries with
  | nil => rfl
  | cons entry rest ih =>
    obtain ⟨key, value⟩ := entry
    simp only [entryCalls, ih, List.flatMap_cons, Entry.children, allCalls_append, optionCalls_eq,
      allCalls, List.append_nil]

theorem clauseCalls_eq (clauses : List Clause) :
    clauseCalls clauses = allCalls (clauses.flatMap Clause.children) := by
  induction clauses with
  | nil => rfl
  | cons clause rest ih =>
    obtain ⟨isAsync, target, source, conditions⟩ := clause
    simp only [clauseCalls, ih, List.flatMap_cons, Clause.children, allCalls_append, allCalls,
      List.cons_append, List.append_assoc]

theorem linkCalls_eq (links : List Link) : linkCalls links = allCalls (links.map Link.operand) := by
  induction links with
  | nil => rfl
  | cons link rest ih =>
    obtain ⟨o, operand⟩ := link
    rw [linkCalls, ih]
    rfl

theorem paramCalls_eq (params : List Param) :
    paramCalls params = allCalls (params.flatMap Param.children) := by
  induction params with
  | nil => rfl
  | cons param rest ih =>
    obtain ⟨kind, name, note, value⟩ := param
    simp only [paramCalls, ih, List.flatMap_cons, Param.children, allCalls_append, optionCalls_eq]

/-- The call that an expression is, when it calls an attribute. -/
def Expr.own : Expr → List MethodCall
  | .call position func _ _ => ownCall position func
  | _ => []

/-- The calls in an expression are its own and those in the expressions right inside it. -/
theorem Expr.calls_eq (e : Expr) : e.calls = e.own ++ allCalls e.children := by
  cases e <;>
    simp only [calls, own, children, allCalls, allCalls_append, partCalls_eq, keywordCalls_eq,
      entryCalls_eq, clauseCalls_eq, linkCalls_eq, paramCalls_eq, optionCalls_eq, List.nil_append,
      List.append_nil, List.append_assoc, List.cons_append]

theorem mem_suiteCalls {suites : List Suite} {c : MethodCall} :
    c ∈ suiteCalls suites ↔
      c ∈ allCalls (suites.flatMap (·.parts.1)) ∨ c ∈ bodyCalls (suites.flatMap (·.parts.2)) := by
  induction suites with
  | nil => simp [suiteCalls, allCalls, bodyCalls]
  | cons suite rest ih =>
    have first : c ∈ suiteCalls (suite :: rest) ↔
        (c ∈ allCalls suite.parts.1 ∨ c ∈ bodyCalls suite.parts.2) ∨ c ∈ suiteCalls rest := by
      cases suite <;> simp [suiteCalls, Suite.parts, allCalls, or_assoc]
    rw [first, ih, List.flatMap_cons, List.flatMap_cons, allCalls_append, bodyCalls_append,
      List.mem_append, List.mem_append]
    tauto

/-- The calls in a statement are those in its head and those in the statements inside it. -/
theorem Stmt.mem_calls_iff {s : Stmt} {c : MethodCall} :
    c ∈ s.calls ↔ c ∈ allCalls s.heads ∨ c ∈ bodyCalls s.inner := by
  cases s with
  | function line isAsync name params returns decorators body =>
    simp only [calls, heads, inner, allCalls_append, paramCalls_eq, optionCalls_eq, List.mem_append]
    tauto
  | classDef line name bases keywords decorators body =>
    simp only [calls, heads, inner, allCalls_append, keywordCalls_eq, List.mem_append]
    tauto
  | compound heads suites =>
    simp only [calls, Stmt.heads, inner, allCalls_append, List.mem_append, mem_suiteCalls]
    tauto
  | _ => simp [calls, heads, inner, allCalls, bodyCalls]

theorem Expr.Within.mem_calls {p : Position} {receiver root : Expr} {attr : String}
    {args : List Expr} {keywords : List Keyword}
    (h : (Expr.call p (.attribute receiver attr) args keywords).Within root) :
    ⟨p, receiver, attr⟩ ∈ root.calls := by
  induction h with
  | self =>
    rw [Expr.calls_eq]
    exact List.mem_append_left _ (List.mem_singleton_self _)
  | child mem _ ih =>
    rw [Expr.calls_eq]
    exact List.mem_append_right _ (mem_allCalls.mpr ⟨_, mem, ih⟩)

theorem Stmt.Holds.mem_calls {p : Position} {receiver : Expr} {attr : String}
    {args : List Expr} {keywords : List Keyword} {s : Stmt}
    (h : s.Holds (.call p (.attribute receiver attr) args keywords)) :
    ⟨p, receiver, attr⟩ ∈ s.calls := by
  induction h with
  | head mem inside =>
    exact Stmt.mem_calls_iff.mpr (.inl (mem_allCalls.mpr ⟨_, mem, inside.mem_calls⟩))
  | inner mem _ ih => exact Stmt.mem_calls_iff.mpr (.inr (mem_bodyCalls.mpr ⟨_, mem, ih⟩))

/-! ## Kept statements -/

open Outcome (exists_of_bind_ok)

/-- The calls in the statement are written into a callable that is kept: the statement
is one of the top level that defines nothing, the last function of its signature, or
the last method of its signature in the last class of its name. -/
inductive Kept (body : List Stmt) : Stmt → Prop
  | outer {s : Stmt} (mem : s ∈ body) (plain : s.isDefinition = false) : Kept body s
  | function {s : Stmt} {signature : String} (last : LastOf Stmt.signature? body signature s) :
    Kept body s
  | method {line : Nat} {name : String} {bases : List Expr} {keywords : List Keyword}
    {decorators : List Expr} {inner : List Stmt} {s : Stmt} {signature : String}
    (lastClass : LastOf Stmt.className? body name
      (.classDef line name bases keywords decorators inner))
    (last : LastOf Stmt.signature? inner signature s) : Kept body s

variable {body : List Stmt} {a : FileAnalysis} {path : String} {s : Stmt} {c : MethodCall}

/-- Calls that were recorded have receivers that can be written out. -/
theorem exists_dottedText_of_recordCalls {f f' : Callable} {calls : List MethodCall}
    (ok : recordCalls f calls = .ok f') :
    ∀ c ∈ calls, ∃ text, c.receiver.dottedText = .ok text := by
  intro c mem
  obtain ⟨g, g', taken⟩ := Outcome.exists_step_of_mem ok c (List.mem_mergeSort.mpr mem)
  obtain ⟨text, written, -⟩ := exists_of_bind_ok taken
  exact ⟨text, written⟩

theorem exists_dottedText_of_functionOf? {isMethod : Bool} {signature : String} {f : Callable}
    (made : functionOf? isMethod s = .ok (some (signature, f))) :
    ∀ c ∈ s.calls, ∃ text, c.receiver.dottedText = .ok text := by
  cases s with
  | function line isAsync name params returns decorators body =>
    obtain ⟨decorated, -, made⟩ := exists_of_bind_ok made
    obtain ⟨tagged, recorded, made⟩ := exists_of_bind_ok made
    exact exists_dottedText_of_recordCalls recorded
  | _ => cases made

/-- A tag that a container is told is one of its tags. -/
theorem Answers.exists_container {source : String} {held : List Stmt} {f : Callable}
    (read : module? source = some body) (made : analyse body path = .ok a)
    (answers : Answers body held f) {t : Sighting} (told : Tells held t) :
    ∃ k ∈ Detection.containers a, t.tag ∈ k.info.tags t.kind := by
  obtain ⟨k, mem, rfl⟩ := (exists_container_iff_answers made).mpr ⟨held, answers⟩
  exact ⟨k, mem, ((accounts_of_answers read answers).mem_tags _ _).mpr ⟨t.line, told⟩⟩

/-- The receivers of the calls in a kept statement can be written out, and the tags of
the calls are in a container. -/
theorem Kept.exists_container {source : String} (read : module? source = some body)
    (made : analyse body path = .ok a) (kept : Kept body s) (mem : c ∈ s.calls) :
    (∃ text, c.receiver.dottedText = .ok text) ∧
      ∀ t, c.sighting? = some t → ∃ k ∈ Detection.containers a, t.tag ∈ k.info.tags t.kind := by
  obtain ⟨functions, classes, top, named, grouped, outside, -⟩ := exists_of_analyse made
  have one (t : Sighting) (told : c.sighting? = some t) : Tells [s] t :=
    ⟨c, mem_bodyCalls.mpr ⟨s, List.mem_singleton_self s, mem⟩, told⟩
  cases kept with
  | function last =>
    obtain ⟨f, own, -⟩ := last.exists_mem_functionTable named
    exact ⟨exists_dottedText_of_functionOf? own c mem,
      fun t told => (Answers.function last own).exists_container read made (one t told)⟩
  | method lastClass last =>
    obtain ⟨k, ownClass, -⟩ := lastClass.exists_mem_classTable grouped
    obtain ⟨_, _, _, _, _, same, -, listed⟩ := exists_of_classOf? ownClass
    cases same
    obtain ⟨f, own, -⟩ := last.exists_mem_functionTable listed
    exact ⟨exists_dottedText_of_functionOf? own c mem,
      fun t told => (Answers.method lastClass last own).exists_container read made (one t told)⟩
  | outer inBody plain =>
    have among : s ∈ body.filter fun s => !s.isDefinition :=
      List.mem_filter.mpr ⟨inBody, by rw [plain]; rfl⟩
    obtain ⟨g, g', recorded⟩ := Outcome.exists_step_of_mem outside s among
    refine ⟨exists_dottedText_of_recordCalls recorded c mem, fun t told => ?_⟩
    have tells : Tells (body.filter fun s => !s.isDefinition) t :=
      ⟨c, mem_bodyCalls.mpr ⟨s, among, mem⟩, told⟩
    have known : t.tag ∈ top.tags t.kind :=
      ((accounts_of_topLevel read outside).mem_tags _ _).mpr ⟨t.line, tells⟩
    -- the top level is kept because it has this tag
    have carries : (top.stateTags.isEmpty && top.eventTags.isEmpty) = false := by
      obtain ⟨kind, tag, line⟩ := t
      cases kind with
      | state =>
        have some : tag ∈ top.stateTags := known
        rw [List.isEmpty_eq_false_iff_exists_mem.mpr ⟨tag, some⟩, Bool.false_and]
      | event =>
        have some : tag ∈ top.eventTags := known
        rw [List.isEmpty_eq_false_iff_exists_mem.mpr ⟨tag, some⟩, Bool.and_false]
    exact (Answers.top outside carries).exists_container read made tells

theorem sighting?_of_mem_recordMethods {text : String} (written : c.receiver.dottedText = .ok text)
    (changes : c.attr ∈ recordMethods) :
    c.sighting? = some ⟨.state, text ++ "." ++ c.attr ++ "(", c.position.line⟩ := by
  unfold MethodCall.sighting?
  rw [written]
  exact if_pos (List.contains_iff_mem.mpr changes)

theorem sighting?_of_mem_signalMethods {text : String} (written : c.receiver.dottedText = .ok text)
    (handles : c.attr ∈ signalMethods) :
    c.sighting? = some ⟨.event, text ++ "." ++ c.attr, c.position.line⟩ := by
  have apart : ∀ attr ∈ signalMethods, ¬ recordMethods.contains attr = true := by decide
  unfold MethodCall.sighting?
  rw [written]
  exact (if_neg (apart _ handles)).trans (if_pos (List.contains_iff_mem.mpr handles))

/-- Every call on records or signals that stands in a kept statement, however deep, has
its tag in a function, a method or the top level of the analysis. -/
theorem tag_recorded {content : String} (parsed : parse content path = .ok a) :
    ∃ body, module? content = some body ∧ ∀ s, Kept body s →
      ∀ p receiver attr args keywords,
        s.Holds (.call p (.attribute receiver attr) args keywords) →
        ∃ text, receiver.dottedText = .ok text ∧
          (attr ∈ recordMethods → ∃ c ∈ Detection.containers a,
            text ++ "." ++ attr ++ "(" ∈ c.info.stateTags) ∧
          (attr ∈ signalMethods → ∃ c ∈ Detection.containers a,
            text ++ "." ++ attr ∈ c.info.eventTags) := by
  obtain ⟨body, read, made⟩ := exists_of_parse parsed
  refine ⟨body, read, fun s kept p receiver attr args keywords holds => ?_⟩
  obtain ⟨⟨text, written⟩, told⟩ := kept.exists_container read made holds.mem_calls
  refine ⟨text, written, fun changes => ?_, fun handles => ?_⟩
  · exact told _ (sighting?_of_mem_recordMethods written changes)
  · exact told _ (sighting?_of_mem_signalMethods written handles)

/-! ## Calls on one object -/

/-- The expression saves `a`. -/
def Expr.savesA : Expr → Bool
  | .call _ (.attribute (.name object) attr) [] [] => object == "a" && attr == "save"
  | _ => false

theorem Expr.exists_of_savesA {e : Expr} (saves : e.savesA = true) :
    ∃ p, e = .call p (.attribute (.name "a") "save") [] [] := by
  unfold savesA at saves
  split at saves
  next p object attr =>
    rw [Bool.and_eq_true, beq_iff_eq, beq_iff_eq] at saves
    exact ⟨p, by rw [saves.1, saves.2]⟩
  next => cases saves

/-- A function in which a nested one saves `a`. -/
def nestedSave : String := "def f():\n  def g(): a.save()\n"

theorem tag_recorded_of_nestedSave :
    ∃ a body s p, parse nestedSave "a.py" = .ok a ∧ module? nestedSave = some body ∧
      Kept body s ∧ s.Holds (.call p (.attribute (.name "a") "save") [] []) ∧
      ∃ text, Expr.dottedText (.name "a") = .ok text ∧
        ∃ c ∈ Detection.containers a, text ++ "." ++ "save" ++ "(" ∈ c.info.stateTags := by
  have read : (parse nestedSave "a.py").toOption.isSome = true := by decide +kernel
  obtain ⟨a, parsed⟩ := Option.isSome_iff_exists.mp read
  have parsed := Outcome.eq_ok_of_toOption parsed
  obtain ⟨body, whole, recorded⟩ := tag_recorded parsed
  have shape : ∀ body ∈ module? nestedSave, body.length = 1 ∧ ∃ s ∈ body,
      s.signature? = some "f()" ∧ ∃ t ∈ s.inner, ∃ u ∈ t.inner, ∃ e ∈ u.heads, e.savesA = true := by
    decide +kernel
  obtain ⟨single, s, mem, own, t, inS, u, inT, e, inU, saves⟩ := shape body whole
  obtain ⟨s', rfl⟩ := List.length_eq_one_iff.mp single
  cases List.mem_singleton.mp mem
  obtain ⟨p, rfl⟩ := Expr.exists_of_savesA saves
  have kept : Kept [s] s := .function ⟨own, [], [], rfl, nofun⟩
  have holds : s.Holds (.call p (.attribute (.name "a") "save") [] []) :=
    .inner inS (.inner inT (.head inU .self))
  obtain ⟨text, written, saved, -⟩ := recorded s kept p _ _ _ _ holds
  exact ⟨a, [s], s, p, parsed, whole, kept, holds, text, written, saved (by decide)⟩

/-- The source is read and saves `a` somewhere, but no container has the tag. -/
def LosesSave (content : String) : Prop :=
  ∃ a body, parse content "a.py" = .ok a ∧ module? content = some body ∧
    (∃ s ∈ body, ∃ p, s.Holds (.call p (.attribute (.name "a") "save") [] [])) ∧
    ∀ c ∈ Detection.containers a, "a.save(" ∉ c.info.stateTags ∧ "a.save(" ∉ c.info.eventTags

/-- A function that is defined again, and a class that saves `a` outside its methods. -/
theorem save_lost :
    LosesSave "def f():\n  a.save()\ndef f(): pass\n" ∧ LosesSave "class A:\n  a.save()\n" := by
  have lost {content : String}
      (read : ∃ a ∈ (parse content "a.py").toOption,
        ∀ c ∈ Detection.containers a,
          "a.save(" ∉ c.info.stateTags ∧ "a.save(" ∉ c.info.eventTags)
      (occurs : ∃ body ∈ module? content, ∃ s ∈ body, ∃ t ∈ s.inner, ∃ e ∈ t.heads,
        e.savesA = true) : LosesSave content := by
    obtain ⟨a, parsed, none⟩ := read
    obtain ⟨body, whole, s, mem, t, inS, e, inT, saves⟩ := occurs
    obtain ⟨p, rfl⟩ := Expr.exists_of_savesA saves
    exact ⟨a, body, Outcome.eq_ok_of_toOption parsed, whole,
      ⟨s, mem, p, .inner inS (.head inT .self)⟩, none⟩
  exact ⟨lost (by decide +kernel) (by decide +kernel), lost (by decide +kernel) (by decide +kernel)⟩

end RepoSurvey.Python
