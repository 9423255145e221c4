import RepoSurvey.Proofs.Python.Drawn
import RepoSurvey.Python.Parse

/-!
# Lines of which trees speak

An expression speaks of the lines of the calls on objects in it, a statement also
of the lines of the functions, classes and methods that it defines. These are the
lines that an analysis records. A tree speaks of the lines of its parts and
of those of its own call or definition: there is one equation for each kind of node.
-/

namespace RepoSurvey.Python

/-- The lines of calls. -/
def callLines (calls : List MethodCall) : List Nat :=
  calls.map (·.position.line)

@[simp] theorem callLines_nil : callLines [] = [] := rfl

@[simp] theorem callLines_append (front back : List MethodCall) :
    callLines (front ++ back) = callLines front ++ callLines back :=
  List.map_append

/-! ## Expressions -/

instance : HasLines Expr := ⟨fun e => callLines e.calls⟩
instance : HasLines Part := ⟨fun p => callLines (partCalls [p])⟩
instance : HasLines Keyword := ⟨fun k => callLines (keywordCalls [k])⟩
instance : HasLines Entry := ⟨fun e => callLines (entryCalls [e])⟩
instance : HasLines Clause := ⟨fun c => callLines (clauseCalls [c])⟩
instance : HasLines Link := ⟨fun l => callLines (linkCalls [l])⟩
instance : HasLines Param := ⟨fun p => callLines (paramCalls [p])⟩
instance : HasLines Constant := ⟨fun _ => []⟩
instance : HasLines CompareOp := ⟨fun _ => []⟩
instance : HasLines Alias := ⟨fun _ => []⟩

@[simp, grind =] theorem lines_constant_value (c : Constant) : lines c = [] := rfl
@[simp, grind =] theorem lines_compareOp (o : CompareOp) : lines o = [] := rfl
@[simp, grind =] theorem lines_alias (a : Alias) : lines a = [] := rfl

@[simp] theorem callLines_calls (e : Expr) : callLines e.calls = lines e := rfl

/-- Calls that are collected item by item. -/
theorem callLines_collect {α : Type} [HasLines α] {collect : List α → List MethodCall}
    (nil : collect [] = []) (cons : ∀ a rest, collect (a :: rest) = collect [a] ++ collect rest)
    (each : ∀ a : α, lines a = callLines (collect [a])) (l : List α) :
    callLines (collect l) = lines l := by
  induction l with
  | nil => rw [nil, callLines_nil, lines_nil]
  | cons a rest ih => rw [cons, callLines_append, ih, lines_cons, each]

@[simp] theorem callLines_allCalls (es : List Expr) : callLines (allCalls es) = lines es :=
  callLines_collect rfl (by simp [allCalls]) (by simp [allCalls]) es

@[simp] theorem callLines_optionCalls (e? : Option Expr) :
    callLines (optionCalls e?) = lines e? := by
  cases e? <;> rfl

@[simp] theorem callLines_partCalls (parts : List Part) :
    callLines (partCalls parts) = lines parts :=
  callLines_collect rfl (by rintro ⟨⟩ rest <;> simp [partCalls]) (fun _ => rfl) parts

@[simp] theorem callLines_formatCalls (format : Option (List Part)) :
    callLines (formatCalls format) = lines format := by
  cases format with
  | none => rfl
  | some parts => exact callLines_partCalls parts

@[simp] theorem callLines_keywordCalls (ks : List Keyword) :
    callLines (keywordCalls ks) = lines ks :=
  callLines_collect rfl (by rintro ⟨⟩ rest; simp [keywordCalls]) (fun _ => rfl) ks

@[simp] theorem callLines_entryCalls (es : List Entry) : callLines (entryCalls es) = lines es :=
  callLines_collect rfl (by rintro ⟨⟩ rest; simp [entryCalls]) (fun _ => rfl) es

@[simp] theorem callLines_clauseCalls (cs : List Clause) : callLines (clauseCalls cs) = lines cs :=
  callLines_collect rfl (by rintro ⟨⟩ rest; simp [clauseCalls]) (fun _ => rfl) cs

@[simp] theorem callLines_linkCalls (ls : List Link) : callLines (linkCalls ls) = lines ls :=
  callLines_collect rfl (by rintro ⟨⟩ rest; simp [linkCalls]) (fun _ => rfl) ls

@[simp] theorem callLines_paramCalls (ps : List Param) : callLines (paramCalls ps) = lines ps :=
  callLines_collect rfl (by rintro ⟨⟩ rest; simp [paramCalls]) (fun _ => rfl) ps

section

variable (e e' e'' : Expr) (es : List Expr) (e? e?' e?'' : Option Expr) (cs : List Clause)

@[simp, grind =] theorem lines_name (id : String) : lines (Expr.name id) = [] := rfl
@[simp, grind =] theorem lines_constant (c : Constant) : lines (Expr.constant c) = [] := rfl

@[simp, grind =] theorem lines_joined (parts : List Part) :
    lines (Expr.joined parts) = lines parts :=
  callLines_partCalls parts

@[simp, grind =] theorem lines_attribute (attr : String) :
    lines (Expr.attribute e attr) = lines e := rfl

@[simp, grind =] theorem lines_subscript : lines (Expr.subscript e e') = lines e ++ lines e' :=
  callLines_append _ _

/-- A call on an object speaks of its own line, too. -/
@[grind →] theorem mem_lines_call {start : Position} {keywords : List Keyword} {n : Nat}
    (mem : n ∈ lines (Expr.call start e es keywords)) :
    n = start.line ∨ n ∈ lines e ∨ n ∈ lines es ∨ n ∈ lines keywords := by
  change n ∈ callLines (ownCall start e ++ e.calls ++ allCalls es ++ keywordCalls keywords) at mem
  simp only [callLines_append, callLines_allCalls, callLines_keywordCalls, List.mem_append,
    or_assoc] at mem
  rcases mem with own | mem
  · unfold ownCall at own
    split at own
    · exact .inl (List.mem_singleton.mp own)
    · cases own
  · exact .inr mem

@[simp, grind =] theorem lines_starred : lines (Expr.starred e) = lines e := rfl

@[simp, grind =] theorem lines_tuple : lines (Expr.tuple es) = lines es :=
  callLines_allCalls es

@[simp, grind =] theorem lines_list : lines (Expr.list es) = lines es :=
  callLines_allCalls es

@[simp, grind =] theorem lines_set : lines (Expr.set es) = lines es :=
  callLines_allCalls es

@[simp, grind =] theorem lines_dict (entries : List Entry) :
    lines (Expr.dict entries) = lines entries :=
  callLines_entryCalls entries

@[simp, grind =] theorem lines_listComp : lines (Expr.listComp e cs) = lines e ++ lines cs := by
  show callLines (e.calls ++ clauseCalls cs) = _
  simp

@[simp, grind =] theorem lines_setComp : lines (Expr.setComp e cs) = lines e ++ lines cs := by
  show callLines (e.calls ++ clauseCalls cs) = _
  simp

@[simp, grind =] theorem lines_generator : lines (Expr.generator e cs) = lines e ++ lines cs := by
  show callLines (e.calls ++ clauseCalls cs) = _
  simp

@[simp, grind =] theorem lines_dictComp :
    lines (Expr.dictComp e e' cs) = lines e ++ lines e' ++ lines cs := by
  show callLines (e.calls ++ e'.calls ++ clauseCalls cs) = _
  simp

@[simp, grind =] theorem lines_slice :
    lines (Expr.slice e? e?' e?'') = lines e? ++ lines e?' ++ lines e?'' := by
  show callLines (optionCalls e? ++ optionCalls e?' ++ optionCalls e?'') = _
  simp

@[simp, grind =] theorem lines_boolean (o : BoolOp) : lines (Expr.boolean o es) = lines es :=
  callLines_allCalls es

@[simp, grind =] theorem lines_binary (o : BinaryOp) :
    lines (Expr.binary e o e') = lines e ++ lines e' :=
  callLines_append _ _

@[simp, grind =] theorem lines_unary (o : UnaryOp) : lines (Expr.unary o e) = lines e := rfl

@[simp, grind =] theorem lines_compare (links : List Link) :
    lines (Expr.compare e links) = lines e ++ lines links := by
  show callLines (e.calls ++ linkCalls links) = _
  simp

@[simp, grind =] theorem lines_named : lines (Expr.named e e') = lines e ++ lines e' :=
  callLines_append _ _

@[simp, grind =] theorem lines_lambda (ps : List Param) :
    lines (Expr.lambda ps e) = lines ps ++ lines e := by
  show callLines (paramCalls ps ++ e.calls) = _
  simp

@[simp, grind =] theorem lines_conditional :
    lines (Expr.conditional e e' e'') = lines e ++ lines e' ++ lines e'' := by
  show callLines (e.calls ++ e'.calls ++ e''.calls) = _
  simp

@[simp, grind =] theorem lines_await : lines (Expr.await e) = lines e := rfl

@[simp, grind =] theorem lines_yield : lines (Expr.yield e?) = lines e? :=
  callLines_optionCalls e?

@[simp, grind =] theorem lines_yieldFrom : lines (Expr.yieldFrom e) = lines e := rfl

@[simp, grind =] theorem lines_part_text (value : List Char) : lines (Part.text value) = [] := rfl

@[simp, grind =] theorem lines_part_place (conversion : Option Char) (format : Option (List Part)) :
    lines (Part.place e conversion format) = lines e ++ lines format := by
  show callLines (partCalls _) = _
  simp [partCalls]

@[simp, grind =] theorem lines_keyword (name : Option String) :
    lines (Keyword.mk name e) = lines e := by
  show callLines (keywordCalls _) = _
  simp [keywordCalls]

@[simp, grind =] theorem lines_entry : lines (Entry.mk e? e) = lines e? ++ lines e := by
  show callLines (entryCalls _) = _
  simp [entryCalls]

@[simp, grind =] theorem lines_clause (isAsync : Bool) :
    lines (Clause.mk isAsync e e' es) = lines e ++ lines e' ++ lines es := by
  show callLines (clauseCalls _) = _
  simp [clauseCalls]

@[simp, grind =] theorem lines_link (o : CompareOp) : lines (Link.mk o e) = lines e := by
  show callLines (linkCalls _) = _
  simp [linkCalls]

@[simp, grind =] theorem lines_param (kind : ParamKind) (name : String) :
    lines (Param.mk kind name e? e?') = lines e? ++ lines e?' := by
  show callLines (paramCalls _) = _
  simp [paramCalls]

end

/-! ## Statements -/

/-- The lines of a definition and of the methods right inside a class. -/
def Stmt.definedLines : Stmt → List Nat
  | .function line _ _ _ _ _ _ => [line]
  | .classDef line _ _ _ _ body => line :: body.filterMap fun
    | .function line _ _ _ _ _ _ => some line
    | _ => none
  | _ => []

instance : HasLines Stmt := ⟨fun s => callLines s.calls ++ s.definedLines⟩

/-- The statements of a suite, and the expressions in its head. -/
def Suite.parts : Suite → List Expr × List Stmt
  | .body statements => ([], statements)
  | .clause heads statements => (heads, statements)

instance : HasLines Suite := ⟨fun s => lines s.parts⟩

@[simp, grind =] theorem lines_body (body : List Stmt) : lines (Suite.body body) = lines body := rfl

@[simp, grind =] theorem lines_clause_suite (heads : List Expr) (body : List Stmt) :
    lines (Suite.clause heads body) = lines heads ++ lines body := rfl

variable {n : Nat}

theorem mem_lines_of_calls {s : Stmt} (mem : n ∈ callLines s.calls) : n ∈ lines s :=
  List.mem_append_left _ mem

theorem mem_lines_of_bodyCalls {body : List Stmt} (mem : n ∈ callLines (bodyCalls body)) :
    n ∈ lines body := by
  induction body with
  | nil => cases mem
  | cons s rest ih =>
    rw [bodyCalls, callLines_append, List.mem_append] at mem
    rw [lines_cons, List.mem_append]
    exact mem.imp mem_lines_of_calls ih

theorem mem_lines_of_suiteCalls {suites : List Suite} (mem : n ∈ callLines (suiteCalls suites)) :
    n ∈ lines suites := by
  induction suites with
  | nil => cases mem
  | cons s rest ih =>
    rw [lines_cons, List.mem_append]
    cases s with
    | body body =>
      rw [suiteCalls, callLines_append, List.mem_append] at mem
      exact mem.imp mem_lines_of_bodyCalls ih
    | clause heads body =>
      rw [suiteCalls, callLines_append, callLines_append, List.mem_append, List.mem_append] at mem
      refine mem.imp ?_ ih
      rw [lines_clause_suite, List.mem_append, callLines_allCalls]
      exact Or.imp_right mem_lines_of_bodyCalls

@[grind →] theorem mem_lines_function {line : Nat} {isAsync : Bool} {name : String}
    {params : List Param} {returns : Option Expr} {decorators : List Expr} {body : List Stmt}
    (mem : n ∈ lines (Stmt.function line isAsync name params returns decorators body)) :
    n = line ∨ n ∈ lines params ∨ n ∈ lines returns ∨ n ∈ lines decorators ∨ n ∈ lines body := by
  rcases List.mem_append.mp mem with call | defined
  · rw [Stmt.calls] at call
    simp only [callLines_append, callLines_paramCalls, callLines_allCalls, callLines_optionCalls,
      List.mem_append] at call
    rcases call with ((param | inner) | decorator) | returned
    · exact .inr (.inl param)
    · exact .inr (.inr (.inr (.inr (mem_lines_of_bodyCalls inner))))
    · exact .inr (.inr (.inr (.inl decorator)))
    · exact .inr (.inr (.inl returned))
  · exact .inl (List.mem_singleton.mp defined)

theorem mem_lines_of_method {body : List Stmt}
    (mem : n ∈ body.filterMap fun
      | .function line _ _ _ _ _ _ => some line
      | _ => none) : n ∈ lines body := by
  obtain ⟨s, inside, taken⟩ := List.mem_filterMap.mp mem
  refine mem_lines_iff.mpr ⟨s, inside, List.mem_append_right _ ?_⟩
  cases s <;> cases taken
  exact List.mem_singleton_self _

@[grind →] theorem mem_lines_classDef {line : Nat} {name : String} {bases : List Expr}
    {keywords : List Keyword} {decorators : List Expr} {body : List Stmt}
    (mem : n ∈ lines (Stmt.classDef line name bases keywords decorators body)) :
    n = line ∨ n ∈ lines bases ∨ n ∈ lines keywords ∨ n ∈ lines decorators ∨ n ∈ lines body := by
  rcases List.mem_append.mp mem with call | defined
  · rw [Stmt.calls] at call
    simp only [callLines_append, callLines_keywordCalls, callLines_allCalls, List.mem_append]
      at call
    rcases call with ((base | keyword) | inner) | decorator
    · exact .inr (.inl base)
    · exact .inr (.inr (.inl keyword))
    · exact .inr (.inr (.inr (.inr (mem_lines_of_bodyCalls inner))))
    · exact .inr (.inr (.inr (.inl decorator)))
  · rcases List.mem_cons.mp defined with own | method
    · exact .inl own
    · exact .inr (.inr (.inr (.inr (mem_lines_of_method method))))

@[simp, grind =] theorem lines_expression (e : Expr) : lines (Stmt.expression e) = lines e :=
  List.append_nil _

@[simp, grind =] theorem lines_simple (parts : List Expr) :
    lines (Stmt.simple parts) = lines parts := by
  show callLines (allCalls parts) ++ [] = _
  simp

@[simp, grind =] theorem lines_importModules (names : List Alias) :
    lines (Stmt.importModules names) = [] := rfl

@[simp, grind =] theorem lines_importFrom (level : Nat) (module : String) (names : List Alias) :
    lines (Stmt.importFrom level module names) = [] := rfl

@[grind →] theorem mem_lines_compound {heads : List Expr} {suites : List Suite}
    (mem : n ∈ lines (Stmt.compound heads suites)) : n ∈ lines heads ∨ n ∈ lines suites := by
  rcases List.mem_append.mp mem with call | defined
  · rw [Stmt.calls, callLines_append, callLines_allCalls, List.mem_append] at call
    exact call.imp_right mem_lines_of_suiteCalls
  · cases defined

end RepoSurvey.Python
