import RepoSurvey.Proofs.Detection.Accounts
import RepoSurvey.Proofs.Python.Names
import RepoSurvey.Proofs.Python.Sightings
import RepoSurvey.Proofs.Text.Suffixes

/-!
# Views from their decorators

A decorator that names the verbs of a view is flattened by the parser, sifted there for verbs,
written into a hint, read again by the detector and sifted there once more. What comes out at the
end is what was written at first: a route for each verb, in order (`served_of_listed`).

Two things carry this. In a container that shares its name with no other container and no class
what its hints stand for is all that is found, for every later round passes it over
(`filter_detectFile`). And a function at the top level is alone in this sense when no other
function or class has its title: a title has no points and brackets in it, so the names of methods
and of the top level are others, and a signature gives its title back (`withKey_containers`).

Every decorator whose name ends in the one of views leaves a hint of its own. So where there are
several of them, the routes of each are found (`filter_detect_of_soleFunction`).
-/

namespace RepoSurvey.Detection.Route

/-! ## Containers that are alone -/

section

variable {path : String} {a : FileAnalysis} {c : Container} {found : List Endpoint}

/-- What the hints of a container stand for. -/
def ofHints (path : String) (a : FileAnalysis) (c : Container) : List Endpoint :=
  c.info.routeHints.flatMap fun hint => routesOf (contextOf path a) (c, hint)

theorem container_of_mem_ofHints (d : Container) :
    ∀ e ∈ ofHints path a d, look.container e = some d.name := by
  intro e mem
  obtain ⟨hint, -, made⟩ := List.mem_flatMap.mp mem
  exact (specific_routesOf made).container

theorem hintsOf_flatMap (path : String) (a : FileAnalysis) :
    (hintsOf a).flatMap (routesOf (contextOf path a)) =
      (containers a).flatMap (ofHints path a) := by
  rw [hintsOf, Ledger.occurrences, List.flatMap_assoc]
  simp only [List.flatMap_map]
  rfl

theorem isClaimed_judged (there : c ∈ containers a) (filled : ofHints path a c ≠ []) :
    (judged path a).isClaimed c = true := by
  obtain ⟨e, mem⟩ := List.exists_mem_of_ne_nil _ filled
  obtain ⟨hint, known, made⟩ := List.mem_flatMap.mp mem
  have occurs : (c, hint) ∈ hintsOf a := Ledger.mem_occurrences.mpr ⟨there, known⟩
  exact Ledger.isClaimed_judgeAll_iff.mpr (.inr ⟨_, occurs, rfl, List.ne_nil_of_mem made⟩)

theorem structural_container (d : Container) :
    ∀ e ∈ Ledger.structureOf (structuralFindings (contextOf path a)) d,
      look.container e = some d.name := by
  intro e mem
  rw [Ledger.structureOf] at mem
  split at mem
  · cases mem
  · exact (specific_structuralFindings mem).1.container

theorem takenIn_container {aside : String → List Json} (d : Container) :
    ∀ e ∈ Ledger.takenIn (Ledger.meaningOf (genericFinding (contextOf path a))) aside d,
      look.container e = some d.name := by
  intro e mem
  obtain ⟨value, -, means⟩ := List.mem_filterMap.mp mem
  have returns := genericFinding_returns (contextOf path a) d value
  exact (returns.of_ok (Ledger.eq_ok_of_meaningOf means) e rfl).1.container

theorem filter_classDefaults (classless : c.name ∉ a.classes.keys) (others : List Endpoint) :
    (classDefaults (contextOf path a) others).filter (fun e => look.container e = some c.name) =
      [] := by
  refine List.filter_eq_nil_iff.mpr fun e mem kept => classless ?_
  obtain ⟨klass, known, specific, -⟩ := specific_classDefaults mem
  rw [← Option.some.inj (specific.container.symm.trans (of_decide_eq_true kept))]
  exact List.mem_map_of_mem known

theorem filter_named {l : Ledger Json Endpoint} (claimed : l.isClaimed c = true) :
    (l.named (naming (contextOf path a)) (containers a)).filter
      (fun e => look.container e = some c.name) = [] := by
  refine List.filter_eq_nil_iff.mpr fun e mem kept => ?_
  obtain ⟨d, -, unclaimed, made⟩ := Ledger.exists_of_mem_named mem
  have named := (Option.ite_none_right_eq_some.mp made).2
  have same : d.name = c.name := Option.some.inj
    ((specific_namedFinding named).1.container.symm.trans (of_decide_eq_true kept))
  rw [Ledger.isClaimed_congr same, claimed] at unclaimed
  cases unclaimed

/-- In a container that is alone what its hints stand for is all that is found, if they stand for
anything. -/
theorem filter_detectFile (detected : detectFile path a = .ok found)
    (alone : withKey Container.name (containers a) c.name = [c])
    (classless : c.name ∉ a.classes.keys) (filled : ofHints path a c ≠ []) :
    found.filter (fun e => e.container = some c.name) = ofHints path a c := by
  have there : c ∈ containers a := (mem_withKey.mp (alone ▸ List.mem_singleton_self c)).1
  rw [detectFile_eq_bind] at detected
  obtain ⟨early, before, made⟩ := Outcome.exists_of_bind_ok detected
  have early_eq := eq_of_beforeNames before
  -- the hints claim the container, and it stays claimed
  have kinds := Ledger.claiming_matchIn (σ := Json) (structuralFindings (contextOf path a))
  have vague := Ledger.claiming_takeIn (Ledger.meaningOf (genericFinding (contextOf path a)))
    (defaulted path a).asideFor
  have first : (judged path a).isClaimed c = true := isClaimed_judged there filled
  have second : (defaulted path a).isClaimed c = true := kinds.isClaimed_foldl_iff.mpr (.inl first)
  have third : early.isClaimed c = true := early_eq ▸ vague.isClaimed_foldl_iff.mpr (.inl second)
  have matched_eq : (matched path a).findings = _ := kinds.findings_foldl
  have defaulted_eq : (defaulted path a).findings =
      (matched path a).findings ++ classDefaults (contextOf path a) (matched path a).findings := rfl
  show found.filter (fun e => look.container e = some c.name) = ofHints path a c
  rw [← Except.ok.inj made, List.filter_append, filter_named third, List.append_nil, early_eq,
    vague.findings_foldl, List.filter_append, vague.filter_takers second look takenIn_container,
    List.append_nil, defaulted_eq, List.filter_append, filter_classDefaults classless,
    List.append_nil, matched_eq, List.filter_append,
    kinds.filter_takers first look structural_container, List.append_nil, findings_judged,
    hintsOf_flatMap, filter_flatMap_alone alone look container_of_mem_ofHints]

/-- So it is in the report on a file by itself, where the hints all stand for one line. -/
theorem filter_detect (legible : a.Legible) (usable : a.isUsable = true)
    (alone : withKey Container.name (containers a) c.name = [c])
    (classless : c.name ∉ a.classes.keys) (filled : ofHints path a c ≠ []) {line : Int}
    (level : ∀ e ∈ ofHints path a c, e.file = path ∧ e.line = line) :
    ∃ found, detect [(path, a)] = .ok found ∧
      found.filter (fun e => e.container = some c.name) = ofHints path a c := by
  have all : AllLegible [(path, a)] := by
    intro entry mem
    rw [List.mem_singleton.mp mem]
    exact legible
  have only : Corpus.usable [(path, a)] = [(path, a)] := List.filter_eq_self.mpr fun entry mem => by
    rw [List.mem_singleton.mp mem]
    exact usable
  have here := filter_detectFile (detectFile_eq all (List.mem_singleton_self _)) alone classless
    filled
  refine ⟨_, detect_eq all, ?_⟩
  rw [gathered, only, List.flatMap_singleton, ← here]
  refine filter_sortByPlace fun d first e second => ?_
  rw [here] at first second
  rw [(level d first).1, (level d first).2, (level e second).1, (level e second).2]
  exact ⟨rfl, rfl⟩

end

/-! ## Hints of views -/

/-- The route of a verb that the view function on a line serves. -/
def viewRoute (path : String) (line : Nat) (title verb : String) : Endpoint where
  kind := "django_api_view"
  framework := "Django REST Framework"
  file := path
  line := line
  method := verb
  route := RoutePath.infer title
  container := some title
  details := [("source", .str "api_view"),
    ("parameters", Json.strings (RoutePath.parameters (RoutePath.infer title)))]

/-- The decorator is one of views, by the last part of its name. -/
def isViewDecorator (d : Decorator) : Bool :=
  Text.afterLast '.' d.name == "api_view"

/-- The routes that the decorators of a view function declare. -/
def viewRoutes (path : String) (line : Nat) (title : String) (decorators : List Decorator) :
    List Endpoint :=
  (decorators.filter isViewDecorator).flatMap fun d =>
    (Python.viewVerbs d.arguments).map (viewRoute path line title)

/-- What the parser takes for a verb the detector does, too. -/
theorem verb?_of_mem_verbs : ∀ verb ∈ Python.verbs, verb? verb = some verb := by
  decide +kernel

theorem viewVerbs_subset (arguments : List String) :
    ∀ verb ∈ Python.viewVerbs arguments, verb ∈ Python.verbs := by
  intro verb mem
  rw [Python.viewVerbs] at mem
  split at mem
  · rw [List.mem_singleton.mp mem]
    decide
  · exact List.contains_iff_mem.mp (List.mem_filter.mp mem).2

theorem viewVerbs_ne_nil (arguments : List String) : Python.viewVerbs arguments ≠ [] := by
  rw [Python.viewVerbs]
  split
  · exact List.cons_ne_nil _ _
  next filled => exact fun empty => filled (List.isEmpty_iff.mpr empty)

section

variable {path title : String} {a : FileAnalysis} {c : Container} {line : Nat}
  {decorators : List Decorator}

/-- The hint that a decorator of views leaves. -/
def viewHint (line : Nat) (d : Decorator) : Hint :=
  [("type", .str "django_api_view"), ("methods", Json.strings (Python.viewVerbs d.arguments)),
    ("line", .int line)]

theorem routeHints_function (line : Nat) (title : String) (decorators : List Decorator) :
    Python.routeHints line title decorators false =
      (decorators.filter isViewDecorator).map fun d => .obj (viewHint line d) := by
  rw [Python.routeHints, Bool.false_and, if_neg Bool.false_ne_true, List.append_nil]
  rfl

theorem mapM_spelled_str (texts : List String) :
    (texts.map Json.str).mapM Json.spelled = .ok texts := by
  induction texts with
  | nil => rfl
  | cons text rest ih =>
    rw [List.map_cons, List.mapM_cons, ih]
    rfl

/-- The hint gives the verbs back. -/
theorem declaredVerbs_viewHint (line : Nat) (d : Decorator) :
    declaredVerbs (viewHint line d) = .ok (Python.viewVerbs d.arguments) := by
  let verbs := Python.viewVerbs d.arguments
  have each : ∀ verb ∈ verbs, verb? verb = some verb := fun verb mem =>
    verb?_of_mem_verbs verb (viewVerbs_subset d.arguments verb mem)
  have same : verbs.filterMap verb? = verbs := by
    rw [List.filterMap_congr each, List.filterMap_some]
  refine Outcome.bind_of_eq_ok (mapM_spelled_str verbs) (congrArg Except.ok ?_)
  rw [same]
  exact if_neg fun empty => viewVerbs_ne_nil d.arguments (List.isEmpty_iff.mp empty)

theorem hintKind_viewHint (line : Nat) (d : Decorator) :
    hintKind (viewHint line d) = .ok viewFunctionKind :=
  rfl

theorem originOf_viewFunctionKind (c : Container) : originOf viewFunctionKind c = .django := by
  have foreign : (Text.startsWith viewFunctionKind "express" ||
      Text.startsWith viewFunctionKind "router") = false ∧
      Text.startsWith viewFunctionKind "nestjs" = false := by
    decide +kernel
  rw [originOf, foreign.1, foreign.2, BEq.rfl]
  rfl

/-- It stands for a route of each verb that the decorator names. -/
theorem routesOf_viewHint (bare : c.bareName = title) (named : c.name = title)
    (own : c.info.line = line) (d : Decorator) :
    routesOf (contextOf path a) (c, .obj (viewHint line d)) =
      (Python.viewVerbs d.arguments).map (viewRoute path line title) := by
  have place : hintLine (viewHint line d) c = .ok (line : Int) := by
    show Except.ok (if 0 < (line : Int) then (line : Int) else c.info.line) = _
    rw [own, ite_self]
  have made : hintFindings (contextOf path a) c (viewHint line d) viewFunctionKind .django line =
      .ok ((Python.viewVerbs d.arguments).map (viewRoute path line title)) := by
    rw [hintFindings, if_pos BEq.rfl]
    refine Outcome.bind_of_eq_ok (declaredVerbs_viewHint line d) (congrArg Except.ok ?_)
    refine List.map_congr_left fun verb _ => ?_
    rw [endpoint, bare, named]
    rfl
  have judged : judge (contextOf path a) c (.obj (viewHint line d)) =
      .ok (verdictOf ((Python.viewVerbs d.arguments).map (viewRoute path line title))) := by
    refine Outcome.bind_of_eq_ok (hintKind_viewHint line d) ?_
    rw [originOf_viewFunctionKind]
    exact Outcome.bind_of_eq_ok place (Outcome.bind_of_eq_ok made rfl)
  rw [routesOf, Ledger.verdictOn, judged]
  show (verdictOf _).findings = _
  cases (Python.viewVerbs d.arguments).map (viewRoute path line title) <;> rfl

theorem ofHints_of_views (whole : Python.Whole title) (named : c.name = title)
    (own : c.info.line = line)
    (hints : c.info.routeHints = Python.routeHints line title decorators false) :
    ofHints path a c = viewRoutes path line title decorators := by
  have bare : c.bareName = title := by
    rw [Container.bareName, named]
    exact Text.afterLast_eq_self fun mem => absurd (whole '.' mem) (by decide)
  rw [ofHints, hints, routeHints_function, List.flatMap_map]
  exact List.flatMap_congr fun d _ => routesOf_viewHint bare named own d

end

end RepoSurvey.Detection.Route

namespace RepoSurvey.Python

open Detection (Container containers topLevelName)
open Outcome (exists_of_bind_ok)

/-! ## Functions with titles of their own -/

section

variable {title signature : String} {s s' : Stmt} {before after body : List Stmt}
  {functions : Table Callable} {f : Callable}

/-- The name in the signature of a statement is its title. -/
theorem signatureName_of_signature? (titled : s.Titled) (written : s.signature? = some signature) :
    s.title? = some (signatureName signature) := by
  cases s with
  | function line isAsync name params returns decorators inner =>
    obtain rfl := Option.some.inj written
    rw [(titled name rfl).signatureName_signatureOf]
    rfl
  | _ => cases written

/-- A function whose title no other definition has is the last one of its signature. -/
theorem lastOf_of_own (titled : ∀ t ∈ after, t.Titled) (own : ∀ t ∈ after, t.title? ≠ s.title?)
    (here : s.Titled) (written : s.signature? = some signature) :
    LastOf Stmt.signature? (before ++ s :: after) signature s where
  key := written
  last := by
    refine ⟨before, after, rfl, fun t later same => own t later ?_⟩
    rw [signatureName_of_signature? (titled t later) same, signatureName_of_signature? here written]

/-- It is the only function whose signature has that name in it. -/
theorem withKey_functions (named : functionTable false body = .ok functions)
    (titled : ∀ t ∈ body, t.Titled) (last : LastOf Stmt.signature? body signature s)
    (own : ∀ t ∈ body, t.title? = s.title? → t = s) (kept : (signature, f) ∈ functions) :
    withKey (fun e => signatureName e.1) functions (signatureName signature) =
      [(signature, f)] := by
  have different : (functions.map Prod.fst).Nodup := nodup_tableOf (functionTable_eq _ _ ▸ named)
  rw [← withKey_eq_singleton different kept]
  refine List.filter_congr fun e mem => decide_eq_decide.mpr ⟨fun same => ?_, congrArg _⟩
  obtain ⟨t, lastOf, -⟩ := (mem_functionTable_iff named).mp (show (e.1, e.2) ∈ functions from mem)
  have theirs := signatureName_of_signature? (titled t lastOf.mem) lastOf.key
  have ours := signatureName_of_signature? (titled s last.mem) last.key
  have twin : t = s := own t lastOf.mem (theirs.trans ((congrArg some same).trans ours.symm))
  exact Option.some.inj (lastOf.key.symm.trans (twin ▸ last.key))

/-- A title has no point in it, as the names of methods do. -/
theorem withKey_methodContainers (whole : Whole title) (classes : Table ClassDef) :
    withKey Container.name
      (classes.flatMap fun (name, c) => Detection.methodContainers name c) title = [] := by
  refine List.filter_eq_nil_iff.mpr fun d mem same => ?_
  obtain ⟨⟨name, c⟩, -, member⟩ := List.mem_flatMap.mp mem
  obtain ⟨⟨method, f⟩, -, rfl⟩ := List.mem_map.mp member
  have named : name ++ "." ++ signatureName method = title := of_decide_eq_true same
  refine whole.not_mem (show Text.separates '.' = true by decide) ?_
  rw [← named, String.toList_append, String.toList_append]
  exact List.mem_append_left _ (List.mem_append_right _ List.mem_cons_self)

/-- Nor has it a bracket, as the name of the top level does. -/
theorem withKey_topLevel (whole : Whole title) (kept : Option Callable) :
    withKey Container.name (kept.toList.map fun f => { name := topLevelName, info := f }) title =
      [] := by
  refine List.filter_eq_nil_iff.mpr fun d mem same => ?_
  obtain ⟨f, -, rfl⟩ := List.mem_map.mp mem
  have named : topLevelName = title := of_decide_eq_true same
  refine whole.not_mem (show Text.separates '<' = true by decide) ?_
  rw [← named]
  exact List.mem_cons_self

/-- The container of a function whose title no other definition has shares its name with none. -/
theorem withKey_containers {path : String} {a : FileAnalysis} (made : analyse body path = .ok a)
    (titled : ∀ t ∈ body, t.Titled) (last : LastOf Stmt.signature? body signature s)
    (own : ∀ t ∈ body, t.title? = s.title? → t = s) :
    ∃ f, functionOf? false s = .ok (some (signature, f)) ∧
      withKey Container.name (containers a) (signatureName signature) =
        [{ name := signatureName signature, info := f }] := by
  obtain ⟨functions, classes, top, named, -, -, rfl⟩ := exists_of_analyse made
  obtain ⟨f, built, kept⟩ := last.exists_mem_functionTable named
  have whole : Whole (signatureName signature) :=
    titled s last.mem _ (signatureName_of_signature? (titled s last.mem) last.key)
  refine ⟨f, built, ?_⟩
  rw [containers, withKey_append, withKey_append, withKey_methodContainers whole,
    withKey_topLevel whole, withKey_map, List.append_nil, List.append_nil]
  exact congrArg _ (withKey_functions named titled last own kept)

end

/-! ## Views and their decorators -/

/-- The texts that a decorator lists, when it is a call of a view decorator with one list of texts
and nothing else. -/
def Expr.listed? : Expr → Option (List String)
  | .call _ func [.list items] [] =>
    if (func.dotted?.bind List.getLast?) = some "api_view" then items.mapM Expr.textValue? else none
  | _ => none

/-- The expression decorates a view: its name, as written out, ends in that of view decorators. -/
def Expr.decoratesView (e : Expr) : Bool :=
  match decoratorOf e with
  | .ok d => Detection.Route.isViewDecorator d
  | .error _ => false

/-- The line and the decorators of the function that alone has the title among what a module
defines. -/
def soleFunction? (title : String) (body : List Stmt) : Option (Nat × List Expr) :=
  match body.filter fun s => s.title? = some title with
  | [.function line _ _ _ _ decorators _] => some (line, decorators)
  | _ => none

theorem exists_of_soleFunction? {title : String} {body : List Stmt} {line : Nat}
    {decorators : List Expr} (sole : soleFunction? title body = some (line, decorators)) :
    ∃ before isAsync params returns inner after,
      body = before ++ .function line isAsync title params returns decorators inner :: after ∧
        ∀ t ∈ before ++ after, t.title? ≠ some title := by
  unfold soleFunction? at sole
  split at sole
  next line' isAsync name params returns decorators' inner only =>
    cases sole
    obtain ⟨before, after, rfl, earlier, own, later⟩ := List.filter_eq_cons_iff.mp only
    obtain rfl : name = title := Option.some.inj (of_decide_eq_true own)
    refine ⟨before, isAsync, params, returns, inner, after, rfl, fun t mem same => ?_⟩
    rcases List.mem_append.mp mem with mem | mem
    · exact earlier t mem (decide_eq_true same)
    · exact List.filter_eq_nil_iff.mp later t mem (decide_eq_true same)
  next => cases sole

/-- What an analysis has of a function with a title of its own. -/
structure SoleContainer (a : FileAnalysis) (title : String) (line : Nat)
    (decorated : List Decorator) (f : Callable) : Prop where
  whole : Whole title
  alone : withKey Container.name (containers a) title = [{ name := title, info := f }]
  classless : title ∉ a.classes.keys
  placed : f.line = line
  hints : f.routeHints = routeHints line title decorated false

theorem exists_soleContainer {content path title : String} {a : FileAnalysis} {body : List Stmt}
    {line : Nat} {decorators : List Expr} (parsed : parse content path = .ok a)
    (read : module? content = some body)
    (sole : soleFunction? title body = some (line, decorators)) :
    ∃ decorated f, decorators.mapM decoratorOf = .ok decorated ∧
      SoleContainer a title line decorated f := by
  obtain ⟨_, again, made⟩ := exists_of_parse parsed
  obtain rfl := Option.some.inj (again.symm.trans read)
  obtain ⟨before, isAsync, params, returns, inner, after, rfl, own⟩ := exists_of_soleFunction? sole
  let s : Stmt := .function line isAsync title params returns decorators inner
  have titled : ∀ t ∈ before ++ s :: after, t.Titled :=
    fun t mem _ same => whole_of_module read mem same
  have twin : ∀ t ∈ before ++ s :: after, t.title? = some title → t = s := by
    intro t mem same
    by_contra other
    refine own t ?_ same
    rcases List.mem_append.mp mem with mem | mem
    · exact List.mem_append_left _ mem
    · exact List.mem_append_right _ ((List.mem_cons.mp mem).resolve_left other)
  have here : s ∈ before ++ s :: after := List.mem_append_right _ List.mem_cons_self
  have whole : Whole title := titled s here title rfl
  have last : LastOf Stmt.signature? (before ++ s :: after)
      (signatureOf title (parameterNames params)) s :=
    lastOf_of_own (fun t mem => titled t (List.mem_append_right _ (List.mem_cons_of_mem _ mem)))
      (fun t mem => own t (List.mem_append_right _ mem)) (titled s here) rfl
  obtain ⟨f, built, alone⟩ := withKey_containers made titled last twin
  rw [whole.signatureName_signatureOf] at alone
  obtain ⟨decorated, mapped, built⟩ := exists_of_bind_ok built
  obtain ⟨tagged, recorded, built⟩ := exists_of_bind_ok built
  cases built
  refine ⟨decorated, _, mapped, whole, alone, fun known => ?_, ?_, rfl⟩
  · obtain ⟨functions, classes, top, -, grouped, -, rfl⟩ := exists_of_analyse made
    obtain ⟨⟨name, c⟩, known, same⟩ := List.mem_map.mp known
    obtain ⟨t, lastOf, built⟩ := (mem_classTable_iff grouped).mp known
    obtain ⟨_, _, _, _, _, rfl, -⟩ := exists_of_classOf? built
    have both : _ = Stmt.function line isAsync title params returns decorators inner :=
      twin _ lastOf.mem (lastOf.key.trans (congrArg some same))
    cases both
  · rw [eq_noteAll_of_recordCalls recorded]
    exact Callable.line_noteAll _ _

end RepoSurvey.Python

namespace RepoSurvey.Detection.Route

open Python (Stmt Expr soleFunction? module?)

/-- The verbs that a view with these texts in its decorator serves. -/
def served (listed : List String) : List String :=
  let known := (listed.map Text.upper).filter fun verb => verb ∈ verbs
  if known = [] then ["GET"] else known

theorem viewVerbs_eq_served (listed : List String) : Python.viewVerbs listed = served listed := by
  have same : Python.verbs.Perm verbs := by decide
  have known : Python.verbs.contains = fun verb => decide (verb ∈ verbs) := funext fun verb => by
    rw [Bool.eq_iff_iff, List.contains_iff_mem, decide_eq_true_iff, same.mem_iff]
  rw [Python.viewVerbs, served, known]
  simp only [List.isEmpty_iff]

section

variable {content path title : String} {a : FileAnalysis} {body : List Stmt} {line : Nat}
  {decorators : List Expr}

theorem place_of_mem_viewRoutes {decorated : List Decorator} {e : Endpoint}
    (mem : e ∈ viewRoutes path line title decorated) : e.file = path ∧ e.line = line := by
  obtain ⟨d, -, made⟩ := List.mem_flatMap.mp mem
  obtain ⟨verb, -, rfl⟩ := List.mem_map.mp made
  exact ⟨rfl, rfl⟩

/-- In a function with a title of its own the routes that its decorators declare are all that is
found, if they declare any. -/
theorem filter_detect_of_soleFunction (parsed : Python.parse content path = .ok a)
    (read : module? content = some body)
    (sole : soleFunction? title body = some (line, decorators)) :
    ∃ decorated, decorators.mapM Python.decoratorOf = .ok decorated ∧
      (viewRoutes path line title decorated ≠ [] →
        ∃ found, detect [(path, a)] = .ok found ∧
          found.filter (fun e => e.container = some title) =
            viewRoutes path line title decorated) := by
  obtain ⟨decorated, f, mapped, sole⟩ := Python.exists_soleContainer parsed read sole
  obtain ⟨_, -, made⟩ := Python.exists_of_parse parsed
  have usable : a.isUsable = true := by
    obtain ⟨functions, classes, top, -, -, -, rfl⟩ := Python.exists_of_analyse made
    rfl
  have hints : ofHints path a { name := title, info := f } = viewRoutes path line title decorated :=
    ofHints_of_views sole.whole rfl sole.placed sole.hints
  refine ⟨decorated, mapped, fun filled => ?_⟩
  have level : ∀ e ∈ ofHints path a { name := title, info := f },
      e.file = path ∧ e.line = (line : Int) := by
    rw [hints]
    exact fun e mem => place_of_mem_viewRoutes mem
  rw [← hints] at filled ⊢
  exact filter_detect (Python.legible_analyse made).1 usable sole.alone sole.classless filled level

/-- A decorator that lists texts is one of views with these arguments. -/
theorem decoratorOf_of_listed {e : Expr} {listed : List String} (form : e.listed? = some listed) :
    ∃ d, Python.decoratorOf e = .ok d ∧ isViewDecorator d = true ∧ d.arguments = listed := by
  unfold Expr.listed? at form
  split at form
  next position func items =>
    obtain ⟨named, texts⟩ := Option.ite_none_right_eq_some.mp form
    obtain ⟨names, dotted, last⟩ := Option.bind_eq_some_iff.mp named
    obtain ⟨qualifiers, rfl⟩ := List.getLast?_eq_some_iff.mp last
    have title : func.dottedText = .ok (Text.join "." (qualifiers ++ ["api_view"])) := by
      rw [Expr.dottedText, dotted]
    have plain : items.mapM Python.plainArgument = .ok listed := by
      refine Outcome.mapM_eq_ok_of_mapM_eq_some (fun item text known => ?_) texts
      rw [Python.plainArgument, known]
    refine ⟨⟨Text.join "." (qualifiers ++ ["api_view"]), listed⟩, ?_, ?_, rfl⟩
    · rw [Python.decoratorOf, title, List.mapM_cons, Python.argumentTexts, plain]
      show Except.ok (Decorator.mk _ ((listed ++ []) ++ [])) = _
      rw [List.append_nil, List.append_nil]
    · exact beq_iff_eq.mpr (Text.afterLast_join (by decide) qualifiers)
  next => cases form

/-- The decorators of views are those that list texts, where only those are. -/
theorem arguments_of_filter {decorated : List Decorator}
    (mapped : decorators.mapM Python.decoratorOf = .ok decorated)
    (only : ∀ e ∈ decorators, e.decoratesView = true → e.listed?.isSome = true) :
    (decorated.filter isViewDecorator).map Decorator.arguments =
      decorators.filterMap Expr.listed? := by
  induction decorators generalizing decorated with
  | nil =>
    cases mapped
    rfl
  | cons e rest ih =>
    rw [List.mapM_cons] at mapped
    obtain ⟨d, made, mapped⟩ := Outcome.exists_of_bind_ok mapped
    obtain ⟨more, others, mapped⟩ := Outcome.exists_of_bind_ok mapped
    cases mapped
    obtain ⟨own, later⟩ := List.forall_mem_cons.mp only
    rw [List.filter_cons, List.filterMap_cons, ← ih others later]
    cases form : e.listed? with
    | some listed =>
      obtain ⟨d', made', view, rfl⟩ := decoratorOf_of_listed form
      obtain rfl := Except.ok.inj (made.symm.trans made')
      rw [if_pos view]
      rfl
    | none =>
      have plain : isViewDecorator d = false := by
        rw [form, Expr.decoratesView, made] at own
        exact Bool.eq_false_iff.mpr fun view => Bool.false_ne_true (own view)
      rw [if_neg (Bool.eq_false_iff.mp plain)]

/-- The verbs that a view lists in its decorator are served in order, and nothing else is found in
it, where it has no other decorator of views. -/
theorem served_of_listed {listed : List String} (parsed : Python.parse content path = .ok a)
    (read : module? content = some body) (sole : soleFunction? title body = some (line, decorators))
    (once : decorators.filterMap Expr.listed? = [listed])
    (only : ∀ e ∈ decorators, e.decoratesView = true → e.listed?.isSome = true) :
    ∃ found, detect [(path, a)] = .ok found ∧
      found.filter (fun e => e.container = some title) =
        (served listed).map (viewRoute path line title) := by
  obtain ⟨decorated, mapped, found⟩ := filter_detect_of_soleFunction parsed read sole
  have routes : viewRoutes path line title decorated =
      (served listed).map (viewRoute path line title) := by
    have one := arguments_of_filter mapped only
    rw [once] at one
    obtain ⟨d, filtered, rfl⟩ := List.map_eq_singleton_iff.mp one
    rw [viewRoutes, filtered, List.flatMap_singleton, viewVerbs_eq_served]
  rw [routes] at found
  refine found fun none => viewVerbs_ne_nil listed ?_
  rw [viewVerbs_eq_served, List.map_eq_nil_iff.mp none]

end

/-- A view that lists one verb twice and a text that is none. -/
def loggedView : String :=
  "@login\n@rest.api_view([\"post\", \"fetch\", \"POST\"])\ndef f(r):\n    pass\n"

theorem served_of_loggedView :
    ∃ a body decorators, Python.parse loggedView "a.py" = .ok a ∧ module? loggedView = some body ∧
      soleFunction? "f" body = some (3, decorators) ∧
      decorators.filterMap Expr.listed? = [["post", "fetch", "POST"]] ∧
      (∀ e ∈ decorators, e.decoratesView = true → e.listed?.isSome = true) ∧
      ∃ found, detect [("a.py", a)] = .ok found ∧
        found.filter (fun e => e.container = some "f") =
          (served ["post", "fetch", "POST"]).map (viewRoute "a.py" 3 "f") := by
  have made : (Python.parse loggedView "a.py").toOption.isSome = true := by decide +kernel
  have shape : ∃ body ∈ module? loggedView, ∃ sole ∈ soleFunction? "f" body, sole.1 = 3 ∧
      sole.2.filterMap Expr.listed? = [["post", "fetch", "POST"]] ∧
      ∀ e ∈ sole.2, e.decoratesView = true → e.listed?.isSome = true := by
    decide +kernel
  obtain ⟨a, parsed⟩ := Option.isSome_iff_exists.mp made
  have parsed := Outcome.eq_ok_of_toOption parsed
  obtain ⟨body, read, ⟨_, decorators⟩, sole, rfl, once, only⟩ := shape
  exact ⟨a, body, decorators, parsed, read, sole, once, only,
    served_of_listed parsed read sole once only⟩

/-- A view with a decorator that lists a verb, and one of the same name that is not called. -/
def twiceDecorated : String :=
  "@api_view\n@api_view([\"POST\"])\ndef f(r):\n    pass\n"

/-- The decorator that lists nothing is served, too. -/
theorem twiceDecorated_served :
    ¬ ∀ (content path title : String) (a : FileAnalysis) (body : List Stmt) (line : Nat)
      (decorators : List Expr) (listed : List String), Python.parse content path = .ok a →
        module? content = some body → soleFunction? title body = some (line, decorators) →
        decorators.filterMap Expr.listed? = [listed] →
        ∃ found, detect [(path, a)] = .ok found ∧
          found.filter (fun e => e.container = some title) =
            (served listed).map (viewRoute path line title) := by
  intro claim
  have made : (Python.parse twiceDecorated "a.py").toOption.isSome = true := by decide +kernel
  have shape : ∃ body ∈ module? twiceDecorated, ∃ sole ∈ soleFunction? "f" body,
      sole.2.filterMap Expr.listed? = [["POST"]] ∧
        ∃ decorated ∈ (sole.2.mapM Python.decoratorOf).toOption,
          (viewRoutes "a.py" sole.1 "f" decorated).map Endpoint.method = ["GET", "POST"] := by
    decide +kernel
  have claimed : served ["POST"] = ["POST"] := by decide +kernel
  obtain ⟨a, parsed⟩ := Option.isSome_iff_exists.mp made
  have parsed := Outcome.eq_ok_of_toOption parsed
  obtain ⟨body, read, ⟨line, decorators⟩, sole, once, decorated, mapped, both⟩ := shape
  have mapped := Outcome.eq_ok_of_toOption mapped
  obtain ⟨_, again, detected⟩ := filter_detect_of_soleFunction parsed read sole
  obtain rfl := Except.ok.inj (again.symm.trans mapped)
  obtain ⟨found, ends, routes⟩ := detected fun none => by
    rw [none] at both
    cases both
  obtain ⟨found', ends', same⟩ := claim twiceDecorated "a.py" "f" a body line decorators ["POST"]
    parsed read sole once
  obtain rfl := Except.ok.inj (ends.symm.trans ends')
  rw [← routes, same, claimed] at both
  exact absurd both (show ["POST"] ≠ ["GET", "POST"] by decide)

end RepoSurvey.Detection.Route
