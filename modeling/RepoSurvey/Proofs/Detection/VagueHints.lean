import Mathlib.Data.List.Flatten
import RepoSurvey.Proofs.Detection.Claims
import RepoSurvey.Proofs.Detection.Rounds

/-!
# Hints that belong to no framework

A route hint stands for its own routes, or it is put aside under the name of its container and
means at most one route of no framework there. Hints of a framework are put aside, too, when they
lack what its routes need. But then they lack a verb or a route (`lacks_of_hintFindings`), without
which a hint means nothing: only hints of no framework mean something later
(`generic_of_undecided`).

So the routes of a file account for its hints (`Accounts`): each route of no framework goes back
to a hint of none, and no hint is used twice (`exists_accounts`).
-/

namespace RepoSurvey.Detection.Route

/-! ## Members with what they mean -/

section

variable {β γ : Type} (means : β → Option γ) (members : List β)

/-- The members that mean something, each with what it means. -/
def paired : List (β × γ) :=
  members.filterMap fun b => (means b).map fun c => (b, c)

theorem sublist_map_fst_paired : ((paired means members).map fun v => v.1).Sublist members := by
  induction members with
  | nil => exact .slnil
  | cons b rest ih =>
    rw [paired, List.filterMap_cons]
    cases means b with
    | none => exact ih.cons b
    | some c => exact ih.cons_cons b

theorem map_snd_paired : (paired means members).map (fun v => v.2) = members.filterMap means := by
  rw [paired, List.map_filterMap]
  refine List.filterMap_congr fun b _ => ?_
  rw [Option.map_map]
  exact congrFun Option.map_id (means b)

end

variable {ctx : Context} {c d : Container} {hint : Hint} {kind : String} {value : Json}
  {e : Endpoint} {path : String} {a : FileAnalysis}

/-! ## Single hints -/

theorem exists_klass_of_django (origin : originOf kind c = .django)
    (other : kind ≠ viewFunctionKind) : ∃ klass, c.klass? = some klass := by
  rw [originOf] at origin
  cases known : c.klass? with
  | some klass => exact ⟨klass, rfl⟩
  | none =>
    rw [known] at origin
    simp [other] at origin
    split at origin
    · cases origin
    · split at origin <;> cases origin

/-- A hint of a framework that stands for no route lacks a verb or a route. -/
theorem lacks_of_hintFindings {line : Int} (specific : originOf kind c ≠ .generic)
    (none_made : hintFindings ctx c hint kind (originOf kind c) line = .ok []) :
    hintVerb? hint = .ok none ∨ hintRoute? hint = .ok none := by
  cases origin : originOf kind c with
  | generic => exact absurd origin specific
  | express =>
    rw [origin] at none_made
    obtain ⟨verb, verb_read, none_made⟩ := Outcome.exists_of_bind_ok none_made
    obtain ⟨route, route_read, none_made⟩ := Outcome.exists_of_bind_ok none_made
    cases verb with
    | none => exact .inl verb_read
    | some method =>
      cases route with
      | none => exact .inr route_read
      | some path => cases none_made
  | nest =>
    rw [origin] at none_made
    obtain ⟨verb, verb_read, none_made⟩ := Outcome.exists_of_bind_ok none_made
    obtain ⟨route, -, none_made⟩ := Outcome.exists_of_bind_ok none_made
    cases verb with
    | none => exact .inl verb_read
    | some method => cases none_made
  | django =>
    rw [origin, hintFindings] at none_made
    by_cases view : kind = viewFunctionKind
    · rw [if_pos (beq_iff_eq.mpr view)] at none_made
      obtain ⟨methods, declared, none_made⟩ := Outcome.exists_of_bind_ok none_made
      have some_verb := (declaredVerbs_returns hint).of_ok declared
      exact absurd (List.map_eq_nil_iff.mp (Except.ok.inj none_made)) some_verb
    · obtain ⟨klass, known⟩ := exists_klass_of_django origin view
      rw [if_neg fun same => view (eq_of_beq same), known] at none_made
      obtain ⟨verb, verb_read, none_made⟩ := Outcome.exists_of_bind_ok none_made
      cases verb with
      | none => exact .inl verb_read
      | some method =>
        exfalso
        dsimp only at none_made
        split at none_made <;> cases none_made

/-- What lacks a verb or a route means nothing. -/
theorem genericFinding_of_lacks (lacks : hintVerb? hint = .ok none ∨ hintRoute? hint = .ok none) :
    genericFinding ctx c (.obj hint) ≠ .ok (some e) := by
  intro means
  obtain ⟨verb, verb_read, means⟩ := Outcome.exists_of_bind_ok means
  obtain ⟨route, route_read, means⟩ := Outcome.exists_of_bind_ok means
  rcases lacks with lacks | lacks
  · obtain rfl := Except.ok.inj (verb_read.symm.trans lacks)
    cases means
  · obtain rfl := Except.ok.inj (route_read.symm.trans lacks)
    cases verb <;> cases means

theorem verdictOf_eq_undecided {found : List Endpoint} (open_ : verdictOf found = .undecided) :
    found = [] := by
  cases found with
  | nil => rfl
  | cons first more => cases open_

/-- A hint that was put aside and means something belongs to no framework. -/
theorem generic_of_undecided (open_ : judge ctx c value = .ok .undecided)
    (means : genericFinding ctx d value = .ok (some e)) :
    ∃ hint kind, value = .obj hint ∧ hintKind hint = .ok kind ∧ originOf kind c = .generic := by
  cases value
  case obj hint =>
    obtain ⟨kind, known, open_⟩ := Outcome.exists_of_bind_ok open_
    refine ⟨hint, kind, rfl, known, ?_⟩
    by_contra specific
    have none_made : ∃ line, hintFindings ctx c hint kind (originOf kind c) line = .ok [] := by
      split at open_
      next generic => exact absurd generic specific
      next =>
        split at open_
        · cases open_
        · obtain ⟨line, -, open_⟩ := Outcome.exists_of_bind_ok open_
          obtain ⟨found, made, open_⟩ := Outcome.exists_of_bind_ok open_
          obtain rfl := verdictOf_eq_undecided (Except.ok.inj open_)
          exact ⟨line, made⟩
    obtain ⟨line, none_made⟩ := none_made
    exact genericFinding_of_lacks (lacks_of_hintFindings specific none_made) means
  all_goals cases open_

/-! ## Hints and routes of a file -/

/-- The hints of a file, each with its container. -/
def hintsOf (a : FileAnalysis) : List (Container × Json) :=
  Ledger.occurrences (fun c => c.info.routeHints) (containers a)

/-- The routes that a hint stands for. -/
def routesOf (ctx : Context) (o : Container × Json) : List Endpoint :=
  (Ledger.verdictOn (judge ctx) o.1 o.2).findings

/-- The hint belongs to no framework. -/
def IsGeneric (o : Container × Json) : Prop :=
  ∃ hint kind, o.2 = .obj hint ∧ hintKind hint = .ok kind ∧ originOf kind o.1 = .generic

/-- The route does not go back to a hint. -/
inductive Hintless (ctx : Context) (cs : List Container) (e : Endpoint) : Prop where
  | kind (c : Container) (there : c ∈ cs) (made : e ∈ structuralFindings ctx c)
  | klass (found : List Endpoint) (made : e ∈ classDefaults ctx found)
  | name (c : Container) (there : c ∈ cs) (made : naming ctx c = some e)

/-- Routes of no framework, each with a hint that it goes back to: these hints belong to none
either, and none of them is used twice. -/
structure Meanings (path : String) (a : FileAnalysis)
    (vague : List ((Container × Json) × Endpoint)) : Prop where
  once : (vague.map fun v => v.1).Subperm (hintsOf a)
  generic : ∀ v ∈ vague, IsGeneric v.1 ∧ Generic look path v.1.1.name v.2

/-- The routes of a file account for its hints: they are what the hints of frameworks stand for,
what does not go back to a hint, and what hints of no framework mean. -/
structure Accounts (path : String) (a : FileAnalysis) (found others : List Endpoint)
    (vague : List ((Container × Json) × Endpoint)) : Prop where
  parts : found.Perm ((hintsOf a).flatMap (routesOf (contextOf path a)) ++ others ++
    vague.map fun v => v.2)
  sure : ∀ o ∈ hintsOf a, ∀ e ∈ routesOf (contextOf path a) o,
    ¬ IsGeneric o ∧ e.framework ≠ noFramework
  hintless : ∀ e ∈ others, Hintless (contextOf path a) (containers a) e ∧
    e.framework ≠ noFramework
  meanings : Meanings path a vague

theorem isGeneric_of_means {o : Container × Json}
    (open_ : (Ledger.verdictOn (judge ctx) o.1 o.2).isUndecided = true)
    (means : Ledger.meaningOf (genericFinding ctx) d o.2 = some e) :
    IsGeneric o ∧ Generic look ctx.path d.name e := by
  have meant := Ledger.eq_ok_of_meaningOf means
  have undecided : judge ctx o.1 o.2 = .ok .undecided := by
    rw [Ledger.verdictOn] at open_
    cases verdict : judge ctx o.1 o.2 with
    | error failure =>
      rw [verdict] at open_
      cases open_
    | ok verdict' =>
      rw [verdict] at open_
      cases verdict' with
      | undecided => rfl
      | found first more => cases open_
      | dismissed => cases open_
  exact ⟨generic_of_undecided undecided meant,
    ((genericFinding_returns ctx d o.2).of_ok meant e rfl).1⟩

/-- The hints of a file that are put aside under a name. -/
def putAside (ctx : Context) (a : FileAnalysis) (name : String) : List (Container × Json) :=
  withKey (fun o => o.1.name) (Ledger.undecided (Ledger.verdictOn (judge ctx)) (hintsOf a)) name

/-- Containers with different names are given each hint that was put aside once at most. -/
theorem exists_vague {taken : List Container} (distinct : (taken.map Container.name).Nodup)
    {aside : String → List Json}
    (put : ∀ name, aside name = (putAside (contextOf path a) a name).map fun o => o.2) :
    ∃ vague : List ((Container × Json) × Endpoint),
      taken.flatMap (Ledger.takenIn (Ledger.meaningOf (genericFinding (contextOf path a))) aside) =
        vague.map (fun v => v.2) ∧ Meanings path a vague := by
  let ctx := contextOf path a
  let given := putAside ctx a
  let means (d : Container) (o : Container × Json) : Option Endpoint :=
    Ledger.meaningOf (genericFinding ctx) d o.2
  refine ⟨taken.flatMap fun d => paired (means d) (given d.name), ?_, ?_, ?_⟩
  · rw [List.map_flatMap]
    refine List.flatMap_congr fun d _ => ?_
    rw [map_snd_paired, Ledger.takenIn, put, List.filterMap_map]
    rfl
  · have each : ∀ d ∈ taken, ((paired (means d) (given d.name)).map fun v => v.1).Sublist
        (given d.name) :=
      fun d _ => sublist_map_fst_paired (means d) (given d.name)
    have all : (taken.flatMap fun d => given d.name).Subperm
        (Ledger.undecided (Ledger.verdictOn (judge ctx)) (hintsOf a)) := by
      rw [← List.flatMap_map Container.name given]
      exact subperm_flatMap_withKey distinct _
    rw [List.map_flatMap]
    refine (List.Sublist.flatMap_right taken each).subperm.trans (all.trans ?_)
    exact List.filter_sublist.subperm
  · intro v mem
    obtain ⟨d, -, mem⟩ := List.mem_flatMap.mp mem
    obtain ⟨o, there, made⟩ := List.mem_filterMap.mp mem
    obtain ⟨e, meant, rfl⟩ := Option.map_eq_some_iff.mp made
    obtain ⟨undecided, same⟩ := mem_withKey.mp there
    rw [same]
    exact isGeneric_of_means (List.mem_filter.mp undecided).2 meant

theorem specific_routesOf {o : Container × Json} (mem : e ∈ routesOf ctx o) :
    Specific look ctx.path o.1.name e := by
  rw [routesOf, Ledger.verdictOn] at mem
  cases verdict : judge ctx o.1 o.2 with
  | error failure =>
    rw [verdict] at mem
    cases mem
  | ok verdict' =>
    have adds := (judge_returns ctx o.1 o.2).of_ok verdict
    rw [verdict] at mem
    cases verdict' with
    | found first more => exact (adds e mem).1
    | undecided => cases mem
    | dismissed => cases mem

theorem routesOf_of_isGeneric {o : Container × Json} (generic : IsGeneric o) :
    routesOf ctx o = [] := by
  obtain ⟨hint, kind, value, known, origin⟩ := generic
  have undecided : judge ctx o.1 o.2 = .ok .undecided := by
    rw [value, judge]
    refine Outcome.bind_of_eq_ok known ?_
    rw [origin]
    rfl
  rw [routesOf, Ledger.verdictOn, undecided]
  rfl

theorem Hintless.framework_ne (h : Hintless ctx (containers a) e) : e.framework ≠ noFramework := by
  cases h with
  | kind c there made => exact (specific_structuralFindings made).1.framework
  | klass found made =>
    obtain ⟨klass, -, specific, -⟩ := specific_classDefaults made
    exact specific.framework
  | name c there made =>
    obtain ⟨-, made⟩ := Option.ite_none_right_eq_some.mp made
    exact (specific_namedFinding made).1.framework

/-! ## Rounds -/

/-- The ledger after the first round: every hint is judged. -/
def judged (path : String) (a : FileAnalysis) : Ledger Json Endpoint :=
  ({} : Ledger Json Endpoint).judgeAll (Ledger.verdictOn (judge (contextOf path a))) (hintsOf a)

/-- The ledger after the second round: containers count by what they are. -/
def matched (path : String) (a : FileAnalysis) : Ledger Json Endpoint :=
  (judged path a).matchStructure (structuralFindings (contextOf path a)) (containers a)

/-- The ledger with the routes of the view classes that are left. -/
def defaulted (path : String) (a : FileAnalysis) : Ledger Json Endpoint :=
  (matched path a).note (classDefaults (contextOf path a) (matched path a).findings)

theorem findings_judged (path : String) (a : FileAnalysis) :
    (judged path a).findings = (hintsOf a).flatMap (routesOf (contextOf path a)) := by
  rw [judged, Ledger.findings_judgeAll]
  rfl

theorem asideFor_defaulted (path : String) (a : FileAnalysis) (name : String) :
    (defaulted path a).asideFor name = (putAside (contextOf path a) a name).map fun o => o.2 := by
  have same : (defaulted path a).asideFor name = (judged path a).asideFor name := by
    show ((matched path a).pending.get? name).getD [] = _
    rw [matched, Ledger.pending_matchStructure, Ledger.asideFor]
  rw [same, judged, Ledger.asideFor_judgeAll]
  rfl

/-- The ledger before names are looked at. -/
theorem eq_of_beforeNames {early : Ledger Json Endpoint} (before : beforeNames path a = .ok early) :
    early = (containers a).foldl (Ledger.takeIn
      (Ledger.meaningOf (genericFinding (contextOf path a))) (defaulted path a).asideFor)
      (defaulted path a) := by
  obtain ⟨first, ok, later⟩ := Outcome.exists_of_bind_ok before
  obtain rfl : first = judged path a := Ledger.eq_judgeAll_of_ok ok
  exact Ledger.eq_foldl_takeIn_of_ok later

/-- The routes that are found before names are looked at: those that hints stand for, others that
do not go back to hints, and what hints that were put aside mean. -/
theorem exists_parts_of_beforeNames {early : Ledger Json Endpoint}
    (before : beforeNames path a = .ok early) :
    ∃ (others : List Endpoint) (vague : List ((Container × Json) × Endpoint)),
      early.findings = (hintsOf a).flatMap (routesOf (contextOf path a)) ++ others ++
        vague.map (fun v => v.2) ∧
      (∀ e ∈ others, Hintless (contextOf path a) (containers a) e) ∧ Meanings path a vague := by
  let ctx := contextOf path a
  let cs := containers a
  have structural := Ledger.claiming_matchIn (σ := Json) (structuralFindings ctx)
  obtain ⟨kinds, kinds_eq, kinds_from⟩ : ∃ kinds : List Endpoint,
      (matched path a).findings = (judged path a).findings ++ kinds ∧
        ∀ e ∈ kinds, Hintless ctx cs e := by
    refine ⟨_, structural.findings_foldl, fun e mem => ?_⟩
    obtain ⟨c, taken, made⟩ := List.mem_flatMap.mp mem
    rw [Ledger.structureOf] at made
    split at made
    · cases made
    · exact .kind c (List.mem_of_find?_eq_some (structural.mem_takers.mp taken).2) made
  have claims := Ledger.claiming_takeIn (Ledger.meaningOf (genericFinding ctx))
    (defaulted path a).asideFor
  obtain ⟨vague, vague_eq, meanings⟩ := exists_vague
    (claims.nodup_takers (l := defaulted path a)) (asideFor_defaulted path a)
  refine ⟨kinds ++ classDefaults ctx (matched path a).findings, vague, ?_, ?_, meanings⟩
  · have noted : (defaulted path a).findings =
        (matched path a).findings ++ classDefaults ctx (matched path a).findings := rfl
    rw [eq_of_beforeNames before, claims.findings_foldl, vague_eq, noted, kinds_eq,
      findings_judged]
    simp only [List.append_assoc]
  · intro e mem
    rcases List.mem_append.mp mem with kind | klass
    · exact kinds_from e kind
    · exact .klass _ klass

/-- The routes of a file account for its hints. -/
theorem exists_accounts {found : List Endpoint} (detected : detectFile path a = .ok found) :
    ∃ others vague, Accounts path a found others vague := by
  rw [detectFile_eq_bind] at detected
  obtain ⟨early, before, made⟩ := Outcome.exists_of_bind_ok detected
  obtain ⟨others, vague, parts, hintless, meanings⟩ := exists_parts_of_beforeNames before
  let named := early.named (naming (contextOf path a)) (containers a)
  refine ⟨others ++ named, vague, ?_, ?_, ?_, meanings⟩
  · rw [← Except.ok.inj made, parts, List.append_assoc, List.append_assoc, List.append_assoc,
      List.append_assoc]
    exact .append_left _ (.append_left _ List.perm_append_comm)
  · intro o _ e mem
    refine ⟨fun generic => ?_, (specific_routesOf mem).framework⟩
    rw [routesOf_of_isGeneric generic] at mem
    cases mem
  · intro e mem
    have origin : Hintless (contextOf path a) (containers a) e := by
      rcases List.mem_append.mp mem with other | named
      · exact hintless e other
      · obtain ⟨c, there, -, made⟩ := Ledger.exists_of_mem_named named
        exact .name c there made
    exact ⟨origin, origin.framework_ne⟩

end RepoSurvey.Detection.Route
