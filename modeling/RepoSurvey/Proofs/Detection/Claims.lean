import RepoSurvey.Proofs.Detection.HintFlaws
import RepoSurvey.Proofs.Outcomes

/-!
# A framework or none

The sure rounds of a detector find things that belong to a framework, the round
over what was put aside finds things that belong to none, and each passes over
containers that are claimed. So the findings in one container all belong to a
framework, or none of them does, however many containers share its name; and
names are looked at only where nothing else was found (`specific_or_generic`).

Findings about classes claim nothing, so a class must not have the name of a
container.

No round takes back what an earlier one has found. So when a signal is judged to
stand for something, that is among the findings of the file
(`Ledger.mem_beforeNames`), whatever else the detector finds.
-/

namespace RepoSurvey.Detection

/-! ## Claims -/

section

variable {σ α : Type} {look : Look α} {path : String} {cs : List Container} {l : Ledger σ α}

/-- A container with a finding is claimed. -/
def Ledger.Claims (look : Look α) (cs : List Container) (l : Ledger σ α) : Prop :=
  ∀ f ∈ l.findings, ∀ c ∈ cs, look.container f = some c.name → l.isClaimed c = true

/-- Claims are kept, and every finding belongs to a framework. -/
structure Ledger.Sure (look : Look α) (cs : List Container) (l : Ledger σ α) : Prop where
  claims : l.Claims look cs
  specific : ∀ f ∈ l.findings, look.framework f ≠ noFramework

/-- No finding in the container belongs to a framework. -/
def Ledger.VagueIn (look : Look α) (name : String) (l : Ledger σ α) : Prop :=
  ∀ f ∈ l.findings, look.container f = some name → look.framework f = noFramework

/-- Claims are kept, and in a container with one finding of no framework no finding belongs
to a framework. -/
structure Ledger.Settled (look : Look α) (cs : List Container) (l : Ledger σ α) : Prop where
  claims : l.Claims look cs
  uniform : ∀ c ∈ cs, ∀ f ∈ l.findings, look.container f = some c.name →
    look.framework f = noFramework → l.VagueIn look c.name

namespace Ledger

theorem isClaimed_claim (c : Container) {added : List α} (filled : added ≠ []) :
    (l.claim c.name added).isClaimed c = true := by
  rw [claim, List.isEmpty_eq_false_iff.mpr filled]
  show (l.claimed ++ [c.name]).contains c.name = true
  rw [List.contains_iff_mem, List.mem_append]
  exact .inr (List.mem_singleton_self _)

theorem isClaimed_claim_of_isClaimed {c : Container} (name : String) (added : List α)
    (claimed : l.isClaimed c = true) : (l.claim name added).isClaimed c = true := by
  rw [claim]
  split
  · exact claimed
  · show (l.claimed ++ [name]).contains c.name = true
    rw [List.contains_iff_mem, List.mem_append]
    exact .inl (List.contains_iff_mem.mp claimed)

theorem mem_claim {name : String} {added : List α} {f : α} :
    f ∈ (l.claim name added).findings ↔ f ∈ l.findings ∨ f ∈ added := by
  rw [claim]
  split
  next empty =>
    rw [List.isEmpty_iff.mp empty]
    simp only [List.not_mem_nil, or_false]
  next => exact List.mem_append

/-- A finding claims the container that it names. -/
theorem Claims.claim {c : Container} {added : List α} (h : l.Claims look cs)
    (own : ∀ f ∈ added, look.container f = some c.name) :
    (l.claim c.name added).Claims look cs := by
  intro f mem d there container
  rcases mem_claim.mp mem with old | new
  · exact isClaimed_claim_of_isClaimed c.name added (h f old d there container)
  · have same : c.name = d.name := Option.some.inj ((own f new).symm.trans container)
    have claimed := isClaimed_claim (l := l) c (List.ne_nil_of_mem new)
    rw [isClaimed, same] at claimed
    rwa [isClaimed, same]

/-- Nothing is found yet in a container that is unclaimed. -/
theorem Claims.container_ne {c : Container} (h : l.Claims look cs) (there : c ∈ cs)
    (unclaimed : l.isClaimed c = false) {f : α} (mem : f ∈ l.findings) :
    look.container f ≠ some c.name := by
  intro container
  rw [h f mem c there container] at unclaimed
  cases unclaimed

/-! ## Sure rounds -/

theorem Sure.note {added : List α} (h : l.Sure look cs)
    (elsewhere : ∀ f ∈ added, ∀ c ∈ cs, look.container f ≠ some c.name)
    (specific : ∀ f ∈ added, look.framework f ≠ noFramework) : (l.note added).Sure look cs where
  claims := by
    intro f mem c there container
    rcases List.mem_append.mp mem with old | new
    · exact h.claims f old c there container
    · exact absurd container (elsewhere f new c there)
  specific := by
    intro f mem
    rcases List.mem_append.mp mem with old | new
    · exact h.specific f old
    · exact specific f new

theorem Sure.claim {c : Container} {added : List α} (h : l.Sure look cs)
    (new : ∀ f ∈ added, Specific look path c.name f) : (l.claim c.name added).Sure look cs where
  claims := h.claims.claim fun f mem => (new f mem).container
  specific := by
    intro f mem
    rcases mem_claim.mp mem with old | added
    · exact h.specific f old
    · exact (new f added).framework

theorem Sure.enter {c : Container} {s : σ} {verdict : Verdict α} (h : l.Sure look cs)
    (adds : verdict.Adds (Specific look path c.name) True) :
    (l.enter c s verdict).Sure look cs := by
  cases verdict with
  | found first more => exact h.claim adds
  | undecided => exact ⟨h.claims, h.specific⟩
  | dismissed => exact h

theorem Sure.matchStructure {structural : Container → List α} (h : l.Sure look cs)
    (new : ∀ c, ∀ f ∈ structural c, Specific look path c.name f) (among : List Container) :
    (l.matchStructure structural among).Sure look cs := by
  rw [Ledger.matchStructure]
  refine List.foldlRecOn among _ h fun l h c _ => ?_
  split
  · exact h
  · exact h.claim (new c)

theorem Sure.settled (h : l.Sure look cs) : l.Settled look cs :=
  ⟨h.claims, fun _ _ f mem _ generic => absurd generic (h.specific f mem)⟩

section

variable {m : Type → Type} [Monad m] [LawfulMonad m] {failing : Failing m}

theorem Sure.judgeSignals {signals : Container → List σ} {judge : Container → σ → m (Verdict α)}
    (h : l.Sure look cs)
    (judged : ∀ c s, Returns failing (judge c s) (Verdict.Adds (Specific look path c.name) True))
    (among : List Container) :
    Returns failing (l.judgeSignals signals judge among) (Sure look cs) := by
  refine returns_foldlM h fun c _ l h => returns_foldlM h fun s _ l h => ?_
  exact (judged c s).bind fun verdict adds => returns_pure (h.enter adds)

/-! ## The round over what was put aside -/

/-- In a container where nothing else was found, what belongs to no framework may be found. -/
theorem Settled.claim {c : Container} {added : List α} (h : l.Settled look cs)
    (vague : l.VagueIn look c.name) (new : ∀ f ∈ added, Generic look path c.name f) :
    (l.claim c.name added).Settled look cs ∧ (l.claim c.name added).VagueIn look c.name := by
  have still : (l.claim c.name added).VagueIn look c.name := by
    intro f mem container
    rcases mem_claim.mp mem with old | added
    · exact vague f old container
    · exact (new f added).framework
  refine ⟨⟨h.claims.claim fun f mem => (new f mem).container, ?_⟩, still⟩
  intro d there f mem container generic
  by_cases same : c.name = d.name
  · rwa [← same]
  -- another container, in which nothing is new
  · have old : ∀ g ∈ (l.claim c.name added).findings, look.container g = some d.name →
        g ∈ l.findings := by
      intro g mem container
      refine (mem_claim.mp mem).resolve_right fun added => same ?_
      exact Option.some.inj ((new g added).container.symm.trans container)
    intro g mem' container'
    exact h.uniform d there f (old f mem container) container generic g (old g mem' container')
      container'

theorem Settled.takePending {generic : Container → σ → m (Option α)} (h : l.Settled look cs)
    (taken : ∀ c s, Returns failing (generic c s) fun o => ∀ f ∈ o, Generic look path c.name f) :
    Returns failing (l.takePending generic cs) (Settled look cs) := by
  refine returns_foldlM h fun c there l h => ?_
  split
  · exact returns_pure h
  next unclaimed =>
    -- the findings in this container are the ones of this round alone
    have vague : l.VagueIn look c.name := by
      intro f mem container
      exact absurd container (h.claims.container_ne there (Bool.eq_false_iff.mpr unclaimed) mem)
    have inner : ∀ signals : List σ,
        Returns failing
          (signals.foldlM (fun l s => do return l.claim c.name (← generic c s).toList) l)
          fun l => l.Settled look cs ∧ l.VagueIn look c.name := by
      refine fun signals => returns_foldlM ⟨h, vague⟩ fun s _ l h => ?_
      refine (taken c s).bind fun o new => returns_pure ?_
      exact h.1.claim h.2 fun f mem => new f (Option.mem_toList.mp mem)
    exact (inner _).imp fun l h => h.1

end

/-- The rounds before names are looked at, where judging cannot fail. -/
def beforeNames (l : Ledger σ α) (signals : Container → List σ) (judge : Container → σ → Verdict α)
    (structural : Container → List α) (generic : Container → σ → Option α)
    (cs : List Container) : Ledger σ α :=
  let judged := Id.run (l.judgeSignals signals (fun c s => pure (judge c s)) cs)
  Id.run ((judged.matchStructure structural cs).takePending (fun c s => pure (generic c s)) cs)

theorem Sure.beforeNames {signals : Container → List σ} {judge : Container → σ → Verdict α}
    {structural : Container → List α} {generic : Container → σ → Option α} (h : l.Sure look cs)
    (judged : ∀ c s, (judge c s).Adds (Specific look path c.name) True)
    (structured : ∀ c, ∀ f ∈ structural c, Specific look path c.name f)
    (taken : ∀ c s, ∀ f ∈ generic c s, Generic look path c.name f) :
    (l.beforeNames signals judge structural generic cs).Settled look cs := by
  have first : (Id.run (l.judgeSignals signals (fun c s => pure (judge c s)) cs)).Sure look cs :=
    (h.judgeSignals (fun c s => returns_pure (judged c s)) cs).run
  have second := (first.matchStructure structured cs).settled
  exact (second.takePending fun c s => returns_pure (taken c s)).run

/-! ## Names -/

/-- What the last round finds. -/
def named (l : Ledger σ α) (naming : Container → Option α) (cs : List Container) : List α :=
  cs.flatMap fun c => if l.isClaimed c || c.isTopLevel then [] else (naming c).toList

theorem matchNames_findings (naming : Container → Option α) (cs : List Container) :
    (l.matchNames naming cs).findings = l.findings ++ l.named naming cs := by
  induction cs generalizing l with
  | nil => exact (List.append_nil _).symm
  | cons c rest ih =>
    show (Ledger.matchNames (if l.isClaimed c || c.isTopLevel then l
      else l.note (naming c).toList) naming rest).findings = _
    have parts : l.named naming (c :: rest) =
        (if l.isClaimed c || c.isTopLevel then [] else (naming c).toList) ++ l.named naming rest :=
      List.flatMap_cons
    rw [ih, parts, ← List.append_assoc]
    split
    next => rw [List.append_nil]
    next => rfl

theorem exists_of_mem_named {naming : Container → Option α} {f : α}
    (mem : f ∈ l.named naming cs) : ∃ c ∈ cs, l.isClaimed c = false ∧ naming c = some f := by
  obtain ⟨c, there, mem⟩ := List.mem_flatMap.mp mem
  split at mem
  · cases mem
  next open_ =>
    rw [Bool.or_eq_true, not_or] at open_
    exact ⟨c, there, Bool.eq_false_iff.mpr open_.1, Option.mem_toList.mp mem⟩

end Ledger

/-- Findings in a file of which those by name come last: in no container are there
findings of a framework as well as of none, and names tell nothing where anything was
found before. -/
structure Exclusive (look : Look α) (cs : List Container) (found : List α) (before : Ledger σ α)
    (naming : Container → Option α) : Prop where
  /-- The findings are those before names were looked at, and those by name. -/
  parts : found = before.findings ++ before.named naming cs
  /-- Where one finding belongs to no framework, none does. -/
  never_both : ∀ c ∈ cs, ∀ f ∈ found, ∀ g ∈ found, look.container f = some c.name →
    look.container g = some c.name → look.framework f = noFramework →
      look.framework g = noFramework
  /-- A finding by name is alone with others by name. -/
  names_last : ∀ f ∈ before.named naming cs, ∀ g ∈ before.findings,
    look.container f ≠ look.container g

/-- Names that all speak for one framework, or for none, add nothing to a container that
has other findings. -/
theorem Ledger.Settled.exclusive {naming : Container → Option α} (h : l.Settled look cs)
    (framework : String)
    (names : ∀ c f, naming c = some f →
      look.container f = some c.name ∧ look.framework f = framework) :
    Exclusive look cs (l.findings ++ l.named naming cs) l naming := by
  have last : ∀ f ∈ l.named naming cs, ∀ g ∈ l.findings,
      look.container f ≠ look.container g := by
    intro f mem g before same
    obtain ⟨c, there, unclaimed, made⟩ := Ledger.exists_of_mem_named mem
    exact h.claims.container_ne there unclaimed before (same.symm.trans (names c f made).1)
  have agree : ∀ f ∈ l.named naming cs, look.framework f = framework := by
    intro f mem
    obtain ⟨c, -, -, made⟩ := Ledger.exists_of_mem_named mem
    exact (names c f made).2
  refine ⟨rfl, ?_, last⟩
  intro c there f mem g mem' container container' generic
  have together : look.container f = look.container g := container.trans container'.symm
  rcases List.mem_append.mp mem with early | late
  · rcases List.mem_append.mp mem' with early' | late'
    · exact h.uniform c there f early container generic g early' container'
    · exact absurd together.symm (last g late' f early)
  · rcases List.mem_append.mp mem' with early' | late'
    · exact absurd together (last f late g early')
    · rw [agree g late', ← agree f late, generic]

end

/-! ## Files -/

/-- No class has the name of a container. -/
def ClassesApart (a : FileAnalysis) : Prop :=
  ∀ c ∈ containers a, ∀ klass ∈ a.classes, c.name ≠ klass.1

instance (a : FileAnalysis) : Decidable (ClassesApart a) :=
  inferInstanceAs (Decidable (∀ c ∈ containers a, ∀ klass ∈ a.classes, c.name ≠ klass.1))

section

variable {path : String} {a : FileAnalysis}

namespace State

/-- The changes of state that the classes of a file are. -/
def ofClasses (path : String) (a : FileAnalysis) : Ledger String StateChange where
  findings := a.classes.flatMap fun (name, c) => classChanges (contextOf path a) name c

/-- The changes of state that are found before names are looked at. -/
def beforeNames (path : String) (a : FileAnalysis) : Ledger String StateChange :=
  let ctx := contextOf path a
  (ofClasses path a).beforeNames (fun c => c.info.stateTags) (judge ctx)
    (fun c => (structuralChange? ctx c).toList) (genericChange? ctx) (containers a)

theorem sure_ofClasses (apart : ClassesApart a) : (ofClasses path a).Sure look (containers a) where
  claims := by
    intro f mem c there container
    obtain ⟨klass, known, mem⟩ := List.mem_flatMap.mp mem
    have same := (specific_classChanges mem).container.symm.trans container
    exact absurd (Option.some.inj same).symm (apart c there klass known)
  specific := by
    intro f mem
    obtain ⟨klass, -, mem⟩ := List.mem_flatMap.mp mem
    exact (specific_classChanges mem).framework

theorem exclusive_detectFile (apart : ClassesApart a) :
    Exclusive look (containers a) (detectFile path a) (beforeNames path a)
      (namedChange? (contextOf path a)) := by
  have settled : (beforeNames path a).Settled look (containers a) :=
    (sure_ofClasses apart).beforeNames (fun c tag => judge_adds tag trivial)
      (fun c f mem => specific_structuralChange? (Option.mem_toList.mp mem))
      (fun c tag f made => generic_genericChange? made)
  have parts : detectFile path a = (beforeNames path a).findings ++
      (beforeNames path a).named (namedChange? (contextOf path a)) (containers a) :=
    Ledger.matchNames_findings _ _
  rw [parts]
  refine settled.exclusive noFramework fun c f made => ?_
  exact ⟨(generic_namedChange? made).container, (generic_namedChange? made).framework⟩

end State

namespace Event

/-- The events that are found before names are looked at. -/
def beforeNames (path : String) (a : FileAnalysis) : Ledger String EventRecord :=
  let ctx := contextOf path a
  ({} : Ledger String EventRecord).beforeNames (fun c => c.info.eventTags) (judge ctx)
    (fun c => (structuralRecord? ctx c).toList) (fun c tag => some (genericRecord ctx c tag))
    (containers a)

theorem exclusive_detectFile (path : String) (a : FileAnalysis) :
    Exclusive look (containers a) (detectFile path a) (beforeNames path a)
      (namedRecord? (contextOf path a)) := by
  have start : ({} : Ledger String EventRecord).Sure look (containers a) := ⟨nofun, nofun⟩
  have settled : (beforeNames path a).Settled look (containers a) := by
    refine start.beforeNames (fun c tag => judge_adds tag trivial)
      (fun c f mem => specific_structuralRecord? (Option.mem_toList.mp mem)) fun c tag f made => ?_
    rw [← Option.some.inj made]
    exact generic_genericRecord tag
  have parts : detectFile path a = (beforeNames path a).findings ++
      (beforeNames path a).named (namedRecord? (contextOf path a)) (containers a) :=
    Ledger.matchNames_findings _ _
  rw [parts]
  refine settled.exclusive noFramework fun c f made => ?_
  exact ⟨(generic_namedRecord? made).container, (generic_namedRecord? made).framework⟩

end Event

namespace Route

/-- The routes that are found before names are looked at. -/
def beforeNames (path : String) (a : FileAnalysis) : Except Failure (Ledger Json Endpoint) := do
  let ctx := contextOf path a
  let cs := containers a
  let judged ← ({} : Ledger Json Endpoint).judgeSignals (fun c => c.info.routeHints) (judge ctx) cs
  let matched := judged.matchStructure (structuralFindings ctx) cs
  (matched.note (classDefaults ctx matched.findings)).takePending (genericFinding ctx) cs

/-- What names tell about routes, in a file that imports Express. -/
def naming (ctx : Context) (c : Container) : Option Endpoint :=
  if ctx.express then namedFinding ctx c else none

theorem detectFile_eq_bind (path : String) (a : FileAnalysis) :
    detectFile path a = beforeNames path a >>= fun l =>
      .ok (l.findings ++ l.named (naming (contextOf path a)) (containers a)) := by
  have last : ∀ l : Ledger Json Endpoint,
      (if (contextOf path a).express then l.matchNames (namedFinding (contextOf path a))
        (containers a) else l).findings =
        l.findings ++ l.named (naming (contextOf path a)) (containers a) := by
    intro l
    cases express : (contextOf path a).express with
    | true =>
      have same : naming (contextOf path a) = namedFinding (contextOf path a) := by
        funext c
        rw [naming, if_pos express]
      rw [same, ← Ledger.matchNames_findings]
      rfl
    | false =>
      have nothing : l.named (naming (contextOf path a)) (containers a) = [] := by
        refine List.flatMap_eq_nil_iff.mpr fun c _ => ?_
        rw [naming, express]
        split <;> rfl
      rw [nothing, List.append_nil]
      rfl
  rw [detectFile, beforeNames, bind_assoc]
  refine congrArg _ (funext fun judged => congrArg _ (funext fun taken => ?_))
  exact congrArg Except.ok (last taken)

theorem settled_beforeNames (apart : ClassesApart a) :
    Returns (.among fun _ => True) (beforeNames path a) (Ledger.Settled look (containers a)) := by
  have start : ({} : Ledger Json Endpoint).Sure look (containers a) := ⟨nofun, nofun⟩
  have judged : ∀ c value, Returns (.among fun _ => True) (judge (contextOf path a) c value)
      (Verdict.Adds (Specific look path c.name) True) :=
    fun c value => (judge_returns _ c value).weaken (fun _ _ => trivial)
      fun _ adds => adds.imp fun _ found => found.1
  have taken : ∀ c value, Returns (.among fun _ => True)
      (genericFinding (contextOf path a) c value) fun o => ∀ f ∈ o, Generic look path c.name f :=
    fun c value => (genericFinding_returns _ c value).weaken (fun _ _ => trivial)
      fun _ found f made => (found f made).1
  refine (start.judgeSignals judged _).bind fun l sure => ?_
  have structured : ∀ c, ∀ f ∈ structuralFindings (contextOf path a) c,
      Specific look path c.name f :=
    fun c f mem => (specific_structuralFindings mem).1
  have matched := sure.matchStructure structured (containers a)
  refine (matched.note ?_ ?_).settled.takePending taken
  · intro f mem c there container
    obtain ⟨klass, known, specific, -⟩ := specific_classDefaults mem
    have same := specific.container.symm.trans container
    exact apart c there klass known (Option.some.inj same).symm
  · intro f mem
    obtain ⟨klass, -, specific, -⟩ := specific_classDefaults mem
    exact specific.framework

theorem exclusive_of_detectFile {found : List Endpoint} (apart : ClassesApart a)
    (detected : detectFile path a = .ok found) :
    ∃ l, beforeNames path a = .ok l ∧
      Exclusive look (containers a) found l (naming (contextOf path a)) := by
  rw [detectFile_eq_bind] at detected
  obtain ⟨l, before, named⟩ := Outcome.exists_of_bind_ok detected
  have settled : l.Settled look (containers a) := (settled_beforeNames apart).of_ok before
  refine ⟨l, before, ?_⟩
  rw [← Except.ok.inj named]
  refine settled.exclusive "Express" fun c f made => ?_
  obtain ⟨-, made⟩ := Option.ite_none_right_eq_some.mp made
  exact ⟨(specific_namedFinding made).1.container, framework_namedFinding made⟩

end Route

end

/-! ## What is found stays found -/

section

variable {σ α β γ : Type}

/-- A property that one member brings about and all others keep holds in the end. -/
theorem foldl_of_mem {step : β → γ → β} {motive : β → Prop} {members : List γ} {a : γ}
    (mem : a ∈ members) (brings : ∀ b, motive (step b a))
    (keeps : ∀ b c, motive b → motive (step b c)) (start : β) :
    motive (members.foldl step start) := by
  obtain ⟨before, after, rfl⟩ := List.append_of_mem mem
  rw [List.foldl_append, List.foldl_cons]
  exact List.foldlRecOn after step (brings _) fun b h c _ => keeps b c h

namespace Ledger

variable {l : Ledger σ α} {cs : List Container} {f : α}

theorem mem_enter {c : Container} {s : σ} {verdict : Verdict α} (mem : f ∈ l.findings) :
    f ∈ (l.enter c s verdict).findings := by
  cases verdict with
  | found first more => exact mem_claim.mpr (.inl mem)
  | undecided => exact mem
  | dismissed => exact mem

theorem judgeSignals_eq (signals : Container → List σ) (judge : Container → σ → Verdict α) :
    Id.run (l.judgeSignals signals (fun c s => pure (judge c s)) cs) =
      cs.foldl (fun l c => (signals c).foldl (fun l s => l.enter c s (judge c s)) l) l := by
  simp [judgeSignals]

/-- What a signal of a container stands for is found. -/
theorem mem_judgeSignals {signals : Container → List σ} {judge : Container → σ → Verdict α}
    {c : Container} {s : σ} {first : α} {more : List α} (there : c ∈ cs) (signal : s ∈ signals c)
    (judged : judge c s = .found first more) (mem : f ∈ first :: more) :
    f ∈ (Id.run (l.judgeSignals signals (fun c s => pure (judge c s)) cs)).findings := by
  have stays : ∀ (l : Ledger σ α) (d : Container), f ∈ l.findings →
      f ∈ ((signals d).foldl (fun l s => l.enter d s (judge d s)) l).findings :=
    fun l d mem => List.foldlRecOn (motive := fun l : Ledger σ α => f ∈ l.findings) (signals d) _
      mem fun l mem s _ => mem_enter mem
  rw [judgeSignals_eq]
  refine foldl_of_mem there (fun l => ?_) stays l
  have brings : ∀ l : Ledger σ α, f ∈ (l.enter c s (judge c s)).findings := by
    intro l
    rw [judged]
    exact mem_claim.mpr (.inr mem)
  have keeps : ∀ (l : Ledger σ α) (t : σ), f ∈ l.findings →
      f ∈ (l.enter c t (judge c t)).findings := fun l t mem => mem_enter mem
  exact foldl_of_mem (motive := fun l : Ledger σ α => f ∈ l.findings) signal brings keeps l

theorem mem_matchStructure {structural : Container → List α} (mem : f ∈ l.findings) :
    f ∈ (l.matchStructure structural cs).findings := by
  rw [matchStructure]
  refine List.foldlRecOn (motive := fun l : Ledger σ α => f ∈ l.findings) cs _ mem
    fun l mem c _ => ?_
  split
  · exact mem
  · exact mem_claim.mpr (.inl mem)

theorem mem_takePending {generic : Container → σ → Option α} (mem : f ∈ l.findings) :
    f ∈ (Id.run (l.takePending (fun c s => pure (generic c s)) cs)).findings := by
  refine (returns_foldlM mem fun c _ l mem => ?_ : Returns .never _ (f ∈ Ledger.findings ·)).run
  split
  · exact returns_pure mem
  · refine returns_foldlM mem fun s _ l mem => ?_
    exact returns_pure (mem_claim.mpr (.inl mem))

/-- What a signal stands for is found before names are looked at. -/
theorem mem_beforeNames {signals : Container → List σ} {judge : Container → σ → Verdict α}
    {structural : Container → List α} {generic : Container → σ → Option α}
    {c : Container} {s : σ} {first : α} {more : List α} (there : c ∈ cs) (signal : s ∈ signals c)
    (judged : judge c s = .found first more) (mem : f ∈ first :: more) :
    f ∈ (l.beforeNames signals judge structural generic cs).findings :=
  mem_takePending (mem_matchStructure (mem_judgeSignals there signal judged mem))

end Ledger

variable {path : String} {a : FileAnalysis} {c : Container} {tag : String}

theorem State.mem_detectFile {f : StateChange} (there : c ∈ containers a)
    (signal : tag ∈ c.info.stateTags) (judged : State.judge (State.contextOf path a) c tag =
      .found f []) : f ∈ State.detectFile path a := by
  have early : f ∈ (State.beforeNames path a).findings :=
    Ledger.mem_beforeNames there signal judged (List.mem_singleton_self f)
  have parts : State.detectFile path a = (State.beforeNames path a).findings ++
      (State.beforeNames path a).named (State.namedChange? (State.contextOf path a))
        (containers a) :=
    Ledger.matchNames_findings _ _
  rw [parts]
  exact List.mem_append_left _ early

theorem Event.mem_detectFile {f : EventRecord} (there : c ∈ containers a)
    (signal : tag ∈ c.info.eventTags) (judged : Event.judge (Event.contextOf path a) c tag =
      .found f []) : f ∈ Event.detectFile path a := by
  have early : f ∈ (Event.beforeNames path a).findings :=
    Ledger.mem_beforeNames there signal judged (List.mem_singleton_self f)
  rw [(Event.exclusive_detectFile path a).parts]
  exact List.mem_append_left _ early

end

/-! ## A framework or none -/

/-- In a file whose classes have names of their own, the routes, changes of state and
events in each container all belong to a framework or none of them does, and names tell
something only of containers in which no signal and no structure did. -/
theorem specific_or_generic (path : String) {a : FileAnalysis} (apart : ClassesApart a) :
    Exclusive State.look (containers a) (State.detectFile path a) (State.beforeNames path a)
        (State.namedChange? (State.contextOf path a)) ∧
      Exclusive Event.look (containers a) (Event.detectFile path a) (Event.beforeNames path a)
        (Event.namedRecord? (Event.contextOf path a)) ∧
      ∀ found, Route.detectFile path a = .ok found →
        ∃ l, Route.beforeNames path a = .ok l ∧
          Exclusive Route.look (containers a) found l (Route.naming (Route.contextOf path a)) :=
  ⟨State.exclusive_detectFile apart, Event.exclusive_detectFile path a,
    fun _ detected => Route.exclusive_of_detectFile apart detected⟩

/-- A script with two functions of one name, of which only one has a tag that React knows. -/
def twoHandlers : FileAnalysis where
  path := "a.js"
  language := "javascript"
  imports := [("react", ["useState"])]
  functions := [("handleState(a)", { line := 1, stateTags := ["createThing("] }),
    ("handleState(b)", { line := 5, stateTags := ["setState("], eventTags := ["odd"] })]
  classes := [("Store", { line := 9 })]

/-- The tag that React knows claims both functions. -/
example : (State.detectFile "a.js" twoHandlers).map State.look.framework = ["React"] := by
  decide +kernel

theorem specific_or_generic_of_twoHandlers :
    ClassesApart twoHandlers ∧
      Exclusive State.look (containers twoHandlers) (State.detectFile "a.js" twoHandlers)
        (State.beforeNames "a.js" twoHandlers)
        (State.namedChange? (State.contextOf "a.js" twoHandlers)) ∧
      Exclusive Event.look (containers twoHandlers) (Event.detectFile "a.js" twoHandlers)
        (Event.beforeNames "a.js" twoHandlers)
        (Event.namedRecord? (Event.contextOf "a.js" twoHandlers)) ∧
      ∀ found, Route.detectFile "a.js" twoHandlers = .ok found →
        ∃ l, Route.beforeNames "a.js" twoHandlers = .ok l ∧
          Exclusive Route.look (containers twoHandlers) found l
            (Route.naming (Route.contextOf "a.js" twoHandlers)) := by
  have apart : ClassesApart twoHandlers := by decide +kernel
  exact ⟨apart, specific_or_generic "a.js" apart⟩

end RepoSurvey.Detection
