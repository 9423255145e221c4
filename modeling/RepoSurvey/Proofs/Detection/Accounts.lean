import RepoSurvey.Proofs.Detection.Tagged
import RepoSurvey.Proofs.Detection.VagueHints

/-!
# Every signal counts once

What is found in a file accounts for its signals: none counts twice.

Where containers have different names, a container shows the first of four things that is not
empty: what its known tags stand for, what it is, what its other tags mean, and what its name
suggests (`TagDetector.Lawful.filter_found`). So each occurrence of a known tag is found once, and
one of any other tag at most once, as a finding of no framework where nothing surer is found.

Together with the account of route hints, for which containers may share a name, this says that no
signal counts twice (`signals_count_once`).
-/

namespace RepoSurvey.Detection

variable {σ α : Type}

/-! ## Containers with names of their own -/

section

variable {cs : List Container} {c : Container}

theorem withKey_name (distinct : (cs.map Container.name).Nodup) (there : c ∈ cs) :
    withKey Container.name cs c.name = [c] :=
  withKey_eq_singleton distinct there

theorem eq_of_name {d : Container} (distinct : (cs.map Container.name).Nodup) (there : c ∈ cs)
    (known : d ∈ cs) (same : d.name = c.name) : d = c := by
  have mem : d ∈ withKey Container.name cs c.name := mem_withKey.mpr ⟨known, same⟩
  rw [withKey_name distinct there] at mem
  exact List.mem_singleton.mp mem

/-- Of findings that name their containers those in a container that is alone stay. -/
theorem filter_flatMap_alone (alone : withKey Container.name cs c.name = [c]) (look : Look α)
    {piece : Container → List α} (own : ∀ d, ∀ f ∈ piece d, look.container f = some d.name) :
    (cs.flatMap piece).filter (fun f => look.container f = some c.name) = piece c := by
  have each : ∀ d, (piece d).filter (fun f => look.container f = some c.name) =
      if d.name = c.name then piece d else [] := by
    intro d
    split
    next same =>
      exact List.filter_eq_self.mpr fun f mem => decide_eq_true ((own d f mem).trans (same ▸ rfl))
    next other =>
      refine List.filter_eq_nil_iff.mpr fun f mem kept => other ?_
      exact Option.some.inj ((own d f mem).symm.trans (of_decide_eq_true kept))
  have single : (cs.filter fun d => d.name = c.name) = [c] := alone
  rw [List.filter_flatMap]
  simp only [each]
  rw [flatMap_ite, single, List.flatMap_singleton]

namespace Ledger

variable {l : Ledger σ α} {piece : Container → List α}
  {step : Ledger σ α → Container → Ledger σ α}

/-- Among containers with different names a round takes each that is unclaimed. -/
theorem Claiming.flatMap_takers (h : Claiming piece step)
    (distinct : (cs.map Container.name).Nodup) : (takers piece step l cs).flatMap piece =
      cs.flatMap fun c => if l.isClaimed c then [] else piece c := by
  induction cs generalizing l with
  | nil => rfl
  | cons c rest ih =>
    obtain ⟨new, others⟩ := List.nodup_cons.mp distinct
    have same : ∀ d ∈ rest, (step l c).isClaimed d = l.isClaimed d := by
      intro d later
      have other : c.name ≠ d.name := fun named => new (List.mem_map.mpr ⟨d, later, named.symm⟩)
      exact (h.mem_takers_cons_of_ne other []).2
    have later : (takers piece step (step l c) rest).flatMap piece =
        rest.flatMap fun c => if l.isClaimed c then [] else piece c := by
      rw [ih others]
      exact List.flatMap_congr fun d mem => by rw [same d mem]
    rw [takers, List.flatMap_cons]
    cases claimed : l.isClaimed c with
    | true => exact later
    | false =>
      rw [Bool.false_or]
      split
      next empty =>
        rw [later, List.isEmpty_iff.mp empty]
        rfl
      next => rw [List.flatMap_cons, later]; rfl

/-- A round finds nothing in a container that is claimed. -/
theorem Claiming.filter_takers (h : Claiming piece step) (claimed : l.isClaimed c = true)
    (look : Look α) (own : ∀ d, ∀ f ∈ piece d, look.container f = some d.name) :
    ((takers piece step l cs).flatMap piece).filter
      (fun f => look.container f = some c.name) = [] := by
  refine List.filter_eq_nil_iff.mpr fun f mem kept => ?_
  obtain ⟨d, taken, found⟩ := List.mem_flatMap.mp mem
  have same : d.name = c.name :=
    Option.some.inj ((own d f found).symm.trans (of_decide_eq_true kept))
  exact h.not_mem_takers ((isClaimed_congr same).trans claimed) taken

theorem Claiming.isClaimed_of_distinct (h : Claiming piece step)
    (distinct : (cs.map Container.name).Nodup) (there : c ∈ cs) :
    (cs.foldl step l).isClaimed c = (l.isClaimed c || !(piece c).isEmpty) := by
  rw [Bool.eq_iff_iff, h.isClaimed_foldl_iff, Bool.or_eq_true, Bool.not_eq_true',
    List.isEmpty_eq_false_iff]
  refine or_congr_right ⟨?_, fun filled => ⟨c, there, rfl, filled⟩⟩
  rintro ⟨d, known, same, filled⟩
  rwa [← eq_of_name distinct there known same]

theorem asideFor_matched_of_distinct {signals : Container → List σ}
    {judge : Container → σ → Verdict α} {structural : Container → List α} (fresh : l.pending = [])
    (distinct : (cs.map Container.name).Nodup) (there : c ∈ cs) :
    (l.matched signals judge structural cs).asideFor c.name =
      (signals c).filter fun s => (judge c s).isUndecided := by
  have parts : undecided judge (occurrences signals cs) =
      occurrences (fun c => (signals c).filter fun s => (judge c s).isUndecided) cs := by
    rw [undecided, occurrences, List.filter_flatMap]
    simp only [List.filter_map]
    rfl
  have owned : ∀ d ∈ cs, ∀ o ∈ ((signals d).filter fun s => (judge d s).isUndecided).map
      fun s => (d, s), o.1.name = d.name := by
    intro d _ o mem
    obtain ⟨s, -, rfl⟩ := List.mem_map.mp mem
    rfl
  rw [asideFor_matched fresh, parts, occurrences, withKey_flatMap owned,
    withKey_name distinct there, List.flatMap_singleton, List.map_map]
  exact List.map_id _

end Ledger

end

/-! ## What is found in a container -/

/-- Findings that count only where nothing was found earlier. -/
def ifEmpty (earlier found : List α) : List α :=
  if earlier.isEmpty then found else []

theorem mem_ifEmpty {earlier found : List α} {f : α} (mem : f ∈ ifEmpty earlier found) :
    f ∈ found := by
  rw [ifEmpty] at mem
  split at mem
  · exact mem
  · cases mem

theorem ifEmpty_of_ne_nil {earlier : List α} (filled : earlier ≠ []) (found : List α) :
    ifEmpty earlier found = [] := by
  rw [ifEmpty, if_neg fun empty => filled (List.isEmpty_iff.mp empty)]

theorem ite_eq_ifEmpty {claimed : Bool} {earlier : List α} (same : claimed = !earlier.isEmpty)
    (found : List α) : (if claimed then [] else found) = ifEmpty earlier found := by
  rw [same, ifEmpty]
  cases earlier.isEmpty <;> rfl

theorem not_isEmpty_append (earlier found : List α) :
    (!(earlier ++ found).isEmpty) = (!earlier.isEmpty || !found.isEmpty) := by
  cases earlier <;> rfl

namespace TagDetector

variable {d : TagDetector α} {cs : List Container} {c : Container} {tag : String} {f : α}

/-- What the known tags of a container stand for. -/
def ofKnown (d : TagDetector α) (c : Container) : List α :=
  (d.tags c).flatMap fun tag => (d.judge c tag).findings

/-- What a container is, unless it is the top level. -/
def ofKind (d : TagDetector α) (c : Container) : List α :=
  Ledger.structureOf d.structural c

/-- What the other tags of a container mean. -/
def ofOthers (d : TagDetector α) (c : Container) : List α :=
  ((d.tags c).filter fun tag => (d.judge c tag).isUndecided).filterMap (d.generic c)

/-- What the name of a container suggests, unless it is the top level. -/
def ofName (d : TagDetector α) (c : Container) : List α :=
  if c.isTopLevel then [] else (d.naming c).toList

/-- What is found in a container with a name of its own: the first of four things that is not
empty. -/
def account (d : TagDetector α) (c : Container) : List α :=
  d.ofKnown c ++ (ifEmpty (d.ofKnown c) (d.ofKind c) ++
    (ifEmpty (d.ofKnown c ++ d.ofKind c) (d.ofOthers c) ++
      ifEmpty (d.ofKnown c ++ d.ofKind c ++ d.ofOthers c) (d.ofName c)))

/-- The ledger after the first round. -/
def judged (d : TagDetector α) (cs : List Container) : Ledger String α :=
  ({ findings := d.classes } : Ledger String α).judgeAll d.judge (Ledger.occurrences d.tags cs)

/-- The ledger after the second round. -/
def matched (d : TagDetector α) (cs : List Container) : Ledger String α :=
  ({ findings := d.classes } : Ledger String α).matched d.tags d.judge d.structural cs

section

variable (distinct : (cs.map Container.name).Nodup) (there : c ∈ cs)

include distinct there

theorem isClaimed_judged : (d.judged cs).isClaimed c = !(d.ofKnown c).isEmpty := by
  rw [Bool.eq_iff_iff, judged, Ledger.isClaimed_judgeAll_iff, Bool.not_eq_true',
    List.isEmpty_eq_false_iff, ofKnown, ne_eq, List.flatMap_eq_nil_iff]
  simp only [Ledger.mem_occurrences, Prod.exists, not_forall, exists_prop]
  constructor
  · rintro (before | ⟨e, tag, ⟨known, carries⟩, same, filled⟩)
    · cases before
    · obtain rfl := eq_of_name distinct there known same
      exact ⟨tag, carries, filled⟩
  · rintro ⟨tag, carries, filled⟩
    exact .inr ⟨c, tag, ⟨there, carries⟩, rfl, filled⟩

theorem isClaimed_matched :
    (d.matched cs).isClaimed c = !(d.ofKnown c ++ d.ofKind c).isEmpty := by
  have first := isClaimed_judged (d := d) distinct there
  rw [judged] at first
  rw [matched, Ledger.matched, Ledger.matchStructure_eq,
    (Ledger.claiming_matchIn d.structural).isClaimed_of_distinct distinct there, first,
    not_isEmpty_append]
  rfl

theorem takenIn_matched :
    Ledger.takenIn d.generic (d.matched cs).asideFor c = d.ofOthers c := by
  rw [Ledger.takenIn, matched, Ledger.asideFor_matched_of_distinct rfl distinct there, ofOthers]

theorem isClaimed_early :
    (d.early cs).isClaimed c = !(d.ofKnown c ++ d.ofKind c ++ d.ofOthers c).isEmpty := by
  have second := isClaimed_matched (d := d) distinct there
  have taken := takenIn_matched (d := d) distinct there
  rw [matched] at second taken
  rw [early, Ledger.beforeNames_eq,
    (Ledger.claiming_takeIn d.generic _).isClaimed_of_distinct distinct there, second, taken,
    not_isEmpty_append _ (d.ofOthers c)]

end

/-- What the rounds find, one after the other. -/
theorem found_eq (distinct : (cs.map Container.name).Nodup) : d.found cs = d.classes ++
    (cs.flatMap d.ofKnown ++ (cs.flatMap (fun c => ifEmpty (d.ofKnown c) (d.ofKind c)) ++
      (cs.flatMap (fun c => ifEmpty (d.ofKnown c ++ d.ofKind c) (d.ofOthers c)) ++
        cs.flatMap fun c =>
          ifEmpty (d.ofKnown c ++ d.ofKind c ++ d.ofOthers c) (d.ofName c)))) := by
  have first : (d.judged cs).findings = d.classes ++ cs.flatMap d.ofKnown := by
    rw [judged, Ledger.findings_judgeAll, Ledger.occurrences, List.flatMap_assoc]
    simp only [List.flatMap_map]
    rfl
  have second : (d.matched cs).findings = (d.judged cs).findings ++
      cs.flatMap fun c => ifEmpty (d.ofKnown c) (d.ofKind c) := by
    have claims := Ledger.claiming_matchIn (σ := String) d.structural
    have start : d.matched cs = cs.foldl (Ledger.matchIn d.structural) (d.judged cs) := rfl
    rw [start, claims.findings_foldl, claims.flatMap_takers distinct]
    refine congrArg _ (List.flatMap_congr fun c there => ?_)
    exact ite_eq_ifEmpty (isClaimed_judged distinct there) (d.ofKind c)
  have third : (d.early cs).findings = (d.matched cs).findings ++
      cs.flatMap fun c => ifEmpty (d.ofKnown c ++ d.ofKind c) (d.ofOthers c) := by
    have claims := Ledger.claiming_takeIn d.generic (d.matched cs).asideFor
    have start : d.early cs = cs.foldl (Ledger.takeIn d.generic (d.matched cs).asideFor)
        (d.matched cs) := Ledger.beforeNames_eq
    rw [start, claims.findings_foldl, claims.flatMap_takers distinct]
    refine congrArg _ (List.flatMap_congr fun c there => ?_)
    rw [takenIn_matched distinct there]
    exact ite_eq_ifEmpty (isClaimed_matched distinct there) (d.ofOthers c)
  have last : (d.early cs).named d.naming cs = cs.flatMap fun c =>
      ifEmpty (d.ofKnown c ++ d.ofKind c ++ d.ofOthers c) (d.ofName c) := by
    refine List.flatMap_congr fun c there => ?_
    rw [← ite_eq_ifEmpty (isClaimed_early distinct there), ofName]
    cases (d.early cs).isClaimed c <;> cases c.isTopLevel <;> rfl
  rw [found, third, second, first, last]
  simp only [List.append_assoc]

section

variable (h : d.Lawful)

include h

theorem Lawful.ofKnown (mem : f ∈ d.ofKnown c) :
    d.look.container f = some c.name ∧ d.look.framework f ≠ noFramework := by
  obtain ⟨tag, -, judged⟩ := List.mem_flatMap.mp mem
  rcases h.judged c tag with ⟨-, undecided⟩ | ⟨-, g, decided, made, framework, -⟩
  · rw [undecided] at judged
    cases judged
  · rw [decided] at judged
    obtain rfl := List.mem_singleton.mp judged
    exact ⟨made.container, framework⟩

theorem Lawful.ofKind (mem : f ∈ d.ofKind c) :
    d.look.container f = some c.name ∧ d.look.framework f ≠ noFramework := by
  rw [TagDetector.ofKind, Ledger.structureOf] at mem
  split at mem
  · cases mem
  · exact h.structural c f mem

theorem Lawful.ofOthers (mem : f ∈ d.ofOthers c) :
    d.look.container f = some c.name ∧ d.look.framework f = noFramework := by
  obtain ⟨tag, -, means⟩ := List.mem_filterMap.mp mem
  obtain ⟨made, framework, -⟩ := h.generic c tag f means
  exact ⟨made.container, framework⟩

theorem Lawful.ofName (mem : f ∈ d.ofName c) :
    d.look.container f = some c.name ∧ d.naming c = some f := by
  rw [TagDetector.ofName] at mem
  split at mem
  · cases mem
  · have named := Option.mem_toList.mp mem
    exact ⟨(h.naming c f named).1, named⟩

/-- In a container with a name of its own that is found which its account holds, besides what a
class of the same name is. -/
theorem Lawful.filter_found (distinct : (cs.map Container.name).Nodup) (there : c ∈ cs) :
    (d.found cs).filter (fun f => d.look.container f = some c.name) =
      d.classes.filter (fun f => d.look.container f = some c.name) ++ d.account c := by
  have only {piece : Container → List α}
      (own : ∀ e, ∀ f ∈ piece e, d.look.container f = some e.name) :=
    filter_flatMap_alone (withKey_name distinct there) d.look own
  rw [found_eq distinct, account]
  simp only [List.filter_append]
  rw [only fun c f mem => (h.ofKnown mem).1, only fun c f mem => (h.ofKind (mem_ifEmpty mem)).1,
    only fun c f mem => (h.ofOthers (mem_ifEmpty mem)).1,
    only fun c f mem => (h.ofName (mem_ifEmpty mem)).1]

end

/-! ## Tags and their findings -/

/-- The findings in a container that name a tag as their source. -/
def foundOf (d : TagDetector α) (found : List α) (c : Container) (tag : String) : List α :=
  found.filter fun f => d.look.container f = some c.name ∧ d.source f = some tag

/-- Those that belong to no framework. -/
def vagueOf (d : TagDetector α) (found : List α) (c : Container) (tag : String) : List α :=
  (d.foundOf found c tag).filter fun f => d.look.framework f = noFramework

/-- A known tag or what the container is shows in the container. -/
def IsSure (d : TagDetector α) (c : Container) : Prop :=
  (∃ tag ∈ d.tags c, d.known tag = true) ∨ (c.isTopLevel = false ∧ d.structural c ≠ [])

/-- The findings of a file account for the tags of a container. -/
structure Accounts (d : TagDetector α) (found : List α) (c : Container) : Prop where
  /-- Each occurrence of a known tag is found once. -/
  known : ∀ tag ∈ d.tags c, d.known tag = true →
    ∃ f, d.judge c tag = .found f [] ∧
      d.foundOf found c tag = List.replicate ((d.tags c).count tag) f
  /-- No other tag is found where something surer is. -/
  sure : d.IsSure c → ∀ tag ∈ d.tags c, d.known tag = false → d.vagueOf found c tag = []
  /-- Elsewhere each occurrence of a tag that means something is found once. -/
  means : ¬ d.IsSure c → ∀ tag ∈ d.tags c, d.known tag = false → ∀ f, d.generic c tag = some f →
    d.vagueOf found c tag = List.replicate ((d.tags c).count tag) f
  /-- A tag that means nothing is not found, though what the name of the container suggests may. -/
  meaningless : ∀ tag ∈ d.tags c, d.known tag = false → d.generic c tag = none →
    ∀ f ∈ d.vagueOf found c tag, d.naming c = some f

/-- Of findings that name their tags those of one tag stay, once for each occurrence. -/
theorem filter_flatMap_of {source : α → Option String} {piece : String → List α}
    (own : ∀ tag, ∀ f ∈ piece tag, source f = some tag) (tags : List String) (tag : String) :
    (tags.flatMap piece).filter (fun f => source f = some tag) =
      (List.replicate (tags.count tag) (piece tag)).flatten := by
  induction tags with
  | nil => rfl
  | cons t rest ih =>
    rw [List.flatMap_cons, List.filter_append, ih]
    by_cases same : t = tag
    · subst same
      have whole : (piece t).filter (fun f => source f = some t) = piece t :=
        List.filter_eq_self.mpr fun f mem => decide_eq_true (own t f mem)
      rw [whole, List.count_cons_self, List.replicate_succ, List.flatten_cons]
    · have none : (piece t).filter (fun f => source f = some tag) = [] := by
        refine List.filter_eq_nil_iff.mpr fun f mem kept => same ?_
        exact Option.some.inj ((own t f mem).symm.trans (of_decide_eq_true kept))
      rw [none, List.nil_append, List.count_cons_of_ne same]

section

variable (h : d.Lawful)

include h

theorem Lawful.isUndecided_iff : (d.judge c tag).isUndecided = true ↔ d.known tag = false := by
  rcases h.judged c tag with ⟨unknown, undecided⟩ | ⟨known, f, decided, -⟩
  · rw [undecided, unknown]
    exact iff_of_true rfl rfl
  · rw [decided, known]
    exact iff_of_false Bool.false_ne_true Bool.noConfusion

theorem Lawful.isSure_iff : d.IsSure c ↔ d.ofKnown c ++ d.ofKind c ≠ [] := by
  have known : (∃ tag ∈ d.tags c, d.known tag = true) ↔ d.ofKnown c ≠ [] := by
    rw [TagDetector.ofKnown, ne_eq, List.flatMap_eq_nil_iff]
    simp only [not_forall, exists_prop]
    refine exists_congr fun tag => and_congr_right fun _ => ?_
    rcases h.judged c tag with ⟨unknown, undecided⟩ | ⟨known, f, decided, -⟩
    · rw [undecided, unknown]
      exact iff_of_false Bool.false_ne_true fun filled => filled rfl
    · rw [decided, known]
      exact iff_of_true rfl (List.cons_ne_nil f [])
  have kind : (c.isTopLevel = false ∧ d.structural c ≠ []) ↔ d.ofKind c ≠ [] := by
    rw [TagDetector.ofKind, Ledger.structureOf]
    cases c.isTopLevel with
    | true => exact iff_of_false (fun top => Bool.false_ne_true top.1.symm) fun filled => filled rfl
    | false => exact and_iff_right rfl
  rw [IsSure, known, kind, ne_eq, ne_eq, ne_eq, List.append_eq_nil_iff, not_and_or]

/-- The findings of a tag are among the account of its container, and those of a class. -/
theorem Lawful.foundOf_eq (distinct : (cs.map Container.name).Nodup) (there : c ∈ cs)
    (tag : String) : d.foundOf (d.found cs) c tag =
      d.foundOf d.classes c tag ++ (d.account c).filter fun f => d.source f = some tag := by
  have split_ : ∀ found, d.foundOf found c tag =
      (found.filter fun f => d.look.container f = some c.name).filter
        fun f => d.source f = some tag := by
    intro found
    rw [foundOf, List.filter_filter]
    simp only [Bool.decide_and, Bool.and_comm]
  rw [split_, split_, h.filter_found distinct there, List.filter_append]

/-- In an account belongs to no framework what tags mean, or what the name suggests. -/
theorem Lawful.filter_account (c : Container) :
    (d.account c).filter (fun f => d.look.framework f = noFramework) =
      ifEmpty (d.ofKnown c ++ d.ofKind c) (d.ofOthers c) ++
        ifEmpty (d.ofKnown c ++ d.ofKind c ++ d.ofOthers c) (d.ofName c) := by
  have none {found : List α} (specific : ∀ f ∈ found, d.look.framework f ≠ noFramework) :
      found.filter (fun f => d.look.framework f = noFramework) = [] :=
    List.filter_eq_nil_iff.mpr fun f mem vague => specific f mem (of_decide_eq_true vague)
  have all {found : List α} (vague : ∀ f ∈ found, d.look.framework f = noFramework) :
      found.filter (fun f => d.look.framework f = noFramework) = found :=
    List.filter_eq_self.mpr fun f mem => decide_eq_true (vague f mem)
  rw [account, List.filter_append, List.filter_append, List.filter_append,
    none fun f mem => (h.ofKnown mem).2, none fun f mem => (h.ofKind (mem_ifEmpty mem)).2,
    all fun f mem => (h.ofOthers (mem_ifEmpty mem)).2,
    all fun f mem => (h.naming c f (h.ofName (mem_ifEmpty mem)).2).2]
  rfl

theorem Lawful.vagueOf_eq (distinct : (cs.map Container.name).Nodup) (there : c ∈ cs)
    (tag : String) : d.vagueOf (d.found cs) c tag =
      (ifEmpty (d.ofKnown c ++ d.ofKind c) (d.ofOthers c) ++
        ifEmpty (d.ofKnown c ++ d.ofKind c ++ d.ofOthers c) (d.ofName c)).filter
          fun f => d.source f = some tag := by
  have classes : (d.foundOf d.classes c tag).filter (fun f => d.look.framework f = noFramework) =
      [] := by
    refine List.filter_eq_nil_iff.mpr fun f mem vague => ?_
    exact (h.classes f (List.mem_of_mem_filter mem)).1 (of_decide_eq_true vague)
  rw [vagueOf, h.foundOf_eq distinct there, List.filter_append, classes, List.nil_append,
    List.filter_comm, h.filter_account]

/-- What a tag of no library means is found once for each of its occurrences. -/
theorem Lawful.filter_ofOthers (unknown : d.known tag = false) :
    (d.ofOthers c).filter (fun f => d.source f = some tag) =
      (List.replicate ((d.tags c).count tag) (d.generic c tag).toList).flatten := by
  have own : ∀ t, ∀ f ∈ (d.generic c t).toList, d.source f = some t :=
    fun t f mem => (h.generic c t f (Option.mem_toList.mp mem)).1.source
  have all : ((d.tags c).filter fun tag => (d.judge c tag).isUndecided).count tag =
      (d.tags c).count tag :=
    List.count_filter (h.isUndecided_iff.mpr unknown)
  rw [TagDetector.ofOthers, List.filterMap_eq_flatMap_toList, filter_flatMap_of own, all]

/-- A known tag is found once for each of its occurrences. -/
theorem Lawful.filter_ofKnown (decided : d.judge c tag = .found f []) :
    (d.ofKnown c).filter (fun f => d.source f = some tag) =
      List.replicate ((d.tags c).count tag) f := by
  have own : ∀ t, ∀ f ∈ (d.judge c t).findings, d.source f = some t := by
    intro t g judged
    rcases h.judged c t with ⟨-, undecided⟩ | ⟨-, f, decided, made, -⟩
    · rw [undecided] at judged
      cases judged
    · rw [decided] at judged
      obtain rfl := List.mem_singleton.mp judged
      exact made.source
  rw [TagDetector.ofKnown, filter_flatMap_of own, decided]
  exact List.flatten_replicate_singleton

theorem Lawful.accounts (distinct : (cs.map Container.name).Nodup) (there : c ∈ cs) :
    d.Accounts (d.found cs) c where
  known := by
    intro tag carries known
    rcases h.judged c tag with ⟨unknown, -⟩ | ⟨-, f, decided, made, -⟩
    · rw [known] at unknown
      cases unknown
    have filled : d.ofKnown c ≠ [] := by
      have judged : f ∈ (d.judge c tag).findings := decided ▸ List.mem_singleton_self f
      exact List.ne_nil_of_mem (List.mem_flatMap.mpr ⟨tag, carries, judged⟩)
    have none : d.foundOf d.classes c tag = [] := by
      refine List.filter_eq_nil_iff.mpr fun f mem kept => ?_
      exact (h.classes f mem).2 tag known (of_decide_eq_true kept).2
    have only : d.account c = d.ofKnown c := by
      have filled' := List.append_ne_nil_of_left_ne_nil filled (d.ofKind c)
      rw [account, ifEmpty_of_ne_nil filled, ifEmpty_of_ne_nil filled',
        ifEmpty_of_ne_nil (List.append_ne_nil_of_left_ne_nil filled' _)]
      exact List.append_nil _
    refine ⟨f, decided, ?_⟩
    rw [h.foundOf_eq distinct there, none, only, h.filter_ofKnown decided]
    rfl
  sure := by
    intro sure tag carries unknown
    have filled := h.isSure_iff.mp sure
    rw [h.vagueOf_eq distinct there, ifEmpty_of_ne_nil filled,
      ifEmpty_of_ne_nil (List.append_ne_nil_of_left_ne_nil filled _)]
    rfl
  means := by
    intro unsure tag carries unknown f means
    have empty : d.ofKnown c ++ d.ofKind c = [] := not_not.mp (mt h.isSure_iff.mpr unsure)
    have filled : d.ofOthers c ≠ [] := by
      have open_ : tag ∈ (d.tags c).filter fun tag => (d.judge c tag).isUndecided :=
        List.mem_filter.mpr ⟨carries, h.isUndecided_iff.mpr unknown⟩
      exact List.ne_nil_of_mem (List.mem_filterMap.mpr ⟨tag, open_, means⟩)
    rw [h.vagueOf_eq distinct there, empty, List.nil_append, ifEmpty_of_ne_nil filled,
      List.append_nil]
    show (d.ofOthers c).filter _ = _
    rw [h.filter_ofOthers unknown, means]
    exact List.flatten_replicate_singleton
  meaningless := by
    intro tag carries unknown meaningless f mem
    rw [h.vagueOf_eq distinct there, List.mem_filter, List.mem_append, decide_eq_true_iff] at mem
    obtain ⟨other | named, source⟩ := mem
    · have here : f ∈ (d.ofOthers c).filter fun f => d.source f = some tag :=
        List.mem_filter.mpr ⟨mem_ifEmpty other, decide_eq_true source⟩
      rw [h.filter_ofOthers unknown, meaningless] at here
      simp at here
    · exact (h.ofName (mem_ifEmpty named)).2

end

end TagDetector

/-! ## Files -/

/-- No signal of a file counts twice: its routes account for its hints, and where its containers
have different names its events and changes of state account for its tags. To events every tag
means something. -/
theorem signals_count_once (path : String) (a : FileAnalysis) :
    (∀ found, Route.detectFile path a = .ok found →
      ∃ others vague, Route.Accounts path a found others vague) ∧
    (((containers a).map Container.name).Nodup → ∀ c ∈ containers a,
      (Event.detector path a).Accounts (Event.detectFile path a) c ∧
      (∀ tag, ((Event.detector path a).generic c tag).isSome = true) ∧
      (State.detector path a).Accounts (State.detectFile path a) c) := by
  refine ⟨fun found detected => Route.exists_accounts detected, fun distinct c there => ?_⟩
  rw [Event.detectFile_eq_found, State.detectFile_eq_found]
  exact ⟨(Event.lawful_detector path a).accounts distinct there, fun tag => rfl,
    (State.lawful_detector path a).accounts distinct there⟩

/-- A script with a route that Express knows, one that it lacks a verb for and one that belongs to
nothing, and with tags of which only one belongs to a library. -/
def mixedSignals : FileAnalysis where
  path := "a.js"
  language := "javascript"
  imports := [("express", []), ("react", ["useState"])]
  functions := [
    ("serve(app)", {
      line := 1
      routeHints := [.obj [("type", .str "express_route"), ("method", .str "get"),
        ("route", .str "/x")]]
      eventTags := ["onClick", "odd"]
      stateTags := ["setState(", "setThing("] }),
    ("rest(app)", {
      line := 5
      routeHints := [.obj [("type", .str "express_route"), ("route", .str "/y")],
        .obj [("type", .str "odd"), ("method", .str "post"), ("route", .str "/z")]]
      eventTags := ["odd", "odd"]
      stateTags := ["setThing("] })]

theorem signals_count_once_of_mixedSignals :
    (∃ found, Route.detectFile "a.js" mixedSignals = .ok found ∧
      ∃ others vague, Route.Accounts "a.js" mixedSignals found others vague) ∧
    ((containers mixedSignals).map Container.name).Nodup ∧
    ∃ c ∈ containers mixedSignals,
      (Event.detector "a.js" mixedSignals).Accounts (Event.detectFile "a.js" mixedSignals) c ∧
      (∀ tag, ((Event.detector "a.js" mixedSignals).generic c tag).isSome = true) ∧
      (State.detector "a.js" mixedSignals).Accounts (State.detectFile "a.js" mixedSignals) c := by
  have distinct : ((containers mixedSignals).map Container.name).Nodup := by decide +kernel
  have filled : containers mixedSignals ≠ [] := by decide +kernel
  obtain ⟨c, there⟩ := List.exists_mem_of_ne_nil _ filled
  have ends : (Route.detectFile "a.js" mixedSignals).toOption.isSome = true := by decide +kernel
  refine ⟨?_, distinct, c, there, (signals_count_once "a.js" mixedSignals).2 distinct c there⟩
  cases detected : Route.detectFile "a.js" mixedSignals with
  | error failure =>
    rw [detected] at ends
    cases ends
  | ok found => exact ⟨found, rfl, (signals_count_once "a.js" mixedSignals).1 found detected⟩

end RepoSurvey.Detection
