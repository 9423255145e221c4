import RepoSurvey.Proofs.Detection.Claims
import RepoSurvey.Proofs.Sorting
import RepoSurvey.Proofs.Tally

/-!
# What the rounds leave in the ledger

The first round judges every signal whatever was found before, so what it leaves
is read off the containers: the findings, the claims and the signals put aside are
those of each container, one after the other.

The rounds that follow pass over containers that are claimed. Of the containers
with one name only the first that has something to show is taken (`mem_takers`),
and the findings of the round are those of the containers that are taken
(`Claiming.findings_foldl`). So each signal put aside counts at most once, however
many containers share its name.
-/

namespace RepoSurvey.Detection

variable {σ α β γ : Type}

/-! ## Folds that add -/

/-- A list to which each step appends the piece of a member has all pieces in the end. -/
theorem view_foldl {step : β → γ → β} (view : β → List α) {piece : γ → List α}
    (adds : ∀ b c, view (step b c) = view b ++ piece c) (members : List γ) (start : β) :
    view (members.foldl step start) = view start ++ members.flatMap piece := by
  induction members generalizing start with
  | nil => exact (List.append_nil _).symm
  | cons c rest ih => rw [List.foldl_cons, ih, adds, List.flatMap_cons, List.append_assoc]

/-- A property that some members bring about and the others keep holds in the end when it held
before or some member brings it about. -/
theorem foldl_iff {step : β → γ → β} {motive : β → Prop} {brings : γ → Prop}
    (adds : ∀ b c, motive (step b c) ↔ motive b ∨ brings c) (members : List γ) (start : β) :
    motive (members.foldl step start) ↔ motive start ∨ ∃ c ∈ members, brings c := by
  induction members generalizing start with
  | nil => simp only [List.foldl_nil, List.not_mem_nil, false_and, exists_false, or_false]
  | cons c rest ih =>
    rw [List.foldl_cons, ih, adds, or_assoc]
    simp only [List.mem_cons, exists_eq_or_imp]

theorem flatMap_ite (p : γ → Prop) [DecidablePred p] (piece : γ → List α) (members : List γ) :
    (members.flatMap fun c => if p c then piece c else []) = (members.filter p).flatMap piece := by
  induction members with
  | nil => rfl
  | cons c rest ih =>
    rw [List.flatMap_cons, ih, List.filter_cons]
    by_cases kept : p c
    · rw [if_pos kept, if_pos (decide_eq_true kept), List.flatMap_cons]
    · rw [if_neg kept, if_neg fun h => kept (of_decide_eq_true h), List.nil_append]

/-! ## Single entries -/

/-- The findings of a verdict. -/
def Verdict.findings : Verdict α → List α
  | .found first more => first :: more
  | .undecided => []
  | .dismissed => []

/-- The verdict leaves the signal undecided. -/
def Verdict.isUndecided : Verdict α → Bool
  | .undecided => true
  | _ => false

namespace Ledger

variable {l : Ledger σ α} {cs : List Container} {c d : Container} {name : String}

/-- The signals put aside for the containers of a name. -/
def asideFor (l : Ledger σ α) (name : String) : List σ :=
  (l.pending.get? name).getD []

theorem findings_claim (added : List α) :
    (l.claim name added).findings = l.findings ++ added := by
  rw [claim]
  split
  next empty => rw [List.isEmpty_iff.mp empty, List.append_nil]
  next => rfl

theorem pending_claim (added : List α) : (l.claim name added).pending = l.pending := by
  rw [claim]
  split <;> rfl

theorem isClaimed_claim_iff (added : List α) :
    (l.claim name added).isClaimed d = true ↔
      l.isClaimed d = true ∨ (name = d.name ∧ added ≠ []) := by
  rw [claim]
  split
  next empty => simp only [List.isEmpty_iff.mp empty, ne_eq, not_true, and_false, or_false]
  next filled =>
    have some_added : added ≠ [] := fun none => filled (List.isEmpty_iff.mpr none)
    show (l.claimed ++ [name]).contains d.name = true ↔ l.claimed.contains d.name = true ∨ _
    rw [List.contains_iff_mem, List.contains_iff_mem, List.mem_append, List.mem_singleton,
      and_iff_left some_added, eq_comm]

theorem findings_enter (c : Container) (s : σ) (verdict : Verdict α) :
    (l.enter c s verdict).findings = l.findings ++ verdict.findings := by
  cases verdict with
  | found first more => exact findings_claim _
  | undecided => exact (List.append_nil _).symm
  | dismissed => exact (List.append_nil _).symm

theorem isClaimed_enter_iff {s : σ} {verdict : Verdict α} :
    (l.enter c s verdict).isClaimed d = true ↔
      l.isClaimed d = true ∨ (c.name = d.name ∧ verdict.findings ≠ []) := by
  cases verdict with
  | found first more => exact isClaimed_claim_iff _
  | undecided => exact (or_iff_left fun h => h.2 rfl).symm
  | dismissed => exact (or_iff_left fun h => h.2 rfl).symm

theorem asideFor_enter (c : Container) (s : σ) (verdict : Verdict α) (name : String) :
    (l.enter c s verdict).asideFor name =
      l.asideFor name ++ if verdict.isUndecided ∧ c.name = name then [s] else [] := by
  cases verdict with
  | found first more =>
    show ((l.claim c.name (first :: more)).pending.get? name).getD [] = _ ++ []
    rw [pending_claim, List.append_nil, asideFor]
  | undecided =>
    show ((l.pending.update c.name fun old => old.getD [] ++ [s]).get? name).getD [] = _
    rw [Table.get?_update]
    by_cases own : c.name = name
    · rw [if_pos own.symm, if_pos ⟨rfl, own⟩, ← own]
      rfl
    · rw [if_neg (Ne.symm own), if_neg fun h => own h.2, List.append_nil, asideFor]
  | dismissed => exact (List.append_nil _).symm

/-! ## The first round -/

/-- The signals of containers, each with its container. -/
def occurrences (signals : Container → List σ) (cs : List Container) : List (Container × σ) :=
  cs.flatMap fun c => (signals c).map fun s => (c, s)

/-- The first round, where judging cannot fail. -/
def judgeAll (l : Ledger σ α) (judge : Container → σ → Verdict α) (signs : List (Container × σ)) :
    Ledger σ α :=
  signs.foldl (fun l o => l.enter o.1 o.2 (judge o.1 o.2)) l

/-- The signals that are left undecided. -/
def undecided (judge : Container → σ → Verdict α) (signs : List (Container × σ)) :
    List (Container × σ) :=
  signs.filter fun o => (judge o.1 o.2).isUndecided

section

variable {signals : Container → List σ} {judge : Container → σ → Verdict α}
  {signs : List (Container × σ)}

theorem mem_occurrences {o : Container × σ} :
    o ∈ occurrences signals cs ↔ o.1 ∈ cs ∧ o.2 ∈ signals o.1 := by
  obtain ⟨c, s⟩ := o
  simp only [occurrences, List.mem_flatMap, List.mem_map, Prod.mk.injEq]
  constructor
  · rintro ⟨c', there, s', signal, rfl, rfl⟩
    exact ⟨there, signal⟩
  · intro ⟨there, signal⟩
    exact ⟨c, there, s, signal, rfl, rfl⟩

theorem run_judgeSignals : Id.run (l.judgeSignals signals (fun c s => pure (judge c s)) cs) =
    l.judgeAll judge (occurrences signals cs) := by
  rw [judgeSignals_eq, judgeAll, occurrences, List.foldl_flatMap]
  simp only [List.foldl_map]

theorem findings_judgeAll : (l.judgeAll judge signs).findings =
    l.findings ++ signs.flatMap fun o => (judge o.1 o.2).findings := by
  refine view_foldl findings (fun l o => ?_) signs l
  exact findings_enter o.1 o.2 (judge o.1 o.2)

theorem isClaimed_judgeAll_iff : (l.judgeAll judge signs).isClaimed d = true ↔
    l.isClaimed d = true ∨ ∃ o ∈ signs, o.1.name = d.name ∧ (judge o.1 o.2).findings ≠ [] := by
  refine foldl_iff (motive := fun l : Ledger σ α => l.isClaimed d = true) (fun l o => ?_) signs l
  exact isClaimed_enter_iff

theorem asideFor_judgeAll (name : String) : (l.judgeAll judge signs).asideFor name =
    l.asideFor name ++
      (withKey (fun o => o.1.name) (undecided judge signs) name).map fun o => o.2 := by
  rw [judgeAll, view_foldl (fun l : Ledger σ α => l.asideFor name)
    fun l o => asideFor_enter o.1 o.2 (judge o.1 o.2) name, flatMap_ite, ← List.map_eq_flatMap,
    undecided, withKey, List.filter_filter]
  simp only [Bool.decide_and, Bool.decide_eq_true, Bool.and_comm]

end

/-! ## Rounds of claims -/

/-- A round that goes over the containers, passes over those that are claimed and lets what it
finds in another one claim it. -/
structure Claiming (piece : Container → List α) (step : Ledger σ α → Container → Ledger σ α) :
    Prop where
  passes : ∀ l c, l.isClaimed c = true → step l c = l
  findings : ∀ l c, l.isClaimed c = false → (step l c).findings = l.findings ++ piece c
  claims : ∀ l c d, l.isClaimed c = false → ((step l c).isClaimed d = true ↔
    l.isClaimed d = true ∨ (c.name = d.name ∧ piece c ≠ []))

/-- The containers that a round takes: of each name the first with findings, where the name is
unclaimed. -/
def takers (piece : Container → List α) (step : Ledger σ α → Container → Ledger σ α) :
    Ledger σ α → List Container → List Container
  | _, [] => []
  | l, c :: rest =>
    if l.isClaimed c || (piece c).isEmpty then takers piece step (step l c) rest
    else c :: takers piece step (step l c) rest

section

variable {piece : Container → List α} {step : Ledger σ α → Container → Ledger σ α}

theorem isClaimed_congr (same : c.name = d.name) : l.isClaimed c = l.isClaimed d := by
  rw [isClaimed, same, isClaimed]

theorem Claiming.isClaimed_iff (h : Claiming piece step) : (step l c).isClaimed d = true ↔
    l.isClaimed d = true ∨ (c.name = d.name ∧ piece c ≠ []) := by
  cases claimed : l.isClaimed c with
  | true =>
    rw [h.passes l c claimed]
    refine (or_iff_left_of_imp fun own => ?_).symm
    rwa [← isClaimed_congr own.1]
  | false => exact h.claims l c d claimed

theorem Claiming.isClaimed_foldl_iff (h : Claiming piece step) :
    (cs.foldl step l).isClaimed d = true ↔
      l.isClaimed d = true ∨ ∃ c ∈ cs, c.name = d.name ∧ piece c ≠ [] := by
  refine foldl_iff (motive := fun l : Ledger σ α => l.isClaimed d = true) (fun l c => ?_) cs l
  exact h.isClaimed_iff

theorem Claiming.findings_foldl (h : Claiming piece step) :
    (cs.foldl step l).findings = l.findings ++ (takers piece step l cs).flatMap piece := by
  induction cs generalizing l with
  | nil => exact (List.append_nil _).symm
  | cons c rest ih =>
    rw [List.foldl_cons, ih, takers]
    cases claimed : l.isClaimed c with
    | true => rw [h.passes l c claimed, Bool.true_or, if_pos rfl]
    | false =>
      rw [h.findings l c claimed, List.append_assoc, Bool.false_or]
      split
      next empty => rw [List.isEmpty_iff.mp empty, List.nil_append]
      next => rfl

/-- A container of another name is taken when it is taken later. -/
theorem Claiming.mem_takers_cons_of_ne (h : Claiming piece step) (other : d.name ≠ c.name)
    (cs : List Container) :
    (c ∈ takers piece step l (d :: cs) ↔ c ∈ takers piece step (step l d) cs) ∧
      (step l d).isClaimed c = l.isClaimed c := by
  have apart : c ≠ d := fun same => other (same ▸ rfl)
  constructor
  · rw [takers]
    split
    · exact Iff.rfl
    · rw [List.mem_cons, or_iff_right apart]
  · rw [Bool.eq_iff_iff, h.isClaimed_iff]
    exact or_iff_left fun own => other own.1

theorem Claiming.not_mem_takers (h : Claiming piece step) (claimed : l.isClaimed c = true) :
    c ∉ takers piece step l cs := by
  induction cs generalizing l with
  | nil => exact List.not_mem_nil
  | cons d rest ih =>
    have later : c ∉ takers piece step (step l d) rest := ih (h.isClaimed_iff.mpr (.inl claimed))
    rw [takers]
    split
    · exact later
    next taken =>
      refine List.not_mem_cons_of_ne_of_not_mem ?_ later
      rintro rfl
      rw [claimed, Bool.true_or] at taken
      exact taken rfl

/-- A container is taken when its name is unclaimed and it is the first of its name in which the
round finds something. -/
theorem Claiming.mem_takers (h : Claiming piece step) : c ∈ takers piece step l cs ↔
    l.isClaimed c = false ∧
      cs.find? (fun d => d.name == c.name && !(piece d).isEmpty) = some c := by
  cases claimed : l.isClaimed c with
  | true =>
    exact iff_of_false (h.not_mem_takers claimed) fun found => Bool.false_ne_true found.1.symm
  | false =>
    rw [eq_self, true_and]
    induction cs generalizing l with
    | nil => exact ⟨nofun, nofun⟩
    | cons d rest ih =>
      rw [List.find?_cons]
      by_cases same : d.name = c.name
      · rw [takers, isClaimed_congr same, claimed, beq_iff_eq.mpr same, Bool.true_and,
          Bool.false_or]
        cases empty : (piece d).isEmpty with
        | true =>
          have still : (step l d).isClaimed c = false := by
            rw [← Bool.not_eq_true, h.isClaimed_iff, claimed, not_or]
            exact ⟨Bool.false_ne_true, fun own => own.2 (List.isEmpty_iff.mp empty)⟩
          rw [if_pos rfl, ih still]
          rfl
        | false =>
          have taken : (step l d).isClaimed c = true :=
            h.isClaimed_iff.mpr (.inr ⟨same, List.isEmpty_eq_false_iff.mp empty⟩)
          show c ∈ d :: takers piece step (step l d) rest ↔ some d = some c
          rw [List.mem_cons, or_iff_left (h.not_mem_takers taken), Option.some_inj, eq_comm]
      · obtain ⟨later, still⟩ := h.mem_takers_cons_of_ne (l := l) same rest
        rw [later, ih (still.trans claimed), beq_eq_false_iff_ne.mpr same]
        rfl

theorem Claiming.nodup_takers (h : Claiming piece step) :
    ((takers piece step l cs).map Container.name).Nodup := by
  induction cs generalizing l with
  | nil => exact List.nodup_nil
  | cons c rest ih =>
    rw [takers]
    split
    · exact ih
    next filled =>
      refine List.nodup_cons.mpr ⟨fun again => ?_, ih⟩
      obtain ⟨d, later, same⟩ := List.mem_map.mp again
      rw [Bool.or_eq_true, not_or, List.isEmpty_iff] at filled
      have claimed : (step l c).isClaimed d = true :=
        h.isClaimed_iff.mpr (.inr ⟨same.symm, filled.2⟩)
      exact h.not_mem_takers claimed later

end

/-! ## The second round -/

/-- What a container is, unless it is the top level. -/
def structureOf (structural : Container → List α) (c : Container) : List α :=
  if c.isTopLevel then [] else structural c

/-- One container in the second round. -/
def matchIn (structural : Container → List α) (l : Ledger σ α) (c : Container) : Ledger σ α :=
  if l.isClaimed c || c.isTopLevel then l else l.claim c.name (structural c)

theorem matchStructure_eq (structural : Container → List α) :
    l.matchStructure structural cs = cs.foldl (matchIn structural) l :=
  rfl

theorem claiming_matchIn (structural : Container → List α) :
    Claiming (structureOf structural) (matchIn (σ := σ) structural) where
  passes := by
    intro l c claimed
    rw [matchIn, claimed, Bool.true_or, if_pos rfl]
  findings := by
    intro l c unclaimed
    rw [matchIn, unclaimed, Bool.false_or, structureOf]
    split
    · exact (List.append_nil _).symm
    · exact findings_claim _
  claims := by
    intro l c d unclaimed
    rw [matchIn, unclaimed, Bool.false_or, structureOf]
    split
    · exact (or_iff_left fun own => own.2 rfl).symm
    · exact isClaimed_claim_iff _

theorem pending_matchStructure (structural : Container → List α) (cs : List Container) :
    (l.matchStructure structural cs).pending = l.pending := by
  rw [matchStructure]
  refine List.foldlRecOn cs _ (motive := fun m : Ledger σ α => m.pending = l.pending) rfl ?_
  intro m same c _
  split
  · exact same
  · rw [pending_claim, same]

/-! ## The third round -/

/-- The signals that a container is given in the third round and that mean something in it. -/
def takenIn (generic : Container → σ → Option α) (aside : String → List σ) (c : Container) :
    List α :=
  (aside c.name).filterMap (generic c)

/-- One container in the third round, where judging cannot fail. -/
def takeIn (generic : Container → σ → Option α) (aside : String → List σ) (l : Ledger σ α)
    (c : Container) : Ledger σ α :=
  if l.isClaimed c then l
  else (aside c.name).foldl (fun l s => l.claim c.name (generic c s).toList) l

theorem claiming_takeIn (generic : Container → σ → Option α) (aside : String → List σ) :
    Claiming (takenIn generic aside) (takeIn generic aside) where
  passes := by
    intro l c claimed
    rw [takeIn, if_pos claimed]
  findings := by
    intro l c unclaimed
    rw [takeIn, if_neg (Bool.eq_false_iff.mp unclaimed),
      view_foldl findings fun l s => findings_claim (generic c s).toList, takenIn,
      List.filterMap_eq_flatMap_toList]
  claims := by
    intro l c d unclaimed
    have means : takenIn generic aside c ≠ [] ↔
        ∃ s ∈ aside c.name, (generic c s).toList ≠ [] := by
      rw [takenIn, List.filterMap_eq_flatMap_toList, ne_eq, List.flatMap_eq_nil_iff]
      simp only [not_forall, exists_prop, ne_eq]
    rw [takeIn, if_neg (Bool.eq_false_iff.mp unclaimed), means,
      foldl_iff (motive := fun l : Ledger σ α => l.isClaimed d = true)
        fun l s => isClaimed_claim_iff (generic c s).toList]
    refine or_congr_right ?_
    constructor
    · rintro ⟨s, there, own, some_found⟩
      exact ⟨own, s, there, some_found⟩
    · rintro ⟨own, s, there, some_found⟩
      exact ⟨s, there, own, some_found⟩

theorem pending_takeIn (generic : Container → σ → Option α) (aside : String → List σ)
    (l : Ledger σ α) (c : Container) : (takeIn generic aside l c).pending = l.pending := by
  rw [takeIn]
  split
  · rfl
  · refine List.foldlRecOn _ _ (motive := fun m : Ledger σ α => m.pending = l.pending) rfl ?_
    intro m same s _
    rw [pending_claim, same]

/-- What is put aside stays so, so that the round may be read with what it finds there at first. -/
theorem foldl_takeIn (generic : Container → σ → Option α) {aside : String → List σ}
    (same : l.asideFor = aside) :
    cs.foldl (fun l c => takeIn generic l.asideFor l c) l = cs.foldl (takeIn generic aside) l := by
  induction cs generalizing l with
  | nil => rfl
  | cons c rest ih =>
    have still : (takeIn generic aside l c).asideFor = aside := by
      rw [← same]
      funext name
      rw [asideFor, pending_takeIn, asideFor]
    rw [List.foldl_cons, List.foldl_cons, same]
    exact ih still

theorem run_takePending (generic : Container → σ → Option α) :
    Id.run (l.takePending (fun c s => pure (generic c s)) cs) =
      cs.foldl (takeIn generic l.asideFor) l := by
  rw [← foldl_takeIn generic rfl, takePending, List.idRun_foldlM]
  refine congrArg (fun step => cs.foldl step l) (funext fun l => funext fun c => ?_)
  rw [takeIn]
  split
  · rfl
  · rw [List.idRun_foldlM]
    rfl

/-! ## What was found before names are looked at -/

section

variable {signals : Container → List σ} {judge : Container → σ → Verdict α}
  {structural : Container → List α} {generic : Container → σ → Option α} {f : α}

/-- The ledger before the third round. -/
def matched (l : Ledger σ α) (signals : Container → List σ) (judge : Container → σ → Verdict α)
    (structural : Container → List α) (cs : List Container) : Ledger σ α :=
  (l.judgeAll judge (occurrences signals cs)).matchStructure structural cs

theorem beforeNames_eq : l.beforeNames signals judge structural generic cs =
    cs.foldl (takeIn generic (l.matched signals judge structural cs).asideFor)
      (l.matched signals judge structural cs) := by
  rw [beforeNames, run_judgeSignals, run_takePending, matched]

theorem asideFor_matched (fresh : l.pending = []) (name : String) :
    (l.matched signals judge structural cs).asideFor name =
      (withKey (fun o => o.1.name) (undecided judge (occurrences signals cs)) name).map
        fun o => o.2 := by
  have none_before : l.asideFor name = [] := by
    rw [asideFor, fresh]
    rfl
  rw [asideFor, matched, pending_matchStructure, ← asideFor, asideFor_judgeAll, none_before,
    List.nil_append]

theorem mem_asideFor_matched (fresh : l.pending = []) {name : String} {s : σ} :
    s ∈ (l.matched signals judge structural cs).asideFor name ↔
      ∃ c ∈ cs, c.name = name ∧ s ∈ signals c ∧ (judge c s).isUndecided = true := by
  rw [asideFor_matched fresh]
  simp only [List.mem_map, mem_withKey, undecided, List.mem_filter, mem_occurrences, Prod.exists]
  constructor
  · rintro ⟨c, _, ⟨⟨⟨there, signal⟩, open_⟩, own⟩, rfl⟩
    exact ⟨c, there, own, signal, open_⟩
  · rintro ⟨c, there, own, signal, open_⟩
    exact ⟨c, s, ⟨⟨⟨there, signal⟩, open_⟩, own⟩, rfl⟩

/-- Where it does not matter in which container a signal is looked at, the third round takes the
first container of a name if it takes any. -/
theorem find?_of_mem_takers {aside : String → List σ}
    (alike : ∀ c d s, (generic c s).isSome = (generic d s).isSome)
    (taken : d ∈ takers (takenIn generic aside) (takeIn generic aside) l cs)
    (filled : takenIn generic aside d ≠ []) :
    cs.find? (fun e => e.name == d.name) = some d := by
  have means : ∃ s ∈ aside d.name, (generic d s).isSome = true := by
    rw [takenIn, ne_eq, List.filterMap_eq_nil_iff] at filled
    simpa only [not_forall, exists_prop, ← ne_eq, Option.isSome_iff_ne_none] using filled
  obtain ⟨s, there, means⟩ := means
  have every : ∀ e : Container, e.name = d.name → (takenIn generic aside e).isEmpty = false := by
    intro e same
    rw [List.isEmpty_eq_false_iff, takenIn, ne_eq, List.filterMap_eq_nil_iff, same]
    intro nothing
    rw [alike d e, nothing s there] at means
    cases means
  have first := ((claiming_takeIn generic aside).mem_takers.mp taken).2
  rw [← first]
  refine congrArg (fun p => cs.find? p) (funext fun e => ?_)
  cases same : e.name == d.name with
  | true => rw [every e (beq_iff_eq.mp same)]; rfl
  | false => rfl

/-- Whatever is found before names are looked at was there before, or is what a signal of a
container stands for, or what a container is, or what a signal left undecided means in the first
container of the name of the one that it comes from. -/
theorem exists_of_mem_beforeNames (fresh : l.pending = [])
    (alike : ∀ (c d : Container) (s : σ), (generic c s).isSome = (generic d s).isSome)
    (mem : f ∈ (l.beforeNames signals judge structural generic cs).findings) :
    f ∈ l.findings ∨ (∃ c ∈ cs, ∃ s ∈ signals c, f ∈ (judge c s).findings) ∨
      (∃ c ∈ cs, f ∈ structural c) ∨
      ∃ c ∈ cs, ∃ s ∈ signals c, (judge c s).isUndecided = true ∧
        ∃ d, cs.find? (fun e => e.name == c.name) = some d ∧ generic d s = some f := by
  rw [beforeNames_eq, (claiming_takeIn _ _).findings_foldl, matched, matchStructure_eq,
    (claiming_matchIn _).findings_foldl, findings_judgeAll] at mem
  simp only [List.mem_append, List.mem_flatMap, or_assoc] at mem
  rcases mem with old | ⟨o, there, judged⟩ | ⟨c, taken, found⟩ | ⟨d, taken, found⟩
  · exact .inl old
  · obtain ⟨known, signal⟩ := mem_occurrences.mp there
    exact .inr (.inl ⟨o.1, known, o.2, signal, judged⟩)
  · rw [structureOf] at found
    split at found
    · cases found
    · have known := List.mem_of_find?_eq_some ((claiming_matchIn structural).mem_takers.mp taken).2
      exact .inr (.inr (.inl ⟨c, known, found⟩))
  · obtain ⟨s, aside, means⟩ := List.mem_filterMap.mp found
    obtain ⟨c, there, own, signal, open_⟩ := (mem_asideFor_matched fresh).mp aside
    refine .inr (.inr (.inr ⟨c, there, s, signal, open_, d, ?_, means⟩))
    rw [own]
    exact find?_of_mem_takers alike taken (List.ne_nil_of_mem found)

end

/-! ## Rounds that may fail -/

variable {ε : Type} {l' : Ledger σ α}

/-- The verdict on a signal, which is dismissed when judging it fails. -/
def verdictOn (judge : Container → σ → Except ε (Verdict α)) (c : Container) (s : σ) : Verdict α :=
  (judge c s).toOption.getD .dismissed

/-- What a signal put aside means, which is nothing when that fails. -/
def meaningOf (generic : Container → σ → Except ε (Option α)) (c : Container) (s : σ) : Option α :=
  (generic c s).toOption.join

theorem eq_ok_of_meaningOf {generic : Container → σ → Except ε (Option α)} {s : σ} {f : α}
    (means : meaningOf generic c s = some f) : generic c s = .ok (some f) := by
  rw [meaningOf] at means
  cases finding : generic c s with
  | error failure =>
    rw [finding] at means
    cases means
  | ok found =>
    rw [finding] at means
    exact congrArg Except.ok means

theorem eq_judgeAll_of_ok {signals : Container → List σ}
    {judge : Container → σ → Except ε (Verdict α)} (ok : l.judgeSignals signals judge cs = .ok l') :
    l' = l.judgeAll (verdictOn judge) (occurrences signals cs) := by
  have each : ∀ (l : Ledger σ α) c next,
      (signals c).foldlM (fun l s => do return l.enter c s (← judge c s)) l = .ok next →
      next = (signals c).foldl (fun l s => l.enter c s (verdictOn judge c s)) l := by
    intro l c next ok
    refine Outcome.eq_foldl_of_ok (fun l s next entered => ?_) ok
    obtain ⟨verdict, judged, made⟩ := Outcome.exists_of_bind_ok entered
    rw [verdictOn, judged]
    exact (Except.ok.inj made).symm
  rw [Outcome.eq_foldl_of_ok each ok, judgeAll, occurrences, List.foldl_flatMap]
  simp only [List.foldl_map]

theorem eq_foldl_takeIn_of_ok {generic : Container → σ → Except ε (Option α)}
    (ok : l.takePending generic cs = .ok l') :
    l' = cs.foldl (takeIn (meaningOf generic) l.asideFor) l := by
  rw [← foldl_takeIn (meaningOf generic) rfl]
  refine Outcome.eq_foldl_of_ok (fun l c next taken => ?_) ok
  rw [takeIn]
  split at taken
  next claimed =>
    rw [if_pos claimed]
    exact (Except.ok.inj taken).symm
  next unclaimed =>
    rw [if_neg unclaimed]
    refine Outcome.eq_foldl_of_ok (fun l s next entered => ?_) taken
    obtain ⟨found, meant, made⟩ := Outcome.exists_of_bind_ok entered
    rw [meaningOf, meant]
    exact (Except.ok.inj made).symm

end Ledger

end RepoSurvey.Detection
