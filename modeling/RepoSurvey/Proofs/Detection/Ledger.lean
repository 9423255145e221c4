import RepoSurvey.Detection.Ledger
import RepoSurvey.Proofs.Table

/-!
# What a ledger may hold

The rounds of a detector only add to its ledger. When everything that a round
may add is of some kind, the ledger holds nothing else after it: `Holds` says
so of findings and of signals put aside, and each round keeps it.

Judging may fail. `Returns` says of a computation of what kind its result is,
and in which ways it may fail instead; a round whose judgements return does so
too.
-/

namespace RepoSurvey.Detection

/-! ## Computations that return -/

/-- Ways in which computations may fail; whatever follows a failure fails in the same way. -/
structure Failing (m : Type → Type) [Monad m] where
  fails : {α : Type} → m α → Prop
  bind : ∀ {α β : Type} {x : m α} (f : α → m β), fails x → fails (x >>= f)

section

variable {m : Type → Type} [Monad m] {failing : Failing m} {α β : Type}

/-- No way to fail. -/
def Failing.never : Failing m where
  fails _ := False
  bind _ := id

/-- Failing with one of some errors. -/
def Failing.among {ε : Type} (errors : ε → Prop) : Failing (Except ε) where
  fails x := ∃ e, errors e ∧ x = .error e
  bind := by
    rintro _ _ _ f ⟨e, known, rfl⟩
    exact ⟨e, known, rfl⟩

/-- The computation does nothing but return a result of some kind, unless it fails. -/
def Returns (failing : Failing m) (x : m α) (good : α → Prop) : Prop :=
  (∃ a, x = pure a ∧ good a) ∨ failing.fails x

theorem returns_pure {good : α → Prop} {a : α} (h : good a) : Returns failing (pure a) good :=
  .inl ⟨a, rfl, h⟩

theorem Returns.imp {x : m α} {good better : α → Prop} (h : Returns failing x good)
    (kinds : ∀ a, good a → better a) : Returns failing x better := by
  rcases h with ⟨a, rfl, h⟩ | failed
  · exact returns_pure (kinds a h)
  · exact .inr failed

theorem Returns.exists_pure {x : m α} {good : α → Prop} (h : Returns .never x good) :
    ∃ a, x = pure a ∧ good a :=
  h.resolve_right id

theorem Returns.run {x : Id α} {good : α → Prop} (h : Returns .never x good) :
    good (Id.run x) := by
  obtain ⟨a, rfl, h⟩ := h.exists_pure
  exact h

theorem Returns.of_ok {ε : Type} {errors : ε → Prop} {x : Except ε α} {good : α → Prop} {a : α}
    (h : Returns (.among errors) x good) (ok : x = .ok a) : good a := by
  subst ok
  rcases h with ⟨b, same, h⟩ | ⟨e, -, failed⟩
  · exact Except.ok.inj same ▸ h
  · cases failed

theorem Returns.weaken {ε : Type} {errors more : ε → Prop} {x : Except ε α}
    {good better : α → Prop} (h : Returns (.among errors) x good) (ways : ∀ e, errors e → more e)
    (kinds : ∀ a, good a → better a) : Returns (.among more) x better := by
  rcases h with ⟨a, rfl, h⟩ | ⟨e, known, rfl⟩
  · exact returns_pure (kinds a h)
  · exact .inr ⟨e, ways e known, rfl⟩

theorem Returns.map {ε : Type} {errors : ε → Prop} {x : Except ε α} {f : α → β}
    {good : α → Prop} {better : β → Prop} (h : Returns (.among errors) x good)
    (kinds : ∀ a, good a → better (f a)) : Returns (.among errors) (x.map f) better := by
  rcases h with ⟨a, rfl, h⟩ | ⟨e, known, rfl⟩
  · exact returns_pure (kinds a h)
  · exact .inr ⟨e, known, rfl⟩

variable [LawfulMonad m]

theorem Returns.bind {x : m α} {f : α → m β} {good : α → Prop} {better : β → Prop}
    (first : Returns failing x good) (second : ∀ a, good a → Returns failing (f a) better) :
    Returns failing (x >>= f) better := by
  rcases first with ⟨a, rfl, h⟩ | failed
  · rw [pure_bind]
    exact second a h
  · exact .inr (failing.bind f failed)

/-- A fold returns when every step does and keeps the kind. -/
theorem returns_foldlM {motive : β → Prop} {f : β → α → m β} {members : List α} {start : β}
    (begins : motive start)
    (step : ∀ a ∈ members, ∀ b, motive b → Returns failing (f b a) motive) :
    Returns failing (members.foldlM f start) motive := by
  induction members generalizing start with
  | nil => exact returns_pure begins
  | cons a rest ih =>
    rw [List.foldlM_cons]
    refine (step a List.mem_cons_self start begins).bind fun b h => ?_
    exact ih h fun c mem => step c (List.mem_cons_of_mem _ mem)

/-- Results for all members, when there is one for each. -/
theorem returns_mapM {good : β → Prop} {f : α → m β} {members : List α}
    (each : ∀ a ∈ members, Returns failing (f a) good) :
    Returns failing (members.mapM f) fun results => ∀ b ∈ results, good b := by
  induction members with
  | nil => exact returns_pure nofun
  | cons a rest ih =>
    rw [List.mapM_cons]
    refine (each a List.mem_cons_self).bind fun b h => ?_
    refine (ih fun c mem => each c (List.mem_cons_of_mem _ mem)).bind fun results others => ?_
    exact returns_pure (List.forall_mem_cons.mpr ⟨h, others⟩)

end

/-! ## Ledgers -/

variable {σ α : Type} {found : α → Prop} {aside : σ → Prop} {l : Ledger σ α} {cs : List Container}

/-- The findings are of one kind, and so are the signals put aside. -/
structure Ledger.Holds (found : α → Prop) (aside : σ → Prop) (l : Ledger σ α) : Prop where
  /-- The findings. -/
  findings : ∀ a ∈ l.findings, found a
  /-- The signals put aside. -/
  pending : ∀ entry ∈ l.pending, ∀ s ∈ entry.2, aside s

/-- The verdict adds only what is of the kinds. -/
def Verdict.Adds (found : α → Prop) (aside : Prop) : Verdict α → Prop
  | .found first more => ∀ a ∈ first :: more, found a
  | .undecided => aside
  | .dismissed => True

theorem Verdict.Adds.imp {better : α → Prop} {aside : Prop} {verdict : Verdict α}
    (adds : verdict.Adds found aside) (h : ∀ a, found a → better a) :
    verdict.Adds better aside := by
  cases verdict with
  | found first more => exact fun a mem => h a (adds a mem)
  | undecided => exact adds
  | dismissed => trivial

theorem Verdict.Adds.put_aside {aside : Prop} {verdict : Verdict α}
    (adds : verdict.Adds found True) (h : aside) : verdict.Adds found aside := by
  cases verdict with
  | found first more => exact adds
  | undecided => exact h
  | dismissed => trivial

namespace Ledger.Holds

theorem start {findings : List α} (h : ∀ a ∈ findings, found a) :
    Ledger.Holds found aside { findings := findings } :=
  ⟨h, nofun⟩

theorem note {added : List α} (h : l.Holds found aside) (new : ∀ a ∈ added, found a) :
    (l.note added).Holds found aside := by
  refine ⟨fun a mem => ?_, h.pending⟩
  rcases List.mem_append.mp mem with old | added
  · exact h.findings a old
  · exact new a added

theorem claim {name : String} {added : List α} (h : l.Holds found aside)
    (new : ∀ a ∈ added, found a) : (l.claim name added).Holds found aside := by
  rw [Ledger.claim]
  split
  · exact h
  · exact ⟨(h.note new).findings, h.pending⟩

theorem enter {c : Container} {s : σ} {verdict : Verdict α} (h : l.Holds found aside)
    (adds : verdict.Adds found (aside s)) : (l.enter c s verdict).Holds found aside := by
  cases verdict with
  | found first more => exact h.claim adds
  | undecided =>
    refine ⟨h.findings, ?_⟩
    refine Table.forall_update (motive := fun signals => ∀ t ∈ signals, aside t) h.pending ?_
    intro old held t there
    rcases List.mem_append.mp there with before | new
    · cases old with
      | none => cases before
      | some signals => exact held signals rfl t before
    · exact List.mem_singleton.mp new ▸ adds
  | dismissed => exact h

/-- The second round. -/
theorem matchStructure {structural : Container → List α} (h : l.Holds found aside)
    (new : ∀ c ∈ cs, ∀ a ∈ structural c, found a) :
    (l.matchStructure structural cs).Holds found aside := by
  rw [Ledger.matchStructure]
  refine List.foldlRecOn cs _ h fun l h c mem => ?_
  split
  · exact h
  · exact h.claim (new c mem)

/-- The last round. -/
theorem matchNames {naming : Container → Option α} (h : l.Holds found aside)
    (new : ∀ c ∈ cs, ∀ a ∈ naming c, found a) :
    (l.matchNames naming cs).Holds found aside := by
  rw [Ledger.matchNames]
  refine List.foldlRecOn cs _ h fun l h c mem => ?_
  split
  · exact h
  · exact h.note fun a there => new c mem a (Option.mem_toList.mp there)

variable {m : Type → Type} [Monad m] [LawfulMonad m] {failing : Failing m}

/-- The first round. -/
theorem judgeSignals {signals : Container → List σ} {judge : Container → σ → m (Verdict α)}
    (h : l.Holds found aside)
    (judged : ∀ c ∈ cs, ∀ s ∈ signals c, Returns failing (judge c s) (Verdict.Adds found (aside s))) :
    Returns failing (l.judgeSignals signals judge cs) (Ledger.Holds found aside) := by
  refine returns_foldlM h fun c mem l h => returns_foldlM h fun s signal l h => ?_
  exact (judged c mem s signal).bind fun verdict adds => returns_pure (h.enter adds)

theorem aside_of_get? (h : l.Holds found aside) {name : String} {s : σ}
    (mem : s ∈ (l.pending.get? name).getD []) : aside s := by
  cases there : l.pending.get? name with
  | none =>
    rw [there] at mem
    cases mem
  | some held =>
    rw [there] at mem
    obtain ⟨entry, known, rfl⟩ := Option.map_eq_some_iff.mp there
    exact h.pending entry (List.mem_of_find?_eq_some known) s mem

/-- The third round. -/
theorem takePending {generic : Container → σ → m (Option α)} (h : l.Holds found aside)
    (taken : ∀ c ∈ cs, ∀ s, aside s → Returns failing (generic c s) fun o => ∀ a ∈ o, found a) :
    Returns failing (l.takePending generic cs) (Ledger.Holds found aside) := by
  refine returns_foldlM h fun c mem l h => ?_
  split
  · exact returns_pure h
  · refine returns_foldlM h fun s signal next h' => ?_
    refine (taken c mem s (h.aside_of_get? signal)).bind fun o new => returns_pure (h'.claim ?_)
    exact fun a there => new a (Option.mem_toList.mp there)

/-- All rounds, where judging cannot fail. -/
theorem rounds (h : l.Holds found aside) (signals : Container → List σ)
    (judge : Container → σ → Id (Verdict α)) (structural : Container → List α)
    (generic : Container → σ → Id (Option α)) (naming : Container → Option α)
    (judged : ∀ c s, (Id.run (judge c s)).Adds found (aside s))
    (structured : ∀ c, ∀ a ∈ structural c, found a)
    (taken : ∀ c s, aside s → ∀ a ∈ Id.run (generic c s), found a)
    (named : ∀ c, ∀ a ∈ naming c, found a) :
    ((Id.run (((Id.run (l.judgeSignals signals judge cs)).matchStructure structural cs).takePending
      generic cs)).matchNames naming cs).Holds found aside := by
  have first : (Id.run (l.judgeSignals signals judge cs)).Holds found aside :=
    (h.judgeSignals fun c _ s _ => returns_pure (judged c s)).run
  have second : ((Id.run (l.judgeSignals signals judge cs)).matchStructure structural cs).Holds
      found aside :=
    first.matchStructure fun c _ => structured c
  have third : (Id.run (((Id.run (l.judgeSignals signals judge cs)).matchStructure structural
      cs).takePending generic cs)).Holds found aside :=
    (second.takePending fun c _ s put => returns_pure (taken c s put)).run
  exact third.matchNames fun c _ => named c

end Ledger.Holds

end RepoSurvey.Detection
