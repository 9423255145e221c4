import RepoSurvey.Failure

/-!
# Steps that may fail

What detectors and parsers do step by step fails as a whole when one step does.
A list of steps is as good as each of them (`exists_mapM_eq_ok`), fails with the
only failure there can be (`mapM_eq_error`), and keeps, when it succeeds, what
every step keeps (`foldlM_ok`). Where it is known what makes each step fail, it
is known of the list (`failsIff_mapM`).
-/

namespace RepoSurvey.Outcome

variable {ε α β γ : Type} {l : List α}

theorem bind_of_eq_ok {x : Except ε α} {f : α → Except ε β} {a : α} {outcome : Except ε β}
    (first : x = .ok a) (rest : f a = outcome) : (x >>= f) = outcome := by
  rw [first]
  exact rest

theorem exists_of_bind_ok {x : Except ε α} {f : α → Except ε β} {b : β} (ok : x >>= f = .ok b) :
    ∃ a, x = .ok a ∧ f a = .ok b := by
  cases x with
  | error e => cases ok
  | ok a => exact ⟨a, rfl, ok⟩

theorem exists_of_map_ok {f : α → β} {x : Except ε α} {b : β} (ok : x.map f = .ok b) :
    ∃ a, x = .ok a ∧ f a = b := by
  cases x with
  | error e => cases ok
  | ok a => exact ⟨a, rfl, Except.ok.inj ok⟩

theorem eq_ok_of_toOption {x : Except ε α} {a : α} (some : a ∈ x.toOption) : x = .ok a := by
  cases x with
  | error e => cases some
  | ok b => exact congrArg Except.ok (Option.some.inj some)

theorem map_map (g : α → β) (h : β → γ) (outcome : Except ε α) :
    (outcome.map g).map h = outcome.map fun a => h (g a) := by
  cases outcome <;> rfl

/-- Results that are read one by one are read as a whole. -/
theorem map_mapM (f : α → Except ε β) (g : β → γ) (l : List α) :
    (l.mapM f).map (List.map g) = l.mapM fun a => (f a).map g := by
  induction l with
  | nil => rfl
  | cons a rest ih =>
    rw [List.mapM_cons, List.mapM_cons, ← ih]
    cases f a with
    | error e => rfl
    | ok b => cases rest.mapM f <;> rfl

theorem foldlM_eq_ok {f : β → α → Except ε β} {g : β → α → β} {start : β}
    (each : ∀ b, ∀ a ∈ l, f b a = .ok (g b a)) : l.foldlM f start = .ok (l.foldl g start) := by
  induction l generalizing start with
  | nil => rfl
  | cons a rest ih =>
    rw [List.foldlM_cons, List.foldl_cons]
    exact bind_of_eq_ok (each start a List.mem_cons_self)
      (ih fun b a mem => each b a (List.mem_cons_of_mem _ mem))

theorem mapM_eq_ok {f : α → Except ε β} {g : α → β} (each : ∀ a ∈ l, f a = .ok (g a)) :
    l.mapM f = .ok (l.map g) := by
  induction l with
  | nil => rfl
  | cons a rest ih =>
    rw [List.mapM_cons, each a List.mem_cons_self,
      ih fun a mem => each a (List.mem_cons_of_mem _ mem)]
    rfl

/-- What is read from every member by a partial reader is read by any reader that agrees with it. -/
theorem mapM_eq_ok_of_mapM_eq_some {f : α → Except ε β} {g : α → Option β} {results : List β}
    (agrees : ∀ a b, g a = some b → f a = .ok b) (read : l.mapM g = some results) :
    l.mapM f = .ok results := by
  induction l generalizing results with
  | nil =>
    cases read
    rfl
  | cons a rest ih =>
    rw [List.mapM_cons] at read
    obtain ⟨b, first, read⟩ := Option.bind_eq_some_iff.mp read
    obtain ⟨more, others, read⟩ := Option.bind_eq_some_iff.mp read
    cases read
    rw [List.mapM_cons, agrees a b first, ih others]
    rfl

theorem mapM_congr {f g : α → Except ε β} (each : ∀ a ∈ l, f a = g a) : l.mapM f = l.mapM g := by
  induction l with
  | nil => rfl
  | cons a rest ih =>
    rw [List.mapM_cons, List.mapM_cons, each a List.mem_cons_self,
      ih fun a mem => each a (List.mem_cons_of_mem _ mem)]

theorem filterMapM_eq_ok {f : α → Except ε (Option β)} {g : α → Option β}
    (each : ∀ a ∈ l, f a = .ok (g a)) : l.filterMapM f = .ok (l.filterMap g) := by
  induction l with
  | nil => rfl
  | cons a rest ih =>
    rw [List.filterMapM_cons, each a List.mem_cons_self,
      ih fun a mem => each a (List.mem_cons_of_mem _ mem), List.filterMap_cons]
    refine bind_of_eq_ok rfl ?_
    cases g a <;> rfl

theorem exists_mapM_eq_ok {f : α → Except ε β} (each : ∀ a ∈ l, ∃ b, f a = .ok b) :
    ∃ bs, l.mapM f = .ok bs := by
  induction l with
  | nil => exact ⟨[], rfl⟩
  | cons a rest ih =>
    obtain ⟨b, first⟩ := each a List.mem_cons_self
    obtain ⟨bs, others⟩ := ih fun a mem => each a (List.mem_cons_of_mem _ mem)
    refine ⟨b :: bs, ?_⟩
    rw [List.mapM_cons, first, others]
    rfl

/-- The results of a list of steps are those of its steps. -/
theorem mem_iff_of_mapM_ok {f : α → Except ε β} {bs : List β} (ok : l.mapM f = .ok bs) {b : β} :
    b ∈ bs ↔ ∃ a ∈ l, f a = .ok b := by
  induction l generalizing bs with
  | nil =>
    cases ok
    exact iff_of_false List.not_mem_nil (by rintro ⟨a, none, -⟩; cases none)
  | cons a rest ih =>
    rw [List.mapM_cons] at ok
    obtain ⟨first, taken, ok⟩ := exists_of_bind_ok ok
    obtain ⟨later, others, ok⟩ := exists_of_bind_ok ok
    cases ok
    rw [List.mem_cons, ih others]
    constructor
    · rintro (rfl | ⟨a', mem, taken'⟩)
      · exact ⟨a, List.mem_cons_self, taken⟩
      · exact ⟨a', List.mem_cons_of_mem _ mem, taken'⟩
    · rintro ⟨a', mem, taken'⟩
      rcases List.mem_cons.mp mem with rfl | mem
      · exact .inl (Except.ok.inj (taken'.symm.trans taken))
      · exact .inr ⟨a', mem, taken'⟩

theorem exists_of_mapM_ok {f : α → Except ε β} {bs : List β} (ok : l.mapM f = .ok bs) :
    ∀ a ∈ l, ∃ b, f a = .ok b := by
  induction l generalizing bs with
  | nil => exact nofun
  | cons a rest ih =>
    rw [List.mapM_cons] at ok
    obtain ⟨first, taken, ok⟩ := exists_of_bind_ok ok
    obtain ⟨later, others, -⟩ := exists_of_bind_ok ok
    exact List.forall_mem_cons.mpr ⟨⟨first, taken⟩, ih others⟩

/-- Where only one failure can occur, it is that of the list when it does. -/
theorem mapM_eq_error {f : α → Except ε β} {failure : ε}
    (only : ∀ a ∈ l, f a = .error failure ∨ ∃ b, f a = .ok b)
    (occurs : ∃ a ∈ l, f a = .error failure) : l.mapM f = .error failure := by
  induction l with
  | nil =>
    obtain ⟨a, mem, -⟩ := occurs
    cases mem
  | cons a rest ih =>
    rw [List.mapM_cons]
    rcases only a List.mem_cons_self with failed | ⟨b, first⟩
    · rw [failed]
      rfl
    · have later : ∃ a ∈ rest, f a = .error failure := by
        obtain ⟨a', mem, failed⟩ := occurs
        rcases List.mem_cons.mp mem with rfl | mem
        · rw [first] at failed
          cases failed
        · exact ⟨a', mem, failed⟩
      rw [first, ih (fun a mem => only a (List.mem_cons_of_mem _ mem)) later]
      rfl

/-! ## Steps with one way to fail -/

/-- The step fails exactly if something is bad, and then in one way. -/
def FailsIff (failure : ε) (bad : Prop) (x : Except ε α) : Prop :=
  (bad ∧ x = .error failure) ∨ (¬ bad ∧ ∃ a, x = .ok a)

section

variable {failure : ε} {bad : Prop} {x : Except ε α}

theorem failsIff_ok (fine : ¬ bad) (a : α) : FailsIff failure bad (.ok a : Except ε α) :=
  .inr ⟨fine, a, rfl⟩

theorem FailsIff.eq_error (h : FailsIff failure bad x) (is_bad : bad) : x = .error failure := by
  rcases h with ⟨-, failed⟩ | ⟨fine, -⟩
  · exact failed
  · exact absurd is_bad fine

theorem FailsIff.exists_ok (h : FailsIff failure bad x) (fine : ¬ bad) : ∃ a, x = .ok a := by
  rcases h with ⟨is_bad, -⟩ | ⟨-, given⟩
  · exact absurd is_bad fine
  · exact given

theorem FailsIff.of_error (h : FailsIff failure bad x) {e : ε} (failed : x = .error e) :
    e = failure ∧ bad := by
  rcases h with ⟨is_bad, rfl⟩ | ⟨fine, a, rfl⟩
  · exact ⟨(Except.error.inj failed).symm, is_bad⟩
  · cases failed

theorem FailsIff.congr {bad' : Prop} (h : FailsIff failure bad x) (same : bad ↔ bad') :
    FailsIff failure bad' x :=
  propext same ▸ h

theorem FailsIff.map (h : FailsIff failure bad x) (f : α → β) :
    FailsIff failure bad (x.map f) := by
  rcases h with ⟨is_bad, rfl⟩ | ⟨fine, a, rfl⟩
  · exact .inl ⟨is_bad, rfl⟩
  · exact .inr ⟨fine, f a, rfl⟩

/-- A list of such steps fails exactly if one of them does. -/
theorem failsIff_mapM {bad : α → Prop} {f : α → Except ε β}
    (each : ∀ a ∈ l, FailsIff failure (bad a) (f a)) :
    FailsIff failure (∃ a ∈ l, bad a) (l.mapM f) := by
  by_cases some_bad : ∃ a ∈ l, bad a
  · obtain ⟨a, mem, is_bad⟩ := some_bad
    refine .inl ⟨⟨a, mem, is_bad⟩, mapM_eq_error (fun b mem => ?_) ⟨a, mem, ?_⟩⟩
    · exact (each b mem).imp And.right And.right
    · exact (each a mem).eq_error is_bad
  · refine .inr ⟨some_bad, exists_mapM_eq_ok fun a mem => ?_⟩
    exact (each a mem).exists_ok fun is_bad => some_bad ⟨a, mem, is_bad⟩

end

/-- A fold that succeeds keeps what every step keeps. -/
theorem foldlM_ok {motive : β → Prop} {f : β → α → Except ε β} {start b : β}
    (step : ∀ b a b', motive b → f b a = .ok b' → motive b') (begins : motive start)
    (ok : l.foldlM f start = .ok b) : motive b := by
  induction l generalizing start with
  | nil =>
    cases ok
    exact begins
  | cons a rest ih =>
    rw [List.foldlM_cons] at ok
    obtain ⟨next, taken, later⟩ := exists_of_bind_ok ok
    exact ih (step start a next begins taken) later

/-- Every member of a list takes part in a fold that succeeds. -/
theorem exists_step_of_mem {f : β → α → Except ε β} {start b : β} (ok : l.foldlM f start = .ok b) :
    ∀ a ∈ l, ∃ before after, f before a = .ok after := by
  induction l generalizing start with
  | nil => exact nofun
  | cons a rest ih =>
    rw [List.foldlM_cons] at ok
    obtain ⟨next, taken, later⟩ := exists_of_bind_ok ok
    exact List.forall_mem_cons.mpr ⟨⟨start, next, taken⟩, ih later⟩

/-- What a fold returns when it succeeds is what the fold of the results of its steps returns. -/
theorem eq_foldl_of_ok {f : β → α → Except ε β} {step : β → α → β} {start b : β}
    (each : ∀ b a b', f b a = .ok b' → b' = step b a) (ok : l.foldlM f start = .ok b) :
    b = l.foldl step start := by
  induction l generalizing start with
  | nil => exact (Except.ok.inj ok).symm
  | cons a rest ih =>
    rw [List.foldlM_cons] at ok
    obtain ⟨next, taken, later⟩ := exists_of_bind_ok ok
    rw [List.foldl_cons, ← each start a next taken]
    exact ih later

end RepoSurvey.Outcome
