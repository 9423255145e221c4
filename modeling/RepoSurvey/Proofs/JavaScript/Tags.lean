import RepoSurvey.Proofs.JavaScript.Keeping

/-!
# Which tags reach the analysis

`Speaks` lists, pattern by pattern, the matches in the code of a source that
are to leave a tag or a hint, and what each leaves. Passed over are the hooks
that a pair speaks for already, the setters of the platform, and messages
between processes that are met again as calls of an emitter. The signals of a
source are these matches and no others (`mem_signals_iff`).

A tag or hint is in a container of the analysis exactly when a match that
leaves it belongs to a place that is kept (`trace_in_container_iff`). What is
found in a function that is not the first with its signature, or in a member
of a class that is not the first with its name, goes with it unless it is also
found elsewhere (`tag_of_second_helper_lost`).
-/

namespace RepoSurvey.JavaScript

open Text (Pattern Match)

/-! ## Matches that speak -/

/-- A match in the code and the mark it is to leave, pattern by pattern. -/
inductive Speaks (code : Array Char) : Match → Mark → Prop
  /-- A pair bound to a state hook. -/
  | pair {m : Match} (found : m ∈ stateDestructured.findAll code) :
    Speaks code m (.state (destructuredTag (m.group code 1) (m.group? code 2) (m.group code 3)))
  /-- A call of a state hook, unless a pair is bound to it. -/
  | hook {m : Match} (found : m ∈ stateHook.findAll code)
    (free : ∀ own ∈ m.place? 1, ∀ pair ∈ stateDestructured.findAll code,
      ∀ bound ∈ pair.place? 3, bound.1 ≠ own.1) :
    Speaks code m (.state (m.group code 1))
  /-- A call of a component's state setter. -/
  | setState {m : Match} (found : m ∈ setStateCall.findAll code) :
    Speaks code m (.state (setStateTag (m.group? code 1)))
  /-- A dispatched action. -/
  | dispatch {m : Match} (found : m ∈ dispatchCall.findAll code) :
    Speaks code m (.state (dispatchTag (m.group? code 1) (m.group? code 2)))
  /-- A call of a setter, unless it is one of the platform. -/
  | setter {m : Match} (found : m ∈ setterCall.findAll code)
    (own : m.group code 1 ∉ platformSetters) :
    Speaks code m (.state (m.group code 1 ++ "("))
  /-- A call that makes or changes observable state. -/
  | observable {m : Match} (found : m ∈ observableCall.findAll code) :
    Speaks code m (.state (m.group code 1 ++ "("))
  /-- A handler property in markup. -/
  | property {m : Match} (found : m ∈ handlerProperty.findAll code) :
    Speaks code m (.event (m.group code 1))
  /-- A listener added to an element. -/
  | listener {m : Match} (found : m ∈ listenerCall.findAll code) :
    Speaks code m (.event ("addEventListener('" ++ m.group code 1 ++ "')"))
  /-- A handler assigned to an element. -/
  | assignment {m : Match} (found : m ∈ handlerAssignment.findAll code) :
    Speaks code m (.event (m.group code 1 ++ "="))
  /-- A message between processes. -/
  | channel {m : Match} (found : m ∈ channelCall.findAll code) :
    Speaks code m
      (.event (m.group code 1 ++ "." ++ m.group code 2 ++ "('" ++ m.group code 3 ++ "')"))
  /-- An emitter's call, unless it is a message between processes. -/
  | emitter {m : Match} (found : m ∈ emitterCall.findAll code)
    (new : ∀ message ∈ channelCall.findAll code, message.start ≠ m.start) :
    Speaks code m (.event ("." ++ m.group code 2 ++ "('" ++ m.group code 3 ++ "')"))
  /-- A route declared by a call. -/
  | route {m : Match} (found : m ∈ routeCall.findAll code) :
    Speaks code m (.route (routeKind (m.group code 1)) (Text.upper (m.group code 2))
      (m.group code 4))

section

variable {code : Array Char} {s : Signal}

/-- The signals of one pattern are its matches that leave a mark. -/
theorem mem_signalsOf {p : Pattern} {mark : Match → Option Mark} :
    s ∈ signalsOf p code mark ↔
      ∃ m ∈ p.findAll code, mark m = some s.mark ∧ m.start = s.position := by
  obtain ⟨position, left⟩ := s
  simp only [signalsOf, List.mem_filterMap, Option.map_eq_some_iff, Signal.mk.injEq]
  constructor
  · rintro ⟨m, found, _, leaves, rfl, rfl⟩
    exact ⟨m, found, leaves, rfl⟩
  · rintro ⟨m, found, leaves, rfl⟩
    exact ⟨m, found, left, leaves, rfl, rfl⟩

/-- A hook is passed over when a pair is bound to it. -/
theorem hook_claimed_iff {m : Match} :
    ((m.place? 1).any fun place => (claimedHooks code).contains place.1) = true ↔
      ∃ own ∈ m.place? 1, ∃ pair ∈ stateDestructured.findAll code,
        ∃ bound ∈ pair.place? 3, bound.1 = own.1 := by
  simp only [Option.any_eq_true, List.contains_iff_mem, claimedHooks, List.mem_filterMap,
    Option.map_eq_some_iff, Option.mem_def]

/-- A match that speaks, as one that leaves the mark of a signal. -/
theorem Speaks.exists_of_leaves {m : Match} {mark : Mark} (h : Speaks code m mark)
    (leaves : some mark = some s.mark) (place : m.start = s.position) :
    ∃ m, Speaks code m s.mark ∧ m.start = s.position :=
  ⟨m, Option.some.inj leaves ▸ h, place⟩

/-- A signal of state is a match that speaks. -/
theorem exists_speaks_of_state (mem : s ∈ stateSignals code) :
    ∃ m, Speaks code m s.mark ∧ m.start = s.position := by
  simp only [stateSignals, List.mem_append, mem_signalsOf, or_assoc, Option.ite_none_left_eq_some,
    hook_claimed_iff, List.contains_iff_mem] at mem
  rcases mem with ⟨m, found, leaves, place⟩ | ⟨m, found, ⟨free, leaves⟩, place⟩ |
    ⟨m, found, leaves, place⟩ | ⟨m, found, leaves, place⟩ | ⟨m, found, ⟨own, leaves⟩, place⟩ |
    ⟨m, found, leaves, place⟩
  · exact (Speaks.pair found).exists_of_leaves leaves place
  · refine (Speaks.hook found ?_).exists_of_leaves leaves place
    intro own owns pair known bound binds same
    exact free ⟨own, owns, pair, known, bound, binds, same⟩
  · exact (Speaks.setState found).exists_of_leaves leaves place
  · exact (Speaks.dispatch found).exists_of_leaves leaves place
  · exact (Speaks.setter found own).exists_of_leaves leaves place
  · exact (Speaks.observable found).exists_of_leaves leaves place

/-- A signal of an event is a match that speaks. -/
theorem exists_speaks_of_event (mem : s ∈ eventSignals code) :
    ∃ m, Speaks code m s.mark ∧ m.start = s.position := by
  simp only [eventSignals, List.mem_append, mem_signalsOf, or_assoc, Option.ite_none_left_eq_some,
    List.contains_iff_mem, List.mem_map] at mem
  rcases mem with ⟨m, found, leaves, place⟩ | ⟨m, found, leaves, place⟩ |
    ⟨m, found, leaves, place⟩ | ⟨m, found, leaves, place⟩ | ⟨m, found, ⟨new, leaves⟩, place⟩
  · exact (Speaks.property found).exists_of_leaves leaves place
  · exact (Speaks.listener found).exists_of_leaves leaves place
  · exact (Speaks.assignment found).exists_of_leaves leaves place
  · exact (Speaks.channel found).exists_of_leaves leaves place
  · refine (Speaks.emitter found ?_).exists_of_leaves leaves place
    intro message known same
    exact new ⟨message, known, same⟩

/-- A signal of a route is a match that speaks. -/
theorem exists_speaks_of_route (mem : s ∈ routeSignals code) :
    ∃ m, Speaks code m s.mark ∧ m.start = s.position := by
  obtain ⟨m, found, leaves, place⟩ := mem_signalsOf.mp mem
  exact (Speaks.route found).exists_of_leaves leaves place

/-- A match that speaks is a signal. -/
theorem Speaks.mem_signals {m : Match} {mark : Mark} (h : Speaks code m mark) :
    ⟨m.start, mark⟩ ∈ signals code := by
  have ofState {s : Signal} (mem : s ∈ stateSignals code) : s ∈ signals code :=
    List.mem_append_left _ (List.mem_append_left _ mem)
  have ofEvent {s : Signal} (mem : s ∈ eventSignals code) : s ∈ signals code :=
    List.mem_append_left _ (List.mem_append_right _ mem)
  simp only [stateSignals, eventSignals, List.mem_append, mem_signalsOf, or_assoc,
    Option.ite_none_left_eq_some, hook_claimed_iff, List.contains_iff_mem, List.mem_map]
    at ofState ofEvent
  cases h with
  | pair found => exact ofState (.inl ⟨m, found, rfl, rfl⟩)
  | hook found free =>
    have new : ¬ ∃ own ∈ m.place? 1, ∃ pair ∈ stateDestructured.findAll code,
        ∃ bound ∈ pair.place? 3, bound.1 = own.1 := by
      rintro ⟨own, owns, pair, known, bound, binds, same⟩
      exact free own owns pair known bound binds same
    exact ofState (.inr (.inl ⟨m, found, ⟨new, rfl⟩, rfl⟩))
  | setState found => exact ofState (.inr (.inr (.inl ⟨m, found, rfl, rfl⟩)))
  | dispatch found => exact ofState (.inr (.inr (.inr (.inl ⟨m, found, rfl, rfl⟩))))
  | setter found own => exact ofState (.inr (.inr (.inr (.inr (.inl ⟨m, found, ⟨own, rfl⟩, rfl⟩)))))
  | observable found => exact ofState (.inr (.inr (.inr (.inr (.inr ⟨m, found, rfl, rfl⟩)))))
  | property found => exact ofEvent (.inl ⟨m, found, rfl, rfl⟩)
  | listener found => exact ofEvent (.inr (.inl ⟨m, found, rfl, rfl⟩))
  | assignment found => exact ofEvent (.inr (.inr (.inl ⟨m, found, rfl, rfl⟩)))
  | channel found => exact ofEvent (.inr (.inr (.inr (.inl ⟨m, found, rfl, rfl⟩))))
  | emitter found new =>
    have fresh : ¬ ∃ message ∈ channelCall.findAll code, message.start = m.start := by
      rintro ⟨message, known, same⟩
      exact new message known same
    exact ofEvent (.inr (.inr (.inr (.inr ⟨m, found, ⟨fresh, rfl⟩, rfl⟩))))
  | route found => exact List.mem_append_right _ (mem_signalsOf.mpr ⟨m, found, rfl, rfl⟩)

/-- The signals of a source are the matches that speak. -/
theorem mem_signals_iff :
    s ∈ signals code ↔ ∃ m, Speaks code m s.mark ∧ m.start = s.position := by
  constructor
  · intro mem
    rcases List.mem_append.mp mem with other | route
    · rcases List.mem_append.mp other with state | event
      · exact exists_speaks_of_state state
      · exact exists_speaks_of_event event
    · exact exists_speaks_of_route route
  · rintro ⟨m, speaks, place⟩
    have mem := speaks.mem_signals
    rwa [place] at mem

end

/-! ## Tags in containers -/

/-- Of a source that is read, a container holds a tag or hint exactly when a
match that leaves it lies in a callable that is kept, or at the top level. -/
theorem trace_in_container_iff {content path : String} {a : FileAnalysis}
    (parsed : parse content path = .ok a) :
    ∃ m, mask content.toList = .ok m ∧ ∀ t : Trace,
      (∃ c ∈ Detection.containers a, t.isIn c.info) ↔
        ∃ found mark, Speaks m.code found mark ∧ mark.trace (lineAt m.code found.start) = t ∧
          m.declarations.Kept (owner m.declarations.spans m.code.size found.start) := by
  obtain ⟨m, masked, rfl⟩ := parse_eq_ok_iff.mp parsed
  refine ⟨m, masked, fun t => ⟨?_, ?_⟩⟩
  · rintro ⟨c, mem, held⟩
    obtain ⟨place, kept, filled, -⟩ := exists_container_iff_kept.mp ⟨c, mem, rfl⟩
    obtain ⟨s, signal, owned, leaves⟩ := (Trace.isIn_written m.untouched filled).mp held
    obtain ⟨found, speaks, start⟩ := mem_signals_iff.mp signal
    rw [← start] at owned leaves
    exact ⟨found, s.mark, speaks, leaves, owned ▸ kept⟩
  · rintro ⟨found, mark, speaks, leaves, kept⟩
    obtain ⟨f, filled⟩ := kept.exists_written m.code
    have held : t.isIn f :=
      (Trace.isIn_written m.untouched filled).mpr ⟨_, speaks.mem_signals, rfl, leaves⟩
    obtain ⟨c, mem, rfl⟩ := exists_container_iff_kept.mpr
      ⟨_, kept, filled, fun _ => carriesSignal_iff.mpr ⟨t, held⟩⟩
    exact ⟨c, mem, held⟩

/-- Two functions with a helper each; the helpers have one signature, and the
second calls a setter. -/
def twoHelpers : String :=
  "function a()\x7bfunction g()\x7b\x7d\x7dfunction b()\x7bfunction g()\x7bsetX()\x7d\x7d"

/-- The source with two helpers has nothing to mask. -/
def twoHelpersMasked : Masked where
  code := twoHelpers.toList.toArray
  skeleton := twoHelpers.toList.toArray

/-- The source with two helpers is read. -/
theorem mask_twoHelpers : mask twoHelpers.toList = .ok twoHelpersMasked := by
  have read : (mask twoHelpers.toList).toOption = some twoHelpersMasked := by decide +kernel
  cases masked : mask twoHelpers.toList with
  | error e =>
    rw [masked] at read
    cases read
  | ok m =>
    rw [masked] at read
    exact congrArg Except.ok (Option.some.inj read)

/-- The analysis of the source with two helpers. -/
theorem parse_twoHelpers (path : String) :
    parse twoHelpers path = .ok (analyse twoHelpersMasked path) :=
  parse_eq_ok_iff.mpr ⟨twoHelpersMasked, mask_twoHelpers, rfl⟩

/-- A source that is read: two functions with a helper each. -/
theorem trace_in_container_iff_of_two_helpers :
    parse twoHelpers "a.js" = .ok (analyse twoHelpersMasked "a.js") ∧
    ∃ m, mask twoHelpers.toList = .ok m ∧ ∀ t : Trace,
      (∃ c ∈ Detection.containers (analyse twoHelpersMasked "a.js"), t.isIn c.info) ↔
        ∃ found mark, Speaks m.code found mark ∧ mark.trace (lineAt m.code found.start) = t ∧
          m.declarations.Kept (owner m.declarations.spans m.code.size found.start) :=
  ⟨parse_twoHelpers "a.js", trace_in_container_iff (parse_twoHelpers "a.js")⟩

/-- The tag of the second of two helpers with one signature is in no container,
although they stand in different functions. -/
theorem tag_of_second_helper_lost :
    ¬ ∀ (content path : String) (a : FileAnalysis) (m : Masked),
      parse content path = .ok a → mask content.toList = .ok m →
        ∀ found mark, Speaks m.code found mark →
          ∃ c ∈ Detection.containers a, (mark.trace (lineAt m.code found.start)).isIn c.info := by
  intro claim
  have signal : ⟨54, .state "setX("⟩ ∈ signals twoHelpersMasked.code := by decide +kernel
  have lost : ∀ c ∈ Detection.containers (analyse twoHelpersMasked "a.js"),
      "setX(" ∉ c.info.stateTags := by decide +kernel
  obtain ⟨found, speaks, -⟩ := mem_signals_iff.mp signal
  obtain ⟨c, mem, held⟩ :=
    claim twoHelpers "a.js" _ _ (parse_twoHelpers "a.js") mask_twoHelpers found _ speaks
  exact lost c mem held

end RepoSurvey.JavaScript
