import Mathlib.Logic.Function.Iterate
import RepoSurvey.Proofs.Overview.Ring

/-!
# What the search for cycles reports

The search is followed move by move. `Search.Sound` is what holds at every
moment: the way from the root is a path of the graph without repetition, every
node on it has been entered, no node has been entered twice, and whatever has
been reported is a cycle of the graph in its one spelling. Each move keeps it
(`Search.Sound.move`), so a run keeps it, and a run ends with an empty way
(`Search.run_induct`). From there `ImportGraph.search_induct` goes through the
roots in the order of the graph.

`search_reports_cycles` puts this together: a search ends with every node of the graph
entered exactly once, and each cycle it reports is a simple cycle of the
graph, no longer than the limit, written from its least member, and reported
once.
-/

namespace RepoSurvey.Overview

variable {g : ImportGraph} {limit : Option Int}

/-! ## Induction along a search -/

/-- What every move keeps holds at the end of a run, where no node is left on the way. -/
theorem Search.run_induct {motive : Search → Prop}
    (move : ∀ {s s'}, motive s → Move g limit s s' → motive s') {s : Search} (start : motive s) :
    motive (s.run g limit) ∧ (s.run g limit).frames = [] := by
  induction s using Search.run.induct g limit with
  | case1 s stop =>
    rw [Search.run_of_none stop]
    exact ⟨start, Search.step?_eq_none_iff.mp stop⟩
  | case2 s next go ih =>
    rw [Search.run_of_some go]
    exact ih (move start (Search.move_of_step? go))

/-- A search goes through the nodes of the graph in order: one that was entered
before changes nothing, and from another a run is started. -/
theorem ImportGraph.search_induct {motive : List String → Search → Prop} (start : motive [] {})
    (seen : ∀ {before root after s}, g.keys = before ++ root :: after → motive before s →
      root ∈ s.visited → motive (before ++ [root]) s)
    (fresh : ∀ {before root after s}, g.keys = before ++ root :: after → motive before s →
      root ∉ s.visited → motive (before ++ [root]) ((s.enter g root).run g limit)) :
    motive g.keys (g.search limit) := by
  suffices rest : ∀ after before s, g.keys = before ++ after → motive before s →
      motive g.keys (after.foldl (searchFrom g limit) s) from rest g.keys [] {} rfl start
  intro after
  induction after with
  | nil =>
    intro before s keys h
    rw [keys, List.append_nil]
    exact h
  | cons root after ih =>
    intro before s keys h
    refine ih (before ++ [root]) _ (by rw [keys, List.append_assoc, List.singleton_append]) ?_
    unfold searchFrom
    by_cases entered : root ∈ s.visited
    · rw [if_pos (List.contains_iff_mem.mpr entered)]
      exact seen keys h entered
    · rw [if_neg (fun c => entered (List.contains_iff_mem.mp c))]
      exact fresh keys h entered

/-! ## What holds at every moment -/

/-- What is said of every cycle that is reported. -/
structure ImportGraph.Reportable (g : ImportGraph) (limit : Option Int) (ring : List String) : Prop
    extends g.IsCycle ring where
  /-- No member is repeated. -/
  simple : ring.Nodup
  /-- It is written from its least member. -/
  least : ∀ first ∈ ring.head?, ∀ node ∈ ring, first ≤ node
  /-- It is not longer than the limit. -/
  short : ∀ most, limit = some most → (ring.length : Int) ≤ max most 1

/-- What holds at every moment of a search. -/
structure Search.Sound (g : ImportGraph) (limit : Option Int) (s : Search) : Prop where
  /-- No node is twice on the way. -/
  simple : s.path.Nodup
  /-- Each node on the way is a dependency of the one before it. -/
  linked : s.path.IsChain fun inner outer => inner ∈ g.dependencies outer
  /-- What is to be followed is the end of the dependencies of its node. -/
  pending : ∀ f ∈ s.frames, f.pending <:+ g.dependencies f.node
  /-- The way is not longer than the limit. -/
  short : ∀ most, limit = some most → (s.frames.length : Int) ≤ max most 1
  /-- The nodes on the way were entered. -/
  entered : ∀ node ∈ s.path, node ∈ s.visited
  /-- Only nodes of the graph are entered. -/
  known : ∀ node ∈ s.visited, node ∈ g.keys
  /-- No node is entered twice. -/
  once : s.visited.Nodup
  /-- What is reported is a cycle. -/
  reported : ∀ ring ∈ s.cycles, g.Reportable limit ring
  /-- No cycle is reported twice. -/
  distinct : s.cycles.Nodup

namespace Search.Sound

variable {s : Search} {node next : String} {rest : List String} {outer : List Frame}

theorem start : Sound g limit {} := by
  constructor <;> simp [Search.path]

/-- A node that is left takes nothing else with it. -/
theorem leave (h : Sound g limit s) (here : s.frames = ⟨node, []⟩ :: outer) :
    Sound g limit { s with frames := outer } := by
  have path : s.path = node :: Search.path { s with frames := outer } := by
    simp only [Search.path, here, List.map_cons]
  exact {
    simple := (List.nodup_cons.mp (path ▸ h.simple)).2
    linked := (List.isChain_cons.mp (path ▸ h.linked)).2
    pending := fun f hf => h.pending f (here ▸ List.mem_cons_of_mem _ hf)
    short := fun most bound => by
      have le := h.short most bound
      rw [here, List.length_cons] at le
      dsimp only
      omega
    entered := fun n hn => h.entered n (path ▸ List.mem_cons_of_mem _ hn)
    known := h.known
    once := h.once
    reported := h.reported
    distinct := h.distinct }

/-- Taking a dependency off the current node changes no node on the way. -/
theorem advance (h : Sound g limit s) (here : s.frames = ⟨node, next :: rest⟩ :: outer) :
    Sound g limit { s with frames := ⟨node, rest⟩ :: outer } := by
  have path := Search.path_advance here
  exact {
    simple := path ▸ h.simple
    linked := path ▸ h.linked
    pending := fun f hf => by
      rcases List.mem_cons.mp hf with rfl | hf
      · exact (List.suffix_cons next rest).trans (h.pending ⟨node, next :: rest⟩ (by simp [here]))
      · exact h.pending f (here ▸ List.mem_cons_of_mem _ hf)
    short := fun most bound => by simpa [here] using h.short most bound
    entered := fun n hn => h.entered n (path ▸ hn)
    known := h.known
    once := h.once
    reported := h.reported
    distinct := h.distinct }

/-- The dependency that comes next is one of the current node. -/
theorem next_mem (h : Sound g limit s) (here : s.frames = ⟨node, next :: rest⟩ :: outer) :
    next ∈ g.dependencies node :=
  (h.pending ⟨node, next :: rest⟩ (by simp [here])).subset List.mem_cons_self

/-- The part of the way that a dependency closes is a cycle worth reporting. -/
theorem reportable (h : Sound g limit s)
    (closing : ∀ current ∈ s.path.head?, next ∈ g.dependencies current) (back : next ∈ s.path) :
    g.Reportable limit (rotated (pathFrom s.path next)) := by
  obtain ⟨n, turn⟩ := rotated_eq_rotate (pathFrom s.path next)
  have begins := reverse_pathFrom_prefix back
  have cycle : g.IsCycle (pathFrom s.path next) := {
    nonempty := by simp [pathFrom]
    known := fun x hx =>
      h.known x (h.entered x (begins.subset (List.mem_reverse.mpr hx)))
    linked := linked_pathFrom h.linked closing back }
  have length : (pathFrom s.path next).length ≤ s.frames.length := by
    simpa [Search.path] using begins.length_le
  exact {
    toIsCycle := turn ▸ cycle.rotate n
    simple := by
      rw [turn, List.nodup_rotate, ← List.nodup_reverse]
      exact h.simple.sublist begins.sublist
    least := fun first head x hx =>
      head_rotated_le head (by rwa [turn, List.mem_rotate] at hx)
    short := fun most bound => by
      have le := h.short most bound
      rw [turn, List.length_rotate]
      omega }

/-- Reporting a cycle keeps what was reported apart. -/
theorem close (h : Sound g limit s)
    (closing : ∀ current ∈ s.path.head?, next ∈ g.dependencies current) (back : next ∈ s.path) :
    Sound g limit (s.close next) := by
  have new := h.reportable closing back
  unfold Search.close
  dsimp only
  split
  · exact h
  · next absent =>
    exact { h with
      reported := fun ring mem => by
        rcases List.mem_append.mp mem with old | mem
        · exact h.reported ring old
        · exact List.mem_singleton.mp mem ▸ new
      distinct := by
        refine List.nodup_append'.mpr ⟨h.distinct, List.nodup_singleton _, ?_⟩
        rw [List.disjoint_singleton]
        exact fun mem => absent (List.contains_iff_mem.mpr mem) }

/-- A new node at the end of the way keeps the way a path. -/
theorem enter (h : Sound g limit s) (known : next ∈ g.keys) (fresh : next ∉ s.visited)
    (step : ∀ current ∈ s.path.head?, next ∈ g.dependencies current)
    (room : s.frames = [] ∨ mayGrow limit s.frames.length = true) :
    Sound g limit (s.enter g next) where
  simple := List.nodup_cons.mpr ⟨fun mem => fresh (h.entered next mem), h.simple⟩
  linked := List.isChain_cons.mpr ⟨step, h.linked⟩
  pending := fun f hf => by
    rcases List.mem_cons.mp hf with rfl | hf
    · exact List.suffix_refl _
    · exact h.pending f hf
  short := fun most bound => by
    simp only [Search.enter, List.length_cons]
    rcases room with none | room
    · rw [none, List.length_nil]
      omega
    · simp only [mayGrow, bound, decide_eq_true_eq] at room
      omega
  entered := fun n hn => by
    rcases List.mem_cons.mp hn with rfl | hn
    · exact List.mem_cons_self
    · exact List.mem_cons_of_mem _ (h.entered n hn)
  known := fun n hn => by
    rcases List.mem_cons.mp hn with rfl | hn
    · exact known
    · exact h.known n hn
  once := List.nodup_cons.mpr ⟨fresh, h.once⟩
  reported := h.reported
  distinct := h.distinct

/-- Every move keeps what holds at every moment. -/
theorem move {s' : Search} (h : Sound g limit s) (m : Move g limit s s') : Sound g limit s' := by
  cases m with
  | leave here => exact h.leave here
  | foreign here => exact h.advance here
  | settled here => exact h.advance here
  | refuse here => exact h.advance here
  | @close node next rest outer here _ back =>
    refine (h.advance here).close (fun current head => ?_) (Search.path_advance here ▸ back)
    obtain rfl : node = current := Option.some.inj head
    exact h.next_mem here
  | @enter node next rest outer here known _ fresh room =>
    refine (h.advance here).enter (ImportGraph.has_iff_mem_keys.mp known) fresh
      (fun current head => ?_) (.inr (by simpa [here] using room))
    obtain rfl : node = current := Option.some.inj head
    exact h.next_mem here

/-- A run keeps it, and ends with an empty way. -/
theorem run (h : Sound g limit s) :
    Sound g limit (s.run g limit) ∧ (s.run g limit).frames = [] :=
  Search.run_induct (fun h m => h.move m) h

end Search.Sound

/-! ## Nodes stay entered -/

/-- No move takes back that a node was entered. -/
theorem Move.visited_subset {s s' : Search} (m : Move g limit s s') : s.visited ⊆ s'.visited := by
  cases m with
  | leave | foreign | settled | refuse => exact List.Subset.refl _
  | close =>
    rw [Search.visited_close]
    exact List.Subset.refl _
  | enter => exact List.subset_cons_self _ _

/-- A run from a new node ends with that node and all earlier ones entered. -/
theorem Search.visited_subset_run (g : ImportGraph) (limit : Option Int) (s : Search)
    (root : String) : root :: s.visited ⊆ ((s.enter g root).run g limit).visited :=
  (Search.run_induct (motive := fun t => root :: s.visited ⊆ t.visited)
    (fun h m => List.Subset.trans h m.visited_subset) (List.Subset.refl _)).1

/-! ## Whole searches -/

/-- What holds between two runs, where `before` are the nodes of the graph that
have had their turn as roots. -/
structure Search.Resting (g : ImportGraph) (limit : Option Int) (before : List String)
    (s : Search) : Prop where
  /-- The reports are cycles. -/
  sound : s.Sound g limit
  /-- No node is on the way. -/
  ended : s.frames = []
  /-- The nodes that have had their turn were entered. -/
  covered : before ⊆ s.visited

namespace Search.Resting

variable {s : Search} {before : List String} {root : String}

theorem start : Resting g limit [] {} :=
  ⟨.start, rfl, List.nil_subset _⟩

/-- A root that was entered before has had its turn. -/
theorem seen (h : Resting g limit before s) (entered : root ∈ s.visited) :
    Resting g limit (before ++ [root]) s :=
  ⟨h.sound, h.ended, List.append_subset.mpr ⟨h.covered, by simpa using entered⟩⟩

/-- A run can start at a new root. -/
theorem enter (h : Resting g limit before s) (known : root ∈ g.keys) (fresh : root ∉ s.visited) :
    Sound g limit (s.enter g root) :=
  h.sound.enter known fresh (by simp [Search.path, h.ended]) (.inl h.ended)

/-- A run from a new root gives it its turn. -/
theorem run (h : Resting g limit before s) (known : root ∈ g.keys) (fresh : root ∉ s.visited) :
    Resting g limit (before ++ [root]) ((s.enter g root).run g limit) := by
  obtain ⟨sound, ended⟩ := (h.enter known fresh).run
  have kept := Search.visited_subset_run g limit s root
  refine ⟨sound, ended, List.append_subset.mpr ⟨fun n hn => ?_, ?_⟩⟩
  · exact kept (List.mem_cons_of_mem _ (h.covered hn))
  · simpa using kept List.mem_cons_self

end Search.Resting

/-- At the end of a search every node of the graph has had its turn. -/
theorem ImportGraph.search_resting (g : ImportGraph) (limit : Option Int) :
    (g.search limit).Resting g limit g.keys :=
  ImportGraph.search_induct (motive := fun before s => s.Resting g limit before) .start
    (fun _ h entered => h.seen entered) (fun keys h fresh => h.run (by simp [keys]) fresh)

/-! ## The number of steps -/

/-- A run is a number of steps, at most as many as there is work. -/
theorem Search.run_eq_iterate (g : ImportGraph) (limit : Option Int) (s : Search) :
    ∃ n ≤ s.work g, s.run g limit = (fun t => (t.step? g limit).getD t)^[n] s := by
  induction s using Search.run.induct g limit with
  | case1 s stop => exact ⟨0, Nat.zero_le _, Search.run_of_none stop⟩
  | case2 s next go ih =>
    obtain ⟨n, le, same⟩ := ih
    have less := Search.work_step? go
    refine ⟨n + 1, by omega, ?_⟩
    rw [Search.run_of_some go, same, Function.iterate_succ_apply, go, Option.getD_some]

/-! ## The reports -/

/-- From every state the search runs out of steps, after at most as many as
there is work. It ends with nothing left on its way and every node of the graph
entered exactly once. Each cycle it reports has members, all of them distinct
nodes of the graph, each with the next one among its dependencies and the last
with the first; it is written from its least member and is not longer than the
limit; and no cycle is reported twice. -/
theorem search_reports_cycles (g : ImportGraph) (limit : Option Int) :
    (∀ s : Search, ∃ n ≤ s.work g, ((fun t => (t.step? g limit).getD t)^[n] s).frames = []) ∧
      (g.search limit).frames = [] ∧
      (g.search limit).visited.Nodup ∧
      (∀ node, node ∈ (g.search limit).visited ↔ node ∈ g.keys) ∧
      (∀ ring ∈ g.cycles limit,
        ring ≠ [] ∧ ring.Nodup ∧ (∀ node ∈ ring, node ∈ g.keys) ∧
        (∀ p ∈ ringPairs ring, p.2 ∈ g.dependencies p.1) ∧
        (∀ first ∈ ring.head?, ∀ node ∈ ring, first ≤ node) ∧
        (∀ most, limit = some most → (ring.length : Int) ≤ max most 1)) ∧
      (g.cycles limit).Nodup := by
  obtain ⟨sound, ended, covered⟩ := g.search_resting limit
  refine ⟨fun s => ?_, ended, sound.once,
    fun node => ⟨sound.known node, fun mem => covered mem⟩, fun ring mem => ?_, sound.distinct⟩
  · obtain ⟨n, le, same⟩ := s.run_eq_iterate g limit
    refine ⟨n, le, same ▸ ?_⟩
    exact (Search.run_induct (motive := fun _ => True) (fun _ _ => trivial) trivial).2
  · have ok := sound.reported ring mem
    exact ⟨ok.nonempty, ok.simple, ok.known, ok.linked, ok.least, ok.short⟩

end RepoSurvey.Overview
