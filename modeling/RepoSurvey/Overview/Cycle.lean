import RepoSurvey.Overview.ImportGraph

/-!
# Circular dependencies

A depth-first search that enters every node once. The nodes on the way from
the root to the current node form a path, and an import that leads back to a
node of the path closes a cycle: the part of the path from that node on. A
cycle is written from its least member, so each is reported once. Only nodes
of the graph are entered, and no path grows longer than a limit allows.

The search is a machine. Its state is the way from the root to the current
node, each node with the dependencies of it that are still to be followed.
`Search.step?` follows one dependency of the innermost node, or leaves that
node when it has none left, and `Move` says once and for all what a step can
do. Every step uses up work of which a graph holds only so much
(`work_step?`): one unit for each node that is left and one for each
dependency that is followed. So a search ends, and needs no fuel.
-/

namespace RepoSurvey.Overview

/-! ## Cycles in normal form -/

/-- The least of a text and others. -/
def leastOf (label : String) (others : List String) : String :=
  others.foldl (fun best other => if other < best then other else best) label

/-- The cycle written from its least member. -/
def rotated : List String → List String
  | [] => []
  | first :: others =>
    let least := leastOf first others
    (first :: others).dropWhile (· != least) ++ (first :: others).takeWhile (· != least)

/-- The part of a path, given innermost node first, from `node` to its innermost node. -/
def pathFrom (path : List String) (node : String) : List String :=
  (path.takeWhile (· != node) ++ [node]).reverse

/-! ## The search -/

/-- The dependencies of a node. -/
def ImportGraph.dependencies (g : ImportGraph) (node : String) : List String :=
  (g.get? node).getD []

/-- A node on the way, and the dependencies of it that are still to be followed. -/
structure Frame where
  /-- The node. -/
  node : String
  /-- What is left of its dependencies. -/
  pending : List String
  deriving Repr

/-- A search at one moment. -/
structure Search where
  /-- The way from the root to the current node, innermost first. -/
  frames : List Frame := []
  /-- The nodes that were entered, latest first. -/
  visited : List String := []
  /-- The cycles that were found, in order. -/
  cycles : List (List String) := []
  deriving Repr

/-- The nodes on the way, innermost first. -/
def Search.path (s : Search) : List String :=
  s.frames.map (·.node)

/-- Notes the cycle that an import of `node` by the current node closes. -/
def Search.close (s : Search) (node : String) : Search :=
  let cycle := rotated (pathFrom s.path node)
  if s.cycles.contains cycle then s else { s with cycles := s.cycles ++ [cycle] }

/-- Reporting a cycle moves nothing. -/
@[simp] theorem Search.frames_close (s : Search) (node : String) :
    (s.close node).frames = s.frames := by
  unfold Search.close
  dsimp only
  split <;> rfl

/-- Reporting a cycle enters nothing. -/
@[simp] theorem Search.visited_close (s : Search) (node : String) :
    (s.close node).visited = s.visited := by
  unfold Search.close
  dsimp only
  split <;> rfl

/-- Reporting a cycle adds that cycle to the reports and nothing else. -/
theorem Search.mem_cycles_close {s : Search} {node : String} {ring : List String} :
    ring ∈ (s.close node).cycles ↔ ring ∈ s.cycles ∨ ring = rotated (pathFrom s.path node) := by
  unfold Search.close
  dsimp only
  split
  · next there =>
    refine ⟨.inl, fun h => h.elim id fun same => ?_⟩
    exact same ▸ List.contains_iff_mem.mp there
  · simp only [List.mem_append, List.mem_singleton]

/-- Enters a node. -/
def Search.enter (s : Search) (g : ImportGraph) (node : String) : Search :=
  { s with frames := ⟨node, g.dependencies node⟩ :: s.frames, visited := node :: s.visited }

/-- A path of this length may grow. -/
def mayGrow (limit : Option Int) (length : Nat) : Bool :=
  match limit with
  | some most => decide ((length : Int) < most)
  | none => true

/-- Follows a dependency of the current node. -/
def Search.follow (s : Search) (g : ImportGraph) (limit : Option Int) (node : String) : Search :=
  if !g.has node then s
  else if s.path.contains node then s.close node
  else if s.visited.contains node || !mayGrow limit s.frames.length then s
  else s.enter g node

/-- One step: the next dependency of the current node is followed, or the node
is left. There is no step when the way is empty. -/
def Search.step? (g : ImportGraph) (limit : Option Int) (s : Search) : Option Search :=
  match s.frames with
  | [] => none
  | ⟨_, []⟩ :: outer => some { s with frames := outer }
  | ⟨node, next :: rest⟩ :: outer =>
    some (Search.follow { s with frames := ⟨node, rest⟩ :: outer } g limit next)

/-! ## What a step can do -/

/-- The steps of a search, each with what makes it the one that is taken. -/
inductive Move (g : ImportGraph) (limit : Option Int) (s : Search) : Search → Prop
  /-- The current node has nothing left to follow and is left. -/
  | leave {node : String} {outer : List Frame} (here : s.frames = ⟨node, []⟩ :: outer) :
    Move g limit s { s with frames := outer }
  /-- The dependency is no node of the graph. -/
  | foreign {node next : String} {rest : List String} {outer : List Frame}
    (here : s.frames = ⟨node, next :: rest⟩ :: outer) (unknown : g.has next = false) :
    Move g limit s { s with frames := ⟨node, rest⟩ :: outer }
  /-- The dependency is on the way and closes a cycle. -/
  | close {node next : String} {rest : List String} {outer : List Frame}
    (here : s.frames = ⟨node, next :: rest⟩ :: outer) (known : g.has next = true)
    (back : next ∈ s.path) :
    Move g limit s (Search.close { s with frames := ⟨node, rest⟩ :: outer } next)
  /-- The dependency was entered before and left. -/
  | settled {node next : String} {rest : List String} {outer : List Frame}
    (here : s.frames = ⟨node, next :: rest⟩ :: outer) (known : g.has next = true)
    (aside : next ∉ s.path) (seen : next ∈ s.visited) :
    Move g limit s { s with frames := ⟨node, rest⟩ :: outer }
  /-- The dependency is new and the path may not grow. -/
  | refuse {node next : String} {rest : List String} {outer : List Frame}
    (here : s.frames = ⟨node, next :: rest⟩ :: outer) (known : g.has next = true)
    (fresh : next ∉ s.visited) (full : mayGrow limit s.frames.length = false) :
    Move g limit s { s with frames := ⟨node, rest⟩ :: outer }
  /-- The dependency is new and is entered. -/
  | enter {node next : String} {rest : List String} {outer : List Frame}
    (here : s.frames = ⟨node, next :: rest⟩ :: outer) (known : g.has next = true)
    (aside : next ∉ s.path) (fresh : next ∉ s.visited)
    (room : mayGrow limit s.frames.length = true) :
    Move g limit s (Search.enter { s with frames := ⟨node, rest⟩ :: outer } g next)

/-- Following a dependency advances the current node and never anything else on the way. -/
theorem Search.path_advance {s : Search} {node next : String} {rest : List String}
    {outer : List Frame} (here : s.frames = ⟨node, next :: rest⟩ :: outer) :
    Search.path { s with frames := ⟨node, rest⟩ :: outer } = s.path := by
  simp only [Search.path, here, List.map_cons]

/-- A step is one of the moves. -/
theorem Search.move_of_step? {g : ImportGraph} {limit : Option Int} {s s' : Search}
    (h : s.step? g limit = some s') : Move g limit s s' := by
  unfold Search.step? at h
  split at h
  · cases h
  · next node outer here =>
    cases h
    exact .leave here
  · next node next rest outer here =>
    have advance := Search.path_advance here
    have length : s.frames.length = outer.length + 1 := by rw [here, List.length_cons]
    cases h
    unfold Search.follow
    rw [advance]
    split
    · next unknown => exact .foreign here (by simpa using unknown)
    · next known =>
      have known : g.has next = true := by simpa using known
      split
      · next back => exact .close here known (by simpa using back)
      · next aside =>
        have aside : next ∉ s.path := by simpa using aside
        split
        · next stop =>
          simp only [Bool.or_eq_true, List.contains_iff_mem, Bool.not_eq_true',
            List.length_cons] at stop
          by_cases seen : next ∈ s.visited
          · exact .settled here known aside seen
          · exact .refuse here known seen (length ▸ stop.resolve_left seen)
        · next go =>
          simp only [Bool.or_eq_true, List.contains_iff_mem, Bool.not_eq_true',
            List.length_cons, not_or, Bool.not_eq_false] at go
          exact .enter here known aside go.1 (length ▸ go.2)

/-- A search has no step left exactly when its way is empty. -/
theorem Search.step?_eq_none_iff {g : ImportGraph} {limit : Option Int} {s : Search} :
    s.step? g limit = none ↔ s.frames = [] := by
  unfold Search.step?
  split <;> simp_all

/-! ## The work that is left -/

/-- The work that a node makes: each of its dependencies, and leaving it. -/
def ImportGraph.load (g : ImportGraph) (node : String) : Nat :=
  (g.dependencies node).length + 1

/-- The work that is left on the way. -/
def workOn : List Frame → Nat
  | [] => 0
  | f :: outer => f.pending.length + 1 + workOn outer

/-- The work in those of the nodes that were not visited. -/
def workAhead (g : ImportGraph) (visited : List String) : List String → Nat
  | [] => 0
  | node :: rest => (if node ∈ visited then 0 else g.load node) + workAhead g visited rest

/-- The work that is left for a search. -/
def Search.work (g : ImportGraph) (s : Search) : Nat :=
  workOn s.frames + workAhead g s.visited g.keys

/-- Visiting a node makes no work. -/
theorem workAhead_visit_le (g : ImportGraph) (visited nodes : List String) (node : String) :
    workAhead g (node :: visited) nodes ≤ workAhead g visited nodes := by
  induction nodes with
  | nil => exact Nat.le_refl _
  | cons first rest ih =>
    simp only [workAhead, List.mem_cons]
    by_cases seen : first ∈ visited
    · simpa only [seen, or_true, ↓reduceIte, Nat.zero_add] using ih
    · rw [if_neg seen]
      split <;> omega

/-- Visiting a new node of the list takes its load from the work ahead. -/
theorem workAhead_visit {g : ImportGraph} {visited nodes : List String} {node : String}
    (known : node ∈ nodes) (fresh : node ∉ visited) :
    workAhead g (node :: visited) nodes + g.load node ≤ workAhead g visited nodes := by
  induction nodes with
  | nil => cases known
  | cons first rest ih =>
    by_cases same : first = node
    · subst same
      have rest_le := workAhead_visit_le g visited rest first
      simp only [workAhead, List.mem_cons, true_or, ↓reduceIte, if_neg fresh]
      omega
    · have later := ih ((List.mem_cons.mp known).resolve_left (Ne.symm same))
      simp only [workAhead, List.mem_cons, same, false_or]
      omega

/-- A node that the graph has is one of its keys. -/
theorem ImportGraph.has_iff_mem_keys {g : ImportGraph} {node : String} :
    g.has node = true ↔ node ∈ g.keys := by
  simp [Table.has, Table.keys]

/-- Every step uses up work. -/
theorem Search.work_step? {g : ImportGraph} {limit : Option Int} {s s' : Search}
    (h : s.step? g limit = some s') : s'.work g < s.work g := by
  cases Search.move_of_step? h with
  | leave here => simp [Search.work, workOn, here]
  | foreign here => simp [Search.work, workOn, here]
  | settled here => simp [Search.work, workOn, here]
  | refuse here => simp [Search.work, workOn, here]
  | close here => simp [Search.work, workOn, here]
  | @enter node next rest outer here known _ fresh =>
    have ahead := workAhead_visit (ImportGraph.has_iff_mem_keys.mp known) fresh (g := g)
    simp only [Search.work, Search.enter, workOn, here, ImportGraph.load, List.length_cons]
      at ahead ⊢
    omega

/-! ## Whole searches -/

/-- Takes steps until there is none left. -/
def Search.run (g : ImportGraph) (limit : Option Int) (s : Search) : Search :=
  match _ : s.step? g limit with
  | none => s
  | some next => next.run g limit
termination_by s.work g
decreasing_by exact Search.work_step? ‹_›

/-- A run with no step left is over. -/
theorem Search.run_of_none {g : ImportGraph} {limit : Option Int} {s : Search}
    (stop : s.step? g limit = none) : s.run g limit = s := by
  unfold Search.run
  split
  · rfl
  · next next go => simp only [go, reduceCtorEq] at stop

/-- A run goes on from the state after its first step. -/
theorem Search.run_of_some {g : ImportGraph} {limit : Option Int} {s next : Search}
    (go : s.step? g limit = some next) : s.run g limit = next.run g limit := by
  conv => lhs; unfold Search.run
  split
  · next stop => simp only [go, reduceCtorEq] at stop
  · next next' go' => rw [Option.some.inj (go.symm.trans go')]

/-- Starts a path at a node unless it was entered before. -/
def searchFrom (g : ImportGraph) (limit : Option Int) (s : Search) (root : String) : Search :=
  if s.visited.contains root then s else (s.enter g root).run g limit

/-- The search that starts at every node in turn. -/
def ImportGraph.search (g : ImportGraph) (limit : Option Int) : Search :=
  g.keys.foldl (searchFrom g limit) {}

/-- The cycles of a graph in the order in which they are found. -/
def ImportGraph.cycles (g : ImportGraph) (limit : Option Int) : List (List String) :=
  (g.search limit).cycles

end RepoSurvey.Overview
