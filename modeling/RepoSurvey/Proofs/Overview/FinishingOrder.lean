import RepoSurvey.Proofs.Overview.CycleSearch

/-!
# Cycles that the search cannot miss

The search reports an edge when a cycle it reports runs over it. It enters
every node once, so a dependency that was entered before is passed over, and
the question is which cycles that can hide.

The answer is an order on the nodes: the order in which they are left. When a
node is left, each of its edges has been followed, and has led to a node that
was left before, or back to the path, which reports it, or was turned away
because the path was full. `Finished` says this of the list of nodes that were
left, latest first, and `Search.Explored` carries it through the moves, with
what is known about the nodes that are still on the way.

Edges that were neither reported nor turned away lead down in that order, so
they close no cycle (`Finished.acc`). A cycle therefore has an edge that is
reported or one that was turned away, and an edge is turned away only at the
end of a path that is as long as the limit allows and starts at a root. Such a
path is a `LeadingChain`, a notion that speaks of the graph alone.

At the end of a search this is an order on all nodes of the graph
(`ImportGraph.search_finished`).
-/

namespace RepoSurvey.Overview

variable {g : ImportGraph} {limit : Option Int}

/-! ## Edges -/

/-- An edge between two nodes of the graph. -/
structure ImportGraph.Edge (g : ImportGraph) (u v : String) : Prop where
  /-- It starts at a node of the graph. -/
  source : u ∈ g.keys
  /-- It ends at a node of the graph. -/
  target : v ∈ g.keys
  /-- The first depends on the second. -/
  depends : v ∈ g.dependencies u

/-- A chain of dependencies without repetition that starts at the node which
stands first in the graph among all nodes of the chain. -/
structure ImportGraph.LeadingChain (g : ImportGraph) (chain : List String) : Prop where
  /-- Each member depends on the next. -/
  linked : chain.IsChain fun u v => v ∈ g.dependencies u
  /-- No member is repeated. -/
  simple : chain.Nodup
  /-- The members are nodes of the graph. -/
  known : ∀ node ∈ chain, node ∈ g.keys
  /-- The first member stands before the others in the graph. -/
  leading : ∀ first ∈ chain.head?, ∀ node ∈ chain, g.keys.idxOf first ≤ g.keys.idxOf node

/-- A chain that starts at its first node and is one node too long for the
limit ends in the edge. -/
def ImportGraph.FarEdge (g : ImportGraph) (limit : Option Int) (u v : String) : Prop :=
  ∃ most way, limit = some most ∧ g.LeadingChain (way ++ [u, v]) ∧
    ((way ++ [u, v]).length : Int) = max most 1 + 1

/-- A cycle that was reported runs over the edge. -/
def Search.Reports (s : Search) (u v : String) : Prop :=
  ∃ ring ∈ s.cycles, (u, v) ∈ ringPairs ring

/-- The edge is accounted for without a node that was left. -/
def Search.Settles (s : Search) (g : ImportGraph) (limit : Option Int) (u v : String) : Prop :=
  s.Reports u v ∨ g.FarEdge limit u v

/-! ## The order in which nodes are left -/

/-- A list of nodes, latest first, in which every edge that is not settled
leads to a node that was left before. -/
def Finished (g : ImportGraph) (settled : String → String → Prop) : List String → Prop
  | [] => True
  | u :: left => (∀ v, g.Edge u v → v ∈ left ∨ settled u v) ∧ Finished g settled left

/-- The dependencies that were already taken from the nodes on the way led to
nodes that were left, or further in on the way, or are settled. The nodes that
lie further in than the frames at hand are `inner`. -/
def Taken (g : ImportGraph) (settled : String → String → Prop) (left : List String) :
    List String → List Frame → Prop
  | _, [] => True
  | inner, f :: outer =>
    (∃ taken, g.dependencies f.node = taken ++ f.pending ∧
      ∀ v ∈ taken, v ∈ g.keys → v ∈ left ∨ v ∈ inner ∨ settled f.node v) ∧
    Taken g settled left (f.node :: inner) outer

/-- The order stays one when more edges are settled. -/
theorem Finished.mono {settled settled' : String → String → Prop}
    (weaker : ∀ u v, settled u v → settled' u v) :
    ∀ {left : List String}, Finished g settled left → Finished g settled' left
  | [], _ => trivial
  | _ :: _, ⟨edges, before⟩ =>
    ⟨fun v e => (edges v e).imp_right (weaker _ v), Finished.mono weaker before⟩

/-- What was taken stays accounted for when nodes further in are left, and
when more edges are settled. -/
theorem Taken.mono {settled settled' : String → String → Prop} {left left' : List String}
    (weaker : ∀ u v, settled u v → settled' u v) :
    ∀ {frames : List Frame} {inner inner' : List String},
      (∀ v, v ∈ left ∨ v ∈ inner → v ∈ left' ∨ v ∈ inner') →
      Taken g settled left inner frames → Taken g settled' left' inner' frames
  | [], _, _, _, _ => trivial
  | f :: outer, inner, inner', wider, ⟨⟨taken, whole, led⟩, rest⟩ => by
    refine ⟨⟨taken, whole, fun v hv known => ?_⟩, Taken.mono weaker (fun v hv => ?_) rest⟩
    · rcases led v hv known with out | within | done
      · exact (wider v (.inl out)).imp_right .inl
      · exact (wider v (.inr within)).imp_right .inl
      · exact .inr (.inr (weaker _ v done))
    · simp only [List.mem_cons] at hv ⊢
      rcases hv with out | rfl | within
      · exact (wider v (.inl out)).imp_right .inr
      · exact .inr (.inl rfl)
      · exact (wider v (.inr within)).imp_right .inr

/-- A dependency is taken from a node once it is accounted for. -/
theorem Taken.advance {settled : String → String → Prop} {left inner : List String}
    {node next : String} {rest : List String} {outer : List Frame}
    (h : Taken g settled left inner (⟨node, next :: rest⟩ :: outer))
    (led : next ∈ g.keys → next ∈ left ∨ next ∈ inner ∨ settled node next) :
    Taken g settled left inner (⟨node, rest⟩ :: outer) := by
  obtain ⟨⟨taken, whole, before⟩, others⟩ := h
  refine ⟨⟨taken ++ [next], by simpa using whole, fun v hv known => ?_⟩, others⟩
  rcases List.mem_append.mp hv with hv | hv
  · exact before v hv known
  · obtain rfl : v = next := List.mem_singleton.mp hv
    exact led known

/-- Edges that are not settled lead down in the order, so no way along them
from a node that was left goes on for ever. -/
theorem Finished.acc {settled : String → String → Prop} :
    ∀ {left : List String}, Finished g settled left → ∀ u ∈ left,
      Acc (fun v u => g.Edge u v ∧ ¬ settled u v) u
  | [], _, _, mem => absurd mem List.not_mem_nil
  | _ :: left, ⟨edges, before⟩, u, mem => by
    rcases List.mem_cons.mp mem with rfl | mem
    · refine Acc.intro u fun v down => before.acc v ?_
      exact (edges v down.1).resolve_right down.2
    · exact before.acc u mem

/-! ## The order at every moment of a run -/

/-- What holds at every moment of the run that was started at `root`, where
`before` are the nodes that stand before it in the graph and `left` are the
nodes that were left, latest first. -/
structure Search.Explored (g : ImportGraph) (limit : Option Int) (before : List String)
    (root : String) (left : List String) (s : Search) : Prop where
  /-- The way is a path and the reports are cycles. -/
  sound : s.Sound g limit
  /-- The way starts at the root. -/
  rooted : ∀ first ∈ s.path.getLast?, first = root
  /-- The nodes before the root were entered. -/
  covered : before ⊆ s.visited
  /-- None of them is on the way. -/
  apart : ∀ node ∈ s.path, node ∉ before
  /-- A node that was entered is on the way or was left. -/
  placed : ∀ node ∈ s.visited, node ∈ s.path ∨ node ∈ left
  /-- The nodes that were left are in order. -/
  finished : Finished g (s.Settles g limit) left
  /-- What was taken on the way is accounted for. -/
  taken : Taken g (s.Settles g limit) left [] s.frames

namespace Search.Explored

variable {s : Search} {before left : List String} {root node next : String} {rest : List String}
  {outer : List Frame}

/-- The current node joins the order when it is left. -/
theorem leave (h : Explored g limit before root left s) (here : s.frames = ⟨node, []⟩ :: outer) :
    Explored g limit before root (node :: left) { s with frames := outer } := by
  have path : s.path = node :: Search.path { s with frames := outer } := by
    simp only [Search.path, here, List.map_cons]
  obtain ⟨⟨taken, whole, led⟩, others⟩ := here ▸ h.taken
  have all : g.dependencies node = taken := by simpa using whole
  exact {
    sound := h.sound.leave here
    rooted := fun first last => by
      refine h.rooted first ?_
      rw [path, List.getLast?_cons, Option.mem_def.mp last]
      rfl
    covered := h.covered
    apart := fun n hn => h.apart n (path ▸ List.mem_cons_of_mem _ hn)
    placed := fun n hn => by
      have place := h.placed n hn
      rw [path, List.mem_cons] at place
      rcases place with (rfl | way) | out
      · exact .inr List.mem_cons_self
      · exact .inl way
      · exact .inr (List.mem_cons_of_mem _ out)
    finished := by
      refine ⟨fun v e => ?_, h.finished⟩
      rcases led v (all ▸ e.depends) e.target with out | within | done
      · exact .inl out
      · cases within
      · exact .inr done
    taken := Taken.mono (fun _ _ done => done) (by simp [or_comm]) others }

/-- A dependency is taken from the current node once it is accounted for. -/
theorem advance (h : Explored g limit before root left s)
    (here : s.frames = ⟨node, next :: rest⟩ :: outer)
    (led : next ∈ g.keys → next ∈ left ∨ s.Settles g limit node next) :
    Explored g limit before root left { s with frames := ⟨node, rest⟩ :: outer } := by
  have path := Search.path_advance here
  exact {
    sound := h.sound.advance here
    rooted := path ▸ h.rooted
    covered := h.covered
    apart := path ▸ h.apart
    placed := path ▸ h.placed
    finished := h.finished
    taken := Taken.advance (here ▸ h.taken) fun known => (led known).imp_right .inr }

/-- A new node is turned away only at the end of a way that is as long as the
limit allows. -/
theorem far_of_refused (h : Explored g limit before root left s)
    (keys : ∃ after, g.keys = before ++ root :: after)
    (here : s.frames = ⟨node, next :: rest⟩ :: outer) (known : next ∈ g.keys)
    (fresh : next ∉ s.visited) (full : mayGrow limit s.frames.length = false) :
    g.FarEdge limit node next := by
  obtain ⟨after, keys⟩ := keys
  cases limit with
  | none => simp [mayGrow] at full
  | some most =>
    have path : s.path = node :: outer.map (·.node) := by
      simp only [Search.path, here, List.map_cons]
    have turned : (outer.map (·.node)).reverse ++ [node, next] = (next :: s.path).reverse := by
      simp [path]
    have new : ∀ n ∈ (next :: s.path).reverse, n ∈ g.keys ∧ n ∉ before := by
      intro n hn
      rcases List.mem_cons.mp (List.mem_reverse.mp hn) with rfl | hn
      · exact ⟨known, fun mem => fresh (h.covered mem)⟩
      · exact ⟨h.sound.known n (h.sound.entered n hn), h.apart n hn⟩
    have length : s.frames.length = outer.length + 1 := by rw [here, List.length_cons]
    refine ⟨most, (outer.map (·.node)).reverse, rfl, ?_, ?_⟩
    · rw [turned]
      exact {
        linked := by
          refine List.isChain_reverse.mpr (List.isChain_cons.mpr ⟨fun current head => ?_, ?_⟩)
          · obtain rfl : node = current := by simpa [path] using head
            exact h.sound.next_mem here
          · exact h.sound.linked
        simple := by
          refine List.nodup_reverse.mpr (List.nodup_cons.mpr ⟨?_, h.sound.simple⟩)
          exact fun mem => fresh (h.sound.entered next mem)
        known := fun n hn => (new n hn).1
        leading := fun first head n hn => by
          have last : s.path.getLast? = some first := by
            rw [List.head?_reverse, path] at head
            simpa [path] using head
          obtain rfl := h.rooted first last
          have root_new : first ∉ before :=
            h.apart first (List.mem_of_getLast? last)
          rw [keys, List.idxOf_append_of_notMem root_new,
            List.idxOf_append_of_notMem (new n hn).2, List.idxOf_cons_self]
          omega }
    · have short := h.sound.short most rfl
      simp only [mayGrow, decide_eq_false_iff_not] at full
      simp only [List.length_append, List.length_reverse, List.length_map, List.length_cons,
        List.length_nil]
      omega

/-- Reporting a cycle settles edges and changes nothing else. -/
theorem close (h : Explored g limit before root left s)
    (closing : ∀ current ∈ s.path.head?, next ∈ g.dependencies current) (back : next ∈ s.path) :
    Explored g limit before root left (s.close next) := by
  have path : (s.close next).path = s.path := by simp only [Search.path, Search.frames_close]
  have settles : ∀ u v, s.Settles g limit u v → (s.close next).Settles g limit u v := by
    rintro u v (⟨ring, mem, pair⟩ | far)
    · exact .inl ⟨ring, Search.mem_cycles_close.mpr (.inl mem), pair⟩
    · exact .inr far
  exact {
    sound := h.sound.close closing back
    rooted := path ▸ h.rooted
    covered := Search.visited_close s next ▸ h.covered
    apart := path ▸ h.apart
    placed := by
      rw [path, Search.visited_close]
      exact h.placed
    finished := h.finished.mono settles
    taken := by
      rw [Search.frames_close]
      exact h.taken.mono settles fun _ hv => hv }

/-- The edge that closes the cycle is reported with it. -/
theorem reports_close {current : String} (head : s.path.head? = some current)
    (back : next ∈ s.path) : (s.close next).Reports current next := by
  obtain ⟨n, turn⟩ := rotated_eq_rotate (pathFrom s.path next)
  refine ⟨_, Search.mem_cycles_close.mpr (.inr rfl), ?_⟩
  rw [turn, mem_ringPairs_rotate]
  exact closing_mem_ringPairs head back

/-- A new node is entered from the current one. -/
theorem enter (h : Explored g limit before root left s)
    (here : s.frames = ⟨node, next :: rest⟩ :: outer) (known : next ∈ g.keys)
    (fresh : next ∉ s.visited) (room : mayGrow limit s.frames.length = true) :
    Explored g limit before root left
      (Search.enter { s with frames := ⟨node, rest⟩ :: outer } g next) := by
  have path : Search.path (Search.enter { s with frames := ⟨node, rest⟩ :: outer } g next) =
      next :: s.path := by
    rw [← Search.path_advance here]
    rfl
  have way : s.path ≠ [] := by simp [Search.path, here]
  exact {
    sound := by
      refine (h.sound.advance here).enter known fresh (fun current head => ?_)
        (.inr (by simpa [here] using room))
      obtain rfl : node = current := Option.some.inj head
      exact h.sound.next_mem here
    rooted := fun first last => by
      rw [path, List.getLast?_cons_of_ne_nil way] at last
      exact h.rooted first last
    covered := fun n hn => List.mem_cons_of_mem _ (h.covered hn)
    apart := fun n hn => by
      rcases List.mem_cons.mp (path ▸ hn) with rfl | hn
      · exact fun mem => fresh (h.covered mem)
      · exact h.apart n hn
    placed := fun n hn => by
      rw [path]
      rcases List.mem_cons.mp hn with rfl | hn
      · exact .inl List.mem_cons_self
      · exact (h.placed n hn).imp_left (List.mem_cons_of_mem _)
    finished := h.finished
    taken := by
      refine ⟨⟨[], rfl, fun v hv => absurd hv List.not_mem_nil⟩, ?_⟩
      have wider : Taken g (s.Settles g limit) left [next] (⟨node, next :: rest⟩ :: outer) :=
        Taken.mono (fun _ _ done => done)
          (fun _ hv => hv.imp_right fun none => absurd none List.not_mem_nil) (here ▸ h.taken)
      exact wider.advance fun _ => .inr (.inl List.mem_cons_self) }

/-- Every move keeps the order, which grows by the node that is left, if any. -/
theorem move {s' : Search} (keys : ∃ after, g.keys = before ++ root :: after)
    (h : Explored g limit before root left s) (m : Move g limit s s') :
    ∃ left', Explored g limit before root left' s' := by
  cases m with
  | leave here => exact ⟨_, h.leave here⟩
  | foreign here unknown =>
    refine ⟨left, h.advance here fun known => ?_⟩
    rw [← ImportGraph.has_iff_mem_keys, unknown] at known
    cases known
  | settled here _ aside seen =>
    exact ⟨left, h.advance here fun _ => .inl ((h.placed _ seen).resolve_left aside)⟩
  | refuse here _ fresh full =>
    exact ⟨left, h.advance here fun known =>
      .inr (.inr (h.far_of_refused keys here known fresh full))⟩
  | @close node next rest outer here _ back =>
    have head : s.path.head? = some node := by simp [Search.path, here]
    have closed := h.close (fun current hc => by
      obtain rfl : node = current := Option.some.inj (head.symm.trans hc)
      exact h.sound.next_mem here) back
    have same : Search.close { s with frames := ⟨node, rest⟩ :: outer } next =
        { s.close next with frames := ⟨node, rest⟩ :: outer } := by
      unfold Search.close
      rw [Search.path_advance here]
      dsimp only
      split <;> rfl
    exact ⟨left, same ▸ closed.advance ((Search.frames_close s next).trans here)
      fun _ => .inr (.inl (reports_close head back))⟩
  | enter here known _ fresh room =>
    exact ⟨left, h.enter here (ImportGraph.has_iff_mem_keys.mp known) fresh room⟩

/-- A run from a new root keeps the order and leaves every node it entered. -/
theorem run (keys : ∃ after, g.keys = before ++ root :: after)
    (h : Explored g limit before root left s) :
    ∃ left', Explored g limit before root left' (s.run g limit) ∧
      (s.run g limit).visited ⊆ left' := by
  obtain ⟨⟨left', h'⟩, ended⟩ :=
    Search.run_induct (g := g) (motive := fun t => ∃ left, Explored g limit before root left t)
      (fun ⟨_, h⟩ m => h.move keys m) ⟨left, h⟩
  refine ⟨left', h', fun n hn => (h'.placed n hn).resolve_left fun mem => ?_⟩
  simp [Search.path, ended] at mem

end Search.Explored

/-! ## The order at the end of a search -/

/-- At the end of a search all nodes of the graph stand in an order in which
every edge that is not settled leads to a node that was left before. -/
theorem ImportGraph.search_finished (g : ImportGraph) (limit : Option Int) :
    ∃ left, Finished g ((g.search limit).Settles g limit) left ∧ g.keys ⊆ left := by
  suffices all : (g.search limit).Resting g limit g.keys ∧
      ∃ left, Finished g ((g.search limit).Settles g limit) left ∧
        (g.search limit).visited ⊆ left by
    obtain ⟨resting, left, finished, within⟩ := all
    exact ⟨left, finished, List.Subset.trans resting.covered within⟩
  refine ImportGraph.search_induct
    (motive := fun before s => s.Resting g limit before ∧
      ∃ left, Finished g (s.Settles g limit) left ∧ s.visited ⊆ left)
    ⟨.start, [], trivial, List.nil_subset _⟩ ?_ ?_
  · rintro before root after s - ⟨resting, order⟩ entered
    exact ⟨resting.seen entered, order⟩
  · rintro before root after s keys ⟨resting, left, finished, within⟩ fresh
    have known : root ∈ g.keys := by simp [keys]
    have started : Search.Explored g limit before root left (s.enter g root) := {
      sound := resting.enter known fresh
      rooted := by simp [Search.path, Search.enter, resting.ended]
      covered := fun n hn => List.mem_cons_of_mem _ (resting.covered hn)
      apart := by
        intro n hn mem
        simp only [Search.path, Search.enter, resting.ended, List.map_cons, List.map_nil,
          List.mem_singleton] at hn
        exact fresh (hn ▸ resting.covered mem)
      placed := fun n hn => by
        rcases List.mem_cons.mp hn with rfl | hn
        · exact .inl List.mem_cons_self
        · exact .inr (within hn)
      finished := finished
      taken := by
        simp only [Search.enter, resting.ended]
        exact ⟨⟨[], rfl, by simp⟩, trivial⟩ }
    obtain ⟨left', explored, all⟩ := started.run ⟨after, keys⟩
    exact ⟨resting.run known fresh, left', explored.finished, all⟩

end RepoSurvey.Overview
