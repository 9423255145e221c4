import RepoSurvey.Proofs.Overview.FinishingOrder

/-!
# Which cycles are met

A cycle is met when one of its edges lies on a cycle that is reported. From
the order in which nodes are left it follows that a cycle which is not met has
an edge that was turned away at the end of a long chain
(`cycle_reported_or_far`).

Without a limit, or with one that no path can reach, nothing is turned away:
every cycle is met, and a search reports nothing exactly when the graph has no
cycle (`every_cycle_is_met`). With a smaller limit a short cycle can hide
behind a long chain (`short_cycle_hidden`): its nodes are entered at the end
of the chain, where there is no room to go round, and are passed over later.
It can hide behind nothing else (`cycle_met_unless_far`).
-/

namespace RepoSurvey.Overview

variable {g : ImportGraph} {limit : Option Int}

/-! ## From the order to the cycles -/

/-- Every member of a ring has a neighbour. -/
theorem exists_mem_ringPairs {ring : List String} {u : String} (mem : u ∈ ring) :
    ∃ v, (u, v) ∈ ringPairs ring := by
  obtain ⟨i, hi, rfl⟩ := List.getElem_of_mem mem
  have hi' : i < (ring.rotate 1).length := by simpa using hi
  refine ⟨(ring.rotate 1)[i], List.mem_iff_getElem.mpr ⟨i, ?_, ?_⟩⟩
  · simpa [ringPairs] using hi
  · simp [ringPairs]

/-- The pairs of a cycle are edges. -/
theorem ImportGraph.IsCycle.edge {ring : List String} (h : g.IsCycle ring) {u v : String}
    (pair : (u, v) ∈ ringPairs ring) : g.Edge u v where
  source := h.known u (mem_of_mem_ringPairs pair).1
  target := h.known v (mem_of_mem_ringPairs pair).2
  depends := h.linked (u, v) pair

/-- A cycle has an edge that is reported, or one at which a chain of the
length of the limit, and one more, ends. -/
theorem cycle_reported_or_far (limit : Option Int) {ring : List String}
    (cycle : g.IsCycle ring) :
    ∃ u v, (u, v) ∈ ringPairs ring ∧ (g.search limit).Settles g limit u v := by
  obtain ⟨left, finished, all⟩ := g.search_finished limit
  by_contra none
  have round : ∀ u, Acc (fun v u => g.Edge u v ∧ ¬ (g.search limit).Settles g limit u v) u →
      u ∉ ring := by
    intro u down
    induction down with
    | intro u _ ih =>
      intro mem
      obtain ⟨v, pair⟩ := exists_mem_ringPairs mem
      have free : ¬ (g.search limit).Settles g limit u v := fun done => none ⟨u, v, pair, done⟩
      exact ih v ⟨cycle.edge pair, free⟩ (mem_of_mem_ringPairs pair).2
  obtain ⟨u, mem⟩ := List.exists_mem_of_ne_nil ring cycle.nonempty
  exact round u (finished.acc u (all (cycle.known u mem))) mem

/-- A cycle leads from each of its first members back to it. -/
theorem ImportGraph.IsCycle.transGen {ring : List String} (h : g.IsCycle ring) :
    ∃ node, Relation.TransGen g.Edge node node := by
  cases ring with
  | nil => exact absurd rfl h.nonempty
  | cons first rest =>
    have chain : (first :: rest ++ [first]).IsChain g.Edge :=
      forall_ringPairs_iff.mp fun p pair => h.edge (u := p.1) (v := p.2) pair
    refine ⟨first, ?_⟩
    cases rest with
    | nil => exact .single (List.isChain_cons_cons.mp chain).1
    | cons second rest =>
      obtain ⟨step, others⟩ := List.isChain_cons_cons.mp chain
      exact Relation.TransGen.head' step
        (List.relationReflTransGen_of_exists_isChain_cons _ others (by simp))

/-- A node from which no way goes on for ever does not lead back to itself. -/
theorem not_transGen_of_acc {R : String → String → Prop} {u : String}
    (down : Acc (fun v u => R u v) u) : ¬ Relation.TransGen R u u := by
  induction down with
  | intro u _ ih =>
    intro back
    obtain ⟨v, step, rest⟩ := Relation.TransGen.head'_iff.mp back
    exact ih v step (Relation.TransGen.tail' rest step)

/-! ## Limits that no path can reach -/

/-- A chain has no more members than the graph has nodes. -/
theorem ImportGraph.LeadingChain.length_le {chain : List String} (h : g.LeadingChain chain) :
    chain.length ≤ g.keys.length :=
  h.simple.length_le_of_subset h.known

/-- Where the limit is not below the number of nodes, no edge is turned away. -/
theorem not_farEdge_of_roomy (roomy : ∀ most, limit = some most → (g.keys.length : Int) ≤ most)
    (u v : String) : ¬ g.FarEdge limit u v := by
  rintro ⟨most, way, bound, chain, length⟩
  have fits := chain.length_le
  have room := roomy most bound
  omega

/-- Without a limit, or with one that is not below the number of nodes, every
cycle of the graph has an edge on a cycle that is reported, and nothing is
reported exactly when no node of the graph leads back to itself. -/
theorem every_cycle_is_met (g : ImportGraph) (limit : Option Int)
    (roomy : ∀ most, limit = some most → (g.keys.length : Int) ≤ most) :
    (∀ ring, g.IsCycle ring →
      ∃ p ∈ ringPairs ring, ∃ reported ∈ g.cycles limit, p ∈ ringPairs reported) ∧
    (g.cycles limit = [] ↔ ∀ node, ¬ Relation.TransGen g.Edge node node) := by
  refine ⟨fun ring cycle => ?_, fun none node back => ?_, fun acyclic => ?_⟩
  · obtain ⟨u, v, pair, met | far⟩ := cycle_reported_or_far limit cycle
    · exact ⟨(u, v), pair, met⟩
    · exact absurd far (not_farEdge_of_roomy roomy u v)
  · obtain ⟨left, finished, all⟩ := g.search_finished limit
    have free : ∀ u v, ¬ (g.search limit).Settles g limit u v := by
      rintro u v (⟨ring, mem, -⟩ | far)
      · have mem : ring ∈ g.cycles limit := mem
        rw [none] at mem
        cases mem
      · exact not_farEdge_of_roomy roomy u v far
    obtain ⟨next, step, -⟩ := Relation.TransGen.head'_iff.mp back
    have down := finished.acc node (all step.source)
    simp only [free, not_false_eq_true, and_true] at down
    exact not_transGen_of_acc down back
  · refine List.eq_nil_iff_forall_not_mem.mpr fun ring mem => ?_
    obtain ⟨node, back⟩ := ((g.search_resting limit).sound.reported ring mem).toIsCycle.transGen
    exact acyclic node back

/-- The limit may be as small as the number of nodes: a graph with a ring of
two files that import each other, an import of one by the other that is
written twice, and a foreign import. -/
theorem every_cycle_is_met_of_two :
    (∃ p ∈ ringPairs ["b", "a"],
      ∃ reported ∈ ImportGraph.cycles [("a", ["react", "b"]), ("b", ["a", "a"])] (some 2),
        p ∈ ringPairs reported) ∧
    (ImportGraph.cycles [("a", ["react", "b"]), ("b", ["a", "a"])] (some 2) = [] ↔
      ∀ node, ¬ Relation.TransGen
        (ImportGraph.Edge [("a", ["react", "b"]), ("b", ["a", "a"])]) node node) := by
  obtain ⟨met, acyclic⟩ := every_cycle_is_met [("a", ["react", "b"]), ("b", ["a", "a"])] (some 2)
    (fun most bound => by cases bound; decide)
  exact ⟨met ["b", "a"] ⟨by decide, by decide, by decide⟩, acyclic⟩

/-! ## Limits that a path can reach -/

/-- A cycle has an edge on a cycle that is reported, unless a chain ends in one
of its edges which has one node more than the limit allows and starts at the
node that stands first in the graph among the nodes of the chain. -/
theorem cycle_met_unless_far (g : ImportGraph) (most : Int) (ring : List String)
    (cycle : g.IsCycle ring)
    (near : ∀ way u v, (u, v) ∈ ringPairs ring → g.LeadingChain (way ++ [u, v]) →
      ((way ++ [u, v]).length : Int) ≠ max most 1 + 1) :
    ∃ p ∈ ringPairs ring, ∃ reported ∈ g.cycles (some most), p ∈ ringPairs reported := by
  obtain ⟨u, v, pair, met | ⟨most', way, bound, chain, length⟩⟩ :=
    cycle_reported_or_far (some most) cycle
  · exact ⟨(u, v), pair, met⟩
  · cases bound
    exact absurd length (near way u v pair chain)

/-- The limit may be as small as two: the ring of two files stands before the
file that leads to it, so that no chain of three starts where it should. -/
theorem cycle_met_unless_far_of_three :
    (∀ way u v, (u, v) ∈ ringPairs ["b", "c"] →
      ImportGraph.LeadingChain [("b", ["c"]), ("c", ["b"]), ("d", ["b"])] (way ++ [u, v]) →
      ((way ++ [u, v]).length : Int) ≠ max 2 1 + 1) ∧
    ∃ p ∈ ringPairs ["b", "c"],
      ∃ reported ∈ ImportGraph.cycles [("b", ["c"]), ("c", ["b"]), ("d", ["b"])] (some 2),
        p ∈ ringPairs reported := by
  have near : ∀ way u v, (u, v) ∈ ringPairs ["b", "c"] →
      ImportGraph.LeadingChain [("b", ["c"]), ("c", ["b"]), ("d", ["b"])] (way ++ [u, v]) →
      ((way ++ [u, v]).length : Int) ≠ max 2 1 + 1 := by
    intro way u v pair chain length
    obtain ⟨x, rfl⟩ : ∃ x, way = [x] :=
      List.length_eq_one_iff.mp (by simp at length; omega)
    have known : x ∈ ["b", "c", "d"] := chain.known x (by simp)
    have simple : x ∉ [u, v] := (List.nodup_cons.mp chain.simple).1
    have leading := chain.leading x rfl u (by simp)
    have ends : (u, v) = ("b", "c") ∨ (u, v) = ("c", "b") := by simpa [ringPairs] using pair
    -- The only node left for the start of the chain stands last in the graph.
    obtain rfl : x = "d" := by
      rcases ends with ends | ends <;> cases ends <;> simp_all
    rcases ends with ends | ends <;> cases ends <;> exact absurd leading (by decide)
  exact ⟨near, cycle_met_unless_far _ 2 ["b", "c"] ⟨by decide, by decide, by decide⟩ near⟩

/-- Two files that import each other go unreported when the search comes to
them by a third one and may not grow past two. -/
theorem short_cycle_hidden :
    ¬ ∀ (g : ImportGraph) (most : Int), 1 ≤ most →
      (∃ ring, g.IsCycle ring ∧ ring.Nodup ∧ (ring.length : Int) ≤ most) →
      g.cycles (some most) ≠ [] := by
  intro claim
  refine claim [("a", ["b"]), ("b", ["c"]), ("c", ["b"])] 2 (by decide)
    ⟨["b", "c"], ⟨by decide, by decide, by decide⟩, by decide, by decide⟩ ?_
  decide +kernel

end RepoSurvey.Overview
