import Mathlib.Data.List.Chain
import Mathlib.Data.List.Rotate
import Mathlib.Data.String.Basic
import Mathlib.Logic.Relation
import RepoSurvey.Overview.Cycle

/-!
# Rings of dependencies

A cycle is a list read as a ring: each member depends on the next one, and the
last on the first. `ringPairs` are the pairs of neighbours on the ring, so an
edge lies on a cycle when it is one of them, wherever the ring is cut open.

The search cuts a ring out of its path (`pathFrom`) and turns it until the
least member stands first (`rotated`). The first step makes a ring of edges
whose last edge is the one that closed it; the second changes no pair, so it
only chooses one of the spellings of a cycle.
-/

namespace RepoSurvey.Overview

/-! ## Neighbours on a ring -/

/-- The pairs of neighbours of a list read as a ring. -/
def ringPairs (ring : List String) : List (String × String) :=
  ring.zip (ring.rotate 1)

/-- Where the ring is cut open makes no difference to its pairs. -/
theorem mem_ringPairs_rotate {ring : List String} {n : Nat} {p : String × String} :
    p ∈ ringPairs (ring.rotate n) ↔ p ∈ ringPairs ring := by
  have turned : ringPairs (ring.rotate n) = (ringPairs ring).rotate n := by
    simp only [ringPairs, List.rotate_rotate, Nat.add_comm n 1, List.zip]
    rw [← List.rotate_rotate, List.zipWith_rotate_distrib _ _ _ _ (by simp)]
  rw [turned, List.mem_rotate]

/-- The pairs of a ring are related exactly when the ring, with its first
member repeated at the end, is a chain. -/
theorem forall_ringPairs_iff {R : String → String → Prop} {first : String} {rest : List String} :
    (∀ p ∈ ringPairs (first :: rest), R p.1 p.2) ↔ (first :: rest ++ [first]).IsChain R := by
  rw [List.isChain_cons_append_singleton_iff_forall₂, List.forall₂_iff_zip]
  constructor
  · intro h
    refine ⟨by simp, fun {a b} mem => h (a, b) ?_⟩
    simpa [ringPairs] using mem
  · rintro ⟨-, h⟩ ⟨a, b⟩ mem
    exact h (by simpa [ringPairs] using mem)

/-- Both members of a pair lie on the ring. -/
theorem mem_of_mem_ringPairs {ring : List String} {u v : String} (h : (u, v) ∈ ringPairs ring) :
    u ∈ ring ∧ v ∈ ring := by
  obtain ⟨left, right⟩ := List.of_mem_zip h
  exact ⟨left, List.mem_rotate.mp right⟩

/-! ## Cycles of a graph -/

/-- A cycle of a graph: a list of nodes of the graph, each of which has the
next one among its dependencies, and the last one the first. -/
structure ImportGraph.IsCycle (g : ImportGraph) (ring : List String) : Prop where
  /-- There is a member. -/
  nonempty : ring ≠ []
  /-- The members are nodes of the graph. -/
  known : ∀ node ∈ ring, node ∈ g.keys
  /-- Each member depends on the next. -/
  linked : ∀ p ∈ ringPairs ring, p.2 ∈ g.dependencies p.1

/-- Where a cycle is cut open makes no difference. -/
theorem ImportGraph.IsCycle.rotate {g : ImportGraph} {ring : List String} (h : g.IsCycle ring)
    (n : Nat) : g.IsCycle (ring.rotate n) where
  nonempty := fun none => h.nonempty (List.rotate_eq_nil_iff.mp none)
  known := fun node mem => h.known node (List.mem_rotate.mp mem)
  linked := fun p mem => h.linked p (mem_ringPairs_rotate.mp mem)

/-! ## Cutting a cycle out of a path -/

/-- A list that has a member goes on with it after everything before it. -/
theorem dropWhile_ne_of_mem {l : List String} {x : String} (mem : x ∈ l) :
    ∃ after, l.dropWhile (· != x) = x :: after := by
  induction l with
  | nil => cases mem
  | cons first rest ih =>
    by_cases same : first = x
    · exact ⟨rest, by simp [same]⟩
    · simpa [same] using ih ((List.mem_cons.mp mem).resolve_left (Ne.symm same))

/-- The part of a path from one of its nodes on, read inwards out, begins the path. -/
theorem reverse_pathFrom_prefix {path : List String} {node : String} (mem : node ∈ path) :
    (pathFrom path node).reverse <+: path := by
  obtain ⟨after, rest⟩ := dropWhile_ne_of_mem mem
  refine ⟨after, ?_⟩
  calc (pathFrom path node).reverse ++ after
      = path.takeWhile (· != node) ++ (node :: after) := by
        simp only [pathFrom, List.reverse_reverse, List.append_assoc, List.singleton_append]
    _ = path := by rw [← rest, List.takeWhile_append_dropWhile]

/-- The part of a path of dependencies that an import of `node` closes is a
ring of dependencies. -/
theorem linked_pathFrom {g : ImportGraph} {path : List String} {node : String}
    (linked : path.IsChain fun inner outer => inner ∈ g.dependencies outer)
    (closing : ∀ current ∈ path.head?, node ∈ g.dependencies current) (mem : node ∈ path) :
    ∀ p ∈ ringPairs (pathFrom path node), p.2 ∈ g.dependencies p.1 := by
  have begins := reverse_pathFrom_prefix mem
  have shape : pathFrom path node = node :: (path.takeWhile (· != node)).reverse := by
    simp only [pathFrom, List.reverse_append, List.reverse_singleton, List.singleton_append]
  have head : (pathFrom path node).reverse.head? = path.head? := by
    obtain ⟨after, whole⟩ := begins
    calc (pathFrom path node).reverse.head?
        = ((pathFrom path node).reverse ++ after).head? :=
          (List.head?_append_of_ne_nil _ (by simp [shape])).symm
      _ = path.head? := by rw [whole]
  have inwards : (node :: (pathFrom path node).reverse).IsChain
      fun inner outer => inner ∈ g.dependencies outer := by
    refine List.isChain_cons.mpr ⟨fun current hc => ?_, linked.prefix begins⟩
    exact closing current (head ▸ hc)
  rw [shape] at inwards ⊢
  rw [forall_ringPairs_iff (R := fun u v => v ∈ g.dependencies u), ← List.isChain_reverse]
  simpa using inwards

/-- The import that closes a cycle is one of its pairs. -/
theorem closing_mem_ringPairs {path : List String} {node current : String}
    (head : path.head? = some current) (mem : node ∈ path) :
    (current, node) ∈ ringPairs (pathFrom path node) := by
  cases path with
  | nil => cases mem
  | cons first outer =>
    obtain rfl : first = current := Option.some.inj head
    by_cases same : first = node
    · simp [pathFrom, ringPairs, same]
    · have turned : pathFrom (first :: outer) node =
          ([first] ++ node :: (outer.takeWhile (· != node)).reverse).rotate 1 := by
        rw [show (1 : Nat) = [first].length from rfl, List.rotate_append_length_eq]
        simp [pathFrom, same]
      rw [turned, mem_ringPairs_rotate]
      simp [ringPairs]

/-! ## Turning a ring to its least member -/

/-- The least of several texts is one of them and below each of them. -/
theorem leastOf_spec (label : String) (others : List String) :
    leastOf label others ∈ label :: others ∧ ∀ x ∈ label :: others, leastOf label others ≤ x := by
  induction others generalizing label with
  | nil => simp [leastOf]
  | cons other others ih =>
    have unfolded : leastOf label (other :: others) =
        leastOf (if other < label then other else label) others := rfl
    rw [unfolded]
    split
    · next below =>
      obtain ⟨mem, le⟩ := ih other
      refine ⟨List.mem_cons_of_mem _ mem, fun x hx => ?_⟩
      rcases List.mem_cons.mp hx with rfl | hx
      · exact (le other List.mem_cons_self).trans below.le
      · exact le x hx
    · next above =>
      obtain ⟨mem, le⟩ := ih label
      refine ⟨?_, fun x hx => ?_⟩
      · rcases List.mem_cons.mp mem with same | mem
        · rw [same]
          exact List.mem_cons_self
        · exact List.mem_cons_of_mem _ (List.mem_cons_of_mem _ mem)
      · rcases List.mem_cons.mp hx with rfl | hx
        · exact le x List.mem_cons_self
        · rcases List.mem_cons.mp hx with rfl | hx
          · exact (le label List.mem_cons_self).trans (not_lt.mp above)
          · exact le x (List.mem_cons_of_mem _ hx)

/-- The spelling from the least member is a turn of the ring. -/
theorem rotated_eq_rotate (ring : List String) : ∃ n, rotated ring = ring.rotate n := by
  cases ring with
  | nil => exact ⟨0, rfl⟩
  | cons first others =>
    refine ⟨((first :: others).takeWhile (· != leastOf first others)).length, ?_⟩
    conv => rhs; arg 1; rw [← List.takeWhile_append_dropWhile (p := (· != leastOf first others))
      (l := first :: others)]
    rw [List.rotate_append_length_eq]
    rfl

/-- What stands first in the spelling from the least member is below every member. -/
theorem head_rotated_le {ring : List String} {least x : String}
    (head : (rotated ring).head? = some least) (mem : x ∈ ring) : least ≤ x := by
  cases ring with
  | nil => cases mem
  | cons first others =>
    obtain ⟨there, below⟩ := leastOf_spec first others
    obtain ⟨after, starts⟩ := dropWhile_ne_of_mem there
    have starts : (rotated (first :: others)).head? = some (leastOf first others) := by
      simp only [rotated, starts, List.cons_append, List.head?_cons]
    rw [starts, Option.some.injEq] at head
    exact head ▸ below x mem

end RepoSurvey.Overview
