import RepoSurvey.Proofs.Python.Statements

/-!
# The order of statements

What a reader reads again and again passes the tokens from left to right
(`Reader.Run`), and tokens are laid in the order of the text. So of the statements
of a source, each one speaks only of lines that do not come after those of a later
one (`pairwise_before_of_module`), and all of them of lines of the source
(`lines_of_module`).
-/

namespace RepoSurvey.Python

open Reader

/-- The first value speaks of no line after one of which the second speaks. -/
def Before {α β : Type} [HasLines α] [HasLines β] (a : α) (b : β) : Prop :=
  ∀ m ∈ lines a, ∀ n ∈ lines b, m ≤ n

/-- Lines of tokens that come first are not after those of later ones. -/
theorem LineIn.le {first last : Nat} {ts : Array Token} (laid : Laid first last ts)
    {i j k m n : Nat} (front : LineIn ts i j m) (back : LineIn ts j k n) : m ≤ n := by
  obtain ⟨a, t, -, before, here, -, -, low⟩ := front
  obtain ⟨b, t', after, -, here', -, high, -⟩ := back
  obtain ⟨inside, rfl⟩ := Array.getElem?_eq_some_iff.mp here
  obtain ⟨inside', rfl⟩ := Array.getElem?_eq_some_iff.mp here'
  have ordered := List.pairwise_iff_getElem.mp laid.ordered a b inside inside'
    (Nat.lt_of_lt_of_le before after)
  exact Nat.le_trans low (Nat.le_trans ordered high)

theorem LineIn.inside {first last : Nat} {ts : Array Token} (laid : Laid first last ts)
    {i j n : Nat} (here : LineIn ts i j n) : first ≤ n ∧ n ≤ last := by
  obtain ⟨_, t, -, -, here, solid, low, high⟩ := here
  obtain ⟨first, last⟩ := laid.within t (Array.mem_of_getElem? here) solid
  exact ⟨Nat.le_trans first low, Nat.le_trans high last⟩

namespace Reader

variable {α : Type} {p : Reader α} {ts : Array Token} {i j : Nat}

/-- The reader reads values one after the other, from one place to another. -/
inductive Run (p : Reader α) (ts : Array Token) : Nat → List α → Nat → Prop
  | nil (i : Nat) : Run p ts i [] i
  | cons {i j k : Nat} {a : α} {rest : List α} (first : p ts i = some (a, j))
    (further : Run p ts j rest k) : Run p ts i (a :: rest) k

theorem run_of_manyFrom {fuel : Nat} {out l : List α}
    (read : manyFrom p fuel out ts i = some (l, j)) :
    ∃ more, l = out.reverse ++ more ∧ Run p ts i more j := by
  have stop {out l : List α} {i j : Nat} (read : some (out.reverse, i) = some (l, j)) :
      ∃ more, l = out.reverse ++ more ∧ Run p ts i more j := by
    cases read
    exact ⟨[], (List.append_nil _).symm, .nil _⟩
  induction fuel generalizing out i with
  | zero => exact stop read
  | succ fuel ih =>
    unfold manyFrom at read
    split at read
    next a j' first =>
      split at read
      · obtain ⟨more, rfl, further⟩ := ih read
        exact ⟨a :: more, by simp, .cons first further⟩
      · exact stop read
    next => exact stop read

theorem run_of_many {l : List α} (read : many p ts i = some (l, j)) : Run p ts i l j := by
  obtain ⟨more, rfl, run⟩ := run_of_manyFrom read
  exact run

/-- Each value of a run was read somewhere. -/
theorem Run.read {l : List α} (run : Run p ts i l j) :
    ∀ a ∈ l, ∃ i j, p ts i = some (a, j) := by
  induction run with
  | nil => exact nofun
  | cons first _ ih => exact List.forall_mem_cons.mpr ⟨⟨_, _, first⟩, ih⟩

variable [HasLines α]

/-- A run speaks of lines of the tokens that it passes. -/
theorem Run.lines {l : List α} (run : Run p ts i l j) (h : Draws [] p) :
    i ≤ j ∧ ∀ n ∈ lines l, LineIn ts i j n := by
  induction run with
  | nil i => exact ⟨Nat.le_refl i, nofun⟩
  | cons first _ ih =>
    obtain ⟨onward, drawn⟩ := h _ _ _ _ first
    obtain ⟨further, rest⟩ := ih
    refine ⟨Nat.le_trans onward further, fun n mem => ?_⟩
    rw [lines_cons, List.mem_append] at mem
    rcases mem with now | later
    · exact ((drawn n now).resolve_left nofun).mono (Nat.le_refl _) further
    · exact (rest n later).mono onward (Nat.le_refl _)

theorem Run.pairwise_before {first last : Nat} {l : List α} (run : Run p ts i l j)
    (laid : Laid first last ts) (h : Draws [] p) : l.Pairwise Before := by
  induction run with
  | nil => exact .nil
  | cons first further ih =>
    refine List.pairwise_cons.mpr ⟨fun b mem m inA n inB => ?_, ih⟩
    have here := ((h _ _ _ _ first).2 m inA).resolve_left nofun
    have there := (further.lines h).2 n (mem_lines_iff.mpr ⟨b, mem, inB⟩)
    exact LineIn.le laid here there

/-- What the reader reads from the tokens of a text is in order. -/
def Ordered (p : Reader (List α)) : Prop :=
  ∀ first last ts i l j, Laid first last ts → p ts i = some (l, j) → l.Pairwise Before

theorem Ordered.one {p : Reader α} : Ordered (do return [← p]) := by
  intro first last ts i l j _ read
  obtain ⟨a, k, -, read⟩ := exists_of_bind read
  cases read
  exact List.pairwise_singleton _ _

theorem Ordered.bind {β : Type} {p : Reader β} {f : β → Reader (List α)}
    (h : ∀ b, Ordered (f b)) : Ordered (p >>= f) := by
  intro first last ts i l j laid read
  obtain ⟨b, k, -, read⟩ := exists_of_bind read
  exact h b first last ts k l j laid read

theorem Ordered.orElse {p q : Reader (List α)} (h : Ordered p) (h' : Ordered q) :
    Ordered (p <|> q) := by
  intro first last ts i l j laid read
  rcases read_or_read_of_orElse read with read | read
  · exact h first last ts i l j laid read
  · exact h' first last ts i l j laid read

end Reader

variable {r : Rules}

/-- The statements on a line are in order. -/
theorem ordered_simpleLine (h : r.Drawn) : Ordered (simpleLine r) := by
  intro first last ts i l j laid read
  unfold simpleLine at read
  obtain ⟨s, k, head, read⟩ := exists_of_bind read
  obtain ⟨rest, k', tail, read⟩ := exists_of_bind read
  obtain ⟨_, _, _, read⟩ := exists_of_bind read
  obtain ⟨_, _, _, read⟩ := exists_of_bind read
  cases read
  have run := run_of_many tail
  have single : Run (simpleStatement r) ts i [s] k := .cons head (.nil k)
  refine List.pairwise_cons.mpr ⟨fun b mem m inS n inB => ?_, ?_⟩
  · have here := (single.lines (draws_simpleStatement h)).2 m ((lines_singleton s).symm ▸ inS)
    have there := (run.lines (draws_furtherStatement h)).2 n (mem_lines_iff.mpr ⟨b, mem, inB⟩)
    exact LineIn.le laid here there
  · exact run.pairwise_before laid (draws_furtherStatement h)

theorem ordered_statement (h : r.Drawn) : Ordered (statement r) := by
  unfold statement
  refine .bind fun t => ?_
  split
  case h_10 => exact .orElse .one (ordered_simpleLine h)
  case h_11 => exact ordered_simpleLine h
  all_goals exact .one

/-- Values read group by group are in order when those of a group are. -/
theorem Reader.Run.pairwise_flatten {α : Type} [HasLines α] {p : Reader (List α)}
    {ts : Array Token} {i j first last : Nat} {groups : List (List α)} (run : Run p ts i groups j)
    (laid : Laid first last ts) (draws : Draws [] p) (ordered : Ordered p) :
    groups.flatten.Pairwise Before := by
  refine List.pairwise_flatten.mpr ⟨fun group mem => ?_, ?_⟩
  · obtain ⟨_, _, read⟩ := run.read group mem
    exact ordered _ _ _ _ _ _ laid read
  · refine (run.pairwise_before laid draws).imp fun before a inA b inB m mem n mem' => ?_
    exact before m (mem_lines_iff.mpr ⟨a, inA, mem⟩) n (mem_lines_iff.mpr ⟨b, inB, mem'⟩)

/-- The statements of a source speak of its lines, in order. -/
theorem lines_of_module {source : String} {body : List Stmt} (read : module? source = some body) :
    (∀ n ∈ lines body, 1 ≤ n ∧ n ≤ 1 + (Text.unifyLineEnds source.toList).count '\n') ∧
      body.Pairwise Before := by
  obtain ⟨ts, cut, read⟩ := Option.bind_eq_some_iff.mp read
  obtain ⟨⟨body', j⟩, read, same⟩ := Option.bind_eq_some_iff.mp read
  cases same
  unfold tokens at cut
  split at cut
  · cases cut
  have laid := laid_of_tokensFrom cut
  obtain ⟨groups, k, groupsRead, read⟩ := exists_of_bind read
  obtain ⟨_, _, _, read⟩ := exists_of_bind read
  cases read
  have run := run_of_many groupsRead
  have draws : Draws [] (statement (rules (8 * (Text.unifyLineEnds source.toList).length + 64))) :=
    draws_statement (drawn_rules _)
  refine ⟨fun n mem => ?_, run.pairwise_flatten laid draws (ordered_statement (drawn_rules _))⟩
  exact LineIn.inside laid ((run.lines draws).2 n (mem_lines_of_flatten mem))

end RepoSurvey.Python
