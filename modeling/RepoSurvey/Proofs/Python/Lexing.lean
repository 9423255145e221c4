import RepoSurvey.Python.Token

/-!
# Lines of tokens

Tokens are cut from the text from left to right, so each one ends before the next
begins: its last line is not after the line of any later token
(`laid_of_tokensFrom`). Only strings reach over several lines.

Solid tokens stand for part of the text. They lie on its lines, and none of them
reaches the line feed that is added where the text does not end in one, because a
string ends in its closing quote and no other solid token holds a line feed. The
tokens of layout at the end stand one line further on.

`Lexer.Sound` is what each step of the tokenizer keeps: the line that was reached and
the line feeds that are left make up the last line, and the tokens so far are
in order before that place.
-/

namespace RepoSurvey.Python

/-- The token stands for part of the text and not for its layout. -/
def TokenKind.isSolid : TokenKind → Bool
  | .name _ => true
  | .number _ => true
  | .string _ => true
  | .op _ => true
  | _ => false

/-- The line on which a token ends. -/
def Token.lastLine (t : Token) : Nat :=
  match t.kind with
  | .string text => t.position.line + text.count '\n'
  | _ => t.position.line

theorem Token.line_le_lastLine (t : Token) : t.position.line ≤ t.lastLine := by
  unfold lastLine
  split
  · exact Nat.le_add_right _ _
  · exact Nat.le_refl _

/-! ## Places -/

theorem Position.line_afterAll (p : Position) (cs : List Char) :
    (p.afterAll cs).line = p.line + cs.count '\n' := by
  induction cs generalizing p with
  | nil => rfl
  | cons c rest ih =>
    show ((p.after c).afterAll rest).line = _
    rw [ih, List.count_cons, Position.after]
    by_cases feed : c = '\n'
    · simp only [feed, beq_self_eq_true, if_true]
      omega
    · simp only [beq_eq_false_iff_ne.mpr feed, Bool.false_eq_true, if_false]
      omega

/-- What is passed and what is left make up the line feeds of the text. -/
theorem Position.line_take_add_count_drop (p : Position) (cs : List Char) (n : Nat) :
    (p.afterAll (cs.take n)).line + (cs.drop n).count '\n' = p.line + cs.count '\n' := by
  rw [line_afterAll, Nat.add_assoc, ← List.count_append, List.take_append_drop]

theorem Position.line_le_afterAll (p : Position) (cs : List Char) :
    p.line ≤ (p.afterAll cs).line := by
  rw [line_afterAll]
  exact Nat.le_add_right _ _

/-- A text that ends in a line feed holds one. -/
theorem count_pos_of_ends {cs : List Char} (ends : cs.getLast? = some '\n') :
    0 < cs.count '\n' :=
  List.count_pos_iff.mpr (List.mem_of_getLast? ends)

/-! ## Strings end in their quote -/

theorem getElem?_of_stringLength? {quote : Char} {want run seen n : Nat} {cs : List Char}
    (found : stringLength? quote want run seen cs = some n) :
    ∃ k, n = seen + k + 1 ∧ cs[k]? = some quote := by
  fun_induction stringLength? quote want run seen cs with
  | case1 => cases found
  | case2 => cases found
  | case3 run seen c rest _ same _ =>
    cases found
    exact ⟨0, rfl, congrArg some (beq_iff_eq.mp same)⟩
  | case4 run seen c rest _ _ _ ih =>
    obtain ⟨k, rfl, here⟩ := ih found
    exact ⟨k + 1, by omega, here⟩
  | case5 => cases found
  | case6 run seen c _ _ _ skipped rest ih =>
    obtain ⟨k, rfl, here⟩ := ih found
    exact ⟨k + 2, by omega, here⟩
  | case7 run seen c rest _ _ _ ih =>
    obtain ⟨k, rfl, here⟩ := ih found
    exact ⟨k + 1, by omega, here⟩

theorem getElem?_of_quotedLength? {quote : Char} {n : Nat} {rest : List Char}
    (found : quotedLength? quote rest = some n) :
    ∃ k, n = k + 1 ∧ (quote :: rest)[k]? = some quote := by
  fun_cases quotedLength? quote rest
  case case1 b body first second =>
    simp only [quotedLength?, first, second, if_true] at found
    obtain ⟨k, rfl, here⟩ := getElem?_of_stringLength? found
    exact ⟨k + 3, by omega, here⟩
  case case2 a b body first second =>
    simp only [quotedLength?, first, second, if_true, Bool.false_eq_true, if_false] at found
    cases found
    exact ⟨1, rfl, congrArg some (beq_iff_eq.mp first)⟩
  case case3 a b body first =>
    simp only [quotedLength?, first, Bool.false_eq_true, if_false] at found
    obtain ⟨k, rfl, here⟩ := getElem?_of_stringLength? found
    exact ⟨k + 1, by omega, here⟩
  case case4 a first =>
    simp only [quotedLength?, first, if_true] at found
    cases found
    exact ⟨1, rfl, congrArg some (beq_iff_eq.mp first)⟩
  case case5 a first =>
    simp only [quotedLength?, first, Bool.false_eq_true, if_false] at found
    cases found
  case case6 => cases found

/-- What follows the letters of a string is the rest of it from its quote on. -/
theorem drop_of_stringStart? {l letters : StringLetters} {count n : Nat} {cs : List Char}
    {quote : Char} {body : List Char}
    (found : stringStart? l count cs = some (letters, n, quote :: body)) :
    quote ≠ '\n' ∧ ∃ k, n = count + k ∧ cs.drop k = quote :: body := by
  fun_induction stringStart? l count cs with
  | case1 => cases found
  | case2 l count c rest opens =>
    cases found
    refine ⟨?_, 0, rfl, rfl⟩
    rintro rfl
    exact absurd opens (by decide)
  | case3 l count c rest _ l' _ ih =>
    obtain ⟨other, k, rfl, further⟩ := ih found
    exact ⟨other, k + 1, by omega, further⟩
  | case4 => cases found

/-! ## One step -/

/-- What one step does with the text at hand, by how many characters it passes after the first. -/
inductive Lexer.Moves (l : Lexer) (cs : List Char) (next : Lexer) : Nat → Prop
  /-- Text that makes no token is passed. -/
  | skip {n : Nat} (place : next.position = l.position.afterAll (cs.take (n + 1)))
    (same : next.tokens = l.tokens) : Moves l cs next n
  /-- A line ends, perhaps with a token. -/
  | feed (place : next.position = l.position.afterAll (cs.take 1))
    (ends : next.tokens = ⟨.newline, l.position⟩ :: l.tokens) : Moves l cs next 0
  /-- A token other than a string is read. -/
  | plain {n : Nat} {kind : TokenKind} (inLine : cs.head? ≠ some '\n')
    (short : ∀ p : Position, (Token.mk kind p).lastLine = p.line)
    (place : next.position = l.position.afterAll (cs.take n))
    (made : next.tokens = ⟨kind, l.position⟩ :: l.tokens) : Moves l cs next (n - 1)
  /-- A string is read, up to its last quote. -/
  | string {n : Nat} {quote : Char} (other : quote ≠ '\n') (last : cs[n]? = some quote)
    (place : next.position = l.position.afterAll (cs.take (n + 1)))
    (made : next.tokens = ⟨.string (cs.take (n + 1)), l.position⟩ :: l.tokens) : Moves l cs next n

theorem Lexer.moves_of_scan {l next : Lexer} {c : Char} {rest : List Char} {taken : Nat}
    (ok : l.scan c rest = some (next, taken)) : l.Moves (c :: rest) next taken := by
  unfold Lexer.scan at ok
  simp only at ok
  split at ok
  · cases ok
    exact .skip rfl rfl
  split at ok
  · cases ok
    exact .skip rfl rfl
  split at ok
  next feed =>
    cases ok
    rw [beq_iff_eq] at feed
    subst feed
    by_cases quiet : (l.idle || !l.brackets.isEmpty) = true
    · exact .skip rfl (by simp only [quiet, if_true])
    · exact .feed rfl (by rw [if_neg quiet]; rfl)
  next other =>
  have inLine : (c :: rest).head? ≠ some '\n' := by
    intro feed
    exact other (beq_iff_eq.mpr (Option.some.inj feed))
  split at ok
  · split at ok
    · cases ok
      exact .skip rfl rfl
    · cases ok
  split at ok
  · split at ok
    · cases ok
      exact .plain inLine (fun _ => rfl) rfl rfl
    · cases ok
  split at ok
  · split at ok
    next letters quote body started =>
      obtain ⟨n, length, made⟩ := Option.map_eq_some_iff.mp ok
      obtain ⟨other, k, rfl, further⟩ := drop_of_stringStart? started
      obtain ⟨j, rfl, here⟩ := getElem?_of_quotedLength? length
      rw [← further, List.getElem?_drop] at here
      rw [Nat.zero_add, ← Nat.add_assoc] at made
      cases made
      exact .string other here rfl rfl
    · cases ok
  split at ok
  · obtain ⟨⟨text, left⟩, -, made⟩ := Option.map_eq_some_iff.mp ok
    cases made
    exact .plain inLine (fun _ => rfl) rfl rfl
  split at ok
  · obtain ⟨brackets, -, made⟩ := Option.map_eq_some_iff.mp ok
    cases made
    exact .plain inLine (fun _ => rfl) rfl rfl
  · cases ok

/-! ## The whole run -/

/-- The tokens so far lie before the place that was reached, in order, and with
what is left the text ends on line `last`. -/
structure Lexer.Sound (first last : Nat) (l : Lexer) (cs : List Char) : Prop where
  /-- What is left ends in a line feed. -/
  ends : cs ≠ [] → cs.getLast? = some '\n'
  /-- The line that was reached and the line feeds that are left make up the last line. -/
  line : l.position.line + cs.count '\n' = last
  /-- The place is not before the first line. -/
  start : first ≤ l.position.line
  /-- Tokens end before the place, and solid ones before the last line. -/
  tokens : ∀ t ∈ l.tokens, first ≤ t.position.line ∧ t.lastLine ≤ l.position.line ∧
    (t.kind.isSolid = true → t.lastLine < last)
  /-- Each token ends before those after it begin. -/
  ordered : l.tokens.Pairwise fun later t => t.lastLine ≤ later.position.line

namespace Lexer.Sound

variable {first last : Nat} {l next : Lexer} {cs : List Char}

/-- One more token, which begins where the others end. -/
theorem cons (h : l.Sound first last cs) {kind : TokenKind} {left : List Char}
    (made : next.tokens = ⟨kind, l.position⟩ :: l.tokens)
    (further : next.position.line + left.count '\n' = l.position.line + cs.count '\n')
    (ends : left ≠ [] → left.getLast? = some '\n')
    (before : (Token.mk kind l.position).lastLine ≤ next.position.line)
    (solid : kind.isSolid = true → (Token.mk kind l.position).lastLine < last) :
    next.Sound first last left where
  ends := ends
  line := further.trans h.line
  start := Nat.le_trans (Nat.le_trans h.start (Token.line_le_lastLine ⟨kind, l.position⟩)) before
  tokens := by
    rw [made]
    refine List.forall_mem_cons.mpr ⟨⟨h.start, before, solid⟩, ?_⟩
    intro t mem
    obtain ⟨low, high, inside⟩ := h.tokens t mem
    have onward : l.position.line ≤ next.position.line :=
      Nat.le_trans (Token.line_le_lastLine ⟨kind, l.position⟩) before
    exact ⟨low, Nat.le_trans high onward, inside⟩
  ordered := by
    rw [made]
    exact List.pairwise_cons.mpr ⟨fun t mem => (h.tokens t mem).2.1, h.ordered⟩

/-- No token, and a place that is not before. -/
theorem same (h : l.Sound first last cs) {left : List Char} (tokens : next.tokens = l.tokens)
    (further : next.position.line + left.count '\n' = l.position.line + cs.count '\n')
    (ends : left ≠ [] → left.getLast? = some '\n')
    (onward : l.position.line ≤ next.position.line) : next.Sound first last left where
  ends := ends
  line := further.trans h.line
  start := Nat.le_trans h.start onward
  tokens := by
    rw [tokens]
    intro t mem
    obtain ⟨low, high, inside⟩ := h.tokens t mem
    exact ⟨low, Nat.le_trans high onward, inside⟩
  ordered := tokens ▸ h.ordered

theorem push (h : l.Sound first last cs) {kind : TokenKind} (layout : kind.isSolid = false)
    (short : ∀ p : Position, (Token.mk kind p).lastLine = p.line) :
    (l.push kind).Sound first last cs := by
  refine h.cons rfl rfl h.ends (Nat.le_of_eq (short _)) ?_
  rw [layout]
  exact nofun

theorem foldl_push {α : Type} (h : l.Sound first last cs) {kind : TokenKind}
    (layout : kind.isSolid = false) (short : ∀ p : Position, (Token.mk kind p).lastLine = p.line)
    (times : List α) : (times.foldl (fun l _ => l.push kind) l).Sound first last cs := by
  induction times generalizing l with
  | nil => exact h
  | cons _ rest ih => exact ih (h.push layout short)

theorem indent (h : l.Sound first last cs) {i : Indentation} (ok : l.indent i = some next) :
    next.Sound first last cs := by
  have still {fresh idle : Bool} {blocks : List (Nat × Nat)} :
      ({ l with fresh := fresh, idle := idle, blocks := blocks } : Lexer).Sound first last cs :=
    h.same rfl rfl h.ends (Nat.le_refl _)
  unfold Lexer.indent at ok
  simp only at ok
  repeat' split at ok
  all_goals cases ok
  · exact still
  · exact still
  · exact still.push rfl fun _ => rfl
  · exact still.foldl_push rfl (fun _ => rfl) _

theorem ends_drop (h : l.Sound first last cs) (n : Nat) (more : cs.drop n ≠ []) :
    (cs.drop n).getLast? = some '\n' := by
  have long : ¬ cs.length ≤ n := fun short => more (List.drop_eq_nil_of_le short)
  rw [List.getLast?_drop, if_neg long]
  refine h.ends ?_
  rintro rfl
  exact more List.drop_nil

/-- While text is left, the place is before the last line. -/
theorem line_lt (h : l.Sound first last cs) (more : cs ≠ []) : l.position.line < last := by
  have line := h.line
  have positive := count_pos_of_ends (h.ends more)
  omega

/-- What a step makes of the text that it passes lies there. -/
theorem moves (h : l.Sound first last cs) (more : cs ≠ []) {taken : Nat}
    (moves : l.Moves cs next taken) : next.Sound first last (cs.drop (taken + 1)) := by
  cases moves with
  | skip place same =>
    refine h.same same ?_ (h.ends_drop _) ?_
    · rw [place]
      exact Position.line_take_add_count_drop _ _ _
    · rw [place]
      exact Position.line_le_afterAll _ _
  | feed place made =>
    refine h.cons made ?_ (h.ends_drop _) ?_ nofun
    · rw [place]
      exact Position.line_take_add_count_drop _ _ _
    · rw [place]
      exact Position.line_le_afterAll _ _
  | @plain n kind inLine short place made =>
    refine h.cons made ?_ (h.ends_drop _) ?_ ?_
    · rw [place]
      cases n with
      | zero =>
        obtain ⟨c, rest, rfl⟩ := List.exists_cons_of_ne_nil more
        have other : c ≠ '\n' := fun feed => inLine (congrArg some feed)
        rw [List.count_cons_of_ne other]
        rfl
      | succ n => exact Position.line_take_add_count_drop _ _ _
    · rw [short, place]
      exact Position.line_le_afterAll _ _
    · intro _
      rw [short]
      exact h.line_lt more
  | string other here place made =>
    have spans : (Token.mk (.string (cs.take (taken + 1))) l.position).lastLine =
        next.position.line := by
      rw [place, Position.line_afterAll]
      rfl
    have further : next.position.line + (cs.drop (taken + 1)).count '\n' =
        l.position.line + cs.count '\n' := by
      rw [place]
      exact Position.line_take_add_count_drop _ _ _
    refine h.cons made further (h.ends_drop _) (Nat.le_of_eq spans) ?_
    intro _
    -- the text goes on after the quote, since it ends in a line feed
    have left : cs.drop (taken + 1) ≠ [] := by
      intro none
      have inside := (List.getElem?_eq_some_iff.mp here).1
      have long := List.drop_eq_nil_iff.mp none
      have final := h.ends more
      rw [List.getLast?_eq_getElem?, Nat.le_antisymm long inside, Nat.add_sub_cancel, here] at final
      exact other (Option.some.inj final)
    have positive := count_pos_of_ends (h.ends_drop _ left)
    have line := h.line
    omega

theorem run (h : l.Sound first last cs) (ok : l.run cs = some next) :
    next.Sound first last [] := by
  fun_induction Lexer.run l cs with
  | case1 l closed =>
    cases ok
    exact (h.foldl_push rfl (fun _ => rfl) _).push rfl fun _ => rfl
  | case2 => cases ok
  | case3 l c rest scan fresh ih =>
    obtain ⟨l', indented, ok⟩ := Option.bind_eq_some_iff.mp ok
    obtain ⟨step, scanned, ok⟩ := Option.bind_eq_some_iff.mp ok
    have moved := (h.indent indented).moves nofun (Lexer.moves_of_scan scanned)
    exact ih step.1 step.2 moved ok
  | case4 l c rest scan fresh ih =>
    obtain ⟨l', same, ok⟩ := Option.bind_eq_some_iff.mp ok
    cases same
    obtain ⟨step, scanned, ok⟩ := Option.bind_eq_some_iff.mp ok
    exact ih step.1 step.2 (h.moves nofun (Lexer.moves_of_scan scanned)) ok

end Lexer.Sound

/-! ## The tokens of a text -/

/-- Tokens in the order of the text, the solid ones between two lines. -/
structure Laid (first last : Nat) (ts : Array Token) : Prop where
  /-- Each token ends before those after it begin. -/
  ordered : ts.toList.Pairwise fun t later => t.lastLine ≤ later.position.line
  /-- Solid tokens lie between the lines. -/
  within : ∀ t ∈ ts, t.kind.isSolid = true → first ≤ t.position.line ∧ t.lastLine ≤ last

theorem getLast?_withFinalNewline (cs : List Char) :
    (withFinalNewline cs).getLast? = some '\n' := by
  unfold withFinalNewline
  split
  next ends => exact beq_iff_eq.mp ends
  · exact List.getLast?_concat

theorem count_withFinalNewline_le (cs : List Char) :
    (withFinalNewline cs).count '\n' ≤ cs.count '\n' + 1 := by
  unfold withFinalNewline
  split
  · exact Nat.le_succ _
  · rw [List.count_append]
    exact Nat.le_refl _

/-- The tokens of a text are in its order, the solid ones on its lines. -/
theorem laid_of_tokensFrom {start : Position} {cs : List Char} {ts : Array Token}
    (ok : tokensFrom start cs = some ts) : Laid start.line (start.line + cs.count '\n') ts := by
  obtain ⟨l, read, rfl⟩ := Option.map_eq_some_iff.mp ok
  have begins : Lexer.Sound start.line (start.line + (withFinalNewline cs).count '\n')
      { position := start } (withFinalNewline cs) :=
    { ends := fun _ => getLast?_withFinalNewline cs
      line := rfl
      start := Nat.le_refl _
      tokens := nofun
      ordered := .nil }
  have sound := begins.run read
  constructor
  · exact List.pairwise_reverse.mpr sound.ordered
  · intro t mem solid
    obtain ⟨low, -, inside⟩ := sound.tokens t (List.mem_reverse.mp (List.mem_toArray.mp mem))
    have below := inside solid
    have feeds := count_withFinalNewline_le cs
    exact ⟨low, by omega⟩

end RepoSurvey.Python
