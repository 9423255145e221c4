import RepoSurvey.Proofs.Python.Lexing
import RepoSurvey.Python.Reader

/-!
# What readers draw from tokens

A value that is read from tokens speaks of lines: those of its calls and of its
definitions (`HasLines`). A reader *draws* its lines from the tokens it passes,
when each of them is a line of a solid token among these, or was known before
(`Reader.Draws`). Each way of making readers from readers has its lemma here, so
that a rule of the grammar is followed line by line.

The known lines are a list that grows from left to right: after a value was read,
its lines are known to what reads on (`Draws.bind`), and a finished value may
speak of known lines only (`Draws.pure`).
-/

namespace RepoSurvey.Python

/-! ## Lines of values -/

/-- Values that speak of lines. -/
class HasLines (α : Type) where
  /-- The lines of which a value speaks. -/
  lines : α → List Nat

export HasLines (lines)

instance : HasLines Unit := ⟨fun _ => []⟩
instance : HasLines Bool := ⟨fun _ => []⟩
instance : HasLines Nat := ⟨fun _ => []⟩
instance : HasLines String := ⟨fun _ => []⟩
instance : HasLines Token := ⟨fun _ => []⟩

instance {α : Type} [HasLines α] : HasLines (Option α) := ⟨fun a => a.elim [] lines⟩
instance {α : Type} [HasLines α] : HasLines (List α) := ⟨List.flatMap lines⟩
instance {α β : Type} [HasLines α] [HasLines β] : HasLines (α × β) :=
  ⟨fun a => lines a.1 ++ lines a.2⟩

section

variable {α β : Type} [HasLines α] [HasLines β]

@[simp, grind =] theorem lines_unit (a : Unit) : lines a = [] := rfl
@[simp, grind =] theorem lines_bool (a : Bool) : lines a = [] := rfl
@[simp, grind =] theorem lines_nat (a : Nat) : lines a = [] := rfl
@[simp, grind =] theorem lines_string (a : String) : lines a = [] := rfl
@[simp, grind =] theorem lines_token (a : Token) : lines a = [] := rfl
@[simp, grind =] theorem lines_none : lines (none : Option α) = [] := rfl
@[simp, grind =] theorem lines_some (a : α) : lines (some a) = lines a := rfl
@[simp, grind =] theorem lines_nil : lines ([] : List α) = [] := rfl
@[simp, grind =] theorem lines_cons (a : α) (rest : List α) :
    lines (a :: rest) = lines a ++ lines rest := rfl
@[simp, grind =] theorem lines_singleton (a : α) : lines [a] = lines a := List.append_nil _
@[simp, grind =] theorem lines_pair (a : α) (b : β) : lines (a, b) = lines a ++ lines b := rfl

@[simp, grind =] theorem lines_append (front back : List α) :
    lines (front ++ back) = lines front ++ lines back :=
  List.flatMap_append

theorem mem_lines_iff {l : List α} {n : Nat} : n ∈ lines l ↔ ∃ a ∈ l, n ∈ lines a :=
  List.mem_flatMap

@[simp, grind =] theorem mem_lines_reverse {l : List α} {n : Nat} :
    n ∈ lines l.reverse ↔ n ∈ lines l := by
  simp only [mem_lines_iff, List.mem_reverse]

end

/-! ## Lines of tokens -/

/-- The line is one of a solid token that stands between two places. -/
def LineIn (ts : Array Token) (i j n : Nat) : Prop :=
  ∃ k t, i ≤ k ∧ k < j ∧ ts[k]? = some t ∧ t.kind.isSolid = true ∧
    t.position.line ≤ n ∧ n ≤ t.lastLine

theorem LineIn.mono {ts : Array Token} {i j i' j' n : Nat} (h : LineIn ts i j n) (low : i' ≤ i)
    (high : j ≤ j') : LineIn ts i' j' n := by
  obtain ⟨k, t, above, below, rest⟩ := h
  exact ⟨k, t, Nat.le_trans low above, Nat.lt_of_lt_of_le below high, rest⟩

namespace Reader

section

variable {α β : Type}

theorem exists_of_bind {p : Reader α} {f : α → Reader β} {ts : Array Token} {i k : Nat} {b : β}
    (read : (p >>= f) ts i = some (b, k)) :
    ∃ a j, p ts i = some (a, j) ∧ f a ts j = some (b, k) := by
  change Reader.bind p f ts i = _ at read
  unfold Reader.bind at read
  split at read
  next a j first => exact ⟨a, j, first, read⟩
  next => cases read

theorem read_or_read_of_orElse {p q : Reader α} {ts : Array Token} {i : Nat} {r : α × Nat}
    (read : (p <|> q) ts i = some r) : p ts i = some r ∨ q ts i = some r := by
  change Reader.orElse p (fun _ => q) ts i = _ at read
  unfold Reader.orElse at read
  split at read
  next first => exact .inl (first.trans read)
  next => exact .inr read

theorem token_eq_some {kind : TokenKind} {ts : Array Token} {i j : Nat} {a : Unit}
    (read : token kind ts i = some (a, j)) :
    j = i + 1 ∧ ∃ t, ts[i]? = some t ∧ t.kind = kind := by
  unfold token at read
  split at read
  next t here =>
    split at read
    next same =>
      cases read
      exact ⟨rfl, t, here, beq_iff_eq.mp same⟩
    next => cases read
  next => cases read

/-- A word is read when it is at hand; otherwise nothing is. -/
theorem skipWord_eq_some {text : String} {ts : Array Token} {i j : Nat} {b : Bool}
    (read : skipWord text ts i = some (b, j)) : word text ts i = some ((), j) ∨ j = i := by
  unfold skipWord at read
  split at read
  next first =>
    cases read
    exact .inl first
  next =>
    cases read
    exact .inr rfl

end

variable {α β : Type} [HasLines α] [HasLines β] {known : List Nat}

/-- What the reader reads speaks of known lines and of lines of the tokens that
are passed. -/
def Draws (known : List Nat) (p : Reader α) : Prop :=
  ∀ ts i a j, p ts i = some (a, j) → i ≤ j ∧ ∀ n ∈ lines a, n ∈ known ∨ LineIn ts i j n

/-! ## Readers made from readers -/

namespace Draws

theorem mono {known' : List Nat} {p : Reader α} (h : Draws known p)
    (more : ∀ n ∈ known, n ∈ known') : Draws known' p := by
  intro ts i a j read
  obtain ⟨forward, drawn⟩ := h ts i a j read
  exact ⟨forward, fun n mem => (drawn n mem).imp_left (more n)⟩

/-- Nothing is passed: what is returned speaks of known lines only. -/
theorem pure {a : α} (h : ∀ n ∈ lines a, n ∈ known) : Draws known (Pure.pure a : Reader α) := by
  intro ts i b j read
  cases read
  exact ⟨Nat.le_refl _, fun n mem => .inl (h n mem)⟩

theorem fail : Draws known (Reader.fail : Reader α) := nofun

/-- What was read is known to what reads on. -/
theorem step {p : Reader α} {q : Reader β} {ts : Array Token} {i j k : Nat} {a : α} {b : β}
    (h : Draws known p) (first : p ts i = some (a, j)) (further : Draws (lines a ++ known) q)
    (rest : q ts j = some (b, k)) :
    i ≤ k ∧ ∀ n ∈ lines b, n ∈ known ∨ LineIn ts i k n := by
  obtain ⟨forward, drawn⟩ := h ts i a j first
  obtain ⟨forward', drawn'⟩ := further ts j b k rest
  refine ⟨Nat.le_trans forward forward', ?_⟩
  intro n mem
  rcases drawn' n mem with old | new
  · rcases List.mem_append.mp old with own | old
    · exact (drawn n own).imp_right (·.mono (Nat.le_refl _) forward')
    · exact .inl old
  · exact .inr (new.mono forward (Nat.le_refl _))

theorem bind {p : Reader α} {f : α → Reader β} (h : Draws known p)
    (further : ∀ a, Draws (lines a ++ known) (f a)) : Draws known (p >>= f) := by
  intro ts i b k read
  obtain ⟨a, j, first, rest⟩ := exists_of_bind read
  exact h.step first (further a) rest

theorem map_some {p : Reader α} (h : Draws known p) : Draws known (some <$> p) :=
  h.bind fun _ => .pure fun _ mem => List.mem_append_left _ mem

theorem orElse {p q : Reader α} (h : Draws known p) (h' : Draws known q) :
    Draws known (p <|> q) := by
  intro ts i a j read
  rcases read_or_read_of_orElse read with first | second
  · exact h ts i a j first
  · exact h' ts i a j second

theorem ofOption {a? : Option α} (h : ∀ n ∈ lines a?, n ∈ known) :
    Draws known (Reader.ofOption a?) := by
  cases a? with
  | none => exact fail
  | some a => exact pure h

theorem check (b : Bool) : Draws known (Reader.check b) := by
  unfold Reader.check
  split
  · exact pure nofun
  · exact fail

theorem optional {p : Reader α} (h : Draws known p) : Draws known (Reader.optional p) := by
  intro ts i a j read
  unfold Reader.optional at read
  split at read
  next first =>
    cases read
    exact h ts i _ j first
  next =>
    cases read
    exact ⟨Nat.le_refl _, nofun⟩

theorem manyFrom {p : Reader α} (h : Draws known p) (fuel : Nat) (out : List α) :
    Draws (lines out ++ known) (Reader.manyFrom p fuel out) := by
  have stop (out : List α) : Draws (lines out ++ known) (Pure.pure out.reverse : Reader (List α)) :=
    .pure (by grind)
  induction fuel generalizing out with
  | zero => exact stop out
  | succ fuel ih =>
    intro ts i l k read
    unfold Reader.manyFrom at read
    split at read
    next a j first =>
      split at read
      · exact step (h.mono (by grind)) first ((ih (a :: out)).mono (by grind)) read
      · exact stop out ts i l k read
    next => exact stop out ts i l k read

theorem many {p : Reader α} (h : Draws known p) : Draws known (Reader.many p) :=
  fun ts i => h.manyFrom (ts.size + 1) [] ts i

theorem many1 {p : Reader α} (h : Draws known p) : Draws known (Reader.many1 p) := by
  refine h.bind fun first => ?_
  refine (h.mono (by grind)).many.bind fun rest => ?_
  exact .pure (by grind)

/-- A value that is extended step by step speaks of what each step reads. -/
theorem growFrom {p : α → Reader α} (h : ∀ a, Draws (lines a ++ known) (p a)) (fuel : Nat) (a : α) :
    Draws (lines a ++ known) (Reader.growFrom p fuel a) := by
  have stop (a : α) : Draws (lines a ++ known) (Pure.pure a : Reader α) := .pure (by grind)
  induction fuel generalizing a with
  | zero => exact stop a
  | succ fuel ih =>
    intro ts i b k read
    unfold Reader.growFrom at read
    split at read
    next c j first =>
      split at read
      · exact step (h a) first ((ih c).mono (by grind)) read
      · exact stop a ts i b k read
    next => exact stop a ts i b k read

theorem grow {p : α → Reader α} {a : α} (start : ∀ n ∈ lines a, n ∈ known)
    (h : ∀ a, Draws (lines a ++ known) (p a)) : Draws known (Reader.grow p a) := by
  intro ts i
  exact ((growFrom h (ts.size + 1) a).mono (by grind)) ts i

end Draws

/-! ## Tokens -/

theorem draws_peek : Draws known peek := by
  intro ts i a j read
  obtain ⟨_, -, same⟩ := Option.map_eq_some_iff.mp read
  cases same
  exact ⟨Nat.le_refl _, nofun⟩

theorem draws_sees (kind : TokenKind) : Draws known (sees kind) := by
  intro ts i a j read
  unfold sees at read
  split at read
  all_goals
    cases read
    exact ⟨Nat.le_refl _, nofun⟩

theorem draws_token (kind : TokenKind) : Draws known (token kind) := by
  intro ts i a j read
  obtain ⟨rfl, -⟩ := token_eq_some read
  exact ⟨Nat.le_succ i, nofun⟩

theorem draws_op (text : String) : Draws known (op text) :=
  draws_token _

theorem draws_word (text : String) : Draws known (word text) :=
  draws_token _

theorem draws_seesOp (text : String) : Draws known (seesOp text) :=
  draws_sees _

theorem draws_seesWord (text : String) : Draws known (seesWord text) :=
  draws_sees _

theorem draws_skipOp (text : String) : Draws known (skipOp text) := by
  intro ts i a j read
  unfold skipOp at read
  split at read
  next first =>
    cases read
    exact ⟨(@draws_op [] text ts i _ j first).1, nofun⟩
  next =>
    cases read
    exact ⟨Nat.le_refl _, nofun⟩

theorem draws_skipWord (text : String) : Draws known (skipWord text) := by
  intro ts i a j read
  rcases skipWord_eq_some read with first | rfl
  · exact ⟨(@draws_word known text ts i _ j first).1, nofun⟩
  · exact ⟨Nat.le_refl _, nofun⟩

omit [HasLines α] in
theorem draws_ahead (p : Reader α) : Draws known (ahead p) := by
  intro ts i a j read
  obtain ⟨_, -, same⟩ := Option.map_eq_some_iff.mp read
  cases same
  exact ⟨Nat.le_refl _, nofun⟩

theorem draws_name : Draws known name := by
  intro ts i a j read
  unfold name at read
  split at read
  · split at read
    · cases read
    · cases read
      exact ⟨Nat.le_succ _, nofun⟩
  · cases read

theorem draws_commaList {p : Reader α} (h : ∀ known, Draws known p) :
    Draws known (commaList p) := by
  unfold commaList
  refine (h _).bind fun first => ?_
  refine (((draws_op ",").bind fun _ => h _).many).bind fun rest => ?_
  refine (draws_skipOp ",").bind fun trailing => ?_
  exact .pure (by grind)

/-! ## Readers that begin with a solid token -/

/-- The reader passes at least one token, and the first that it passes is solid. -/
def TakesSolid {α : Type} (p : Reader α) : Prop :=
  ∀ ts i a j, p ts i = some (a, j) → i < j ∧ ∃ t, ts[i]? = some t ∧ t.kind.isSolid = true

theorem takesSolid_token {kind : TokenKind} (solid : kind.isSolid = true) :
    TakesSolid (token kind) := by
  intro ts i a j read
  obtain ⟨rfl, t, here, rfl⟩ := token_eq_some read
  exact ⟨Nat.lt_succ_self i, t, here, solid⟩

theorem takesSolid_op (text : String) : TakesSolid (op text) :=
  takesSolid_token rfl

theorem takesSolid_word (text : String) : TakesSolid (word text) :=
  takesSolid_token rfl

omit [HasLines α] in
theorem TakesSolid.bind {p : Reader α} {f : α → Reader β} (h : TakesSolid p)
    (further : ∀ a, ∃ known, Draws known (f a)) : TakesSolid (p >>= f) := by
  intro ts i b k read
  obtain ⟨a, j, first, rest⟩ := exists_of_bind read
  obtain ⟨forward, solid⟩ := h ts i a j first
  obtain ⟨known, draws⟩ := further a
  exact ⟨Nat.lt_of_lt_of_le forward (draws ts j b k rest).1, solid⟩

/-- A reader that begins with a word takes a solid token, and draws what the rest draws. -/
theorem takesSolid_and_draws_word_bind {text : String} {f : Unit → Reader α}
    (h : ∀ u, Draws known (f u)) :
    TakesSolid (word text >>= f) ∧ Draws known (word text >>= f) :=
  ⟨(takesSolid_word text).bind fun u => ⟨known, h u⟩, (draws_word text).bind h⟩

omit [HasLines α] in
/-- Looking at a token passes nothing. -/
theorem TakesSolid.peek_bind {f : Token → Reader α} (h : ∀ t, TakesSolid (f t)) :
    TakesSolid (peek >>= f) := by
  intro ts i a k read
  obtain ⟨t, j, first, rest⟩ := exists_of_bind read
  obtain ⟨_, -, same⟩ := Option.map_eq_some_iff.mp first
  cases same
  exact h t ts i a k rest

theorem takesSolid_name : TakesSolid name := by
  intro ts i a j read
  unfold name at read
  split at read
  next text position here =>
    split at read
    · cases read
    · cases read
      exact ⟨Nat.lt_succ_self i, _, here, rfl⟩
  next => cases read

omit [HasLines α] in
theorem TakesSolid.orElse {p q : Reader α} (h : TakesSolid p) (h' : TakesSolid q) :
    TakesSolid (p <|> q) := by
  intro ts i a j read
  rcases read_or_read_of_orElse read with first | second
  · exact h ts i a j first
  · exact h' ts i a j second

omit [HasLines α] in
/-- A word that may be missing does not matter where a solid token follows. -/
theorem TakesSolid.skipWord_bind {text : String} {f : Bool → Reader α}
    (h : ∀ b, TakesSolid (f b)) : TakesSolid (skipWord text >>= f) := by
  intro ts i a k read
  obtain ⟨b, j, first, rest⟩ := exists_of_bind read
  obtain ⟨forward, solid⟩ := h b ts j a k rest
  rcases skipWord_eq_some first with word | rfl
  · obtain ⟨before, solid⟩ := takesSolid_word text ts i _ j word
    exact ⟨Nat.lt_trans before forward, solid⟩
  · exact ⟨forward, solid⟩

/-- The place of a solid token that is then passed is one of its lines. -/
theorem Draws.position_bind {f : Position → Reader α}
    (h : ∀ start, TakesSolid (f start) ∧ Draws (start.line :: known) (f start)) :
    Draws known (position >>= f) := by
  intro ts i a k read
  obtain ⟨start, j, first, rest⟩ := exists_of_bind read
  unfold position at first
  split at first
  next t here =>
    cases first
    obtain ⟨takes, draws⟩ := h t.position
    obtain ⟨forward, t', here', solid⟩ := takes ts i a k rest
    cases Option.some.inj (here.symm.trans here')
    obtain ⟨-, drawn⟩ := draws ts i a k rest
    refine ⟨Nat.le_of_lt forward, ?_⟩
    intro n mem
    rcases drawn n mem with old | new
    · rcases List.mem_cons.mp old with rfl | old
      · exact .inr ⟨i, t, Nat.le_refl _, forward, here, solid, Nat.le_refl _, t.line_le_lastLine⟩
      · exact .inl old
    · exact .inr new
  next => cases first

end Reader

end RepoSurvey.Python
