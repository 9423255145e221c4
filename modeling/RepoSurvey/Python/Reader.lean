import RepoSurvey.Python.Tree
import RepoSurvey.Text.Composed

/-!
# Readers of tokens

A reader looks at the tokens from an index on and either refuses or gives a
value and the index after what it read. A choice goes back to where it began
before it tries its second reader. Repetition is bounded by the number of
tokens, which no repetition can exceed.
-/

namespace RepoSurvey.Python

/-- Reads a value from the tokens at an index. -/
def Reader (α : Type) := Array Token → Nat → Option (α × Nat)

namespace Reader

variable {α β : Type}

/-- Reads nothing. -/
protected def pure (a : α) : Reader α := fun _ i => some (a, i)

/-- Reads with `p` and goes on with what `f` makes of its value. -/
protected def bind (p : Reader α) (f : α → Reader β) : Reader β := fun ts i =>
  match p ts i with
  | some (a, j) => f a ts j
  | none => none

instance : Monad Reader where
  pure := Reader.pure
  bind := Reader.bind

/-- Refuses. -/
def fail : Reader α := fun _ _ => none

/-- The first reader, or the second when it refuses. -/
def orElse (p : Reader α) (q : Unit → Reader α) : Reader α := fun ts i =>
  match p ts i with
  | some r => some r
  | none => q () ts i

instance : OrElse (Reader α) := ⟨orElse⟩

/-- A value that must be there. -/
def ofOption : Option α → Reader α
  | some a => Reader.pure a
  | none => fail

/-- Refuses unless the condition holds. -/
def check (b : Bool) : Reader Unit :=
  if b then Reader.pure () else fail

/-- What the reader reads, or nothing when it refuses. -/
def optional (p : Reader α) : Reader (Option α) := fun ts i =>
  match p ts i with
  | some (a, j) => some (some a, j)
  | none => some (none, i)

/-- Reads with `p` as often as it goes forward; `out` holds the values, last first. -/
def manyFrom (p : Reader α) : Nat → List α → Reader (List α)
  | 0, out => fun _ i => some (out.reverse, i)
  | fuel + 1, out => fun ts i =>
    match p ts i with
    | some (a, j) => if i < j then manyFrom p fuel (a :: out) ts j else some (out.reverse, i)
    | none => some (out.reverse, i)

/-- Reads with `p` as often as possible. -/
def many (p : Reader α) : Reader (List α) := fun ts i =>
  manyFrom p (ts.size + 1) [] ts i

/-- Reads with `p` at least once and as often as possible. -/
def many1 (p : Reader α) : Reader (List α) := do
  let first ← p
  let rest ← many p
  return first :: rest

/-- Refuses unless `p` would read; reads nothing itself. -/
def ahead (p : Reader α) : Reader Unit := fun ts i =>
  (p ts i).map fun _ => ((), i)

/-- Extends a value as long as `p` reads more. -/
def growFrom (p : α → Reader α) : Nat → α → Reader α
  | 0, a => fun _ i => some (a, i)
  | fuel + 1, a => fun ts i =>
    match p a ts i with
    | some (b, j) => if i < j then growFrom p fuel b ts j else some (a, i)
    | none => some (a, i)

/-- Extends a value as long as `p` reads more. -/
def grow (p : α → Reader α) (a : α) : Reader α := fun ts i =>
  growFrom p (ts.size + 1) a ts i

/-! ## Tokens -/

/-- The token at hand. -/
def peek : Reader Token := fun ts i =>
  ts[i]?.map fun t => (t, i)

/-- The token at hand is of this kind. -/
def sees (kind : TokenKind) : Reader Bool := fun ts i =>
  match ts[i]? with
  | some t => some (t.kind == kind, i)
  | none => some (false, i)

/-- Reads a token of this kind. -/
def token (kind : TokenKind) : Reader Unit := fun ts i =>
  match ts[i]? with
  | some t => if t.kind == kind then some ((), i + 1) else none
  | none => none

/-- Reads an operator. -/
def op (text : String) : Reader Unit :=
  token (.op text)

/-- Reads a word, keyword or not. -/
def word (text : String) : Reader Unit :=
  token (.name text)

/-- The operator is at hand. -/
def seesOp (text : String) : Reader Bool :=
  sees (.op text)

/-- The word is at hand. -/
def seesWord (text : String) : Reader Bool :=
  sees (.name text)

/-- Reads an operator when it is at hand, and tells whether it was. -/
def skipOp (text : String) : Reader Bool := fun ts i =>
  match op text ts i with
  | some (_, j) => some (true, j)
  | none => some (false, i)

/-- Reads a word when it is at hand, and tells whether it was. -/
def skipWord (text : String) : Reader Bool := fun ts i =>
  match word text ts i with
  | some (_, j) => some (true, j)
  | none => some (false, i)

/-- The words that are never names. -/
def keywords : List String :=
  ["False", "None", "True", "and", "as", "assert", "async", "await", "break", "class", "continue",
    "def", "del", "elif", "else", "except", "finally", "for", "from", "global", "if", "import",
    "in",
    "is", "lambda", "nonlocal", "not", "or", "pass", "raise", "return", "try", "while", "with",
    "yield"]

/-- Reads a name in its composed form. -/
def name : Reader String := fun ts i =>
  match ts[i]? with
  | some ⟨.name text, _⟩ =>
    if keywords.contains text then none
    else some (String.ofList (Text.composed text.toList), i + 1)
  | _ => none

/-- The place of the token at hand. -/
def position : Reader Position := fun ts i =>
  match ts[i]? with
  | some t => some (t.position, i)
  | none => none

/-- Items with commas between them, at least one; a comma may follow the last.
Gives the items and whether the list ends in a comma. -/
def commaList (p : Reader α) : Reader (List α × Bool) := do
  let first ← p
  let rest ← many do
    op ","
    p
  let trailing ← skipOp ","
  return (first :: rest, trailing)

end Reader

end RepoSurvey.Python
