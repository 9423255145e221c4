import RepoSurvey.Python.Statement

/-!
# What readers take

A reader sees the kinds of the tokens that are left. `Takes` says that it reads some of them, with
which value, whenever certain others follow; `Refuses` says that it reads none where these are
left. Both compose as readers do.
-/

namespace RepoSurvey.Python.Reader

variable {α β : Type}

/-- The tokens from an index on are of these kinds. -/
def Left (ts : Array Token) (i : Nat) (kinds : List TokenKind) : Prop :=
  (ts.toList.drop i).map (·.kind) = kinds

/-- In front of `rest` the reader takes the tokens `eaten`, and gives a value. -/
def Takes (p : Reader α) (eaten : List TokenKind) (a : α) (rest : List TokenKind) : Prop :=
  ∀ ts i, Left ts i (eaten ++ rest) → p ts i = some (a, i + eaten.length)

/-- The reader refuses where these tokens are left. -/
def Refuses (p : Reader α) (kinds : List TokenKind) : Prop :=
  ∀ ts i, Left ts i kinds → p ts i = none

/-! ## Tokens that are left -/

section

variable {ts : Array Token} {i : Nat} {kind : TokenKind} {kinds eaten rest : List TokenKind}

theorem Left.further (left : Left ts i (eaten ++ rest)) : Left ts (i + eaten.length) rest := by
  rw [Left, ← List.drop_drop, List.map_drop, left, List.drop_left]

/-- The token at hand, if there is one, is the first of those that are left. -/
theorem Left.map_kind (left : Left ts i kinds) : ts[i]?.map (·.kind) = kinds.head? := by
  rw [← left, List.head?_map, List.head?_drop, Array.getElem?_toList]

theorem Left.head (left : Left ts i (kind :: rest)) : ∃ t, ts[i]? = some t ∧ t.kind = kind :=
  Option.map_eq_some_iff.mp left.map_kind

theorem Left.length_le (left : Left ts i kinds) : kinds.length ≤ ts.size := by
  rw [← left, List.length_map, List.length_drop, Array.length_toList]
  exact Nat.sub_le _ _

end

/-! ## Composition -/

section

variable {p : Reader α} {f : α → Reader β} {a : α} {b : β}
  {eaten further kinds rest : List TokenKind} {kind : TokenKind}

theorem Takes.pure : Takes (Pure.pure a : Reader α) [] a rest :=
  fun _ _ _ => rfl

theorem Takes.bind (first : Takes p eaten a (further ++ rest))
    (second : Takes (f a) further b rest) :
    Takes (p >>= f) (eaten ++ further) b rest := by
  intro ts i left
  rw [List.append_assoc] at left
  show Reader.bind p f ts i = _
  rw [Reader.bind, first ts i left]
  show f a ts (i + eaten.length) = _
  rw [second ts _ left.further, List.length_append, Nat.add_assoc]

/-- A reader that makes something of what it has read at last. -/
theorem Takes.map (first : Takes p eaten a rest) (make : α → β) :
    Takes (p >>= fun x => Pure.pure (make x)) eaten (make a) rest := by
  have both : Takes (p >>= fun x => Pure.pure (make x)) (eaten ++ []) (make a) rest :=
    Takes.bind first Takes.pure
  rwa [List.append_nil] at both

theorem Refuses.bind (first : Refuses p kinds) : Refuses (p >>= f) kinds := by
  intro ts i left
  show Reader.bind p f ts i = _
  rw [Reader.bind, first ts i left]

/-- Where the first reader takes nothing, the second has to refuse. -/
theorem Takes.bind_refuses (first : Takes p [] a rest) (second : Refuses (f a) rest) :
    Refuses (p >>= f) rest := by
  intro ts i left
  show Reader.bind p f ts i = _
  rw [Reader.bind, first ts i left]
  exact second ts i left

/-- A first reader that takes nothing only passes its value on. -/
theorem Takes.bind_nothing (first : Takes p [] a (further ++ rest))
    (second : Takes (f a) further b rest) : Takes (p >>= f) further b rest :=
  first.bind second

theorem refuses_fail : Refuses (Reader.fail : Reader α) kinds :=
  fun _ _ _ => rfl

theorem Takes.optional (takes : Takes p eaten a rest) :
    Takes (Reader.optional p) eaten (some a) rest := by
  intro ts i left
  rw [Reader.optional, takes ts i left]

theorem Refuses.optional (refuses : Refuses p rest) : Takes (Reader.optional p) [] none rest := by
  intro ts i left
  rw [Reader.optional, refuses ts i left]
  rfl

/-! ## Tokens -/

theorem takes_token (kind : TokenKind) : Takes (token kind) [kind] () rest := by
  intro ts i left
  obtain ⟨t, here, same⟩ := left.head
  rw [token, here]
  exact if_pos (beq_iff_eq.mpr same)

theorem refuses_token (other : kinds.head? ≠ some kind) : Refuses (token kind) kinds := by
  intro ts i left
  have first := left.map_kind
  rw [token]
  cases here : ts[i]? with
  | none => rfl
  | some t =>
    rw [here, Option.map_some] at first
    refine if_neg fun same => other ?_
    rw [← first, beq_iff_eq.mp same]

/-- A token is read, and then the rest. -/
theorem Takes.token_bind {f : Unit → Reader β} (second : Takes (f ()) further b rest) :
    Takes (token kind >>= f) (kind :: further) b rest :=
  (takes_token kind).bind second

theorem takes_skipOp (text : String) : Takes (skipOp text) [.op text] true rest := by
  intro ts i left
  rw [skipOp, op, takes_token (.op text) ts i left]

theorem takes_skipOp_nothing {text : String} (other : rest.head? ≠ some (.op text)) :
    Takes (skipOp text) [] false rest := by
  intro ts i left
  rw [skipOp, op, refuses_token other ts i left]
  rfl

theorem takes_skipWord (text : String) : Takes (skipWord text) [.name text] true rest := by
  intro ts i left
  rw [skipWord, word, takes_token (.name text) ts i left]

theorem takes_skipWord_nothing {text : String} (other : rest.head? ≠ some (.name text)) :
    Takes (skipWord text) [] false rest := by
  intro ts i left
  rw [skipWord, word, refuses_token other ts i left]
  rfl

theorem takes_sees (kind : TokenKind) : Takes (sees kind) [] (kinds.head? == some kind) kinds := by
  intro ts i left
  have first : ts[i]?.map (·.kind) = kinds.head? := left.map_kind
  rw [sees, ← first]
  cases ts[i]? with
  | none => rfl
  | some t => rfl

theorem Takes.peek_bind {f : Token → Reader β}
    (second : ∀ t : Token, t.kind = kind → Takes (f t) (kind :: further) b rest) :
    Takes (peek >>= f) (kind :: further) b rest := by
  intro ts i left
  obtain ⟨t, here, same⟩ := left.head
  show Reader.bind peek f ts i = _
  rw [Reader.bind, peek, here]
  exact second t same ts i left

theorem refuses_peek_bind {f : Token → Reader β}
    (second : ∀ t : Token, some t.kind = kinds.head? → Refuses (f t) kinds) :
    Refuses (peek >>= f) kinds := by
  intro ts i left
  have first := left.map_kind
  show Reader.bind peek f ts i = _
  rw [Reader.bind, peek]
  cases here : ts[i]? with
  | none => rfl
  | some t =>
    rw [here, Option.map_some] at first
    exact second t first ts i left

theorem refuses_position_bind {f : Position → Reader β}
    (second : ∀ place, Refuses (f place) kinds) :
    Refuses (position >>= f) kinds := by
  intro ts i left
  show Reader.bind position f ts i = _
  rw [Reader.bind, position]
  cases ts[i]? with
  | none => rfl
  | some t => exact second t.position ts i left

theorem takes_check : Takes (check true) [] () rest :=
  Takes.pure

theorem takes_name {text : String} (noKeyword : text ∉ keywords)
    (ascii : ∀ c ∈ text.toList, c.toNat < 128) : Takes name [.name text] text rest := by
  intro ts i left
  obtain ⟨⟨kind, position⟩, here, same⟩ := left.head
  obtain rfl : kind = .name text := same
  have composed : Text.composed text.toList = text.toList := by
    refine if_pos (List.all_eq_true.mpr fun c mem => decide_eq_true (ascii c mem))
  have free : keywords.contains text = false := by
    rwa [List.contains_eq_mem, decide_eq_false_iff_not]
  rw [name, here]
  simp only [free, composed, String.ofList_toList]
  rfl

/-- What is no word, or a keyword, is not read as a name. -/
theorem refuses_name (other : ∀ text, kinds.head? = some (.name text) → text ∈ keywords) :
    Refuses name kinds := by
  intro ts i left
  have first := left.map_kind
  rw [name]
  split
  · next text position here =>
    rw [here] at first
    have known : keywords.contains text = true := List.contains_iff_mem.mpr (other text first.symm)
    rw [known]
    rfl
  · rfl

end

/-! ## Repetition -/

section

variable {p : Reader α} {kinds : β → List TokenKind} {value : β → α} {rest : List TokenKind}

theorem manyFrom_of_none {ts : Array Token} {i : Nat} (refused : p ts i = none) (fuel : Nat)
    (out : List α) : manyFrom p fuel out ts i = some (out.reverse, i) := by
  cases fuel with
  | zero => rfl
  | succ fuel => simp only [manyFrom, refused]

theorem manyFrom_of_some {ts : Array Token} {i j : Nat} {a : α} (taken : p ts i = some (a, j))
    (forward : i < j) (fuel : Nat) (out : List α) :
    manyFrom p (fuel + 1) out ts i = manyFrom p fuel (a :: out) ts j := by
  simp only [manyFrom, taken, forward, if_true]

theorem Refuses.many (refuses : Refuses p rest) : Takes (Reader.many p) [] [] rest :=
  fun ts i left => manyFrom_of_none (refuses ts i left) _ []

theorem length_le_length_flatMap (moves : ∀ b, kinds b ≠ []) (bs : List β) :
    bs.length ≤ (bs.flatMap kinds).length := by
  induction bs with
  | nil => exact Nat.le_refl 0
  | cons b more ih =>
    have one := List.length_pos_iff.mpr (moves b)
    rw [List.flatMap_cons, List.length_append, List.length_cons]
    omega

/-- A reader that takes each of several items and refuses what follows them takes them all. -/
theorem takes_many (goes : List TokenKind → Prop) (begins : ∀ b after, goes (kinds b ++ after))
    (ends : goes rest) (moves : ∀ b, kinds b ≠ [])
    (each : ∀ b after, goes after → Takes p (kinds b) (value b) after) (done : Refuses p rest)
    (bs : List β) : Takes (many p) (bs.flatMap kinds) (bs.map value) rest := by
  have loop : ∀ (bs : List β) (fuel : Nat) (out : List α), bs.length ≤ fuel →
      Takes (manyFrom p fuel out) (bs.flatMap kinds) (out.reverse ++ bs.map value) rest := by
    intro bs
    induction bs with
    | nil =>
      intro fuel out _ ts i left
      rw [manyFrom_of_none (done ts i left), List.map_nil, List.append_nil]
      rfl
    | cons b more ih =>
      intro fuel out enough ts i left
      obtain ⟨fuel, rfl⟩ : ∃ n, fuel = n + 1 := Nat.exists_eq_succ_of_ne_zero (by
        rintro rfl
        cases enough)
      have next : goes (more.flatMap kinds ++ rest) := by
        cases more with
        | nil => exact ends
        | cons b' _ =>
          rw [List.flatMap_cons, List.append_assoc]
          exact begins b' _
      rw [List.flatMap_cons, List.append_assoc] at left
      have forward : i < i + (kinds b).length :=
        Nat.lt_add_of_pos_right (List.length_pos_iff.mpr (moves b))
      rw [manyFrom_of_some (each b _ next ts i left) forward,
        ih fuel (value b :: out) (Nat.le_of_succ_le_succ enough) ts _ left.further,
        List.flatMap_cons, List.length_append, Nat.add_assoc, List.reverse_cons, List.append_assoc]
      rfl
  intro ts i left
  have room : bs.length ≤ ts.size + 1 := by
    have long := length_le_length_flatMap moves bs
    have within := left.length_le
    rw [List.length_append] at within
    omega
  exact loop bs _ [] room ts i left

end

end RepoSurvey.Python.Reader
