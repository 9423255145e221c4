import RepoSurvey.Proofs.Python.TreeLines

/-!
# Lines of formatted strings

A place in a formatted string has a source of its own, which is read apart from the
tokens around it. Its pieces remember where their sources start in the body of the
literal (`RawPart.In`), and the body is a part of the token. So what is read from a
place is on the lines over which its token reaches (`mem_lines_of_stringsValue`).
-/

namespace RepoSurvey.Python

open Reader

/-- The readers for nested parts draw their lines from the tokens that they pass. The
source of a place in a formatted string has no tokens of its own in the text, so what
is read from it is on the lines over which the source reaches. -/
structure Rules.Drawn (r : Rules) : Prop where
  expression : ∀ {known}, Draws known r.expression
  inversion : ∀ {known}, Draws known r.inversion
  factor : ∀ {known}, Draws known r.factor
  primary : ∀ {known}, Draws known r.primary
  embedded : ∀ {source position e}, r.embedded source position = some e →
    ∀ n ∈ lines e, position.line ≤ n ∧ n ≤ position.line + source.count '\n'
  pattern : ∀ {known}, Draws known r.pattern
  block : ∀ {known}, Draws known r.block

/-! ## Where the pieces of a body stand -/

/-- The sources of a piece stand in the body where the piece says. -/
inductive RawPart.In (body : List Char) : RawPart → Prop
  | text (value : List Char) : In body (.text value)
  | place {source : List Char} {offset : Nat} (echo : List Char) (conversion : Option Char)
    {format : Option (List RawPart)} (here : source <+: body.drop offset)
    (inner : ∀ parts, format = some parts → ∀ p ∈ parts, In body p) :
    In body (.place source offset echo conversion format)

/-- The end of a text that is left at a place stands at a later place. -/
theorem eq_drop_of_suffix {left body : List Char} {offset : Nat}
    (h : left <:+ body.drop offset) :
    left = body.drop (offset + ((body.drop offset).length - left.length)) := by
  rw [← List.drop_drop]
  exact List.suffix_iff_eq_drop.mp h

theorem suffix_of_placeEcho {source cs echo rest : List Char}
    (read : placeEcho source cs = (echo, rest)) : rest <:+ cs := by
  fun_cases placeEcho source cs with
  | case1 more blanks =>
    cases read
    exact (List.drop_suffix _ _).trans (List.suffix_cons _ _)
  | case2 cs other =>
    rw [placeEcho.eq_2 _ _ other] at read
    cases read
    exact List.suffix_refl _

theorem suffix_of_placeConversion? {cs rest : List Char} {conversion : Option Char}
    (read : placeConversion? cs = some (conversion, rest)) : rest <:+ cs := by
  unfold placeConversion? at read
  split at read
  · split at read
    · cases read
      exact (List.suffix_cons _ _).trans (List.suffix_cons _ _)
    · cases read
  · cases read
  · cases read
    exact List.suffix_refl _

/-- A format is what its reader reads after the colon. -/
theorem placeFormat?_eq_some {pieces : Nat → List Char → Option (List RawPart × Nat)} {here : Nat}
    {cs rest : List Char} {format : Option (List RawPart)}
    (read : placeFormat? pieces here cs = some (format, rest)) :
    rest <:+ cs ∧ ∀ parts, format = some parts →
      ∃ more used, cs = ':' :: more ∧ pieces (here + 1) more = some (parts, used) := by
  unfold placeFormat? at read
  split at read
  next more =>
    split at read
    · cases read
    obtain ⟨⟨parts, used⟩, inner, same⟩ := Option.map_eq_some_iff.mp read
    cases same
    refine ⟨(List.drop_suffix _ _).trans (List.suffix_cons _ _), ?_⟩
    rintro _ ⟨⟩
    exact ⟨more, used, rfl, inner⟩
  next =>
    cases read
    exact ⟨List.suffix_refl _, nofun⟩

theorem in_of_rawParts {raw : Bool} {level fuel offset used : Nat} {cs body : List Char}
    {parts : List RawPart} (read : rawParts raw level fuel offset cs = some (parts, used))
    (here : cs = body.drop offset) : ∀ p ∈ parts, p.In body := by
  induction fuel generalizing level offset used cs parts with
  | zero => cases read
  | succ fuel ih =>
    rw [rawParts] at read
    obtain ⟨⟨length, doubled⟩, -, read⟩ := Option.bind_eq_some_iff.mp read
    obtain ⟨text, -, read⟩ := Option.bind_eq_some_iff.mp read
    dsimp only at read
    have before : ∀ p ∈ (if text.isEmpty then [] else [RawPart.text text]), p.In body := by
      intro p mem
      split at mem
      · cases mem
      · cases List.mem_singleton.mp mem
        exact .text text
    split at read
    · obtain ⟨⟨more, used'⟩, further, read⟩ := Option.bind_eq_some_iff.mp read
      cases read
      refine List.forall_mem_append.mpr ⟨before, ih further ?_⟩
      rw [here, List.drop_drop, Nat.add_assoc]
    split at read
    next inside opened =>
      split at read
      · cases read
      obtain ⟨size, -, read⟩ := Option.bind_eq_some_iff.mp read
      split at read
      · cases read
      obtain ⟨⟨conversion, rest⟩, converted, read⟩ := Option.bind_eq_some_iff.mp read
      obtain ⟨⟨format, rest'⟩, formatted, read⟩ := Option.bind_eq_some_iff.mp read
      dsimp only at converted formatted read
      split at read
      next after =>
        obtain ⟨⟨more, used'⟩, further, read⟩ := Option.bind_eq_some_iff.mp read
        cases read
        have start : inside = body.drop (offset + length + 1) := by
          rw [← List.drop_drop, ← List.drop_drop, ← here, opened]
          rfl
        have onward : rest <:+ inside :=
          ((suffix_of_placeConversion? converted).trans (suffix_of_placeEcho rfl)).trans
            (List.drop_suffix _ _)
        obtain ⟨closes, inner⟩ := placeFormat?_eq_some formatted
        refine List.forall_mem_append.mpr ⟨before, List.forall_mem_cons.mpr ⟨?_, ih further ?_⟩⟩
        · refine .place _ _ (start ▸ List.take_prefix _ _) ?_
          intro parts same
          obtain ⟨cs', used'', rfl, read⟩ := inner parts same
          refine ih read ?_
          have place := eq_drop_of_suffix (start ▸ onward)
          rw [← start, ← Nat.add_sub_assoc onward.length_le] at place
          rw [← List.drop_drop, ← place]
          rfl
        · have inCs : inside <:+ cs := (opened ▸ List.suffix_cons _ _).trans (List.drop_suffix _ _)
          have left : after <:+ cs :=
            ((List.suffix_cons _ _).trans (closes.trans onward)).trans inCs
          have place := eq_drop_of_suffix (here ▸ left)
          rwa [← here] at place
      · cases read
    next =>
      cases read
      exact before

theorem in_of_formatParts? {raw : Bool} {body : List Char} {parts : List RawPart}
    (read : formatParts? raw body = some parts) : ∀ p ∈ parts, p.In body := by
  unfold formatParts? at read
  split at read
  next pieces =>
    split at read
    · cases read
      exact in_of_rawParts pieces rfl
    · cases read
  next => cases read

/-- The body of a literal is a part of its token. -/
theorem body_prefix_drop (token : List Char) :
    (stringLiteral token).body <+: token.drop (stringLiteral token).opening := by
  unfold stringLiteral
  split
  next letters count quoted started =>
    cases quoted with
    | nil =>
      dsimp only
      rw [List.drop_nil, List.take_nil]
      exact List.nil_prefix
    | cons quote rest =>
      obtain ⟨-, k, rfl, further⟩ := drop_of_stringStart? started
      rw [Nat.zero_add, ← further]
      dsimp only
      rw [← List.drop_drop]
      exact List.take_prefix _ _
  next => exact List.prefix_refl _

/-! ## What literals draw -/

/-- The lines over which a literal reaches. -/
instance : HasLines (Position × List Char) :=
  ⟨fun l => List.range' l.1.line (l.2.count '\n' + 1)⟩

theorem mem_lines_literal {position : Position} {token : List Char} {n : Nat} :
    n ∈ lines (position, token) ↔
      position.line ≤ n ∧ n ≤ position.line + token.count '\n' := by
  refine List.mem_range'_1.trans (and_congr_right fun _ => ?_)
  show n < position.line + (token.count '\n' + 1) ↔ _
  omega

/-- What stands at a place of the token is on the lines of the token. -/
theorem mem_lines_of_piece {position : Position} {token source : List Char} {k n : Nat}
    (piece : source <+: token.drop k) (low : (position.afterAll (token.take k)).line ≤ n)
    (high : n ≤ (position.afterAll (token.take k)).line + source.count '\n') :
    n ∈ lines (position, token) := by
  rw [mem_lines_literal]
  have start := position.line_le_afterAll (token.take k)
  have last := position.line_take_add_count_drop token k
  have inside := piece.sublist.count_le '\n'
  omega

instance : HasLines Joining := ⟨fun j => lines j.parts⟩

@[simp] theorem lines_joining (j : Joining) : lines j = lines j.parts := rfl

@[simp] theorem lines_addText (j : Joining) (cs : List Char) : lines (j.addText cs) = lines j := rfl

@[simp] theorem lines_flush (j : Joining) : lines j.flush = lines j := by
  unfold Joining.flush
  split
  · rfl
  · exact List.nil_append _

theorem mem_lines_finish {j : Joining} {n : Nat} : n ∈ lines j.finish ↔ n ∈ lines j :=
  mem_lines_reverse.trans (by rw [← lines_joining, lines_flush])

section

variable {r : Rules} {known : List Nat} {place : Nat → Position} {body : List Char}

/-- Pieces speak of known lines when what is read from their sources does. -/
theorem mem_known_of_addParts {parts : List RawPart} {j j' : Joining}
    (each : ∀ p ∈ parts, ∀ j j', addPart r place j p = some j' →
      (∀ n ∈ lines j, n ∈ known) → ∀ n ∈ lines j', n ∈ known)
    (added : addParts r place j parts = some j') (start : ∀ n ∈ lines j, n ∈ known) :
    ∀ n ∈ lines j', n ∈ known := by
  induction parts generalizing j with
  | nil =>
    rw [addParts] at added
    cases added
    exact start
  | cons p rest ih =>
    rw [addParts] at added
    obtain ⟨j₁, first, added⟩ := Option.bind_eq_some_iff.mp added
    obtain ⟨now, later⟩ := List.forall_mem_cons.mp each
    exact ih later added (now j j₁ first start)

theorem mem_known_of_addPart
    (covers : ∀ {source offset e}, source <+: body.drop offset →
      r.embedded source (place offset) = some e → ∀ n ∈ lines e, n ∈ known)
    {p : RawPart} (h : p.In body) : ∀ j j', addPart r place j p = some j' →
      (∀ n ∈ lines j, n ∈ known) → ∀ n ∈ lines j', n ∈ known := by
  induction h with
  | text value =>
    intro j j' added start
    rw [addPart] at added
    cases added
    exact start
  | @place source offset echo conversion format here _ ih =>
    intro j j' added start
    rw [addPart] at added
    obtain ⟨e, read, added⟩ := Option.bind_eq_some_iff.mp added
    -- the new piece speaks of its expression and its format, the others are as before
    have made (shown : Option (List Part)) (inner : ∀ n ∈ lines shown, n ∈ known) (n : Nat)
        (mem : n ∈ lines (Part.place e conversion shown :: (j.addText echo).flush.parts)) :
        n ∈ known := by
      rw [lines_cons, lines_part_place, ← lines_joining, lines_flush, lines_addText] at mem
      simp only [List.mem_append] at mem
      rcases mem with (mem | mem) | mem
      · exact covers here read n mem
      · exact inner n mem
      · exact start n mem
    cases format with
    | none =>
      cases added
      exact made none nofun
    | some parts =>
      obtain ⟨shown, inner, added⟩ := Option.bind_eq_some_iff.mp added
      obtain ⟨f, format, rfl⟩ := Option.map_eq_some_iff.mp inner
      cases added
      have nested := mem_known_of_addParts (ih parts rfl) format nofun
      exact made _ fun n mem => nested n (mem_lines_finish.mp mem)

theorem mem_lines_of_addLiteral (h : r.Drawn) {position : Position} {token : List Char}
    {j j' : Joining} (added : addLiteral r position token j = some j')
    (start : ∀ n ∈ lines j, n ∈ known) (own : ∀ n ∈ lines (position, token), n ∈ known) :
    ∀ n ∈ lines j', n ∈ known := by
  unfold addLiteral at added
  dsimp only at added
  split at added
  · obtain ⟨parts, read, added⟩ := Option.bind_eq_some_iff.mp added
    have pieces := in_of_formatParts? read
    refine mem_known_of_addParts (fun p mem => mem_known_of_addPart ?_ (pieces p mem)) added start
    intro source offset e here read n mem
    obtain ⟨low, high⟩ := h.embedded read n mem
    obtain ⟨rest, whole⟩ := body_prefix_drop token
    refine own n (mem_lines_of_piece ?_ low high)
    rw [← List.drop_drop, ← whole, List.drop_append]
    exact here.trans (List.prefix_append _ _)
  · obtain ⟨_, -, rfl⟩ := Option.map_eq_some_iff.mp added
    exact start

theorem mem_lines_of_addLiterals (h : r.Drawn) {literals : List (Position × List Char)}
    {j j' : Joining} (added : addLiterals r j literals = some j')
    (start : ∀ n ∈ lines j, n ∈ known) (own : ∀ n ∈ lines literals, n ∈ known) :
    ∀ n ∈ lines j', n ∈ known := by
  induction literals generalizing j with
  | nil =>
    cases added
    exact start
  | cons literal rest ih =>
    obtain ⟨j₁, first, added⟩ := Option.bind_eq_some_iff.mp added
    rw [lines_cons] at own
    have here := mem_lines_of_addLiteral h first start fun n mem =>
      own n (List.mem_append_left _ mem)
    exact ih added here fun n mem => own n (List.mem_append_right _ mem)

/-- The value of literals speaks of lines over which they reach. -/
theorem mem_lines_of_stringsValue (h : r.Drawn) {literals : List (Position × List Char)} {e : Expr}
    (value : stringsValue r literals = some e) : ∀ n ∈ lines e, n ∈ lines literals := by
  unfold stringsValue at value
  dsimp only at value
  split at value
  · obtain ⟨_, -, rfl⟩ := Option.map_eq_some_iff.mp value
    exact nofun
  split at value
  · cases value
  obtain ⟨j, added, rfl⟩ := Option.map_eq_some_iff.mp value
  split
  · intro n mem
    rw [lines_joined, mem_lines_finish] at mem
    exact mem_lines_of_addLiterals h added nofun (fun _ mem => mem) n mem
  · exact nofun

/-! ## Strings -/

/-- A string token is read as it stands. -/
theorem stringToken_eq_some {ts : Array Token} {i j : Nat} {literal : Position × List Char}
    (read : stringToken ts i = some (literal, j)) :
    j = i + 1 ∧ ts[i]? = some ⟨.string literal.2, literal.1⟩ := by
  unfold stringToken at read
  split at read
  next text position here =>
    cases read
    exact ⟨rfl, here⟩
  next => cases read

theorem draws_stringToken : Draws known stringToken := by
  intro ts i literal j read
  obtain ⟨rfl, here⟩ := stringToken_eq_some read
  refine ⟨Nat.le_succ i, fun n mem => .inr ?_⟩
  obtain ⟨low, high⟩ := mem_lines_literal.mp mem
  exact ⟨i, _, Nat.le_refl _, Nat.lt_succ_self i, here, rfl, low, high⟩

theorem takesSolid_stringToken : TakesSolid stringToken := by
  intro ts i literal j read
  obtain ⟨rfl, here⟩ := stringToken_eq_some read
  exact ⟨Nat.lt_succ_self i, _, here, rfl⟩

theorem draws_strings (h : r.Drawn) : Draws known (strings r) := by
  unfold strings
  refine draws_stringToken.many1.bind fun literals => .ofOption fun n mem => ?_
  cases value : stringsValue r literals with
  | none => simp [value] at mem
  | some e =>
    rw [value] at mem
    exact List.mem_append_left _ (mem_lines_of_stringsValue h value n mem)

theorem takesSolid_strings : TakesSolid (strings r) := by
  have literals : TakesSolid (many1 stringToken) :=
    takesSolid_stringToken.bind fun first =>
      ⟨lines first, draws_stringToken.many.bind fun rest => .pure (by grind)⟩
  exact literals.bind fun literals => ⟨_, .ofOption fun _ mem => mem⟩

end

end RepoSurvey.Python
