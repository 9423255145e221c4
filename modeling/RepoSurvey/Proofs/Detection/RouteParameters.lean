import RepoSurvey.Detection.RoutePath
import RepoSurvey.Proofs.Text.Cutting

/-!
# Routes with one name for every parameter

A scan from left to right divides a route into pieces: parameters in the three notations, and
characters that belong to none (`Scanned`). It reads the names of the parameters off its pieces.
The normal form is made otherwise, in one pass for each notation, and the later passes go over
what the earlier ones have written. But no pass makes a parameter begin where none began
(`Pass.parameterAt?_eq_none_iff`), so all three together give the one name to each piece in its
place (`Piece.Leads.normalChars_eq`), and what they write is divided as the route was
(`Scanned.normal`). So a normal form is its own, and has as many parameters as the route
(`normal_form_keeps_parameters`).
-/

namespace RepoSurvey.Detection.RoutePath

open Text (takeWhile_run takeWhile_append_cons takeWhile_of_not_mem exists_run)

/-! ## The pieces of a route -/

/-- A piece of a route. -/
inductive Piece where
  /-- A character that belongs to no parameter. -/
  | plain (c : Char)
  /-- A parameter after a colon. -/
  | colon (name : List Char)
  /-- A parameter between braces. -/
  | brace (name : List Char)
  /-- A parameter between angle brackets, with its converter. -/
  | angle (body : List Char)

/-- The name that the normal form gives to every parameter. -/
def oneName : List Char :=
  "param".toList

namespace Piece

/-- The first character of a piece. -/
def first : Piece → Char
  | plain c => c
  | colon _ => ':'
  | brace _ => '\x7b'
  | angle _ => '<'

/-- What comes behind the first character. -/
def others : Piece → List Char
  | plain _ => []
  | colon name => name
  | brace name => name ++ ['\x7d']
  | angle body => body ++ ['>']

/-- The text of a piece. -/
def text (p : Piece) : List Char :=
  p.first :: p.others

/-- The name of a parameter. -/
def name? : Piece → Option (List Char)
  | plain _ => none
  | colon name => some name
  | brace name => some name
  | angle body => some (bracketName body)

/-- The piece with the one name, if it is a parameter. -/
def normal : Piece → Piece
  | plain c => plain c
  | colon _ => colon oneName
  | brace _ => brace oneName
  | angle _ => angle oneName

/-- The piece may stand in front of the rest of a text: a scan that comes upon it takes
neither more nor less. -/
inductive Leads : Piece → List Char → Prop
  | plain {c : Char} {rest : List Char} (none : parameterAt? c rest = none) : Leads (.plain c) rest
  | colon {name rest : List Char} (some_char : name ≠ []) (all : ∀ c ∈ name, isNamePart c = true)
    (stop : rest.head?.any isNamePart = false) : Leads (.colon name) rest
  | brace {name rest : List Char} (some_char : name ≠ [])
    (all : ∀ c ∈ name, isNamePart c = true) : Leads (.brace name) rest
  | angle {body rest : List Char} (some_char : body ≠ []) (free : '>' ∉ body) :
    Leads (.angle body) rest

theorem normal_normal (p : Piece) : p.normal.normal = p.normal := by
  cases p <;> rfl

theorem name?_normal (p : Piece) : p.normal.name? = p.name?.map fun _ => oneName := by
  have whole : bracketName oneName = oneName := by decide
  cases p with
  | angle _ => exact congrArg some whole
  | plain _ | colon _ | brace _ => rfl

theorem star_mem_of_normal {p : Piece} (mem : '*' ∈ p.normal.text) : '*' ∈ p.text := by
  have none : ∀ q ∈ [colon oneName, brace oneName, angle oneName], '*' ∉ q.text := by decide
  cases p with
  | plain _ => exact mem
  | colon _ | brace _ | angle _ => exact absurd mem (none _ (by simp [normal]))

end Piece

/-- A scan from left to right divides the text into these pieces. -/
inductive Scanned : List Char → List Piece → Prop
  | nil : Scanned [] []
  | cons {p : Piece} {rest : List Char} {ps : List Piece} (leads : p.Leads rest)
    (later : Scanned rest ps) : Scanned (p.text ++ rest) (p :: ps)

variable {c : Char} {cs rest name body : List Char} {p : Piece} {ps : List Piece}

/-- The pieces are together the text. -/
theorem Scanned.flatMap_text (scanned : Scanned cs ps) : ps.flatMap Piece.text = cs := by
  induction scanned with
  | nil => rfl
  | cons leads later ih => rw [List.flatMap_cons, ih]

/-! ## Where a parameter begins -/

theorem not_mem_of_isNamePart {d : Char} (all : ∀ c ∈ name, isNamePart c = true)
    (other : isNamePart d = false) : d ∉ name := by
  intro mem
  rw [all d mem] at other
  cases other

/-- A piece that may stand in front of the rest is what is found there. -/
theorem Piece.Leads.parameterAt?_eq (leads : p.Leads rest) :
    parameterAt? p.first (p.others ++ rest) =
      p.name?.map fun name => (name, p.others.length) := by
  cases leads with
  | plain none => exact none
  | colon some_char all stop =>
    simp [parameterAt?, first, others, name?, takeWhile_run all stop, some_char]
  | @brace name _ some_char all =>
    have run : (name ++ '\x7d' :: rest).takeWhile isNamePart = name := takeWhile_run all rfl
    simp [parameterAt?, first, others, name?, run, some_char]
  | @angle body _ some_char free =>
    have upto : (body ++ '>' :: rest).takeWhile (· != '>') = body :=
      (takeWhile_append_cons free).1
    simp [parameterAt?, first, others, name?, upto, some_char]

theorem parameterAt?_angle_eq_none_iff :
    parameterAt? '<' rest = none ↔ '>' ∉ rest ∨ rest.head? = some '>' := by
  by_cases closed : '>' ∈ rest
  · obtain ⟨body, after, rfl, free⟩ := List.eq_append_cons_of_mem closed
    cases body with
    | nil => simp [parameterAt?]
    | cons b body =>
      have leads : (Piece.angle (b :: body)).Leads after := .angle (List.cons_ne_nil b body) free
      have found : parameterAt? '<' (b :: body ++ ['>'] ++ after) =
          some (bracketName (b :: body), (b :: body ++ ['>']).length) := leads.parameterAt?_eq
      have other : b ≠ '>' := fun same => free (same ▸ List.mem_cons_self)
      rw [List.append_cons, found]
      simp [other]
  · simp [parameterAt?, (takeWhile_of_not_mem closed).1, closed]

/-- Whether a parameter begins depends on little of what follows: whether a name does, and
which character comes behind it, and for an angle bracket whether it is closed. -/
theorem parameterAt?_eq_none_iff (all : ∀ c ∈ name, isNamePart c = true)
    (stop : rest.head?.any isNamePart = false) :
    parameterAt? c (name ++ rest) = none ↔
      (c = ':' → name = []) ∧ (c = '\x7b' → name = [] ∨ rest.head? ≠ some '\x7d') ∧
        (c = '<' → '>' ∉ name ++ rest ∨ (name ++ rest).head? = some '>') := by
  have run : (name ++ rest).takeWhile isNamePart = name := takeWhile_run all stop
  by_cases angle : c = '<'
  · subst angle
    simp [parameterAt?_angle_eq_none_iff]
  by_cases brace : c = '\x7b'
  · subst brace
    have behind : (name ++ rest)[name.length]? = rest.head? := by
      rw [List.getElem?_append_right (Nat.le_refl _), Nat.sub_self, List.head?_eq_getElem?]
    simp [parameterAt?, run, behind, or_iff_not_imp_left]
  by_cases colon : c = ':'
  · subst colon
    simp [parameterAt?, run]
  · simp [parameterAt?, angle, brace, colon]

/-- A text begins with a piece. -/
theorem exists_leads (c : Char) (rest : List Char) :
    ∃ (p : Piece) (after : List Char), c = p.first ∧ rest = p.others ++ after ∧ p.Leads after := by
  by_cases none : parameterAt? c rest = none
  · exact ⟨.plain c, rest, rfl, rfl, .plain none⟩
  obtain ⟨name, after, rfl, all, stop⟩ := exists_run isNamePart rest
  rw [parameterAt?_eq_none_iff all stop, not_and_or, not_and_or, Classical.not_imp,
    Classical.not_imp, Classical.not_imp] at none
  rcases none with ⟨rfl, some_char⟩ | ⟨rfl, closed⟩ | ⟨rfl, closed⟩
  · exact ⟨.colon name, after, rfl, rfl, .colon some_char all stop⟩
  · obtain ⟨some_char, behind⟩ := not_or.mp closed
    obtain ⟨more, rfl⟩ := List.head?_eq_some_iff.mp (not_not.mp behind)
    exact ⟨.brace name, more, rfl, List.append_cons _ _ _, .brace some_char all⟩
  · obtain ⟨there, behind⟩ := not_or.mp closed
    obtain ⟨body, more, whole, free⟩ := List.eq_append_cons_of_mem (not_not.mp there)
    rw [whole] at behind ⊢
    have some_char : body ≠ [] := by
      rintro rfl
      exact behind rfl
    exact ⟨.angle body, more, rfl, List.append_cons _ _ _, .angle some_char free⟩

/-- Every text is divided. -/
theorem exists_scanned (cs : List Char) : ∃ ps, Scanned cs ps := by
  -- by the length of the text, since the first piece may take any number of characters
  induction length : cs.length using Nat.strongRecOn generalizing cs with
  | ind n ih =>
    subst length
    cases cs with
    | nil => exact ⟨[], .nil⟩
    | cons c rest =>
      obtain ⟨p, after, rfl, rfl, leads⟩ := exists_leads c rest
      have shorter : after.length < (p.first :: (p.others ++ after)).length := by
        rw [List.length_cons, List.length_append]
        omega
      obtain ⟨ps, later⟩ := ih _ shorter after rfl
      exact ⟨p :: ps, .cons leads later⟩

/-- A parameter lies in the text, and only one between angle brackets closes one. -/
theorem of_parameterAt? {n : Nat} (found : parameterAt? c rest = some (name, n)) :
    n ≤ rest.length ∧ ('>' ∈ rest.take n ↔ c = '<') := by
  obtain ⟨p, after, rfl, rfl, leads⟩ := exists_leads c rest
  rw [leads.parameterAt?_eq, Option.map_eq_some_iff] at found
  obtain ⟨name, named, same⟩ := found
  cases same
  rw [List.take_left, List.length_append]
  refine ⟨Nat.le_add_right _ _, ?_⟩
  cases leads with
  | plain none => cases named
  | @colon name _ some_char all stop =>
    have free : '>' ∉ name := not_mem_of_isNamePart all rfl
    simp [Piece.first, Piece.others, free]
  | @brace name _ some_char all =>
    have free : '>' ∉ name := not_mem_of_isNamePart all rfl
    simp [Piece.first, Piece.others, free]
  | angle some_char free => simp [Piece.first, Piece.others]

/-- Parameters in the other notations end before an angle bracket that closes. -/
theorem parameterAt?_append_close (other : c ≠ '<') (cs rest : List Char) :
    parameterAt? c (cs ++ '>' :: rest) = parameterAt? c cs := by
  obtain ⟨name, after, rfl, all, stop⟩ := exists_run isNamePart cs
  have run : (name ++ after).takeWhile isNamePart = name := takeWhile_run all stop
  cases after with
  | nil =>
    have run' : (name ++ '>' :: rest).takeWhile isNamePart = name := takeWhile_run all rfl
    rw [List.append_nil] at run
    simp [parameterAt?, other, run, run']
  | cons d more =>
    have run' : (name ++ d :: (more ++ '>' :: rest)).takeWhile isNamePart = name :=
      takeWhile_run all stop
    simp [parameterAt?, other, run, run']

/-! ## The names of the pieces -/

theorem parametersFrom_append (cs rest : List Char) :
    parametersFrom cs.length (cs ++ rest) = parametersFrom 0 rest := by
  induction cs with
  | nil => rfl
  | cons c cs ih => exact ih

theorem Piece.Leads.parametersFrom_eq (leads : p.Leads rest) :
    parametersFrom 0 (p.text ++ rest) = p.name?.toList ++ parametersFrom 0 rest := by
  rw [text, List.cons_append, parametersFrom, leads.parameterAt?_eq]
  cases leads with
  | plain none => rfl
  | _ => exact congrArg (_ :: ·) (parametersFrom_append _ rest)

/-- The parameters of a text are the names of its pieces. -/
theorem Scanned.parametersFrom_eq (scanned : Scanned cs ps) :
    parametersFrom 0 cs = ps.filterMap Piece.name? := by
  induction scanned with
  | nil => rfl
  | @cons p rest ps leads later ih =>
    rw [leads.parametersFrom_eq, ih, List.filterMap_cons]
    cases p.name? <;> rfl

/-! ## One pass -/

variable {opening : Char} {image : List Char}
  {piece? : Char → List Char → Option (List Char × Nat)}

/-- A pass over a text writes its image for the parameters that begin with its character; the
image begins with the character too, and is closed as the parameters are. -/
structure Pass (opening : Char) (image : List Char)
    (piece? : Char → List Char → Option (List Char × Nat)) : Prop where
  piece?_eq : ∀ c rest, piece? c rest =
    if c = opening then (parameterAt? c rest).map fun found => (image, found.2) else none
  names : isNamePart opening = false
  head : image.head? = some opening
  close : '>' ∈ image ↔ opening = '<'

theorem pass_colon : Pass ':' (Piece.colon oneName).text colonPiece? where
  piece?_eq := by
    intro c rest
    by_cases colon : c = ':'
    · subst colon
      simp only [colonPiece?, parameterAt?]
      generalize rest.takeWhile isNamePart = name
      by_cases empty : name = [] <;>
        simp [empty, Piece.text, Piece.first, Piece.others, oneName]
    · simp [colonPiece?, colon]
  names := rfl
  head := rfl
  close := by decide

theorem pass_brace : Pass '\x7b' (Piece.brace oneName).text bracePiece? where
  piece?_eq := by
    intro c rest
    by_cases brace : c = '\x7b'
    · subst brace
      simp only [bracePiece?, parameterAt?]
      generalize rest.takeWhile isNamePart = name
      by_cases empty : name = [] <;> by_cases closed : rest[name.length]? = some '\x7d' <;>
        simp [empty, closed, Piece.text, Piece.first, Piece.others, oneName]
    · simp [bracePiece?, brace]
  names := rfl
  head := rfl
  close := by decide

theorem pass_angle : Pass '<' (Piece.angle oneName).text anglePiece? where
  piece?_eq := by
    intro c rest
    by_cases angle : c = '<'
    · subst angle
      have le := (List.takeWhile_prefix (· != '>') (l := rest)).length_le
      simp only [anglePiece?, parameterAt?]
      generalize rest.takeWhile (· != '>') = body at le ⊢
      rcases Nat.eq_or_lt_of_le le with whole | closed
      · simp [whole]
      · by_cases empty : body = [] <;>
          simp [empty, closed, closed.ne, Piece.text, Piece.first, Piece.others, oneName]
    · simp [anglePiece?, angle]
  names := rfl
  head := rfl
  close := by decide

theorem replacePieces_append (cs rest : List Char) :
    replacePieces piece? cs.length (cs ++ rest) = replacePieces piece? 0 rest := by
  induction cs with
  | nil => rfl
  | cons c cs ih => exact ih

namespace Pass

variable (pass : Pass opening image piece?)

include pass

/-- What is put in the place of a parameter begins and is closed as the parameter is. -/
theorem of_some {made : List Char} {n : Nat} (found : piece? c rest = some (made, n)) :
    n ≤ rest.length ∧ made.head? = some c ∧ ('>' ∈ made ↔ '>' ∈ c :: rest.take n) := by
  rw [pass.piece?_eq, Option.ite_none_right_eq_some, Option.map_eq_some_iff] at found
  obtain ⟨rfl, ⟨name, n⟩, there, same⟩ := found
  cases same
  refine ⟨(of_parameterAt? there).1, pass.head, ?_⟩
  rw [pass.close, List.mem_cons, (of_parameterAt? there).2, iff_or_self]
  rintro rfl
  cases there

theorem replacePieces_of_none (none : parameterAt? c rest = none) :
    replacePieces piece? 0 (c :: rest) = c :: replacePieces piece? 0 rest := by
  have unfound : piece? c rest = Option.none := by
    rw [pass.piece?_eq, none, Option.map_none, ite_self]
  rw [replacePieces, unfound]

/-- Characters that begin no parameter of the pass are kept. -/
theorem replacePieces_of_free (free : opening ∉ cs) (rest : List Char) :
    replacePieces piece? 0 (cs ++ rest) = cs ++ replacePieces piece? 0 rest := by
  induction cs with
  | nil => rfl
  | cons c cs ih =>
    obtain ⟨other, free⟩ := not_or.mp (List.mem_cons.not.mp free)
    have unfound : piece? c (cs ++ rest) = none := by rw [pass.piece?_eq, if_neg (Ne.symm other)]
    rw [List.cons_append, replacePieces, unfound, List.cons_append]
    exact congrArg (c :: ·) (ih free)

theorem replacePieces_of_leads (leads : p.Leads rest) (begins : p.first = opening)
    (named : p.name?.isSome) :
    replacePieces piece? 0 (p.text ++ rest) = image ++ replacePieces piece? 0 rest := by
  obtain ⟨name, some_name⟩ := Option.isSome_iff_exists.mp named
  rw [Piece.text, List.cons_append, replacePieces, pass.piece?_eq, if_pos begins,
    leads.parameterAt?_eq, some_name]
  exact congrArg (image ++ ·) (replacePieces_append p.others rest)

theorem head?_replacePieces (cs : List Char) : (replacePieces piece? 0 cs).head? = cs.head? := by
  cases cs with
  | nil => rfl
  | cons c rest =>
    rw [replacePieces]
    cases found : piece? c rest with
    | none => rfl
    | some taken =>
      show (taken.1 ++ replacePieces piece? taken.2 rest).head? = some c
      rw [List.head?_append, (pass.of_some found).2.1]
      rfl

/-- An angle bracket is closed in what a pass writes if one is closed in what it reads. -/
theorem close_mem_replacePieces_iff (skip : Nat) (cs : List Char) :
    '>' ∈ replacePieces piece? skip cs ↔ '>' ∈ cs.drop skip := by
  induction cs generalizing skip with
  | nil => simp [replacePieces]
  | cons c rest ih =>
    cases skip with
    | succ n => exact ih n
    | zero =>
      rw [replacePieces, List.drop_zero]
      cases found : piece? c rest with
      | none =>
        show '>' ∈ c :: replacePieces piece? 0 rest ↔ '>' ∈ c :: rest
        rw [List.mem_cons, List.mem_cons, ih 0, List.drop_zero]
      | some taken =>
        show '>' ∈ taken.1 ++ replacePieces piece? taken.2 rest ↔ '>' ∈ c :: rest
        rw [List.mem_append, ih taken.2, (pass.of_some found).2.2, ← List.mem_append,
          List.cons_append, List.take_append_drop]

/-- A pass makes no parameter begin where none began, nor the other way round. -/
theorem parameterAt?_eq_none_iff (c : Char) (rest : List Char) :
    parameterAt? c (replacePieces piece? 0 rest) = none ↔ parameterAt? c rest = none := by
  obtain ⟨name, after, rfl, all, stop⟩ := exists_run isNamePart rest
  have head := pass.head?_replacePieces after
  have kept := pass.replacePieces_of_free (not_mem_of_isNamePart all pass.names) after
  have closed := pass.close_mem_replacePieces_iff 0 (name ++ after)
  rw [kept, List.drop_zero] at closed
  rw [kept, RoutePath.parameterAt?_eq_none_iff all stop,
    RoutePath.parameterAt?_eq_none_iff all (head ▸ stop), head, closed, List.head?_append,
    List.head?_append, head]

/-- In front of an angle bracket that closes, a pass over the other notations does not depend
on what follows. -/
theorem replacePieces_of_closed (other : opening ≠ '<') {skip : Nat} (le : skip ≤ cs.length)
    (rest : List Char) :
    replacePieces piece? skip (cs ++ '>' :: rest) =
      replacePieces piece? skip cs ++ '>' :: replacePieces piece? 0 rest := by
  induction cs generalizing skip with
  | nil =>
    obtain rfl := Nat.le_zero.mp le
    exact pass.replacePieces_of_none rfl
  | cons c cs ih =>
    cases skip with
    | succ n => exact ih (Nat.le_of_succ_le_succ le)
    | zero =>
      have same : piece? c (cs ++ '>' :: rest) = piece? c cs := by
        rw [pass.piece?_eq, pass.piece?_eq]
        split
        next begins => rw [parameterAt?_append_close (begins ▸ other)]
        next => rfl
      rw [List.cons_append, replacePieces, replacePieces, same]
      cases found : piece? c cs with
      | none => exact congrArg (c :: ·) (ih (Nat.zero_le _))
      | some taken =>
        show taken.1 ++ replacePieces piece? taken.2 (cs ++ '>' :: rest) =
          taken.1 ++ replacePieces piece? taken.2 cs ++ '>' :: replacePieces piece? 0 rest
        rw [ih (pass.of_some found).1, List.append_assoc]

/-- A pass over another notation changes what is between angle brackets, and leaves the
brackets where they are. -/
theorem exists_angle (other : opening ≠ '<') (some_char : body ≠ []) (free : '>' ∉ body)
    (rest : List Char) : ∃ body', body' ≠ [] ∧ '>' ∉ body' ∧
      replacePieces piece? 0 ((Piece.angle body).text ++ rest) =
        (Piece.angle body').text ++ replacePieces piece? 0 rest := by
  refine ⟨replacePieces piece? 0 body, ?_, ?_, ?_⟩
  · intro empty
    have head := pass.head?_replacePieces body
    rw [empty] at head
    exact some_char (List.head?_eq_none_iff.mp head.symm)
  · rwa [pass.close_mem_replacePieces_iff, List.drop_zero]
  · have whole : (Piece.angle body).text ++ rest = ['<'] ++ (body ++ '>' :: rest) := by
      simp [Piece.text, Piece.first, Piece.others]
    rw [whole, pass.replacePieces_of_free (mt List.mem_singleton.mp other),
      pass.replacePieces_of_closed other (Nat.zero_le _)]
    simp [Piece.text, Piece.first, Piece.others]

end Pass

/-! ## All passes -/

theorem head?_normalChars (cs : List Char) : (normalChars cs).head? = cs.head? := by
  rw [normalChars, pass_angle.head?_replacePieces, pass_brace.head?_replacePieces,
    pass_colon.head?_replacePieces]

/-- In front of the rest the normal form of a piece is the piece with the one name. -/
theorem Piece.Leads.normalChars_eq (leads : p.Leads rest) :
    normalChars (p.text ++ rest) = p.normal.text ++ normalChars rest := by
  cases leads with
  | @plain c _ none =>
    have none' := (pass_colon.parameterAt?_eq_none_iff c rest).mpr none
    have none'' := (pass_brace.parameterAt?_eq_none_iff c _).mpr none'
    show normalChars (c :: rest) = c :: normalChars rest
    rw [normalChars, pass_colon.replacePieces_of_none none, pass_brace.replacePieces_of_none none',
      pass_angle.replacePieces_of_none none'']
    rfl
  | @colon name _ some_char all stop =>
    rw [normalChars, pass_colon.replacePieces_of_leads (.colon some_char all stop) rfl rfl,
      pass_brace.replacePieces_of_free (by decide), pass_angle.replacePieces_of_free (by decide)]
    rfl
  | @brace name _ some_char all =>
    have free : ':' ∉ (Piece.brace name).text := by
      simp [text, first, others, not_mem_of_isNamePart (d := ':') all rfl]
    rw [normalChars, pass_colon.replacePieces_of_free free,
      pass_brace.replacePieces_of_leads (.brace some_char all) rfl rfl,
      pass_angle.replacePieces_of_free (by decide)]
    rfl
  | @angle body _ some_char free =>
    obtain ⟨body', some_char, free, once⟩ :=
      pass_colon.exists_angle (by decide) some_char free rest
    obtain ⟨body'', some_char, free, twice⟩ := pass_brace.exists_angle (by decide) some_char free
      (replacePieces colonPiece? 0 rest)
    rw [normalChars, once, twice, pass_angle.replacePieces_of_leads (.angle some_char free) rfl rfl]
    rfl

/-- The piece with the one name may stand in front of the normal form of the rest. -/
theorem Piece.Leads.normal (leads : p.Leads rest) : p.normal.Leads (normalChars rest) := by
  have some_char : oneName ≠ [] := by decide
  have all : ∀ c ∈ oneName, isNamePart c = true := List.all_eq_true.mp (by decide)
  cases leads with
  | @plain c _ none =>
    refine .plain ?_
    rw [normalChars, pass_angle.parameterAt?_eq_none_iff, pass_brace.parameterAt?_eq_none_iff,
      pass_colon.parameterAt?_eq_none_iff, none]
  | colon _ _ stop => exact .colon some_char all (by rwa [head?_normalChars])
  | brace _ _ => exact .brace some_char all
  | angle _ _ => exact .angle some_char (by decide)

/-- The normal form of a text is divided as the text, into pieces with the one name. -/
theorem Scanned.normal (scanned : Scanned cs ps) :
    Scanned (normalChars cs) (ps.map Piece.normal) := by
  induction scanned with
  | nil => exact .nil
  | cons leads later ih =>
    rw [leads.normalChars_eq]
    exact .cons leads.normal ih

theorem normalChars_normalChars (cs : List Char) :
    normalChars (normalChars cs) = normalChars cs := by
  obtain ⟨ps, scanned⟩ := exists_scanned cs
  have same : (ps.map Piece.normal).map Piece.normal = ps.map Piece.normal := by
    rw [List.map_map]
    exact List.map_congr_left fun p _ => p.normal_normal
  calc normalChars (normalChars cs)
      = ((ps.map Piece.normal).map Piece.normal).flatMap Piece.text :=
        scanned.normal.normal.flatMap_text.symm
    _ = (ps.map Piece.normal).flatMap Piece.text := by rw [same]
    _ = normalChars cs := scanned.normal.flatMap_text

theorem parametersFrom_normalChars (cs : List Char) :
    parametersFrom 0 (normalChars cs) = (parametersFrom 0 cs).map fun _ => oneName := by
  obtain ⟨ps, scanned⟩ := exists_scanned cs
  rw [scanned.normal.parametersFrom_eq, scanned.parametersFrom_eq, List.filterMap_map,
    List.map_filterMap]
  exact congrArg (ps.filterMap ·) (funext Piece.name?_normal)

theorem star_mem_of_normalChars (mem : '*' ∈ normalChars cs) : '*' ∈ cs := by
  obtain ⟨ps, scanned⟩ := exists_scanned cs
  rw [← scanned.normal.flatMap_text, List.mem_flatMap] at mem
  obtain ⟨_, made, mem⟩ := mem
  obtain ⟨p, there, rfl⟩ := List.mem_map.mp made
  rw [← scanned.flatMap_text, List.mem_flatMap]
  exact ⟨p, there, Piece.star_mem_of_normal mem⟩

/-! ## Routes -/

variable {route : String}

theorem normalize_eq_empty_iff : normalize route = "" ↔ route = "" := by
  rw [← String.toList_inj, ← String.toList_inj, normalize, String.toList_ofList, String.toList_empty,
    ← List.head?_eq_none_iff, head?_normalChars, List.head?_eq_none_iff]

theorem parameters_of_no_star (free : '*' ∉ route.toList) :
    parameters route = (parametersFrom 0 route.toList).map String.ofList := by
  rw [parameters, if_neg (by simpa using free), List.append_nil]

theorem parameters_normalize (free : '*' ∉ route.toList) :
    parameters (normalize route) = (parameters route).map fun _ => "param" := by
  have free' : '*' ∉ (normalize route).toList := by
    rw [normalize, String.toList_ofList]
    exact mt star_mem_of_normalChars free
  rw [parameters_of_no_star free', parameters_of_no_star free, normalize, String.toList_ofList,
    parametersFrom_normalChars, List.map_map, List.map_map]
  rfl

/-- A normal form is its own. It has as many parameters as a route without a star, and they
have one name. -/
theorem normal_form_keeps_parameters (route : String) :
    normalize (normalize route) = normalize route ∧
      ('*' ∉ route.toList →
        (parameters (normalize route)).length = (parameters route).length ∧
          ∀ name ∈ parameters (normalize route), name = "param") := by
  constructor
  · rw [normalize, normalize, String.toList_ofList, normalChars_normalChars]
  · intro free
    rw [parameters_normalize free, List.length_map]
    refine ⟨rfl, fun name mem => ?_⟩
    obtain ⟨_, -, rfl⟩ := List.mem_map.mp mem
    rfl

/-- A star counts apart from the parameter in which it stands, and is lost with its name. -/
example : parameters "/<a*>" = ["a*", "*"] ∧ parameters (normalize "/<a*>") = ["param"] := by
  decide +kernel

/-- A route in which the notations stand in one another and are left open. -/
def tangledRoute : String :=
  "/:id\x7b<a:\x7bb\x7d>\x7d/<\x7bc\x7d"

theorem normal_form_keeps_parameters_of_tangledRoute :
    '*' ∉ tangledRoute.toList ∧ parameters tangledRoute = ["id", "\x7bb\x7d", "c"] ∧
      normalize tangledRoute = "/:param\x7b<param>\x7d/<\x7bparam\x7d" ∧
      normalize (normalize tangledRoute) = normalize tangledRoute ∧
      (parameters (normalize tangledRoute)).length = (parameters tangledRoute).length ∧
      ∀ name ∈ parameters (normalize tangledRoute), name = "param" := by
  have free : '*' ∉ tangledRoute.toList := by decide
  refine ⟨free, by decide +kernel, by decide +kernel, ?_⟩
  exact ⟨(normal_form_keeps_parameters tangledRoute).1,
    (normal_form_keeps_parameters tangledRoute).2 free⟩

end RepoSurvey.Detection.RoutePath
