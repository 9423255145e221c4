import RepoSurvey.Proofs.Text.Matching

/-!
# Scans of a text

`Pattern.Scans` takes a text apart the way a scan for a pattern does: into pieces
that the scan passes over, because no reading of the pattern starts in them, and
pieces that it takes, because the pattern reads them and could read nothing else
there. A text that is taken apart so is scanned so (`Pattern.Scans.groups_eq`).

Most pieces are passed over for one reason. Among the characters that a reading
meets, the first of some class is always of a certain kind (`Pattern.Leads`); a
piece that ends in the class and has none of that kind in it is no place to start
(`Pattern.Leads.skips`).
-/

namespace RepoSurvey.Text.Pattern

section

variable {p : Pattern} {before piece after : List Char} {caps : Pieces} {found : List Pieces}

/-- No reading of the pattern starts in the piece, whatever stands around it. -/
def Skips (p : Pattern) (piece : List Char) : Prop :=
  ∀ ⦃front back before after read rest caps⦄, piece = front ++ back → back ≠ [] →
    back ++ after = read ++ rest → ¬ p.Reads before read rest [] caps

/-- The pattern reads the piece, and at its place nothing else and in no other way. -/
structure Takes (p : Pattern) (before piece after : List Char) (caps : Pieces) : Prop where
  /-- The piece is read. -/
  reads : p.Reads before piece after [] caps
  /-- There is no other reading. -/
  only : ∀ {read rest caps'}, piece ++ after = read ++ rest → p.Reads before read rest [] caps' →
    read = piece ∧ caps' = caps

/-- A text in pieces that a scan passes over and pieces that it takes, with what is captured
in these. -/
inductive Scans (p : Pattern) : (before after : List Char) → List Pieces → Prop
  /-- Nothing is left, and nothing is read of it. -/
  | done {before : List Char} (none : ∀ caps, ¬ p.Reads before [] [] [] caps) : Scans p before [] []
  /-- A piece is passed over. -/
  | pass {before piece after : List Char} {found : List Pieces} (skips : p.Skips piece)
    (later : Scans p (before ++ piece) after found) : Scans p before (piece ++ after) found
  /-- A piece is taken. -/
  | take {before piece after : List Char} {caps : Pieces} {found : List Pieces}
    (moves : piece ≠ []) (takes : p.Takes before piece after caps)
    (later : Scans p (before ++ piece) after found) :
    Scans p before (piece ++ after) (caps :: found)

/-- A piece that is taken may have a tail that is passed over. -/
theorem Scans.take_pass {tail : List Char} (moves : piece ≠ [])
    (takes : p.Takes before piece (tail ++ after) caps) (skips : p.Skips tail)
    (later : p.Scans (before ++ (piece ++ tail)) after found) :
    p.Scans before (piece ++ tail ++ after) (caps :: found) := by
  rw [← List.append_assoc] at later
  rw [List.append_assoc]
  exact .take moves takes (.pass skips later)

/-! ## Places to start -/

/-- Of what a reading meets of a class, the first is of a kind. -/
def Leads (p : Pattern) (marks kind : Char → Bool) : Prop :=
  ∀ ⦃before read rest caps⦄, p.Reads before read rest [] caps → (read.find? marks).any kind = true

/-- A reading does not start in a piece that ends in the class and has none of the kind. -/
theorem Leads.skips {marks kind : Char → Bool} {front : List Char} {last : Char}
    (leads : p.Leads marks kind) (ends : marks last = true)
    (other : ∀ c ∈ front ++ [last], marks c = true → kind c = false) :
    p.Skips (front ++ [last]) := by
  intro first back before after read rest caps parts more same reads
  have inside : last ∈ back := by
    have lasts := congrArg List.getLast? parts
    rw [List.getLast?_concat, List.getLast?_append_of_ne_nil _ more] at lasts
    exact List.mem_of_getLast? lasts.symm
  obtain ⟨x, met⟩ : ∃ x, back.find? marks = some x :=
    Option.isSome_iff_exists.mp (List.find?_isSome.mpr ⟨last, inside, ends⟩)
  obtain ⟨y, read_first, kindly⟩ := (Option.any_eq_true _ _).mp (leads reads)
  have equal := congrArg (List.find? marks) same
  rw [List.find?_append, List.find?_append, met, read_first] at equal
  obtain rfl : x = y := Option.some.inj equal
  have mem : x ∈ front ++ [last] := by
    rw [parts]
    exact List.mem_append_right first (List.mem_of_find?_eq_some met)
  rw [other x mem (List.find?_some met)] at kindly
  cases kindly

theorem skips_nil : p.Skips [] := by
  intro front back before after read rest caps parts more
  exact absurd (List.append_eq_nil_iff.mp parts.symm).2 more

/-- A reading does not start in a piece without its first characters. -/
theorem Leads.skips_of_first {kind : Char → Bool} (leads : p.Leads (fun _ => true) kind)
    (other : ∀ c ∈ piece, kind c = false) : p.Skips piece := by
  obtain rfl | ⟨front, last, rfl⟩ := List.eq_nil_or_concat piece
  · exact skips_nil
  · rw [List.concat_eq_append] at other ⊢
    exact leads.skips rfl fun c mem _ => other c mem

/-- A reading that starts in a piece of two parts starts in one of them. -/
theorem Skips.append {first second : List Char} (left : p.Skips first) (right : p.Skips second) :
    p.Skips (first ++ second) := by
  intro front back before after read rest caps parts more same
  rcases List.append_eq_append_iff.mp parts with ⟨mid, rfl, rfl⟩ | ⟨mid, rfl, rfl⟩
  · exact right rfl more same
  · cases mid with
    | nil => exact right (List.nil_append second).symm more same
    | cons c mid =>
      rw [List.append_assoc] at same
      exact left rfl (List.cons_ne_nil c mid) same

end

/-! ## What a scan finds -/

section

variable {p : Pattern} {text : Array Char} {before piece after : List Char} {caps : Pieces}
  {found : List Pieces}

/-- The text captured under a number, empty when there is none. -/
def held (caps : Pieces) (number : Nat) : String :=
  ((caps.lookup number).map String.ofList).getD ""

theorem findFrom?_of_matchAt? {i : Nat} {m : Match} (inside : i ≤ text.size)
    (matched : p.matchAt? text i = some m) : p.findFrom? text i = some m := by
  rw [findFrom?, if_pos inside]
  cases text.size - i with
  | zero => exact matched
  | succ room => rw [findWithin?, matched]

theorem findFrom?_succ {i : Nat} (inside : i < text.size) (none : p.matchAt? text i = none) :
    p.findFrom? text i = p.findFrom? text (i + 1) := by
  have room : text.size - i = text.size - (i + 1) + 1 := by omega
  rw [findFrom?, findFrom?, if_pos (Nat.le_of_lt inside), if_pos (Nat.succ_le_of_lt inside), room,
    findWithin?, none]

/-- What a match at a place has read. -/
theorem exists_reads_at {m : Match} (whole : text.toList = before ++ after)
    (matched : p.matchAt? text before.length = some m) :
    ∃ read rest, after = read ++ rest ∧ m.stop = (before ++ read).length ∧
      p.Reads before read rest [] (texts text m.captures) := by
  have size : text.size = before.length + after.length := by
    rw [← Array.length_toList, whole, List.length_append]
  have inside : before.length ≤ text.size := by omega
  obtain ⟨-, upto, bound⟩ := bounds_of_matchAt? inside matched
  have reads := reads_of_matchAt? inside matched
  have start : text.toList.take before.length = before := by rw [whole, List.take_left]
  rw [ReadsTo, start] at reads
  refine ⟨_, _, ?_, ?_, reads⟩
  · rw [between_drop upto, whole, List.drop_left]
  · rw [List.length_append, length_between bound]
    omega

/-- Over a piece in which no reading starts the search goes on behind it. -/
theorem findFrom?_of_skips (whole : text.toList = before ++ (piece ++ after))
    (skips : p.Skips piece) :
    p.findFrom? text before.length = p.findFrom? text (before ++ piece).length := by
  induction piece generalizing before with
  | nil => rw [List.append_nil]
  | cons c piece ih =>
    have size : text.size = before.length + (c :: piece ++ after).length := by
      rw [← Array.length_toList, whole, List.length_append]
    have none : p.matchAt? text before.length = none := by
      refine Option.eq_none_iff_forall_ne_some.mpr fun m matched => ?_
      obtain ⟨read, rest, same, -, reads⟩ := exists_reads_at whole matched
      exact skips (List.nil_append _).symm (List.cons_ne_nil c piece) same reads
    have further : p.Skips piece := by
      rintro front back before after read rest caps rfl
      exact skips (List.cons_append ..).symm
    have step := @ih (before ++ [c]) (by rw [whole, List.append_assoc]; rfl) further
    rw [List.length_append, List.length_singleton, List.append_assoc] at step
    rw [findFrom?_succ (by rw [size, List.length_append, List.length_cons]; omega) none]
    exact step

/-- A piece that is taken is the next match. -/
theorem exists_findFrom?_of_takes (plain : p.Plain = true)
    (whole : text.toList = before ++ (piece ++ after)) (takes : p.Takes before piece after caps) :
    ∃ m, p.findFrom? text before.length = some m ∧ m.start = before.length ∧
      m.stop = (before ++ piece).length ∧ m.group text = held caps := by
  have whole' : text.toList = before ++ piece ++ after := by rw [whole, List.append_assoc]
  have size : text.size = before.length + (piece ++ after).length := by
    rw [← Array.length_toList, whole, List.length_append]
  have inside : before.length ≤ text.size := by omega
  obtain ⟨m, matched⟩ := Option.isSome_iff_exists.mp (isSome_matchAt? plain whole' takes.reads)
  obtain ⟨read, rest, same, stop, reads⟩ := exists_reads_at whole matched
  obtain ⟨rfl, captured⟩ := takes.only same reads
  refine ⟨m, findFrom?_of_matchAt? inside matched, (bounds_of_matchAt? inside matched).1, stop, ?_⟩
  funext number
  rw [Match.group, group?_eq, captured, held]

/-- A scan finds the pieces that are taken, one after another. -/
theorem Scans.groups_from {fuel : Nat} (scans : p.Scans before after found) (plain : p.Plain = true)
    (whole : text.toList = before ++ after) (enough : after.length < fuel) :
    (p.findAllFrom text fuel before.length).map (fun m => m.group text) = found.map held := by
  -- over the pieces; one that is taken costs a unit of fuel and has at least one character
  induction scans generalizing fuel with
  | @done before none =>
    rw [List.append_nil] at whole
    obtain ⟨fuel, rfl⟩ := Nat.exists_eq_add_of_lt enough
    have unmatched : p.findFrom? text before.length = .none := by
      refine Option.eq_none_iff_forall_ne_some.mpr fun m matched => ?_
      obtain ⟨after, inside, there⟩ := matchAt?_of_findFrom? matched
      have last : m.start = before.length := by
        rw [← Array.length_toList, whole] at inside
        omega
      rw [last] at there
      obtain ⟨read, rest, same, -, reads⟩ :=
        exists_reads_at (whole.trans (List.append_nil before).symm) there
      obtain ⟨rfl, rfl⟩ := List.nil_eq_append_iff.mp same
      exact none _ reads
    rw [findAllFrom, unmatched]
    rfl
  | @pass before piece after found skips later ih =>
    obtain ⟨fuel, rfl⟩ := Nat.exists_eq_add_of_lt enough
    rw [List.length_append] at enough
    have later := @ih (piece.length + after.length + fuel + 1)
      (by rw [whole, List.append_assoc]) (by omega)
    rw [← later, List.length_append, findAllFrom, findAllFrom, findFrom?_of_skips whole skips]
  | @take before piece after caps found moves takes later ih =>
    obtain ⟨fuel, rfl⟩ := Nat.exists_eq_add_of_lt enough
    obtain ⟨m, next, start, stop, groups⟩ := exists_findFrom?_of_takes plain whole takes
    have long : 0 < piece.length := List.length_pos_iff.mpr moves
    rw [List.length_append] at enough
    have behind : max m.stop (m.start + 1) = (before ++ piece).length := by
      rw [start, stop, List.length_append]
      omega
    have later := @ih (piece.length + after.length + fuel)
      (by rw [whole, List.append_assoc]) (by omega)
    rw [List.length_append, findAllFrom, next]
    simp only [List.map_cons, behind, groups, later]

/-- A text is scanned as it is taken apart. -/
theorem Scans.groups_eq (scans : p.Scans [] text.toList found) (plain : p.Plain = true) :
    (p.findAll text).map (fun m => m.group text) = found.map held :=
  scans.groups_from plain rfl (by rw [Array.length_toList]; exact Nat.lt_succ_self _)

/-- Where a pattern is only read at the start of a text, only what it reads there is replaced. -/
theorem substitute_of_takes {image : String} {s : String} (plain : p.Plain = true)
    (starts : ∀ ⦃before read rest caps⦄, p.Reads before read rest [] caps → before = [])
    (whole : s.toList = piece ++ after) (takes : p.Takes [] piece after caps) :
    p.substitute (fun _ _ => image) s = image ++ String.ofList after := by
  generalize chars : s.toList.toArray = text
  have letters : text.toList = piece ++ after := by rw [← chars, List.toList_toArray, whole]
  obtain ⟨m, first, start, stop, -⟩ :=
    @exists_findFrom?_of_takes p text [] piece after caps plain letters takes
  have later (fuel : Nat) : p.findAllFrom text fuel (max m.stop (m.start + 1)) = [] := by
    cases fuel with
    | zero => rfl
    | succ fuel =>
      have none : p.findFrom? text (max m.stop (m.start + 1)) = none := by
        refine Option.eq_none_iff_forall_ne_some.mpr fun m' matched => ?_
        obtain ⟨after', inside, there⟩ := matchAt?_of_findFrom? matched
        obtain ⟨before, read, rest, caps, -, length, reads, -⟩ :=
          exists_reads_of_matchAt? inside there
        rw [starts reads, List.length_nil] at length
        omega
      rw [findAllFrom, none]
  have found : p.findAll text = [m] := by
    rw [findAll, findAllFrom]
    simp only [List.length_nil] at first
    rw [first]
    exact congrArg _ (later _)
  rw [substitute]
  simp only [chars, found, List.foldl_cons, List.foldl_nil, start, stop]
  have size : text.size = piece.length + after.length := by
    rw [← Array.length_toList, letters, List.length_append]
  have behind : between text piece.length text.size = after := by
    have upto := @between_drop text piece.length text.size (by omega)
    rwa [(drop_eq_nil_iff (Nat.le_refl _)).mpr rfl, List.append_nil, letters, List.drop_left]
      at upto
  rw [textBetween_eq, textBetween_eq, List.nil_append, behind, List.length_nil, between_self]
  simp

end

end RepoSurvey.Text.Pattern
