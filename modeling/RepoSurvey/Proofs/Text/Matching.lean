import RepoSurvey.Proofs.Text.Reading

/-!
# Where matches lie and what they capture

A match lies inside the text (`Pattern.bounds_of_matchAt?`), a pattern whose last
piece is one character matches up to such a character
(`Pattern.last_of_matchAt?`), one whose last piece is a run matches up to the end
of the run (`Pattern.EndsInRun.stops`), and the matches of a text come from left
to right (`Pattern.findAll_increasing`).

What a match captures is what the pattern reads there
(`Pattern.exists_reads_of_opens?`, `Pattern.exists_reads_of_findFrom?`), and each
captured text is read by a piece of the pattern (`Pattern.exists_captured_reads`).
-/

namespace RepoSurvey.Text

namespace Pattern

variable {text : Array Char} {p : Pattern} {found : Nat × Captures}

/-- A successful search has handed a position to the rest of the search, not
before its own and not beyond the end of the text. -/
theorem exists_next_of_search {i : Nat} {caps : Captures} {next : Search} (inside : i ≤ text.size)
    (success : p.search text i caps next = some found) :
    ∃ j caps', i ≤ j ∧ j ≤ text.size ∧ next j caps' = some found := by
  obtain ⟨j, caps', bounds, there, -⟩ := exists_reads_of_search inside success
  exact ⟨j, caps', bounds.1, bounds.2, there⟩

/-- The last piece of the pattern is one character of a class. -/
inductive EndsIn (accepts : Char → Bool) : Pattern → Prop
  /-- It is the whole pattern. -/
  | one : EndsIn accepts (.one accepts)
  /-- It is the last piece of a sequence. -/
  | seq {p q : Pattern} (last : EndsIn accepts q) : EndsIn accepts (.seq p q)

/-- Such a pattern hands on the position after a character of the class. -/
theorem EndsIn.exists_next_of_search {accepts : Char → Bool} {i : Nat} {caps : Captures}
    {next : Search} (ends : p.EndsIn accepts) (inside : i ≤ text.size)
    (success : p.search text i caps next = some found) :
    ∃ j caps', i ≤ j ∧ classAt text accepts j = true ∧ next (j + 1) caps' = some found := by
  induction ends generalizing i caps with
  | one =>
    obtain ⟨here, there⟩ := Option.ite_none_right_eq_some.mp success
    exact ⟨i, caps, Nat.le_refl i, here, there⟩
  | @seq p q _ ih =>
    have first : p.search text i caps (fun j caps' => q.search text j caps' next) = some found :=
      success
    obtain ⟨j, caps', from_i, to_j, rest⟩ := Pattern.exists_next_of_search inside first
    obtain ⟨k, caps'', from_j, here, there⟩ := ih to_j rest
    exact ⟨k, caps'', Nat.le_trans from_i from_j, here, there⟩

/-- The last piece of the pattern is a run of a class, as long as possible. -/
inductive EndsInRun (accepts : Char → Bool) : Pattern → Prop
  /-- It is the whole pattern. -/
  | run {least : Nat} : EndsInRun accepts (.run accepts least none true)
  /-- It is the last piece of a sequence. -/
  | seq {p q : Pattern} (last : EndsInRun accepts q) : EndsInRun accepts (.seq p q)
  /-- It is captured. -/
  | capture {number : Nat} {p : Pattern} (last : EndsInRun accepts p) :
    EndsInRun accepts (.capture number p)

theorem longestFirst_of_isSome {next : Nat → Option (Nat × Captures)} {lo extra : Nat}
    (there : (next (lo + extra)).isSome) : longestFirst next lo extra = next (lo + extra) := by
  cases extra with
  | zero => rfl
  | succ extra =>
    rw [longestFirst]
    cases tried : next (lo + (extra + 1)) with
    | none =>
      rw [tried] at there
      cases there
    | some found => rfl

theorem classAt_of_runRange? {accepts : Char → Bool} {least i lo extra : Nat}
    (inside : i ≤ text.size) (range : runRange? text accepts least none i = some (lo, extra)) :
    classAt text accepts (lo + extra) = false := by
  refine Bool.eq_false_iff.mpr fun here => ?_
  have ends : ∃ lo' extra', runRange? text accepts least none i = some (lo', extra') ∧
      lo' ≤ lo + extra ∧ lo + extra ≤ lo' + extra' :=
    ⟨lo, extra, range, Nat.le_add_right lo extra, Nat.le_refl _⟩
  obtain ⟨⟨upto, bound⟩, accepted, long, short⟩ := (exists_runRange?_iff inside).mp ends
  have further := lt_size_of_classAt here
  -- the run could be longer by the character at its end
  have longer : ∃ lo' extra', runRange? text accepts least none i = some (lo', extra') ∧
      lo' ≤ lo + extra + 1 ∧ lo + extra + 1 ≤ lo' + extra' := by
    refine (exists_runRange?_iff inside).mpr
      ⟨⟨by omega, further⟩, (forall_between_iff further).mpr ?_, by omega, nofun⟩
    intro k above below
    by_cases last : k = lo + extra
    · rwa [last]
    · exact (forall_between_iff bound).mp accepted k above (by omega)
  obtain ⟨lo', extra', range', -, below⟩ := longer
  rw [range] at range'
  cases range'
  omega

/-- Such a pattern hands on the end of the run, if the rest of the search takes anything. -/
theorem EndsInRun.exists_next_of_search {accepts : Char → Bool} {i : Nat} {caps : Captures}
    {next : Search} (ends : p.EndsInRun accepts) (inside : i ≤ text.size)
    (takes : ∀ j caps', (next j caps').isSome) (success : p.search text i caps next = some found) :
    ∃ j caps', classAt text accepts j = false ∧ next j caps' = some found := by
  induction ends generalizing i caps next with
  | run =>
    rw [search] at success
    split at success
    next => cases success
    next lo extra range =>
      rw [if_pos rfl, longestFirst_of_isSome (takes _ _)] at success
      exact ⟨lo + extra, caps, classAt_of_runRange? inside range, success⟩
  | @seq p q _ ih =>
    have first : p.search text i caps (fun j caps' => q.search text j caps' next) = some found :=
      success
    obtain ⟨j, caps', -, to_j, rest⟩ := Pattern.exists_next_of_search inside first
    exact ih to_j takes rest
  | capture _ ih =>
    obtain ⟨j, caps', stop, there⟩ := ih inside (fun j caps' => takes j _) success
    exact ⟨j, _, stop, there⟩

/-! ## Where captured pieces lie -/

/-- Every captured piece lies in the text. -/
def Placed (text : Array Char) (caps : Captures) : Prop :=
  ∀ entry ∈ caps, entry.2.1 ≤ entry.2.2 ∧ entry.2.2 ≤ text.size

theorem exists_placed_of_repeatFrom {step : Nat → Captures → Search → Option (Nat × Captures)}
    {next : Search}
    (pieces : ∀ {i caps} {next : Search}, i ≤ text.size → Placed text caps →
      step i caps next = some found →
      ∃ j caps', (i ≤ j ∧ j ≤ text.size) ∧ Placed text caps' ∧ next j caps' = some found)
    {fuel i : Nat} {caps : Captures} (inside : i ≤ text.size) (placed : Placed text caps)
    (success : repeatFrom step next fuel i caps = some found) :
    ∃ j caps', (i ≤ j ∧ j ≤ text.size) ∧ Placed text caps' ∧ next j caps' = some found := by
  induction fuel generalizing i caps with
  | zero => exact ⟨i, caps, ⟨Nat.le_refl i, inside⟩, placed, success⟩
  | succ fuel ih =>
    rw [repeatFrom] at success
    split at success
    next taken =>
      cases success
      obtain ⟨j, caps', bounds, placed', again⟩ := pieces inside placed taken
      obtain ⟨-, again⟩ := Option.ite_none_right_eq_some.mp again
      obtain ⟨k, caps'', further, placed'', there⟩ := ih bounds.2 placed' again
      exact ⟨k, caps'', ⟨Nat.le_trans bounds.1 further.1, further.2⟩, placed'', there⟩
    next => exact ⟨i, caps, ⟨Nat.le_refl i, inside⟩, placed, success⟩

theorem exists_placed_of_search {i : Nat} {caps : Captures} {next : Search}
    (inside : i ≤ text.size) (placed : Placed text caps)
    (success : p.search text i caps next = some found) :
    ∃ j caps', (i ≤ j ∧ j ≤ text.size) ∧ Placed text caps' ∧ next j caps' = some found := by
  have here : i ≤ i ∧ i ≤ text.size := ⟨Nat.le_refl i, inside⟩
  induction p generalizing i caps next with
  | empty => exact ⟨i, caps, here, placed, success⟩
  | one accepts =>
    obtain ⟨there, success⟩ := Option.ite_none_right_eq_some.mp success
    exact ⟨i + 1, caps, ⟨Nat.le_succ i, lt_size_of_classAt there⟩, placed, success⟩
  | run accepts least most greedy =>
    obtain ⟨j, range, there⟩ := exists_range_of_search_run success
    exact ⟨j, caps, ((exists_runRange?_iff inside).mp range).1, placed, there⟩
  | seq p q ihp ihq =>
    obtain ⟨j, caps', first, placed', rest⟩ := ihp inside placed success here
    obtain ⟨k, caps'', second, placed'', there⟩ :=
      ihq first.2 placed' rest ⟨Nat.le_refl j, first.2⟩
    exact ⟨k, caps'', ⟨Nat.le_trans first.1 second.1, second.2⟩, placed'', there⟩
  | alt p q ihp ihq =>
    rw [search] at success
    split at success
    next taken =>
      cases success
      exact ihp inside placed taken here
    next => exact ihq inside placed success here
  | star p ih =>
    exact exists_placed_of_repeatFrom
      (fun inside placed step => ih inside placed step ⟨Nat.le_refl _, inside⟩)
      inside placed success
  | capture number p ih =>
    obtain ⟨j, caps', bounds, placed', there⟩ := ih inside placed success here
    exact ⟨j, _, bounds, List.forall_mem_cons.mpr ⟨bounds, placed'⟩, there⟩
  | again number =>
    rw [search] at success
    split at success
    next start stop _ =>
      obtain ⟨same, there⟩ := Option.ite_none_right_eq_some.mp success
      obtain ⟨bound, -⟩ := between_of_sameText inside same
      exact ⟨_, caps, ⟨Nat.le_add_right _ _, bound⟩, placed, there⟩
    next => cases success
  | notBefore _ | notAfter _ =>
    obtain ⟨-, there⟩ := Option.ite_none_left_eq_some.mp success
    exact ⟨i, caps, here, placed, there⟩
  | wordEdge | textStart | lineStart | textEnd | lineEnd =>
    obtain ⟨-, there⟩ := Option.ite_none_right_eq_some.mp success
    exact ⟨i, caps, here, placed, there⟩

/-! ## Matches -/

theorem search_of_matchAt? {i : Nat} {m : Match} (matched : p.matchAt? text i = some m) :
    m.start = i ∧
      p.search text i [] (fun stop caps => some (stop, caps)) = some (m.stop, m.captures) := by
  obtain ⟨⟨stop, caps⟩, success, rfl⟩ := Option.map_eq_some_iff.mp matched
  exact ⟨rfl, success⟩

theorem bounds_of_matchAt? {i : Nat} {m : Match} (inside : i ≤ text.size)
    (matched : p.matchAt? text i = some m) : m.start = i ∧ i ≤ m.stop ∧ m.stop ≤ text.size := by
  obtain ⟨start, success⟩ := search_of_matchAt? matched
  obtain ⟨j, caps, from_i, to_j, there⟩ := exists_next_of_search inside success
  cases there
  exact ⟨start, from_i, to_j⟩

/-- A captured piece lies in the text. -/
theorem bounds_of_place? {i number : Nat} {m : Match} {place : Nat × Nat} (inside : i ≤ text.size)
    (matched : p.matchAt? text i = some m) (held : m.place? number = some place) :
    place.1 ≤ place.2 ∧ place.2 ≤ text.size := by
  obtain ⟨-, success⟩ := search_of_matchAt? matched
  obtain ⟨j, caps, -, placed, there⟩ := exists_placed_of_search inside (List.forall_mem_nil _) success
  cases there
  obtain ⟨before, after, split, -⟩ := List.lookup_eq_some_iff.mp held
  exact placed (number, place) (by rw [split]; exact List.mem_append_right _ List.mem_cons_self)

/-- A pattern that ends in a class matches up to and including a character of it. -/
theorem last_of_matchAt? {accepts : Char → Bool} {i : Nat} {m : Match} (ends : p.EndsIn accepts)
    (inside : i ≤ text.size) (matched : p.matchAt? text i = some m) :
    i < m.stop ∧ classAt text accepts (m.stop - 1) = true := by
  obtain ⟨-, success⟩ := search_of_matchAt? matched
  obtain ⟨j, caps, from_i, here, there⟩ := ends.exists_next_of_search inside success
  have stop : j + 1 = m.stop := congrArg Prod.fst (Option.some.inj there)
  exact ⟨by omega, by rw [← stop]; exact here⟩

theorem getElem?_of_endsIn {c : Char} {i : Nat} {m : Match} (ends : p.EndsIn (· == c))
    (inside : i ≤ text.size) (matched : p.matchAt? text i = some m) :
    i < m.stop ∧ text[m.stop - 1]? = some c := by
  obtain ⟨further, last⟩ := last_of_matchAt? ends inside matched
  obtain ⟨d, here, same⟩ := classAt_iff.mp last
  rw [here, beq_iff_eq.mp same]
  exact ⟨further, rfl⟩

/-- A pattern that ends in a run matches up to the end of the run. -/
theorem EndsInRun.stops {accepts : Char → Bool} {i : Nat} {m : Match} (ends : p.EndsInRun accepts)
    (inside : i ≤ text.size) (matched : p.matchAt? text i = some m) :
    classAt text accepts m.stop = false := by
  obtain ⟨-, success⟩ := search_of_matchAt? matched
  obtain ⟨j, caps, stop, there⟩ := ends.exists_next_of_search inside (fun _ _ => rfl) success
  cases there
  exact stop

theorem reads_of_matchAt? {i : Nat} {m : Match} (inside : i ≤ text.size)
    (matched : p.matchAt? text i = some m) : p.ReadsTo text i [] m.stop m.captures := by
  obtain ⟨-, success⟩ := search_of_matchAt? matched
  obtain ⟨j, caps, -, there, reads⟩ := exists_reads_of_search inside success
  cases there
  exact reads

theorem matchAt?_of_findWithin? {i room : Nat} {m : Match}
    (matched : p.findWithin? text i room = some m) :
    i ≤ m.start ∧ m.start ≤ i + room ∧ p.matchAt? text m.start = some m := by
  have here {i : Nat} (matched : p.matchAt? text i = some m) :
      i = m.start ∧ p.matchAt? text m.start = some m := by
    obtain ⟨start, -⟩ := search_of_matchAt? matched
    exact ⟨start.symm, start.symm ▸ matched⟩
  induction room generalizing i with
  | zero =>
    obtain ⟨rfl, there⟩ := here matched
    exact ⟨Nat.le_refl _, Nat.le_refl _, there⟩
  | succ room ih =>
    rw [findWithin?] at matched
    split at matched
    next taken =>
      cases matched
      obtain ⟨rfl, there⟩ := here taken
      exact ⟨Nat.le_refl _, Nat.le_add_right _ _, there⟩
    next =>
      obtain ⟨after, before, there⟩ := ih matched
      exact ⟨Nat.le_of_succ_le after, by omega, there⟩

theorem matchAt?_of_findFrom? {i : Nat} {m : Match} (matched : p.findFrom? text i = some m) :
    i ≤ m.start ∧ m.start ≤ text.size ∧ p.matchAt? text m.start = some m := by
  obtain ⟨inside, within⟩ := Option.ite_none_right_eq_some.mp matched
  obtain ⟨after, before, there⟩ := matchAt?_of_findWithin? within
  exact ⟨after, by omega, there⟩

theorem matchAt?_of_mem_findAllFrom {fuel i : Nat} {m : Match}
    (mem : m ∈ p.findAllFrom text fuel i) :
    i ≤ m.start ∧ m.start ≤ text.size ∧ p.matchAt? text m.start = some m := by
  induction fuel generalizing i with
  | zero => cases mem
  | succ fuel ih =>
    rw [findAllFrom] at mem
    split at mem
    next => cases mem
    next first matched =>
      rcases List.mem_cons.mp mem with rfl | later
      · exact matchAt?_of_findFrom? matched
      · obtain ⟨after, inside, there⟩ := ih later
        have step := (matchAt?_of_findFrom? matched).1
        exact ⟨by omega, inside, there⟩

theorem matchAt?_of_mem_findAll {m : Match} (mem : m ∈ p.findAll text) :
    m.start ≤ text.size ∧ p.matchAt? text m.start = some m :=
  (matchAt?_of_mem_findAllFrom mem).2

theorem getElem?_of_mem_findAll {c : Char} {m : Match} (ends : p.EndsIn (· == c))
    (mem : m ∈ p.findAll text) : m.start < m.stop ∧ text[m.stop - 1]? = some c := by
  obtain ⟨inside, matched⟩ := matchAt?_of_mem_findAll mem
  exact getElem?_of_endsIn ends inside matched

/-- The matches in a text come from left to right, each after the end of the one before. -/
theorem findAll_increasing (p : Pattern) (text : Array Char) :
    (p.findAll text).Pairwise fun m later => m.start < later.start ∧ m.stop ≤ later.start := by
  suffices ∀ fuel i, (p.findAllFrom text fuel i).Pairwise
      fun m later => m.start < later.start ∧ m.stop ≤ later.start from this _ _
  intro fuel
  induction fuel with
  | zero => exact fun _ => .nil
  | succ fuel ih =>
    intro i
    rw [findAllFrom]
    split
    next => exact .nil
    next m _ =>
      refine .cons (fun later mem => ?_) (ih _)
      have after := (matchAt?_of_mem_findAllFrom mem).1
      omega

/-- A pattern that is nowhere leaves the text as it is. -/
theorem substitute_of_findAll_eq_nil {image : Match → Array Char → String} {s : String}
    (none : p.findAll s.toList.toArray = []) : p.substitute image s = s := by
  rw [substitute]
  simp only [none, List.foldl_nil, String.empty_append]
  rw [textBetween_eq, between]
  simp

/-! ## What matches capture -/

theorem group?_eq (m : Match) (text : Array Char) (number : Nat) :
    m.group? text number = ((texts text m.captures).lookup number).map String.ofList := by
  rw [Match.group?, Match.place?, lookup_texts, Option.map_map]
  refine congrArg (fun image => Option.map image _) (funext fun place => ?_)
  exact textBetween_eq text place.1 place.2

/-- A match has read a piece of the text; what it captures is what was captured then, and
a last run ends with the piece. -/
theorem exists_reads_of_matchAt? {i : Nat} {m : Match} (inside : i ≤ text.size)
    (matched : p.matchAt? text i = some m) :
    ∃ before piece after caps, text.toList = before ++ piece ++ after ∧
      before.length = i ∧ p.Reads before piece after [] caps ∧
      (∀ number, m.group? text number = (caps.lookup number).map String.ofList) ∧
      ∀ accepts, p.EndsInRun accepts → after.head?.any accepts = false := by
  obtain ⟨-, from_i, bound⟩ := bounds_of_matchAt? inside matched
  refine ⟨text.toList.take i, between text i m.stop, text.toList.drop m.stop,
    texts text m.captures, ?_, ?_, reads_of_matchAt? inside matched, group?_eq m text, ?_⟩
  · rw [take_between from_i, List.take_append_drop]
  · rw [List.length_take, Array.length_toList, Nat.min_eq_left inside]
  · intro accepts ends
    rw [← classAt_eq]
    exact ends.stops inside matched

theorem exists_reads_of_opens? {s : String} {m : Match} (opens : p.opens? s = some (m, text)) :
    ∃ piece after caps, s.toList = piece ++ after ∧ p.Reads [] piece after [] caps ∧
      (∀ number, m.group? text number = (caps.lookup number).map String.ofList) ∧
      ∀ accepts, p.EndsInRun accepts → after.head?.any accepts = false := by
  obtain ⟨m', matched, same⟩ := Option.map_eq_some_iff.mp opens
  obtain ⟨rfl, rfl⟩ := Prod.mk.inj same
  obtain ⟨before, piece, after, caps, whole, start, reads, groups, stops⟩ :=
    exists_reads_of_matchAt? (Nat.zero_le _) matched
  obtain rfl := List.length_eq_zero_iff.mp start
  exact ⟨piece, after, caps, whole, reads, groups, stops⟩

theorem exists_reads_of_findFrom? {i : Nat} {m : Match} (matched : p.findFrom? text i = some m) :
    ∃ before piece after caps, text.toList = before ++ piece ++ after ∧
      p.Reads before piece after [] caps ∧
      (∀ number, m.group? text number = (caps.lookup number).map String.ofList) ∧
      ∀ accepts, p.EndsInRun accepts → after.head?.any accepts = false := by
  obtain ⟨-, inside, there⟩ := matchAt?_of_findFrom? matched
  obtain ⟨before, piece, after, caps, whole, -, reads, rest⟩ :=
    exists_reads_of_matchAt? inside there
  exact ⟨before, piece, after, caps, whole, reads, rest⟩

/-- Where a plain pattern reads a piece, it has a match. -/
theorem isSome_matchAt? {before piece after : List Char} {caps : Pieces} (plain : p.Plain = true)
    (whole : text.toList = before ++ piece ++ after) (reads : p.Reads before piece after [] caps) :
    (p.matchAt? text before.length).isSome := by
  have size : text.size = before.length + piece.length + after.length := by
    rw [← Array.length_toList, whole, List.length_append, List.length_append]
  have upto : before.length ≤ before.length + piece.length := Nat.le_add_right _ _
  have inside : before.length + piece.length ≤ text.size := by omega
  have placed : p.Reads (text.toList.take before.length)
      (between text before.length (before.length + piece.length))
      (text.toList.drop (before.length + piece.length)) (texts text []) caps := by
    rw [between, Nat.add_sub_cancel_left, ← List.length_append, whole, List.drop_left,
      List.append_assoc, List.take_left, List.drop_left, List.take_left]
    exact reads
  rw [matchAt?, Option.isSome_map]
  exact isSome_search_of_reads plain upto inside placed fun _ _ => rfl

theorem isSome_opens? {s : String} {piece after : List Char} {caps : Pieces}
    (plain : p.Plain = true) (whole : s.toList = piece ++ after)
    (reads : p.Reads [] piece after [] caps) : (p.opens? s).isSome := by
  rw [opens?, Option.isSome_map]
  exact isSome_matchAt? plain whole reads

theorem isSome_findWithin? {i k room : Nat} (above : i ≤ k) (below : k ≤ i + room)
    (there : (p.matchAt? text k).isSome) : (p.findWithin? text i room).isSome := by
  induction room generalizing i with
  | zero =>
    have only : k = i := by omega
    rwa [findWithin?, ← only]
  | succ room ih =>
    rw [findWithin?]
    split
    next => rfl
    next none =>
      by_cases first : k = i
      · rw [first, none] at there
        cases there
      · exact ih (by omega) (by omega)

theorem isSome_findFrom? {before piece after : List Char} {caps : Pieces} (plain : p.Plain = true)
    (whole : text.toList = before ++ piece ++ after) (reads : p.Reads before piece after [] caps) :
    (p.findFrom? text 0).isSome := by
  have size : text.size = before.length + piece.length + after.length := by
    rw [← Array.length_toList, whole, List.length_append, List.length_append]
  rw [findFrom?, if_pos (Nat.zero_le _)]
  exact isSome_findWithin? (Nat.zero_le _) (by omega) (isSome_matchAt? plain whole reads)

/-! ## Which pieces capture -/

/-- The pieces of the pattern whose texts are captured under a number. -/
def captured (number : Nat) : Pattern → List Pattern
  | .seq p q => p.captured number ++ q.captured number
  | .alt p q => p.captured number ++ q.captured number
  | .star p => p.captured number
  | .capture n p => (if n = number then [p] else []) ++ p.captured number
  | _ => []

/-- However the pattern is read, something is captured under the number. -/
def captures (number : Nat) : Pattern → Bool
  | .seq p q => p.captures number || q.captures number
  | .alt p q => p.captures number && q.captures number
  | .capture n p => n == number || p.captures number
  | _ => false

theorem lookup_cons_eq (number other : Nat) (piece : List Char) (caps : Pieces) :
    List.lookup number ((other, piece) :: caps) =
      if other = number then some piece else caps.lookup number := by
  by_cases same : other = number
  · subst same
    simp
  · have different : (number == other) = false := beq_eq_false_iff_ne.mpr (Ne.symm same)
    simp [List.lookup_cons, different, same]

section

variable {before piece after : List Char} {caps caps' : Pieces} {number : Nat}

/-- What is captured was captured before, or is read by a piece of the pattern. -/
theorem Reads.of_lookup (reads : p.Reads before piece after caps caps') {held : List Char}
    (there : caps'.lookup number = some held) :
    caps.lookup number = some held ∨
      ∃ q ∈ p.captured number, ∃ before after caps caps', q.Reads before held after caps caps' := by
  induction p generalizing before piece after caps caps' with
  | empty => exact .inl (reads.2 ▸ there)
  | one accepts => exact .inl (reads.2 ▸ there)
  | run accepts least most greedy => exact .inl (reads.2 ▸ there)
  | seq p q ihp ihq =>
    obtain ⟨first, second, mid, -, reads, reads'⟩ := reads
    rcases ihq reads' there with earlier | ⟨r, mem, read⟩
    · rcases ihp reads earlier with given | ⟨r, mem, read⟩
      · exact .inl given
      · exact .inr ⟨r, List.mem_append_left _ mem, read⟩
    · exact .inr ⟨r, List.mem_append_right _ mem, read⟩
  | alt p q ihp ihq =>
    rcases reads with left | right
    · rcases ihp left there with given | ⟨r, mem, read⟩
      · exact .inl given
      · exact .inr ⟨r, List.mem_append_left _ mem, read⟩
    · rcases ihq right there with given | ⟨r, mem, read⟩
      · exact .inl given
      · exact .inr ⟨r, List.mem_append_right _ mem, read⟩
  | star p ih =>
    have repeats : Repeats p.Reads before piece after caps caps' := reads
    induction repeats with
    | nil => exact .inl there
    | cons _ first rest ih' =>
      rcases ih' rest there with earlier | read
      · exact ih first earlier
      · exact .inr read
  | capture n p ih =>
    obtain ⟨mid, inner, rfl⟩ := reads
    rw [lookup_cons_eq] at there
    by_cases same : n = number
    · rw [if_pos same, Option.some_inj] at there
      subst there
      refine .inr ⟨p, ?_, before, after, caps, mid, inner⟩
      rw [captured, if_pos same]
      exact List.mem_append_left _ (List.mem_singleton_self p)
    · rw [if_neg same] at there
      rcases ih inner there with given | ⟨r, mem, read⟩
      · exact .inl given
      · exact .inr ⟨r, List.mem_append_right _ mem, read⟩
  | again n => exact .inl (reads.2 ▸ there)
  | notBefore rejects | notAfter rejects => exact .inl (reads.2.2 ▸ there)
  | wordEdge | textStart | lineStart | textEnd | lineEnd => exact .inl (reads.2.2 ▸ there)

theorem Reads.isSome_lookup (reads : p.Reads before piece after caps caps')
    (held : p.captures number = true ∨ (caps.lookup number).isSome) :
    (caps'.lookup number).isSome := by
  induction p generalizing before piece after caps caps' with
  | empty | one _ | run _ _ _ _ | again _ => exact reads.2 ▸ held.resolve_left nofun
  | seq p q ihp ihq =>
    obtain ⟨first, second, mid, -, reads, reads'⟩ := reads
    rcases held with always | given
    · rcases Bool.or_eq_true_iff.mp always with left | right
      · exact ihq reads' (.inr (ihp reads (.inl left)))
      · exact ihq reads' (.inl right)
    · exact ihq reads' (.inr (ihp reads (.inr given)))
  | alt p q ihp ihq =>
    rcases reads with left | right
    · exact ihp left (held.imp_left fun always => (Bool.and_eq_true_iff.mp always).1)
    · exact ihq right (held.imp_left fun always => (Bool.and_eq_true_iff.mp always).2)
  | star p ih =>
    have repeats : Repeats p.Reads before piece after caps caps' := reads
    have given := held.resolve_left nofun
    clear held reads
    induction repeats with
    | nil => exact given
    | cons _ first _ ih' => exact ih' (ih first (.inr given))
  | capture n p ih =>
    obtain ⟨mid, inner, rfl⟩ := reads
    rw [lookup_cons_eq]
    by_cases same : n = number
    · rw [if_pos same]
      rfl
    · rw [if_neg same]
      have other : (n == number) = false := beq_eq_false_iff_ne.mpr same
      rw [captures, other, Bool.false_or] at held
      exact ih inner held
  | notBefore _ | notAfter _ | wordEdge | textStart | lineStart | textEnd | lineEnd =>
    exact reads.2.2 ▸ held.resolve_left nofun

/-- The pattern ends in one character of a class, or captures a piece under a number. -/
inductive EndsInOr (number : Nat) (accepts : Char → Bool) : Pattern → Prop
  /-- It is the character. -/
  | one : EndsInOr number accepts (.one accepts)
  /-- It captures the piece. -/
  | captured {p : Pattern} (always : p.captures number = true) : EndsInOr number accepts p
  /-- The last piece of a sequence does so. -/
  | seq {p q : Pattern} (last : EndsInOr number accepts q) : EndsInOr number accepts (.seq p q)
  /-- Both patterns of a choice do so. -/
  | alt {p q : Pattern} (left : EndsInOr number accepts p) (right : EndsInOr number accepts q) :
    EndsInOr number accepts (.alt p q)

theorem EndsInOr.last {accepts : Char → Bool} (ends : p.EndsInOr number accepts)
    (reads : p.Reads before piece after caps caps') :
    (∃ front c, piece = front ++ [c] ∧ accepts c = true) ∨ (caps'.lookup number).isSome := by
  induction ends generalizing before piece caps with
  | one =>
    obtain ⟨⟨c, rfl, accepted⟩, -⟩ := reads
    exact .inl ⟨[], c, rfl, accepted⟩
  | captured always => exact .inr (reads.isSome_lookup (.inl always))
  | seq _ ih =>
    obtain ⟨first, second, mid, rfl, -, reads⟩ := reads
    refine (ih reads).imp_left ?_
    rintro ⟨front, c, rfl, accepted⟩
    exact ⟨first ++ front, c, (List.append_assoc first front [c]).symm, accepted⟩
  | alt _ _ left right => exact reads.elim left right

theorem getElem?_of_between {i j : Nat} {front : List Char} {c : Char} (inside : j ≤ text.size)
    (ends : between text i j = front ++ [c]) : i < j ∧ text[j - 1]? = some c := by
  have length : j - i = front.length + 1 := by
    rw [← length_between inside, ends, List.length_append, List.length_singleton]
  have last : (between text i j)[front.length]? = some c := by
    rw [ends, List.getElem?_append_right (Nat.le_refl _), Nat.sub_self]
    rfl
  rw [between, List.getElem?_take_of_lt (by omega), List.getElem?_drop, Array.getElem?_toList]
    at last
  refine ⟨by omega, ?_⟩
  rwa [show j - 1 = i + front.length by omega]

theorem getElem?_of_endsInOr {c : Char} {m : Match} (ends : p.EndsInOr number (· == c))
    (mem : m ∈ p.findAll text) (free : m.group? text number = none) :
    m.start < m.stop ∧ text[m.stop - 1]? = some c := by
  obtain ⟨inside, matched⟩ := matchAt?_of_mem_findAll mem
  rw [group?_eq, Option.map_eq_none_iff] at free
  obtain ⟨-, -, bound⟩ := bounds_of_matchAt? inside matched
  rcases ends.last (reads_of_matchAt? inside matched) with ⟨front, d, last, same⟩ | held
  · rw [beq_iff_eq.mp same] at last
    exact getElem?_of_between bound last
  · rw [free] at held
    cases held

/-- The text of a captured piece is read by the piece. -/
theorem exists_captured_reads {m : Match} {held : String} (mem : m ∈ p.findAll text)
    (group : m.group? text number = some held) :
    ∃ q ∈ p.captured number,
      ∃ before after caps caps', q.Reads before held.toList after caps caps' := by
  obtain ⟨inside, matched⟩ := matchAt?_of_mem_findAll mem
  obtain ⟨_, _, _, caps, -, -, reads, groups, -⟩ := exists_reads_of_matchAt? inside matched
  rw [groups, Option.map_eq_some_iff] at group
  obtain ⟨cs, there, rfl⟩ := group
  rw [String.toList_ofList]
  exact (reads.of_lookup there).resolve_left nofun

theorem exists_group?_of_captures {m : Match} (mem : m ∈ p.findAll text)
    (always : p.captures number = true) : ∃ held, m.group? text number = some held := by
  obtain ⟨inside, matched⟩ := matchAt?_of_mem_findAll mem
  obtain ⟨_, _, _, caps, -, -, reads, groups, -⟩ := exists_reads_of_matchAt? inside matched
  obtain ⟨cs, there⟩ := Option.isSome_iff_exists.mp (reads.isSome_lookup (.inl always))
  exact ⟨String.ofList cs, by rw [groups, there]; rfl⟩

end

end Pattern

end RepoSurvey.Text
