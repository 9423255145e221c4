import RepoSurvey.Proofs.JavaScript.Lookups
import RepoSurvey.Survey.Session

/-!
# Which sources are refused

Masking is the only thing that can fail when a script is parsed. A source is refused
(`Refused`) when the reader comes to a block comment that is not closed, or to a closing brace
with every brace before it closed, or when it comes to the end inside a template or with open
braces. `Reader.Reaches` says where the reader comes to; what it has read by then has its cells
(`Reader.Reaches.hasRead`), so the braces of `Refused` are those of the skeleton so far.

With every lookup checked the parser fails on these sources only, and with the same failure
(`parseScript_answers`).
-/

namespace RepoSurvey.JavaScript

/-! ## What the reader comes to -/

/-- With a text at hand the reader comes to a state in which some of it is left. -/
inductive Reader.Reaches : Reader → List Char → Reader → List Char → Prop
  /-- It is there. -/
  | here {r : Reader} {text : List Char} : Reaches r text r text
  /-- It gets there after one step. -/
  | step {r next last : Reader} {c : Char} {rest after : List Char} {taken : Nat}
    (stepped : r.step c rest = .go next taken) (later : Reaches next (rest.drop taken) last after) :
    Reaches r (c :: rest) last after

/-- The skeleton of what has been read. -/
def Reader.skeleton (r : Reader) : List Char :=
  r.cells.reverse.map (·.2)

namespace Reader

variable {r last : Reader} {text after done : List Char} {e : MaskError}

/-- What has been read on the way has its cells. -/
theorem Reaches.hasRead (h : r.HasRead done) (reached : r.Reaches text last after) :
    ∃ read, text = read ++ after ∧ last.HasRead (done ++ read) := by
  induction reached generalizing done with
  | here => exact ⟨[], rfl, by rwa [List.append_nil]⟩
  | @step r next last c rest after taken stepped _ ih =>
    obtain ⟨read, left, whole⟩ := ih (h.step stepped)
    refine ⟨c :: rest.take taken ++ read, ?_, ?_⟩
    · rw [List.append_assoc, ← left, List.cons_append, List.take_append_drop]
    · rwa [← List.append_assoc]

theorem HasRead.braces_eq_nil_iff (h : r.HasRead done) : r.braces = [] ↔ Balanced r.skeleton := by
  rw [← openAfter?_eq_zero_iff, skeleton, h.braces, Option.some_inj, List.length_eq_zero_iff]

theorem HasRead.count (h : r.HasRead done) :
    r.skeleton.count '{' = r.skeleton.count '}' + r.braces.length :=
  count_of_openAfter? h.braces

theorem HasRead.line_eq (h : r.HasRead done) (after : List Char) :
    r.line = Text.lineOf (done ++ after) done.length := by
  have feeds : List.Forall₂ (fun c d => d = '\n' ↔ c = '\n') done (r.cells.reverse.map (·.1)) :=
    List.forall₂_map_right_iff.mpr (h.cells.imp fun _ _ masks => masks.newline_iff.1)
  have same := lineOf_eq_of_forall₂ feeds done.length
  have feedsRead : (r.cells.filter fun cell => cell.1 == '\n').length =
      (r.cells.reverse.map (·.1)).count '\n' := by
    rw [List.count, List.countP_map, List.countP_reverse, List.countP_eq_length_filter]
    rfl
  unfold Text.lineOf at same ⊢
  rw [feeds.length_eq, List.take_length, ← feeds.length_eq, List.take_length] at same
  rw [List.take_left, ← same, ← feedsRead, line]

/-- The reader gets to the end of a text, or to a place where it fails. -/
theorem read_eq_ok_iff : r.read text = .ok last ↔ r.Reaches text last [] := by
  constructor
  · intro ran
    fun_induction Reader.read r text with
    | case1 r =>
      cases ran
      exact .here
    | case2 r c rest e stepped => cases ran
    | case3 r c rest next taken stepped ih => exact .step stepped (ih ran)
  · intro reached
    generalize none : ([] : List Char) = after at reached
    induction reached with
    | here =>
      subst none
      rw [Reader.read]
    | step stepped _ ih =>
      rw [Reader.read, stepped]
      exact ih none

theorem read_eq_error_iff : r.read text = .error e ↔
    ∃ last c rest, r.Reaches text last (c :: rest) ∧ last.step c rest = .fail e := by
  constructor
  · intro ran
    fun_induction Reader.read r text with
    | case1 r => cases ran
    | case2 r c rest e stepped =>
      cases ran
      exact ⟨r, c, rest, .here, stepped⟩
    | case3 r c rest next taken stepped ih =>
      obtain ⟨last, c, rest, reached, fails⟩ := ih ran
      exact ⟨last, c, rest, .step stepped reached, fails⟩
  · rintro ⟨last, c, rest, reached, fails⟩
    generalize left : c :: rest = after at reached
    induction reached with
    | here =>
      subst left
      rw [Reader.read, fails]
    | step stepped _ ih =>
      rw [Reader.read, stepped]
      exact ih fails left

end Reader

/-! ## Steps that fail -/

theorem commentLength?_eq_none_iff {seen : Nat} {cs : List Char} :
    commentLength? seen cs = none ↔ ¬ ['*', '/'] <:+: cs := by
  fun_induction commentLength? seen cs with
  | case1 => simp
  | case2 seen rest =>
    have there : ['*', '/'] <:+: '*' :: '/' :: rest := ⟨[], rest, rfl⟩
    simp [there]
  | case3 seen c rest other ih =>
    rw [ih, List.infix_cons_iff, not_or]
    refine (and_iff_right ?_).symm
    rintro ⟨more, split⟩
    obtain ⟨rfl, rfl⟩ := List.cons.inj split
    exact other more rfl rfl

/-- Inside a template no step fails. -/
theorem templateStep_ne_fail {r : Reader} {c : Char} {rest : List Char} {e : MaskError} :
    templateStep r c rest ≠ .fail e := by
  unfold templateStep
  split
  · nofun
  · split
    · nofun
    · split <;> nofun

theorem plainStep_eq_fail_iff {r : Reader} {c : Char} {e : MaskError} :
    plainStep r c = .fail e ↔ c = '}' ∧ r.braces = [] ∧ e = .strayBrace r.line := by
  unfold plainStep
  by_cases opens : c = '{'
  · subst opens
    simp
  · by_cases closes : c = '}'
    · subst closes
      cases stack : r.braces with
      | nil => simp [eq_comm]
      | cons inner outer => cases inner <;> simp
    · simp [opens, closes]

/-- Outside a template a step fails at an unclosed comment and at a brace that closes none, and
nowhere else. -/
theorem codeStep_eq_fail_iff {r : Reader} {c : Char} {rest : List Char} {e : MaskError} :
    codeStep r c rest = .fail e ↔
      (∃ more, c :: rest = '/' :: '*' :: more ∧ ¬ ['*', '/'] <:+: more ∧ e = .openComment) ∨
        (c = '}' ∧ r.braces = [] ∧ e = .strayBrace r.line) := by
  constructor
  · intro fails
    unfold codeStep at fails
    split at fails
    · cases fails
    · split at fails
      next comment =>
        obtain ⟨slash, star⟩ := Bool.and_eq_true_iff.mp comment
        obtain ⟨more, rfl⟩ := List.head?_eq_some_iff.mp (beq_iff_eq.mp star)
        split at fails
        next free =>
          cases fails
          exact .inl ⟨more, by rw [beq_iff_eq.mp slash], commentLength?_eq_none_iff.mp free, rfl⟩
        next => cases fails
      next =>
        split at fails
        · split at fails <;> cases fails
        · split at fails
          · cases fails
          · split at fails
            · split at fails
              · exact .inr (plainStep_eq_fail_iff.mp fails)
              · cases fails
            · exact .inr (plainStep_eq_fail_iff.mp fails)
  · rintro (⟨more, whole, free, rfl⟩ | ⟨rfl, stack, rfl⟩)
    · obtain ⟨rfl, rfl⟩ := List.cons.inj whole
      have length : commentLength? 0 more = none := commentLength?_eq_none_iff.mpr free
      simp [codeStep, length]
    · have stray := plainStep_eq_fail_iff.mpr ⟨rfl, stack, rfl⟩
      simpa [codeStep] using stray

theorem step_eq_fail_iff {r : Reader} {c : Char} {rest : List Char} {e : MaskError} :
    r.step c rest = .fail e ↔ r.inTemplate = false ∧
      ((∃ more, c :: rest = '/' :: '*' :: more ∧ ¬ ['*', '/'] <:+: more ∧ e = .openComment) ∨
        (c = '}' ∧ r.braces = [] ∧ e = .strayBrace r.line)) := by
  unfold Reader.step
  cases r.inTemplate with
  | true => simp [templateStep_ne_fail]
  | false => simp [codeStep_eq_fail_iff]

/-! ## Refused sources -/

/-- The masking of a source fails, and why. -/
inductive Refused (source : List Char) : MaskError → Prop
  /-- A block comment begins, and it has no end. -/
  | openComment {r : Reader} {rest : List Char}
    (reached : Reader.Reaches {} source r ('/' :: '*' :: rest)) (code : r.inTemplate = false)
    (unended : ¬ ['*', '/'] <:+: rest) : Refused source .openComment
  /-- A brace closes, and every brace before it is closed already. -/
  | strayBrace {r : Reader} {before rest : List Char} (split : source = before ++ '}' :: rest)
    (reached : Reader.Reaches {} source r ('}' :: rest)) (code : r.inTemplate = false)
    (closed : Balanced r.skeleton) : Refused source (.strayBrace (Text.lineOf source before.length))
  /-- The source ends in a template. -/
  | openTemplate {r : Reader} (reached : Reader.Reaches {} source r [])
    (inside : r.inTemplate = true) : Refused source .openTemplate
  /-- The source ends, and more braces have been opened than closed. -/
  | openBraces {r : Reader} {count : Nat} (reached : Reader.Reaches {} source r [])
    (code : r.inTemplate = false) (some_open : 0 < count)
    (opened : r.skeleton.count '{' = r.skeleton.count '}' + count) :
    Refused source (.openBraces count)

section

variable {source : List Char} {e : MaskError}

theorem mask_eq_error_of_read (ran : Reader.read {} source = .error e) :
    mask source = .error e := by
  rw [mask, ran]
  rfl

/-- When a source has been read, its template and its braces have to be closed. -/
theorem mask_eq_error_iff_of_read {r : Reader} (ran : Reader.read {} source = .ok r) :
    mask source = .error e ↔ (r.inTemplate = true ∧ e = .openTemplate) ∨
      (r.inTemplate = false ∧ r.braces ≠ [] ∧ e = .openBraces r.braces.length) := by
  have masked : mask source =
      if r.inTemplate = true then .error .openTemplate
      else if (!r.braces.isEmpty) = true then .error (.openBraces r.braces.length)
      else .ok ⟨(r.cells.reverse.map (·.1)).toArray, (r.cells.reverse.map (·.2)).toArray⟩ := by
    rw [mask, ran]
    rfl
  rw [masked]
  cases r.inTemplate with
  | true => simp [eq_comm]
  | false =>
    cases r.braces with
    | nil => simp
    | cons inner outer => simp [eq_comm]

theorem refused_of_mask_eq_error (failed : mask source = .error e) : Refused source e := by
  cases ran : Reader.read {} source with
  | error e' =>
    rw [mask_eq_error_of_read ran] at failed
    cases failed
    obtain ⟨r, c, rest, reached, fails⟩ := Reader.read_eq_error_iff.mp ran
    obtain ⟨read, split, whole⟩ := reached.hasRead .start
    obtain ⟨code, ⟨more, same, free, rfl⟩ | ⟨rfl, stack, rfl⟩⟩ := step_eq_fail_iff.mp fails
    · rw [same] at reached
      exact .openComment reached code free
    · rw [whole.line_eq ('}' :: rest), List.nil_append, ← split]
      exact .strayBrace split reached code (whole.braces_eq_nil_iff.mp stack)
  | ok r =>
    have reached := Reader.read_eq_ok_iff.mp ran
    obtain ⟨read, -, whole⟩ := reached.hasRead .start
    rcases (mask_eq_error_iff_of_read ran).mp failed with ⟨inside, rfl⟩ | ⟨code, some_open, rfl⟩
    · exact .openTemplate reached inside
    · exact .openBraces reached code (List.length_pos_of_ne_nil some_open) whole.count

theorem Refused.mask_eq_error (refused : Refused source e) : mask source = .error e := by
  cases refused with
  | openComment reached code free =>
    have fails := step_eq_fail_iff.mpr ⟨code, .inl ⟨_, rfl, free, rfl⟩⟩
    exact mask_eq_error_of_read (Reader.read_eq_error_iff.mpr ⟨_, _, _, reached, fails⟩)
  | @strayBrace r before rest split reached code closed =>
    obtain ⟨read, split', whole⟩ := reached.hasRead .start
    obtain rfl : before = read := List.append_cancel_right (split.symm.trans split')
    have fails : r.step '}' rest = .fail (.strayBrace r.line) :=
      step_eq_fail_iff.mpr ⟨code, .inr ⟨rfl, whole.braces_eq_nil_iff.mpr closed, rfl⟩⟩
    rw [whole.line_eq ('}' :: rest), List.nil_append, ← split] at fails
    exact mask_eq_error_of_read (Reader.read_eq_error_iff.mpr ⟨_, _, _, reached, fails⟩)
  | openTemplate reached inside =>
    exact (mask_eq_error_iff_of_read (Reader.read_eq_ok_iff.mpr reached)).mpr (.inl ⟨inside, rfl⟩)
  | @openBraces r count reached code some_open opened =>
    obtain ⟨read, -, whole⟩ := reached.hasRead .start
    have depth := whole.count
    obtain rfl : count = r.braces.length := by omega
    have stack : r.braces ≠ [] := List.ne_nil_of_length_pos some_open
    exact (mask_eq_error_iff_of_read (Reader.read_eq_ok_iff.mpr reached)).mpr
      (.inr ⟨code, stack, rfl⟩)

theorem mask_eq_error_iff : mask source = .error e ↔ Refused source e :=
  ⟨refused_of_mask_eq_error, Refused.mask_eq_error⟩

end

/-! ## Parsing -/

/-- With every lookup checked, a source is analysed or refused. -/
theorem Checked.parse_eq (content path : String) :
    Checked.parse content path = (JavaScript.parse content path).mapError .refused := by
  unfold Checked.parse JavaScript.parse
  cases masked : mask content.toList with
  | error e => rfl
  | ok m =>
    have sizes := mask_size masked
    refine Outcome.bind_of_eq_ok rfl ?_
    rw [Checked.analyse_eq_ok (sizes.1.trans sizes.2.symm)]
    rfl

theorem parse_eq_error_iff {content path : String} {e : MaskError} :
    parse content path = .error e ↔ Refused content.toList e := by
  rw [← mask_eq_error_iff, parse]
  cases mask content.toList <;> simp [Except.map]

end RepoSurvey.JavaScript

namespace RepoSurvey.Survey

open JavaScript (Refused Stop)

/-- A script is analysed unless its masking fails. Then it is refused, with a failure of the
parser's own tier; and no lookup after masking is made outside the text, or for the partner of
what is no opening bracket. -/
theorem parseScript_answers (content path : String) :
    (∀ a, parseScript content path = .ok a ↔ JavaScript.Checked.parse content path = .ok a) ∧
    (∀ failure, parseScript content path = .error failure ↔
      ∃ e, Refused content.toList e ∧ failure = .unparsable "regex" e.message) ∧
    (∀ stop, JavaScript.Checked.parse content path = .error stop ↔
      ∃ e, Refused content.toList e ∧ stop = .refused e) ∧
    ∀ e, JavaScript.mask content.toList = .error e ↔ Refused content.toList e := by
  have refused (e : JavaScript.MaskError) := @JavaScript.parse_eq_error_iff content path e
  rw [JavaScript.Checked.parse_eq, parseScript]
  simp only [← refused, JavaScript.mask_eq_error_iff]
  cases JavaScript.parse content path with
  | ok a => simp [Except.mapError]
  | error e =>
    have tier : Tier.regex.name = "regex" := rfl
    simp [Except.mapError, tier, eq_comm]

end RepoSurvey.Survey
