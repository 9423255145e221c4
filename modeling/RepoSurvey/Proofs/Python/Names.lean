import RepoSurvey.Proofs.Python.StatementOrder
import RepoSurvey.Proofs.Text.Composing
import RepoSurvey.Proofs.Text.Cutting

/-!
# Names that a module defines

Every word among the tokens of a source is a name (`worded_of_tokens`), and a name is read in its
composed form, so whatever a module defines has a title without blanks, points and brackets
(`whole_of_module`).

Of the statements only definitions have titles. A reader *yields* what it reads: for most
statements that is something without a title, whatever their parts are, and only the readers of
functions and classes have to be looked into.
-/

namespace RepoSurvey.Python

open Reader
open Text (separates)

/-- The text has no character that separates names. -/
def Whole (text : String) : Prop :=
  ∀ c ∈ text.toList, separates c = false

section

variable {title : String}

theorem Whole.not_mem (whole : Whole title) {c : Char} (apart : separates c = true) :
    c ∉ title.toList := by
  intro mem
  rw [whole c mem] at apart
  cases apart

/-- A signature gives a whole title back. -/
theorem Whole.signatureName_signatureOf (whole : Whole title) (parameters : List String) :
    signatureName (signatureOf title parameters) = title := by
  have names : ∀ c ∈ title.toList, (c != '(') = true := fun c mem =>
    bne_iff_ne.mpr fun same => whole.not_mem (by decide) (same ▸ mem)
  have blankless : ∀ c ∈ title.toList, Text.isBlank c = false := fun c mem =>
    (Bool.or_eq_false_iff.mp (whole c mem)).1
  have front : (Text.beforeFirst '(' (signatureOf title parameters)).toList = title.toList := by
    rw [signatureOf, String.append_assoc, String.append_assoc, Text.beforeFirst,
      String.toList_ofList, String.toList_append, List.takeWhile_append_of_pos names,
      String.toList_append]
    exact List.append_nil _
  rw [signatureName, Text.trim, front, Text.trimChars, Text.trimBy_of_none blankless,
    String.ofList_toList]

end

/-! ## Words among tokens -/

/-- A token of a word has the form of a name. -/
def Token.IsWorded (t : Token) : Prop :=
  ∀ text, t.kind = .name text → isName text.toList = true

theorem not_separates_of_isName {cs : List Char} (named : isName cs = true) :
    ∀ c ∈ cs, separates c = false := by
  cases cs with
  | nil => exact nofun
  | cons c rest =>
    rw [isName, Bool.and_eq_true, List.all_eq_true] at named
    refine List.forall_mem_cons.mpr ⟨Text.not_separates_of_isNameStart named.1, fun d mem => ?_⟩
    exact Text.not_separates_of_isNameContinue (named.2 d mem)

namespace Lexer

variable {l next : Lexer}

/-- The tokens so far have the form of names where they are words. -/
def Worded (l : Lexer) : Prop :=
  ∀ t ∈ l.tokens, t.IsWorded

theorem Worded.push (h : l.Worded) {kind : TokenKind}
    (own : ∀ text, kind = .name text → isName text.toList = true) : (l.push kind).Worded :=
  List.forall_mem_cons.mpr ⟨own, h⟩

theorem Worded.foldl_push {α : Type} (h : l.Worded) {kind : TokenKind}
    (own : ∀ text, kind = .name text → isName text.toList = true) (times : List α) :
    (times.foldl (fun l _ => l.push kind) l).Worded := by
  induction times generalizing l with
  | nil => exact h
  | cons _ rest ih => exact ih (h.push own)

theorem Worded.indent (h : l.Worded) {i : Indentation} (ok : l.indent i = some next) :
    next.Worded := by
  have still {fresh idle : Bool} {blocks : List (Nat × Nat)} :
      ({ l with fresh := fresh, idle := idle, blocks := blocks } : Lexer).Worded := h
  unfold Lexer.indent at ok
  simp only at ok
  repeat' split at ok
  all_goals cases ok
  · exact still
  · exact still
  · exact still.push nofun
  · refine still.foldl_push ?_ _
    exact nofun

theorem Worded.scan (h : l.Worded) {c : Char} {rest : List Char} {taken : Nat}
    (ok : l.scan c rest = some (next, taken)) : next.Worded := by
  unfold Lexer.scan at ok
  simp only at ok
  split at ok
  · cases ok
    exact h
  split at ok
  · cases ok
    exact h
  split at ok
  · cases ok
    split
    · exact h
    · exact h.push nofun
  split at ok
  · split at ok
    · cases ok
      exact h
    · cases ok
  split at ok
  · split at ok
    next named =>
      cases ok
      refine h.push fun text same => ?_
      rw [← TokenKind.name.inj same, String.toList_ofList]
      exact named
    · cases ok
  split at ok
  · split at ok
    · obtain ⟨n, -, made⟩ := Option.map_eq_some_iff.mp ok
      cases made
      exact h.push nofun
    · cases ok
  split at ok
  · obtain ⟨⟨text, left⟩, -, made⟩ := Option.map_eq_some_iff.mp ok
    cases made
    exact h.push nofun
  split at ok
  · obtain ⟨brackets, -, made⟩ := Option.map_eq_some_iff.mp ok
    cases made
    exact h.push nofun
  · cases ok

theorem Worded.run {cs : List Char} (h : l.Worded) (ok : l.run cs = some next) : next.Worded := by
  fun_induction Lexer.run l cs with
  | case1 l closed =>
    cases ok
    refine Worded.push (h.foldl_push ?_ _) ?_
    · rintro text ⟨⟩
    · rintro text ⟨⟩
  | case2 => cases ok
  | case3 l c rest scan fresh ih =>
    obtain ⟨l', indented, ok⟩ := Option.bind_eq_some_iff.mp ok
    obtain ⟨step, scanned, ok⟩ := Option.bind_eq_some_iff.mp ok
    exact ih step.1 step.2 ((h.indent indented).scan scanned) ok
  | case4 l c rest scan fresh ih =>
    obtain ⟨l', same, ok⟩ := Option.bind_eq_some_iff.mp ok
    cases same
    obtain ⟨step, scanned, ok⟩ := Option.bind_eq_some_iff.mp ok
    exact ih step.1 step.2 (h.scan scanned) ok

end Lexer

/-- Every word among the tokens of a source is a name. -/
theorem worded_of_tokens {source : List Char} {ts : Array Token} (cut : tokens source = some ts) :
    ∀ t ∈ ts, t.IsWorded := by
  unfold tokens at cut
  split at cut
  · cases cut
  obtain ⟨l, read, rfl⟩ := Option.map_eq_some_iff.mp cut
  have start : Lexer.Worded { position := ⟨1, 0⟩ } := List.forall_mem_nil _
  have worded : l.Worded := start.run read
  intro t mem
  exact worded t (List.mem_reverse.mp (List.mem_toArray.mp mem))

/-! ## What readers yield -/

namespace Reader

variable {α β : Type} {ts : Array Token}

/-- All that the reader reads from the tokens is good. -/
def Yields (ts : Array Token) (good : α → Prop) (p : Reader α) : Prop :=
  ∀ i a j, p ts i = some (a, j) → good a

namespace Yields

variable {good : α → Prop} {p q : Reader α}

theorem pure {a : α} (h : good a) : Yields ts good (Pure.pure a : Reader α) := by
  intro i b j read
  cases read
  exact h

theorem fail : Yields ts good (Reader.fail : Reader α) := nofun

theorem bind {known : β → Prop} {f : β → Reader α} {p : Reader β} (h : Yields ts known p)
    (further : ∀ b, known b → Yields ts good (f b)) : Yields ts good (p >>= f) := by
  intro i a k read
  obtain ⟨b, j, first, read⟩ := exists_of_bind read
  exact further b (h i b j first) j a k read

/-- Whatever is read first, what is read then is good. -/
theorem after {f : β → Reader α} {p : Reader β} (further : ∀ b, Yields ts good (f b)) :
    Yields ts good (p >>= f) := by
  intro i a k read
  obtain ⟨b, j, -, read⟩ := exists_of_bind read
  exact further b j a k read

theorem orElse (h : Yields ts good p) (h' : Yields ts good q) : Yields ts good (p <|> q) := by
  intro i a j read
  rcases read_or_read_of_orElse read with read | read
  · exact h i a j read
  · exact h' i a j read

theorem many (h : Yields ts good p) : Yields ts (fun l => ∀ a ∈ l, good a) (Reader.many p) := by
  intro i l j read a mem
  obtain ⟨i', j', read⟩ := (run_of_many read).read a mem
  exact h i' a j' read

end Yields

theorem yields_name (worded : ∀ t ∈ ts, t.IsWorded) : Yields ts Whole name := by
  intro i a j read
  unfold name at read
  split at read
  · next text place here =>
    split at read
    · cases read
    · cases read
      have named := worded _ (Array.mem_of_getElem? here) text rfl
      rw [Whole, String.toList_ofList]
      exact Text.not_separates_of_mem_composed (not_separates_of_isName named)
  · cases read

end Reader

/-! ## Titles of statements -/

/-- The name that a statement defines as that of a function or of a class. -/
def Stmt.title? : Stmt → Option String
  | .function _ _ name _ _ _ _ => some name
  | .classDef _ name _ _ _ _ => some name
  | _ => none

/-- The title of the statement, if it has one, is whole. -/
def Stmt.Titled (s : Stmt) : Prop :=
  ∀ title, s.title? = some title → Whole title

theorem Stmt.titled_of_none {s : Stmt} (untitled : s.title? = none) : s.Titled := by
  intro title titled
  rw [untitled] at titled
  cases titled

section

variable {r : Rules} {ts : Array Token}

theorem yields_expressionStatement : Yields ts Stmt.Titled (expressionStatement r) := by
  unfold expressionStatement
  refine .after fun yields => ?_
  split
  · exact .after fun _ => .pure (Stmt.titled_of_none rfl)
  refine .after fun e => .after fun noted => ?_
  split
  · refine .after fun _ => .after fun note => .after fun valued => ?_
    split
    · exact .after fun _ => .pure (Stmt.titled_of_none rfl)
    · exact .pure (Stmt.titled_of_none rfl)
  refine .after fun assigned => ?_
  split
  · exact .after fun _ => .after fun _ => .pure (Stmt.titled_of_none rfl)
  refine .after fun changed => ?_
  split
  · exact .after fun _ => .after fun _ => .pure (Stmt.titled_of_none rfl)
  · exact .pure (Stmt.titled_of_none rfl)

theorem yields_simpleStatement : Yields ts Stmt.Titled (simpleStatement r) := by
  unfold simpleStatement
  refine .after fun t => ?_
  split
  · exact .after fun _ => .after fun _ => .pure (Stmt.titled_of_none rfl)
  · exact .after fun _ => .after fun _ => .after fun _ => .pure (Stmt.titled_of_none rfl)
  · exact .after fun _ => .after fun _ => .after fun _ => .after fun _ => .after fun _ =>
      .after fun _ => .pure (Stmt.titled_of_none rfl)
  · refine .after fun _ => .after fun raised => ?_
    split
    · exact .pure (Stmt.titled_of_none rfl)
    refine .after fun caused => ?_
    split
    · exact .after fun _ => .pure (Stmt.titled_of_none rfl)
    · exact .pure (Stmt.titled_of_none rfl)
  · exact .after fun _ => .pure (Stmt.titled_of_none rfl)
  · exact .after fun _ => .pure (Stmt.titled_of_none rfl)
  · exact .after fun _ => .pure (Stmt.titled_of_none rfl)
  · exact .after fun _ => .after fun _ => .after fun _ => .after fun _ =>
      .pure (Stmt.titled_of_none rfl)
  · refine .after fun _ => .after fun test => .after fun explained => ?_
    split
    · exact .after fun _ => .pure (Stmt.titled_of_none rfl)
    · exact .pure (Stmt.titled_of_none rfl)
  · exact .after fun _ => .after fun _ => .pure (Stmt.titled_of_none rfl)
  · exact .after fun _ => .after fun _ => .pure (Stmt.titled_of_none rfl)
  · exact yields_expressionStatement

theorem yields_simpleLine :
    Yields ts (fun l => ∀ s ∈ l, s.Titled) (simpleLine r) := by
  unfold simpleLine
  refine yields_simpleStatement.bind fun first titled => ?_
  have further : Yields ts Stmt.Titled (do op ";"; simpleStatement r) :=
    .after fun _ => yields_simpleStatement
  refine further.many.bind fun rest others => ?_
  exact .after fun _ => .after fun _ => .pure (List.forall_mem_cons.mpr ⟨titled, others⟩)

theorem yields_ifStatement : Yields ts Stmt.Titled (ifStatement r) := by
  have tail : ∀ fuel, Yields ts Stmt.Titled (ifTail r fuel) := by
    intro fuel
    cases fuel with
    | zero => exact .fail
    | succ fuel =>
      unfold ifTail
      refine .after fun test => .after fun body => .after fun chained => ?_
      split
      · exact .after fun _ => .pure (Stmt.titled_of_none rfl)
      · exact .after fun _ => .pure (Stmt.titled_of_none rfl)
  intro i s j read
  obtain ⟨_, k, -, read⟩ := exists_of_bind read
  exact tail _ k s j read

theorem yields_withStatement : Yields ts Stmt.Titled (withStatement r) :=
  .after fun _ => .after fun _ => .after fun _ => .pure (Stmt.titled_of_none rfl)

theorem yields_forStatement : Yields ts Stmt.Titled (forStatement r) :=
  .after fun _ => .after fun _ => .after fun _ => .after fun _ => .after fun _ => .after fun _ =>
    .pure (Stmt.titled_of_none rfl)

theorem yields_tryStatement : Yields ts Stmt.Titled (tryStatement r) := by
  unfold tryStatement
  refine .after fun _ => .after fun body => .after fun last => ?_
  split
  · exact .pure (Stmt.titled_of_none rfl)
  · exact .after fun _ => .after fun _ => .after fun _ => .pure (Stmt.titled_of_none rfl)

theorem yields_functionStatement (worded : ∀ t ∈ ts, t.IsWorded) (decorators : List Expr) :
    Yields ts Stmt.Titled (functionStatement r decorators) := by
  refine .after fun start => .after fun isAsync => .after fun _ => ?_
  refine (yields_name worded).bind fun title whole => ?_
  refine .after fun _ => .after fun ps => .after fun _ => .after fun typed => ?_
  have made {returns : Option Expr} {body : List Stmt} :
      (Stmt.function start.line isAsync title ps returns decorators body).Titled :=
    fun title' same => Option.some.inj same ▸ whole
  dsimp only
  split
  · exact .after fun returns => .after fun body => .pure made
  · exact .after fun returns => .after fun body => .pure made

theorem yields_classStatement (worded : ∀ t ∈ ts, t.IsWorded) (decorators : List Expr) :
    Yields ts Stmt.Titled (classStatement r decorators) := by
  refine .after fun start => .after fun _ => ?_
  refine (yields_name worded).bind fun title whole => ?_
  have made {bases : List Expr} {keywords : List Keyword} {body : List Stmt} :
      (Stmt.classDef start.line title bases keywords decorators body).Titled :=
    fun title' same => Option.some.inj same ▸ whole
  refine .after fun opened => ?_
  dsimp only
  split
  · exact .after fun found => .after fun _ => .after fun _ => .after fun body => .pure made
  · exact .after fun _ => .after fun body => .pure made

theorem yields_decorated (worded : ∀ t ∈ ts, t.IsWorded) :
    Yields ts Stmt.Titled (decorated r) := by
  unfold decorated
  refine .after fun decorators => .after fun classed => ?_
  split
  · exact yields_classStatement worded decorators
  · exact yields_functionStatement worded decorators

theorem yields_asyncStatement (worded : ∀ t ∈ ts, t.IsWorded) :
    Yields ts Stmt.Titled (asyncStatement r) :=
  .orElse (yields_functionStatement worded [])
    (.after fun _ => .orElse yields_withStatement yields_forStatement)

theorem yields_statement (worded : ∀ t ∈ ts, t.IsWorded) :
    Yields ts (fun l => ∀ s ∈ l, s.Titled) (statement r) := by
  have one {p : Reader Stmt} (h : Yields ts Stmt.Titled p) :
      Yields ts (fun l => ∀ s ∈ l, s.Titled) (do return [← p]) :=
    h.bind fun s titled => .pure (List.forall_mem_singleton.mpr titled)
  unfold statement
  refine .after fun t => ?_
  split
  · exact one (yields_functionStatement worded [])
  · exact one (yields_classStatement worded [])
  · exact one (yields_decorated worded)
  · exact one (yields_asyncStatement worded)
  · exact one yields_ifStatement
  · exact one (.after fun _ => .after fun _ => .after fun _ => .after fun _ =>
      .pure (Stmt.titled_of_none rfl))
  · exact one yields_forStatement
  · exact one yields_withStatement
  · exact one yields_tryStatement
  · refine .orElse (one ?_) yields_simpleLine
    exact .after fun _ => .after fun _ => .after fun _ => .after fun _ => .after fun _ =>
      .after fun _ => .after fun _ => .pure (Stmt.titled_of_none rfl)
  · exact yields_simpleLine

end

/-- Whatever a module defines has a title without blanks, points and brackets. -/
theorem whole_of_module {source title : String} {body : List Stmt} {s : Stmt}
    (read : module? source = some body) (mem : s ∈ body) (titled : s.title? = some title) :
    Whole title := by
  obtain ⟨ts, cut, read⟩ := Option.bind_eq_some_iff.mp read
  obtain ⟨⟨body', j⟩, read, same⟩ := Option.bind_eq_some_iff.mp read
  cases same
  obtain ⟨groups, k, groupsRead, read⟩ := exists_of_bind read
  obtain ⟨_, _, _, read⟩ := exists_of_bind read
  cases read
  obtain ⟨group, there, inside⟩ := List.mem_flatten.mp mem
  have each := (yields_statement (worded_of_tokens cut)).many _ _ _ groupsRead
  exact each group there s inside title titled

end RepoSurvey.Python
