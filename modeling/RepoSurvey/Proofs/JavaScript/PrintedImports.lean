import RepoSurvey.Proofs.JavaScript.ImportReadings

/-!
# Imports as they are printed

An import statement binds a default and some names, a whole module, nothing, a required
module, or some of its members, and is printed in one way (`ImportLine.printed`). The names are
any identifiers, words of statements such as `from` and `as` among them.

For the three scans a statement has one of three forms (`Form`): a clause, none, or a target.
Each scan takes the statements of its form and passes over the others, so a text of statements
is scanned statement after statement (`scans_importFrom`, `scans_importBare`,
`scans_requireCall`).
-/

namespace RepoSurvey.JavaScript

open Text (Pattern isBlank isWordChar isWordOrDollar)

/-! ## Statements -/

/-- A name of a source. -/
abbrev Identifier := { s : String // IsIdentifier s }

instance (s : String) : Decidable (IsIdentifier s) := by
  refine decidable_of_iff (s.toList.head?.any isNameStart = true ∧
    ∀ c ∈ s.toList.tail, isWordOrDollar c = true) ?_
  cases letters : s.toList with
  | nil => simp [IsIdentifier, letters]
  | cons first rest => simp [IsIdentifier, letters]

/-- A character of the name of a module. -/
def isModulePart (c : Char) : Bool :=
  isWordChar c || ['@', '.', '/', '-', ':'].contains c

/-- The name of a module, as it stands between quotes. -/
abbrev ModuleName := { s : String // s.toList ≠ [] ∧ ∀ c ∈ s.toList, isModulePart c = true }

/-- A name that is taken from a module, and the name that it is given, if it is given one. -/
structure Taken where
  /-- The name in the module. -/
  exported : Identifier
  /-- The name here, when it is another. -/
  given : Option Identifier

/-- The name, and behind a mark the one that it is given. -/
def Taken.printed (mark : String) (t : Taken) : String :=
  match t.given with
  | none => t.exported
  | some here => t.exported ++ mark ++ here

/-- The names of a list. -/
def printedList (mark : String) (taken : List Taken) : String :=
  Text.join ", " (taken.map (Taken.printed mark))

/-- What an import binds. -/
inductive Binding where
  /-- The default of the module, and some names. -/
  | named (default : Identifier) (taken : List Taken)
  /-- The whole module under a name. -/
  | whole (name : Identifier)
  /-- Nothing: the module is imported for its effect. -/
  | effect
  /-- What the module is, under a name. -/
  | required (name : Identifier)
  /-- Some members of what the module is. -/
  | members (taken : List Taken)

/-- An import statement. -/
structure ImportLine where
  /-- What it binds. -/
  binding : Binding
  /-- The module. -/
  module : ModuleName

namespace ImportLine

/-- The module between quotes. -/
def quoted (l : ImportLine) : QuotedText where
  opens := '\x27'
  text := l.module.1.toList
  closes := '\x27'
  isQuote_opens := rfl
  isQuote_closes := rfl
  some_text := l.module.2.1
  unquoted := by
    intro c mem
    refine Text.apart_symm (fun quote => ?_) (l.module.2.2 c mem)
    rcases Bool.or_eq_true_iff.mp quote with same | same
    all_goals
      rw [beq_iff_eq.mp same]
      decide

/-- The statement as it is printed. -/
def printed (l : ImportLine) : String :=
  let module := "\x27" ++ l.module ++ "\x27"
  match l.binding with
  | .named default taken =>
    "import " ++ default ++ ", \x7b " ++ printedList " as " taken ++ " \x7d from " ++ module ++ ";"
  | .whole name => "import * as " ++ name ++ " from " ++ module ++ ";"
  | .effect => "import " ++ module ++ ";"
  | .required name => "const " ++ name ++ " = require(" ++ module ++ ");"
  | .members taken =>
    "const \x7b " ++ printedList ": " taken ++ " \x7d = require(" ++ module ++ ");"

/-- The names that the statement takes from its module, as the module has them. -/
def names (l : ImportLine) : List String :=
  match l.binding with
  | .named default taken => default :: taken.map fun t => t.exported
  | .whole name => ["* as " ++ name]
  | .effect => []
  | .required name => [name.1]
  | .members taken => taken.map fun t => t.exported

end ImportLine

/-- Statements, one a line. -/
def printedLines (lines : List ImportLine) : String :=
  Text.join "\n" (lines.map ImportLine.printed)

/-! ## Forms -/

/-- The three forms that import statements have. -/
inductive Form where
  /-- An import with a clause. -/
  | clause (clause : List Char)
  /-- An import without a clause. -/
  | effect
  /-- A declaration of a target by a call of `require`. -/
  | require (target : List Char)

/-- The clause of an import of names. -/
def namedClause (default : Identifier) (taken : List Taken) : List Char :=
  default.1.toList ++ (", \x7b ".toList ++ ((printedList " as " taken).toList ++ " \x7d".toList))

/-- The clause of an import of a whole module. -/
def wholeClause (name : Identifier) : List Char :=
  "* as ".toList ++ name.1.toList

/-- The target of a declaration of members. -/
def membersTarget (taken : List Taken) : List Char :=
  "\x7b ".toList ++ ((printedList ": " taken).toList ++ " \x7d".toList)

/-- What stands in front of the module in a declaration of a target. -/
def requireFront (target : List Char) : List Char :=
  "const".toList ++ ([' '] ++ (target ++ ([' '] ++ '=' :: ([' '] ++ "require(".toList))))

namespace Form

/-- The text of a statement of the form. -/
def chars (q : QuotedText) : Form → List Char
  | .clause text => clauseFront text ++ q.chars ++ [';']
  | .effect => "import".toList ++ ([' '] ++ q.chars) ++ [';']
  | .require target => requireFront target ++ (q.chars ++ [')']) ++ [';']

end Form

/-- The form of a statement. -/
def ImportLine.form (l : ImportLine) : Form :=
  match l.binding with
  | .named default taken => .clause (namedClause default taken)
  | .whole name => .clause (wholeClause name)
  | .effect => .effect
  | .required name => .require name.1.toList
  | .members taken => .require (membersTarget taken)

theorem ImportLine.toList_printed (l : ImportLine) : l.printed.toList = l.form.chars l.quoted := by
  obtain ⟨binding, module⟩ := l
  cases binding <;>
    simp [printed, form, Form.chars, clauseFront, namedClause, wholeClause, membersTarget,
      requireFront, QuotedText.chars, quoted]

/-! ## Pieces without an import -/

section

variable {p : Pattern} {q : QuotedText} {text target : List Char}

/-- A reading of the pattern starts as an import does. -/
def IsImport (p : Pattern) : Prop :=
  ∀ ⦃before read rest caps⦄, p.Reads before read rest [] caps → StartsImport read

theorem isImport_importFrom : IsImport importFrom :=
  fun _ _ _ _ => startsImport_of_reads_importFrom

theorem isImport_importBare : IsImport importBare :=
  fun _ _ _ _ => startsImport_of_reads_importBare

theorem IsImport.leads_first (imports : IsImport p) : p.Leads (fun _ => true) (· == 'i') :=
  fun _ _ _ _ reads => (imports reads).first

theorem IsImport.leads_blank (imports : IsImport p) :
    p.Leads (fun c => isBlank c || isQuote c) isBlank :=
  fun _ _ _ _ reads => (imports reads).first_blank

theorem IsImport.leads_mark (imports : IsImport p) : p.Leads (fun c => !isClausePart c) isQuote :=
  fun _ _ _ _ reads => (imports reads).first_mark

/-- No blank stands in the name of the module. -/
def Unblank (q : QuotedText) : Prop :=
  ∀ c ∈ q.text, isBlank c = false

/-- Where a blank has to come first, nothing starts in a text in quotes without blanks. -/
theorem skips_quoted (leads : p.Leads (fun c => isBlank c || isQuote c) isBlank)
    (unblank : Unblank q) : p.Skips (q.text ++ [q.closes]) := by
  refine leads.skips (by rw [q.isQuote_closes, Bool.or_true]) fun c mem _ => ?_
  rcases List.mem_append.mp mem with inside | last
  · exact unblank c inside
  · rw [List.mem_singleton.mp last]
    exact isBlank_of_isQuote q.isQuote_closes

theorem IsImport.skips_quoted (imports : IsImport p) (unblank : Unblank q) : p.Skips q.chars := by
  have quote : p.Skips [q.opens] := by
    refine imports.leads_first.skips_of_first (List.forall_mem_singleton.mpr ?_)
    refine beq_eq_false_iff_ne.mpr fun same => ?_
    have quote := q.isQuote_opens
    rw [same] at quote
    revert quote
    decide
  exact quote.append (JavaScript.skips_quoted imports.leads_blank unblank)

/-- No import starts in a declaration: what stands in front of the module has no quotes and
ends with a parenthesis. -/
theorem IsImport.skips_require (imports : IsImport p) (unblank : Unblank q)
    (unquoted : ∀ c ∈ target, isQuote c = false) : p.Skips ((Form.require target).chars q) := by
  have words : ∀ c ∈ "const".toList ++ [' '] ++ [' ', '=', ' '] ++ "require(".toList,
      isQuote c = false := by decide
  have front : p.Skips (requireFront target) := by
    have last : "require(".toList = "require".toList ++ ['('] := by decide
    have whole : requireFront target = ("const".toList ++ ([' '] ++ (target ++
        ([' ', '=', ' '] ++ "require".toList)))) ++ ['('] := by
      rw [requireFront, last]
      simp only [List.append_assoc, List.cons_append, List.nil_append]
    rw [last] at words
    rw [whole]
    refine imports.leads_mark.skips (by decide) fun c mem _ => ?_
    simp only [List.mem_append] at mem words
    grind
  have closing : p.Skips [')'] := imports.leads_first.skips_of_first (by decide)
  have ending : p.Skips [';'] := imports.leads_first.skips_of_first (by decide)
  exact (front.append ((imports.skips_quoted unblank).append closing)).append ending

/-- An import without a clause has none: the word `from` is not in it. -/
theorem importFrom_skips_effect (hq : q.opens = '\x27') (unblank : Unblank q) :
    importFrom.Skips (Form.effect.chars q) := by
  have whole : Form.effect.chars q =
      "import ".toList ++ ['\x27'] ++ (q.text ++ [q.closes]) ++ [';'] := by
    rw [Form.chars, QuotedText.chars, hq]
    simp
  have front : importFrom.Skips ("import ".toList ++ ['\x27']) :=
    importFrom_leads_f.skips (by decide) (by decide)
  have ending : importFrom.Skips [';'] :=
    isImport_importFrom.leads_first.skips_of_first (by decide)
  rw [whole]
  exact (front.append (skips_quoted isImport_importFrom.leads_blank unblank)).append ending

/-- An import with a clause has no module behind its word: the word `from` is between them. -/
theorem importBare_skips_clause (parts : ∀ c ∈ text, isClausePart c = true) (unblank : Unblank q) :
    importBare.Skips ((Form.clause text).chars q) := by
  have whole : (Form.clause text).chars q =
      ("import ".toList ++ (text ++ [' '])) ++ ['f'] ++ "rom ".toList ++ q.chars ++ [';'] := by
    rw [Form.chars, clauseFront]
    simp
  have front : importBare.Skips (("import ".toList ++ (text ++ [' '])) ++ ['f']) := by
    refine importBare_leads_quote.skips (by decide) fun c mem _ => ?_
    have words : ∀ c ∈ "import ".toList ++ [' ', 'f'], isQuote c = false := by decide
    simp only [List.mem_append] at mem words
    grind [isQuote_of_isClausePart]
  have word : importBare.Skips "rom ".toList :=
    isImport_importBare.leads_first.skips_of_first (by decide)
  have ending : importBare.Skips [';'] :=
    isImport_importBare.leads_first.skips_of_first (by decide)
  rw [whole]
  exact ((front.append word).append (isImport_importBare.skips_quoted unblank)).append ending

/-- No declaration starts in an import: neither an equals sign nor a brace comes first of what
is neither a name nor a blank. -/
theorem requireCall_skips {front : List Char} (hq : q.opens = '\x27') (unblank : Unblank q)
    (signless : requireCall.Skips (front ++ ['\x27'])) :
    requireCall.Skips (front ++ q.chars ++ [';']) := by
  have whole : front ++ q.chars ++ [';'] =
      front ++ ['\x27'] ++ (q.text ++ [q.closes]) ++ [';'] := by
    rw [QuotedText.chars, hq]
    simp
  have ending : requireCall.Skips [';'] := requireCall_leads_first.skips_of_first (by decide)
  rw [whole]
  exact (signless.append (skips_quoted requireCall_leads_blank unblank)).append ending

theorem requireCall_skips_sign {front : List Char} {last : Char} (stop : isSpaced last = false)
    (other : ∀ c ∈ front ++ [last], isSpaced c = false → (c == '=' || c == '\x7b') = false) :
    requireCall.Skips (front ++ [last]) := by
  refine requireCall_leads_sign.skips (by rw [stop]; rfl) fun c mem marked => ?_
  rw [Bool.not_eq_true'] at marked
  exact other c mem marked

end

/-! ## Proper statements -/

namespace Form

/-- The form is one that a scan takes, or passes over, as it should. -/
def Proper : Form → Prop
  | .clause text => IsClause text ∧ requireCall.Skips (clauseFront text ++ ['\x27'])
  | .effect => True
  | .require target => IsTarget target ∧ ∀ c ∈ target, isQuote c = false

/-- What is found of a form by the pattern for imports with a clause. -/
def clauses (q : QuotedText) : Form → List Text.Pieces
  | .clause text => [[(2, q.text), (1, text)]]
  | _ => []

/-- What is found of a form by the pattern for imports without a clause. -/
def effects (q : QuotedText) : Form → List Text.Pieces
  | .effect => [[(1, q.text)]]
  | _ => []

/-- What is found of a form by the pattern for declarations. -/
def requires (q : QuotedText) : Form → List Text.Pieces
  | .require target => [[(2, q.text), (1, target)]]
  | _ => []

section

variable {f : Form} {q : QuotedText} {before after : List Char} {found : List Text.Pieces}

theorem scans_importFrom (proper : f.Proper) (hq : q.opens = '\x27') (unblank : Unblank q)
    (edge : before.getLast?.any isWordChar = false)
    (later : importFrom.Scans (before ++ f.chars q) after found) :
    importFrom.Scans before (f.chars q ++ after) (f.clauses q ++ found) := by
  cases f with
  | clause text =>
    have ending : importFrom.Skips [';'] :=
      isImport_importFrom.leads_first.skips_of_first (by decide)
    exact .take_pass (by simp [clauseFront]) (importFrom_takes proper.1 q edge) ending later
  | effect => exact .pass (importFrom_skips_effect hq unblank) later
  | require target => exact .pass (isImport_importFrom.skips_require unblank proper.2) later

theorem scans_importBare (proper : f.Proper) (unblank : Unblank q)
    (edge : before.getLast?.any isWordChar = false)
    (later : importBare.Scans (before ++ f.chars q) after found) :
    importBare.Scans before (f.chars q ++ after) (f.effects q ++ found) := by
  cases f with
  | clause text => exact .pass (importBare_skips_clause proper.1.parts unblank) later
  | effect =>
    have ending : importBare.Skips [';'] :=
      isImport_importBare.leads_first.skips_of_first (by decide)
    exact .take_pass (by simp) (importBare_takes q edge) ending later
  | require target => exact .pass (isImport_importBare.skips_require unblank proper.2) later

theorem scans_requireCall (proper : f.Proper) (hq : q.opens = '\x27') (unblank : Unblank q)
    (edge : before.getLast?.any isWordChar = false)
    (later : requireCall.Scans (before ++ f.chars q) after found) :
    requireCall.Scans before (f.chars q ++ after) (f.requires q ++ found) := by
  cases f with
  | clause text => exact .pass (requireCall_skips hq unblank proper.2) later
  | effect =>
    have signless : requireCall.Skips ("import".toList ++ [' '] ++ ['\x27']) :=
      requireCall_skips_sign (by decide) (by decide)
    have skips := requireCall_skips hq unblank signless
    rw [List.append_assoc "import".toList] at skips
    exact .pass skips later
  | require target =>
    have ending : requireCall.Skips [';'] := requireCall_leads_first.skips_of_first (by decide)
    have call : IsCall q ("require(".toList ++ ([] ++ (q.chars ++ ([] ++ [')'])))) :=
      ⟨[], [], rfl, List.forall_mem_nil _, List.forall_mem_nil _⟩
    have declares : IsRequire "const" target q (requireFront target ++ (q.chars ++ [')'])) := by
      refine ⟨[' '], [' '], [' '], _, ?_, isGap_space, isGap_space.2, isGap_space.2, call⟩
      simp only [requireFront, List.append_assoc, List.cons_append, List.nil_append]
    exact .take_pass (by simp [requireFront])
      (requireCall_takes declares (by decide) proper.1 edge) ending later

end

end Form

/-! ## Printed statements are proper -/

section

variable {c : Char}

theorem isClausePart_of_isWordOrDollar (part : isWordOrDollar c = true) :
    isClausePart c = true := by
  rcases Bool.or_eq_true_iff.mp part with word | dollar
  · rw [isClausePart, word, Bool.true_or, Bool.true_or]
  · rw [beq_iff_eq.mp dollar]
    decide

namespace Identifier

variable (name : Identifier)

theorem isWordOrDollar (mem : c ∈ name.1.toList) : isWordOrDollar c = true :=
  name.2.all_isWordOrDollar c mem

theorem isSpaced (mem : c ∈ name.1.toList) : isSpaced c = true :=
  isSpaced_of_isWordOrDollar (name.isWordOrDollar mem)

theorem exists_cons : ∃ c more, name.1.toList = c :: more ∧ isNameStart c = true := by
  obtain ⟨first, rest, letters, starts, -⟩ := name.2
  exact ⟨first, rest, letters, starts⟩

/-- A name ends with a character of names. -/
theorem exists_concat : ∃ init c, name.1.toList = init ++ [c] ∧ Text.isWordOrDollar c = true := by
  obtain none | ⟨init, last, letters⟩ := List.eq_nil_or_concat name.1.toList
  · obtain ⟨first, more, letters, -⟩ := name.exists_cons
    rw [letters] at none
    cases none
  · rw [List.concat_eq_append] at letters
    refine ⟨init, last, letters, name.isWordOrDollar ?_⟩
    rw [letters]
    exact List.mem_append_right init List.mem_cons_self

end Identifier

/-- What names in lists are made of. -/
theorem Taken.forall_mem_printed {motive : Char → Prop} {mark : String} (t : Taken)
    (names : ∀ c, isWordOrDollar c = true → motive c) (marked : ∀ c ∈ mark.toList, motive c) :
    ∀ c ∈ (t.printed mark).toList, motive c := by
  have named (name : Identifier) : ∀ c ∈ name.1.toList, motive c :=
    fun c mem => names c (name.isWordOrDollar mem)
  rw [Taken.printed]
  split
  · exact named t.exported
  · simp only [String.toList_append, List.forall_mem_append]
    exact ⟨⟨named t.exported, marked⟩, named _⟩

/-- What lists of names are made of. -/
theorem forall_mem_printedList {motive : Char → Prop} {mark : String} (taken : List Taken)
    (names : ∀ c, isWordOrDollar c = true → motive c) (between : ∀ c ∈ ", ".toList, motive c)
    (marked : ∀ c ∈ mark.toList, motive c) : ∀ c ∈ (printedList mark taken).toList, motive c :=
  Text.forall_mem_join between
    (List.forall_mem_map.mpr fun t _ => t.forall_mem_printed names marked)

theorem isClause_named (default : Identifier) (taken : List Taken) :
    IsClause (namedClause default taken) where
  parts := by
    have names : ∀ c, isWordOrDollar c = true → isClausePart c = true :=
      fun _ => isClausePart_of_isWordOrDollar
    have signs : ∀ sign ∈ [", \x7b ", ", ", " as ", " \x7d"], ∀ c ∈ sign.toList,
        isClausePart c = true := by decide
    simp only [namedClause, List.forall_mem_append]
    exact ⟨fun c mem => names c (default.isWordOrDollar mem), signs _ (by simp),
      forall_mem_printedList taken names (signs _ (by simp)) (signs _ (by simp)),
      signs _ (by simp)⟩
  starts := by
    obtain ⟨c, more, letters, starts⟩ := default.exists_cons
    refine ⟨c, _, by rw [namedClause, letters]; rfl, ?_⟩
    exact default.2.isBlank_of_mem (by rw [letters]; exact List.mem_cons_self)
  ends := by
    refine ⟨default.1.toList ++ (", \x7b ".toList ++ ((printedList " as " taken).toList ++ [' '])),
      '\x7d', ?_, by decide⟩
    simp [namedClause]
  unmarked := by
    intro rest space more wide same
    obtain ⟨b, gap, rfl, blank⟩ := wide.exists_cons
    have word : ∀ c ∈ "type".toList, isWordOrDollar c = true := by decide
    have sign : ", \x7b ".toList = ',' :: " \x7b ".toList := by decide
    have comma (cs : List Char) : (',' :: cs).head?.any isWordOrDollar = false :=
      (by decide : isWordOrDollar ',' = false)
    have gapped (cs : List Char) : (b :: cs).head?.any isWordOrDollar = false :=
      isWordOrDollar_of_isBlank blank
    simp only [namedClause, sign, List.append_assoc, List.cons_append] at same
    have equal :=
      Text.run_inj (fun c mem => default.isWordOrDollar mem) word (comma _) (gapped _) same
    rw [equal] at same
    obtain ⟨rfl, -⟩ := List.cons.inj (List.append_cancel_left same)
    revert blank
    decide

theorem isClause_whole (name : Identifier) : IsClause (wholeClause name) where
  parts := by
    have signs : ∀ c ∈ "* as ".toList, isClausePart c = true := by decide
    exact List.forall_mem_append.mpr
      ⟨signs, fun c mem => isClausePart_of_isWordOrDollar (name.isWordOrDollar mem)⟩
  starts := ⟨'*', " as ".toList ++ name.1.toList, by simp [wholeClause], by decide⟩
  ends := by
    obtain ⟨init, c, letters, part⟩ := name.exists_concat
    refine ⟨"* as ".toList ++ init, c, by rw [wholeClause, letters, List.append_assoc], ?_⟩
    exact isBlank_of_isWordOrDollar part
  unmarked := by
    intro rest space more wide same
    have star : "* as ".toList = '*' :: " as ".toList := by decide
    have word : "type".toList = 't' :: "ype".toList := by decide
    rw [wholeClause, star, word] at same
    cases (List.cons.inj same).1

/-- The sign that comes first behind a name is a comma, a brace that closes, or a quote; the brace
that opens stands behind a comma. -/
theorem requireCall_skips_named (default : Identifier) (taken : List Taken) :
    requireCall.Skips (clauseFront (namedClause default taken) ++ ['\x27']) := by
  have names : ∀ c, isWordOrDollar c = true → isSpaced c = false →
      (c == '=' || c == '\x7b') = false := by
    intro c part free
    rw [isSpaced_of_isWordOrDollar part] at free
    cases free
  have signs : ∀ sign ∈ ["import ", ",", " ", ", ", " as ", " \x7d from ", "\x27"],
      ∀ c ∈ sign.toList, isSpaced c = false → (c == '=' || c == '\x7b') = false := by
    decide
  have before : requireCall.Skips ("import ".toList ++ default.1.toList ++ [',']) := by
    refine requireCall_skips_sign (by decide) ?_
    simp only [List.forall_mem_append]
    exact ⟨⟨signs "import " (by simp), fun c mem => names c (default.isWordOrDollar mem)⟩,
      signs "," (by simp)⟩
  have opening : requireCall.Skips [' ', '\x7b'] :=
    requireCall_leads_first.skips_of_first (by decide)
  have behind : requireCall.Skips
      (" ".toList ++ (printedList " as " taken).toList ++ " \x7d from ".toList ++ ['\x27']) := by
    refine requireCall_skips_sign (by decide) ?_
    simp only [List.forall_mem_append]
    exact ⟨⟨⟨signs " " (by simp), forall_mem_printedList taken names (signs _ (by simp))
      (signs _ (by simp))⟩, signs " \x7d from " (by simp)⟩, signs "\x27" (by simp)⟩
  have whole : clauseFront (namedClause default taken) ++ ['\x27'] =
      "import ".toList ++ default.1.toList ++ [','] ++ [' ', '\x7b'] ++
        (" ".toList ++ (printedList " as " taken).toList ++ " \x7d from ".toList ++ ['\x27']) := by
    simp [clauseFront, namedClause]
  rw [whole]
  exact (before.append opening).append behind

theorem requireCall_skips_whole (name : Identifier) :
    requireCall.Skips (clauseFront (wholeClause name) ++ ['\x27']) := by
  have signs : ∀ sign ∈ ["import * as ", " from ", "\x27"], ∀ c ∈ sign.toList,
      isSpaced c = false → (c == '=' || c == '\x7b') = false := by decide
  have whole : clauseFront (wholeClause name) ++ ['\x27'] =
      "import * as ".toList ++ name.1.toList ++ " from ".toList ++ ['\x27'] := by
    simp [clauseFront, wholeClause]
  rw [whole]
  refine requireCall_skips_sign (by decide) ?_
  simp only [List.forall_mem_append]
  refine ⟨⟨⟨signs "import * as " (by simp), fun c mem free => ?_⟩, signs " from " (by simp)⟩,
    signs "\x27" (by simp)⟩
  rw [name.isSpaced mem] at free
  cases free

theorem Identifier.isTarget (name : Identifier) : IsTarget name.1.toList := by
  obtain ⟨first, rest, letters, starts, parts⟩ := name.2
  exact .inr ⟨first, rest, letters, starts, parts⟩

theorem isQuote_of_isWordOrDollar (part : isWordOrDollar c = true) : isQuote c = false :=
  isQuote_of_isClausePart (isClausePart_of_isWordOrDollar part)

theorem isTarget_members (taken : List Taken) : IsTarget (membersTarget taken) := by
  have free : ∀ c ∈ (printedList ": " taken).toList, c ≠ '\x7d' :=
    forall_mem_printedList taken (fun _ part => Text.ne_of_class part (by decide))
      (by decide) (by decide)
  refine .inl ⟨' ' :: (printedList ": " taken).toList ++ [' '], by simp [membersTarget], ?_⟩
  intro mem
  simp only [List.mem_append, List.mem_cons, List.not_mem_nil, or_false] at mem
  rcases mem with (space | inside) | space
  · cases space
  · exact free _ inside rfl
  · cases space

theorem unquoted_members (taken : List Taken) : ∀ c ∈ membersTarget taken, isQuote c = false := by
  have signs : ∀ sign ∈ ["\x7b ", ", ", ": ", " \x7d"], ∀ c ∈ sign.toList, isQuote c = false := by
    decide
  simp only [membersTarget, List.forall_mem_append]
  exact ⟨signs _ (by simp), forall_mem_printedList taken (fun _ => isQuote_of_isWordOrDollar)
    (signs _ (by simp)) (signs _ (by simp)), signs _ (by simp)⟩

namespace ImportLine

theorem proper (l : ImportLine) : l.form.Proper := by
  obtain ⟨binding, module⟩ := l
  cases binding with
  | named default taken =>
    exact ⟨isClause_named default taken, requireCall_skips_named default taken⟩
  | whole name => exact ⟨isClause_whole name, requireCall_skips_whole name⟩
  | effect => trivial
  | required name =>
    exact ⟨name.isTarget, fun c mem => isQuote_of_isWordOrDollar (name.isWordOrDollar mem)⟩
  | members taken => exact ⟨isTarget_members taken, unquoted_members taken⟩

theorem unblank (l : ImportLine) : Unblank l.quoted := by
  intro c mem
  refine Text.apart_symm (fun blank => ?_) (l.module.2.2 c mem)
  rw [isModulePart, Text.not_isWordChar_of_isBlank blank, Bool.false_or]
  exact Text.not_contains_of_class (by decide) blank

end ImportLine

end

/-! ## Scans of all statements -/

section

variable {p : Pattern} {finds : ImportLine → List Text.Pieces}

/-- A pattern scans statement after statement when it scans each of them. -/
theorem scans_printedLines (kind : Char → Bool) (leads : p.Leads (fun _ => true) kind)
    (noLine : kind '\n' = false)
    (each : ∀ (l : ImportLine) {before after found}, before.getLast?.any isWordChar = false →
      p.Scans (before ++ l.printed.toList) after found →
      p.Scans before (l.printed.toList ++ after) (finds l ++ found))
    (lines : List ImportLine) {ending : List Char} (ended : ending = [] ∨ ending = ['\n'])
    {before : List Char} (edge : before.getLast?.any isWordChar = false) :
    p.Scans before ((printedLines lines).toList ++ ending) (lines.flatMap finds) := by
  have newline : p.Skips ['\n'] :=
    leads.skips_of_first (List.forall_mem_singleton.mpr noLine)
  have nothing (before : List Char) : p.Scans before [] [] := by
    refine .done fun caps reads => ?_
    have first := leads reads
    cases first
  have last (before : List Char) : p.Scans before ending [] := by
    rcases ended with rfl | rfl
    · exact nothing before
    · exact .pass newline (nothing _)
  induction lines generalizing before with
  | nil => exact last before
  | cons l rest ih =>
    cases rest with
    | nil =>
      rw [List.flatMap_cons, List.flatMap_nil]
      exact each l edge (last _)
    | cons next more =>
      have whole : (printedLines (l :: next :: more)).toList =
          l.printed.toList ++ (['\n'] ++ (printedLines (next :: more)).toList) := by
        rw [printedLines, List.map_cons, List.map_cons, Text.join, String.intercalate_cons_cons,
          String.toList_append, String.toList_append, List.append_assoc]
        rfl
      rw [whole, List.flatMap_cons, List.append_assoc, List.append_assoc]
      refine each l edge (.pass newline (ih ?_))
      rw [List.getLast?_concat]
      exact (by decide : isWordChar '\n' = false)

variable (lines : List ImportLine) {ending : List Char} (ended : ending = [] ∨ ending = ['\n'])

include ended

theorem scans_importFrom : importFrom.Scans [] ((printedLines lines).toList ++ ending)
    (lines.flatMap fun l => l.form.clauses l.quoted) := by
  refine scans_printedLines _ isImport_importFrom.leads_first (by decide) ?_ lines ended rfl
  intro l before after found edge later
  rw [l.toList_printed] at later ⊢
  exact Form.scans_importFrom l.proper rfl l.unblank edge later

theorem scans_importBare : importBare.Scans [] ((printedLines lines).toList ++ ending)
    (lines.flatMap fun l => l.form.effects l.quoted) := by
  refine scans_printedLines _ isImport_importBare.leads_first (by decide) ?_ lines ended rfl
  intro l before after found edge later
  rw [l.toList_printed] at later ⊢
  exact Form.scans_importBare l.proper l.unblank edge later

theorem scans_requireCall : requireCall.Scans [] ((printedLines lines).toList ++ ending)
    (lines.flatMap fun l => l.form.requires l.quoted) := by
  refine scans_printedLines _ requireCall_leads_first (by decide) ?_ lines ended rfl
  intro l before after found edge later
  rw [l.toList_printed] at later ⊢
  exact Form.scans_requireCall l.proper rfl l.unblank edge later

end

end RepoSurvey.JavaScript
