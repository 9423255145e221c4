import Mathlib.Data.List.Perm.Basic
import RepoSurvey.JavaScript.Parse
import RepoSurvey.Proofs.JavaScript.Copying
import RepoSurvey.Proofs.JavaScript.ImportNames
import RepoSurvey.Proofs.Outcomes
import RepoSurvey.Proofs.Table

/-!
# Printing imports and parsing them

Statements over different modules, printed one a line, are parsed, and the table of imports
has the modules with the names taken from them (`imports_of_printedLines`). The text has no
comments, so it is its own code (`copied_printedLines`); each of the three scans makes the
entries of its statements, and together they make one of every statement
(`ImportLine.entries_eq`). The order in the table is that of the scans.

The names are the exported ones in their order, unless a statement takes a name `type` and
gives it another (`ImportLine.recorded_eq_names_iff`).
-/

namespace RepoSurvey.JavaScript

open Text (Pattern isBlank isWordChar isWordOrDollar)

/-! ## Printed statements are their own code -/

section

variable {q : QuotedText} {text target : List Char}

/-- The words and signs of statements are copied. -/
theorem copied_word {word : String} (known : word ∈ ["import", "from", "const", "require(", "* as ",
    ", ", " ", "=", ")", ";", "\n"]) : Copied word.toList 0 0 := by
  have each : ∀ word ∈ ["import", "from", "const", "require(", "* as ", ", ", " ", "=", ")", ";",
      "\n"], ∀ c ∈ word.toList, isPlain c = true := by decide
  exact copied_plain (each word known) 0

theorem copied_space : Copied [' '] 0 0 :=
  copied_plain (by decide) 0

theorem copied_name (name : Identifier) : Copied name.1.toList 0 0 :=
  copied_plain (fun _ mem => isPlain_of_isWordOrDollar (name.isWordOrDollar mem)) 0

/-- A list of names in braces is copied. -/
theorem copied_braces {mark : String} (plain : ∀ c ∈ mark.toList, isPlain c = true)
    (taken : List Taken) :
    Copied ("\x7b ".toList ++ ((printedList mark taken).toList ++ " \x7d".toList)) 0 0 := by
  have names : Copied (printedList mark taken).toList 1 1 :=
    copied_plain (forall_mem_printedList taken (fun _ => isPlain_of_isWordOrDollar)
      (by decide) plain) 1
  have space : Copied [' '] 1 1 := copied_plain (by decide) 1
  have opening : "\x7b ".toList = ['\x7b'] ++ [' '] := by decide
  have closing : " \x7d".toList = [' '] ++ ['\x7d'] := by decide
  rw [opening, closing]
  exact ((copied_open 0).append space).append (names.append (space.append (copied_close 0)))

theorem copied_namedClause (default : Identifier) (taken : List Taken) :
    Copied (namedClause default taken) 0 0 := by
  have comma : ", \x7b ".toList = ", ".toList ++ "\x7b ".toList := by decide
  rw [namedClause, comma, List.append_assoc]
  exact (copied_name default).append ((copied_word (by simp)).append
    (copied_braces (by decide) taken))

theorem copied_clauseFront (copied : Copied text 0 0) : Copied (clauseFront text) 0 0 :=
  (copied_word (by simp)).append (copied_space.append (copied.append (copied_space.append
    ((copied_word (by simp)).append copied_space))))

theorem copied_requireFront (copied : Copied target 0 0) : Copied (requireFront target) 0 0 := by
  have equals : Copied ['='] 0 0 := copied_plain (by decide) 0
  exact (copied_word (by simp)).append (copied_space.append (copied.append (copied_space.append
    (equals.append (copied_space.append (copied_word (by simp)))))))

theorem ImportLine.copied_quoted (l : ImportLine) : Copied l.quoted.chars 0 0 := by
  refine copied_string (.inl rfl) (fun c mem => ?_) 0
  have part := l.module.2.2 c mem
  exact ⟨Text.ne_of_class part (by decide), Text.ne_of_class part (by decide),
    Text.ne_of_class part (by decide)⟩

/-- A statement is copied. -/
theorem ImportLine.copied (l : ImportLine) : Copied l.printed.toList 0 0 := by
  have module := l.copied_quoted
  have ending : Copied [';'] 0 0 := copied_plain (by decide) 0
  have closing : Copied [')'] 0 0 := copied_plain (by decide) 0
  rw [l.toList_printed]
  obtain ⟨binding, _⟩ := l
  cases binding with
  | named default taken =>
    exact ((copied_clauseFront (copied_namedClause default taken)).append module).append ending
  | whole name =>
    have clause : Copied (wholeClause name) 0 0 :=
      (copied_word (by simp)).append (copied_name name)
    exact ((copied_clauseFront clause).append module).append ending
  | effect =>
    exact ((copied_word (by simp)).append (copied_space.append module)).append ending
  | required name =>
    exact ((copied_requireFront (copied_name name)).append (module.append closing)).append ending
  | members taken =>
    have target : Copied (membersTarget taken) 0 0 := copied_braces (by decide) taken
    exact ((copied_requireFront target).append (module.append closing)).append ending

/-- Printed statements are their own code. -/
theorem copied_printedLines (lines : List ImportLine) :
    Copied (printedLines lines).toList 0 0 := by
  induction lines with
  | nil => exact copied_nil 0
  | cons l rest ih =>
    cases rest with
    | nil => exact l.copied
    | cons next more =>
      have newline : Copied "\n".toList 0 0 := copied_plain (by decide) 0
      rw [printedLines, List.map_cons, List.map_cons, Text.join, String.intercalate_cons_cons,
        String.toList_append, String.toList_append]
      exact (l.copied.append newline).append ih

end

/-! ## What is recorded of printed statements -/

namespace ImportLine

/-- The names that are recorded of a statement. -/
def recorded (l : ImportLine) : List String :=
  match l.binding with
  | .named default taken => default :: taken.map Taken.recorded
  | _ => l.names

/-- The statement takes a name `type` from its module and gives it another. -/
def RenamesType (l : ImportLine) : Prop :=
  ∃ default taken, l.binding = .named default taken ∧
    ∃ t ∈ taken, t.exported.1 = "type" ∧ t.given.isSome

/-- The entries that the scan for imports with a clause makes of a statement. -/
def clauseEntries (l : ImportLine) : List (String × List String) :=
  (l.form.clauses l.quoted).map fun caps => (Pattern.held caps 2,
    defaultNames (Pattern.held caps 1) ++ bracedNames (Pattern.held caps 1))

/-- The entries that the scan for imports without a clause makes of a statement. -/
def effectEntries (l : ImportLine) : List (String × List String) :=
  (l.form.effects l.quoted).map fun caps => (Pattern.held caps 1, [])

/-- The entries that the scan for `require` calls makes of a statement. -/
def requireEntries (l : ImportLine) : List (String × List String) :=
  (l.form.requires l.quoted).map fun caps =>
    (Pattern.held caps 2, requiredNames (Pattern.held caps 1))

/-- One scan makes the entry of a statement, and the others make none. -/
theorem entries_eq (l : ImportLine) :
    l.clauseEntries ++ l.effectEntries ++ l.requireEntries = [(l.module.1, l.recorded)] := by
  obtain ⟨binding, module, text⟩ := l
  cases binding <;>
    simp [clauseEntries, effectEntries, requireEntries, form, Form.clauses, Form.effects,
      Form.requires, Pattern.held, List.lookup_cons, quoted, recorded, names, defaultNames_named,
      bracedNames_named, defaultNames_whole, bracedNames_whole, requiredNames_name,
      requiredNames_members]

/-- The names are those of the module, except where a name `type` is given another. -/
theorem recorded_eq_names_iff (l : ImportLine) : l.recorded = l.names ↔ ¬ l.RenamesType := by
  rw [recorded, names, RenamesType]
  cases l.binding with
  | named default taken =>
    have own (t : Taken) : t.recorded = t.exported.1 ↔
        ¬ (t.exported.1 = "type" ∧ t.given.isSome = true) := by
      rw [Taken.recorded]
      cases t.given with
      | none => simp
      | some here =>
        by_cases marked : t.exported.1 = "type"
        · have other : "as " ++ here.1 ≠ "type" := by
            intro same
            have letters := congrArg String.toList same
            simp at letters
          simpa [marked] using other
        · simp [marked]
    have listed : taken.map Taken.recorded = taken.map (fun t => t.exported.1) ↔
        ∀ t ∈ taken, t.recorded = t.exported.1 := List.map_inj_left
    simp only [List.cons.injEq, true_and, listed, own, Binding.named.injEq]
    grind
  | whole _ | effect | required _ | members _ => simp

end ImportLine

/-- The imports of a text that is its own code and has three scans. -/
theorem imports_perm {code : Array Char} (lines : List ImportLine)
    (clauses : (importFrom.findAll code).map (fun m => m.group code) =
      (lines.flatMap fun l => l.form.clauses l.quoted).map Pattern.held)
    (effects : (importBare.findAll code).map (fun m => m.group code) =
      (lines.flatMap fun l => l.form.effects l.quoted).map Pattern.held)
    (requires : (requireCall.findAll code).map (fun m => m.group code) =
      (lines.flatMap fun l => l.form.requires l.quoted).map Pattern.held)
    (distinct : (lines.map fun l => l.module.1).Nodup) :
    (imports code).Perm (lines.map fun l => (l.module.1, l.recorded)) := by
  have scanned {α : Type} (p : Pattern) (finds : ImportLine → List Text.Pieces)
      (entry : (Nat → String) → α)
      (groups : (p.findAll code).map (fun m => m.group code) =
        (lines.flatMap finds).map Pattern.held) :
      (p.findAll code).map (fun m => entry (m.group code)) =
        lines.flatMap fun l => (finds l).map fun caps => entry (Pattern.held caps) := by
    have mapped := congrArg (List.map entry) groups
    rw [List.map_map, List.map_map, List.map_flatMap] at mapped
    exact mapped
  have found : imports code = Table.gather (lines.flatMap ImportLine.clauseEntries ++
      lines.flatMap ImportLine.effectEntries ++ lines.flatMap ImportLine.requireEntries) := by
    have clauses := scanned importFrom _
      (fun group => (group 2, defaultNames (group 1) ++ bracedNames (group 1))) clauses
    have effects := scanned importBare _ (fun group => (group 1, ([] : List String))) effects
    have requires := scanned requireCall _
      (fun group => (group 2, requiredNames (group 1))) requires
    rw [imports, clauses, effects, requires]
    rfl
  have perm : (lines.flatMap ImportLine.clauseEntries ++ lines.flatMap ImportLine.effectEntries ++
      lines.flatMap ImportLine.requireEntries).Perm
        (lines.map fun l => (l.module.1, l.recorded)) := by
    rw [List.map_eq_flatMap]
    simp only [← ImportLine.entries_eq]
    exact ((List.flatMap_append_perm _ _ _).append_right _).trans (List.flatMap_append_perm _ _ _)
  have keys := (perm.map (·.1)).nodup_iff
  rw [List.map_map] at keys
  rw [found, Table.gather_eq_self (keys.mpr distinct)]
  exact perm

/-- Statements over different modules, printed one a line and with or without a line feed at the
end, are parsed, and the imports that are recorded are those of the statements. -/
theorem imports_of_printedLines (lines : List ImportLine)
    (distinct : (lines.map fun l => l.module.1).Nodup) {ending : String}
    (ended : ending = "" ∨ ending = "\n") (path : String) :
    ∃ a, parse (printedLines lines ++ ending) path = .ok a ∧
      a.imports.Perm (lines.map fun l => (l.module.1, l.recorded)) ∧
      ∀ l ∈ lines, l.recorded = l.names ↔ ¬ l.RenamesType := by
  have chars : (printedLines lines ++ ending).toList =
      (printedLines lines).toList ++ ending.toList := String.toList_append
  have ended : ending.toList = [] ∨ ending.toList = ['\n'] := by
    rcases ended with rfl | rfl
    · exact .inl rfl
    · exact .inr (by decide)
  have copied : Copied ((printedLines lines).toList ++ ending.toList) 0 0 := by
    refine (copied_printedLines lines).append ?_
    rcases ended with none | newline
    · rw [none]
      exact copied_nil 0
    · rw [newline]
      exact copied_plain (by decide) 0
  obtain ⟨m, masked, code⟩ := exists_mask_of_copied copied
  rw [parse, chars, masked]
  refine ⟨analyse m path, rfl, ?_, fun l _ => l.recorded_eq_names_iff⟩
  have clauses := scans_importFrom lines ended
  have effects := scans_importBare lines ended
  have requires := scans_requireCall lines ended
  rw [← code] at clauses effects requires
  exact imports_perm lines (clauses.groups_eq rfl) (effects.groups_eq rfl) (requires.groups_eq rfl)
    distinct

/-- A statement of each kind, with names that are words of other statements. -/
def mixedImports : List ImportLine := [
  ⟨.named ⟨"from", by decide⟩
    [⟨⟨"type", by decide⟩, none⟩,
      ⟨⟨"as", by decide⟩, some ⟨"$import", by decide⟩⟩],
    ⟨"@scope/pkg", by decide⟩⟩,
  ⟨.whole ⟨"require", by decide⟩, ⟨"./a-b.js", by decide⟩⟩,
  ⟨.effect, ⟨"node:fs", by decide⟩⟩,
  ⟨.required ⟨"$const", by decide⟩, ⟨"c", by decide⟩⟩,
  ⟨.members [⟨⟨"type", by decide⟩, some ⟨"t", by decide⟩⟩],
    ⟨"d", by decide⟩⟩]

theorem imports_of_printedLines_of_mixed :
    ∃ a, parse (printedLines mixedImports ++ "\n") "a.js" = .ok a ∧
      a.imports.Perm [("@scope/pkg", ["from", "type", "as"]), ("./a-b.js", ["* as require"]),
        ("node:fs", []), ("c", ["$const"]), ("d", ["type"])] := by
  have distinct : (mixedImports.map fun l => l.module.1).Nodup := by decide
  have entries : mixedImports.map (fun l => (l.module.1, l.recorded)) =
      [("@scope/pkg", ["from", "type", "as"]), ("./a-b.js", ["* as require"]),
        ("node:fs", []), ("c", ["$const"]), ("d", ["type"])] := by decide
  obtain ⟨a, parsed, perm, -⟩ := imports_of_printedLines mixedImports distinct (.inr rfl) "a.js"
  rw [entries] at perm
  exact ⟨a, parsed, perm⟩

/-- A statement that gives the name `type` another name. -/
def renamedType : ImportLine :=
  ⟨.named ⟨"D", by decide⟩ [⟨⟨"type", by decide⟩, some ⟨"t", by decide⟩⟩],
    ⟨"m", by decide⟩⟩

/-- The name `type` is lost when it is given another: the rest of the item stands in its place. -/
theorem renamed_type_lost :
    printedLines [renamedType] = "import D, \x7b type as t \x7d from \x27m\x27;" ∧
      ∃ a, parse (printedLines [renamedType]) "a.js" = .ok a ∧ a.imports = [("m", ["D", "as t"])] ∧
        ¬ a.imports.Perm ([renamedType].map fun l => (l.module.1, l.names)) := by
  have printed : printedLines [renamedType] =
      "import D, \x7b type as t \x7d from \x27m\x27;" := by decide
  have read : (parse "import D, \x7b type as t \x7d from \x27m\x27;" "a.js").toOption.map
      (fun a => a.imports) = some [("m", ["D", "as t"])] := by decide +kernel
  have other : ¬ [("m", ["D", "as t"])].Perm
      ([renamedType].map fun l => (l.module.1, l.names)) := by decide
  obtain ⟨a, parsed, recorded⟩ := Option.map_eq_some_iff.mp read
  rw [printed]
  exact ⟨rfl, a, Outcome.eq_ok_of_toOption parsed, recorded, recorded ▸ other⟩

end RepoSurvey.JavaScript
