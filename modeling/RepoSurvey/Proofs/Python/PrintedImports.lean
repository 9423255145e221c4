import RepoSurvey.Proofs.Overview.Relative
import RepoSurvey.Proofs.Text.Cutting
import RepoSurvey.Python.Parse

/-!
# Import statements as they are printed

An import statement names modules, or names in a module, each perhaps under a local name. It is
printed on a line of its own; the names of a module may stand in brackets. The names are any
ASCII identifiers that are no keywords.

Besides its text a statement has the tokens it is made of (`kinds`), the statement that is read
from them (`stmt`), and what it adds to the imports of a file (`entries`).
-/

namespace RepoSurvey.Python

/-- A name of a source: an identifier of ASCII that is no keyword. -/
abbrev Identifier := { s : String // Overview.IsAsciiIdentifier s ∧ s ∉ Reader.keywords }

/-- An identifier is told by its first character and those after it. -/
theorem isAsciiIdentifier_iff {s : String} : Overview.IsAsciiIdentifier s ↔
    s.toList.head?.any (fun c => c.isAlpha || c == '_') = true ∧
      ∀ c ∈ s.toList.tail, (Text.isAsciiAlphanumeric c || c == '_') = true := by
  constructor
  · rintro ⟨first, rest, letters, starts, further⟩
    rw [letters]
    exact ⟨starts, further⟩
  · rintro ⟨starts, further⟩
    cases letters : s.toList with
    | nil =>
      rw [letters] at starts
      cases starts
    | cons first rest =>
      rw [letters] at starts further
      exact ⟨first, rest, letters, starts, further⟩

instance decidableIsAsciiIdentifier (s : String) : Decidable (Overview.IsAsciiIdentifier s) :=
  decidable_of_iff' _ isAsciiIdentifier_iff

/-! ## Parts of statements -/

/-- The name of a module: names with dots between them. -/
structure Dotted where
  /-- The first name. -/
  first : Identifier
  /-- The names after it. -/
  others : List Identifier

namespace Dotted

/-- The name as it is printed. -/
def printed (m : Dotted) : String :=
  Text.join "." (m.first.1 :: m.others.map (·.1))

/-- The tokens of the name. -/
def kinds (m : Dotted) : List TokenKind :=
  .name m.first.1 :: m.others.flatMap fun n : Identifier => [.op ".", .name n.1]

end Dotted

/-- Something that is imported, and the name it is given, if it is given one. -/
structure Imported (α : Type) where
  /-- What is imported. -/
  origin : α
  /-- The local name. -/
  given : Option Identifier

namespace Imported

variable {α : Type}

/-- What is imported as it is printed, with its local name. -/
def printed (text : α → String) (i : Imported α) : String :=
  match i.given with
  | none => text i.origin
  | some here => text i.origin ++ " as " ++ here.1

/-- The tokens of what is imported and of its local name. -/
def kinds (tokens : α → List TokenKind) (i : Imported α) : List TokenKind :=
  match i.given with
  | none => tokens i.origin
  | some here => tokens i.origin ++ [.name "as", .name here.1]

/-- What is imported as it is read. -/
def read (text : α → String) (i : Imported α) : Alias :=
  ⟨text i.origin, i.given.map (·.1)⟩

end Imported

/-- The tokens of a list with commas between its items. -/
def listedKinds {α : Type} (tokens : α → List TokenKind) (first : α) (others : List α) :
    List TokenKind :=
  tokens first ++ others.flatMap fun i => .op "," :: tokens i

/-- Where names are imported from. -/
inductive ImportSource where
  /-- A module by its full name. -/
  | absolute (module : Dotted)
  /-- A module below the package of the file or below one of those above it, or the package
  itself. -/
  | relative (above : Nat) (module : Option Dotted)

namespace ImportSource

/-- How many dots stand in front. -/
def level : ImportSource → Nat
  | absolute _ => 0
  | relative above _ => above + 1

/-- The module after the dots, if there is one. -/
def module? : ImportSource → Option Dotted
  | absolute m => some m
  | relative _ m => m

/-- The source as it is printed. -/
def printed (s : ImportSource) : String :=
  String.ofList (List.replicate s.level '.') ++ (s.module?.map Dotted.printed).getD ""

end ImportSource

/-- The tokens of dots: three at a time, and then those that are left. -/
def dotKinds : Nat → List TokenKind
  | 0 => []
  | n + 3 => .op "..." :: dotKinds n
  | n + 1 => .op "." :: dotKinds n

/-- The tokens of a source. -/
def ImportSource.kinds (s : ImportSource) : List TokenKind :=
  dotKinds s.level ++ (s.module?.map Dotted.kinds).getD []

/-! ## Statements -/

/-- An import statement. -/
inductive ImportStatement where
  /-- Modules are imported. -/
  | modules (first : Imported Dotted) (others : List (Imported Dotted))
  /-- Names are imported from a module, and stand in brackets or not. -/
  | names (source : ImportSource) (bracketed : Bool) (first : Imported Identifier)
    (others : List (Imported Identifier))

/-- A list in brackets, or as it is. -/
def enclosed (bracketed : Bool) (list : String) : String :=
  if bracketed then "(" ++ list ++ ")" else list

namespace ImportStatement

/-- The statement as it is printed. -/
def printed : ImportStatement → String
  | modules first others =>
    "import " ++ Text.join ", " ((first :: others).map (Imported.printed Dotted.printed))
  | names source bracketed first others =>
    "from " ++ source.printed ++ " import " ++
      enclosed bracketed (Text.join ", " ((first :: others).map (Imported.printed (·.1))))

/-- The tokens of the statement. -/
def kinds : ImportStatement → List TokenKind
  | modules first others => .name "import" :: listedKinds (Imported.kinds Dotted.kinds) first others
  | names source bracketed first others =>
    let list := listedKinds (Imported.kinds fun n : Identifier => [.name n.1]) first others
    .name "from" :: source.kinds ++ .name "import" ::
      if bracketed then .op "(" :: list ++ [.op ")"] else list

/-- The statement as it is read. -/
def stmt : ImportStatement → Stmt
  | modules first others => .importModules ((first :: others).map (Imported.read Dotted.printed))
  | names source _ first others =>
    .importFrom source.level ((source.module?.map Dotted.printed).getD "")
      ((first :: others).map (Imported.read (·.1)))

/-- What the statement adds to the imports of a file: each module with itself and its local
name, or the module with the names that are taken from it. -/
def entries : ImportStatement → List (String × List String)
  | modules first others =>
    (first :: others).map fun i => (i.origin.printed, [i.printed Dotted.printed])
  | names source _ first others => [(source.printed, (first :: others).map fun i => i.origin.1)]

end ImportStatement

/-- Statements, each on a line of its own. -/
def printedImports (statements : List ImportStatement) : String :=
  Text.join "\n" (statements.map ImportStatement.printed)

theorem printedImports_cons (s next : ImportStatement) (rest : List ImportStatement) :
    printedImports (s :: next :: rest) = s.printed ++ ("\n" ++ printedImports (next :: rest)) :=
  String.intercalate_cons_cons.trans String.append_assoc

/-! ## Characters -/

/-- A character of names. -/
def isNamePart (c : Char) : Bool :=
  Text.isAsciiAlphanumeric c || c == '_'

theorem Identifier.isNamePart (n : Identifier) : ∀ c ∈ n.1.toList, Python.isNamePart c = true :=
  fun _ mem => Bool.or_eq_true_iff.mpr ((n.2.1.letters mem).imp_right beq_iff_eq.mpr)

theorem Identifier.ne_nil (n : Identifier) : n.1.toList ≠ [] := by
  obtain ⟨first, rest, letters, -⟩ := n.2.1
  rw [letters]
  exact List.cons_ne_nil first rest

/-- A character of import statements: one of names, or a sign or blank between them. -/
def isImportChar (c : Char) : Bool :=
  isNamePart c || ['.', ',', ' ', '(', ')'].contains c

theorem toNat_lt_of_isNamePart {c : Char} (part : isNamePart c = true) : c.toNat < 128 := by
  rcases Bool.or_eq_true_iff.mp part with letter | score
  · exact Text.toNat_lt_of_ascii letter
  · rw [beq_iff_eq.mp score]
    decide

theorem toNat_lt_of_isImportChar {c : Char} (inside : isImportChar c = true) : c.toNat < 128 := by
  rcases Bool.or_eq_true_iff.mp inside with part | sign
  · exact toNat_lt_of_isNamePart part
  · have small : ∀ d ∈ ['.', ',', ' ', '(', ')'], d.toNat < 128 := by decide
    exact small c (List.contains_iff_mem.mp sign)

theorem Identifier.isImportChar (n : Identifier) :
    ∀ c ∈ n.1.toList, Python.isImportChar c = true :=
  fun c mem => Bool.or_eq_true_iff.mpr (.inl (n.isNamePart c mem))

theorem Dotted.isImportChar (m : Dotted) :
    ∀ c ∈ m.printed.toList, Python.isImportChar c = true := by
  refine Text.forall_mem_join (by decide) ?_
  rw [List.forall_mem_cons, List.forall_mem_map]
  exact ⟨m.first.isImportChar, fun n _ => n.isImportChar⟩

theorem Imported.isImportChar {α : Type} {text : α → String}
    (each : ∀ a, ∀ c ∈ (text a).toList, Python.isImportChar c = true) (i : Imported α) :
    ∀ c ∈ (i.printed text).toList, Python.isImportChar c = true := by
  obtain ⟨origin, given⟩ := i
  cases given with
  | none => exact each origin
  | some here =>
    simp only [printed, String.toList_append, List.forall_mem_append]
    exact ⟨⟨each origin, by decide⟩, here.isImportChar⟩

theorem forall_mem_listed {α : Type} {text : α → String}
    (each : ∀ a, ∀ c ∈ (text a).toList, isImportChar c = true) (imported : List (Imported α)) :
    ∀ c ∈ (Text.join ", " (imported.map (Imported.printed text))).toList,
      isImportChar c = true := by
  refine Text.forall_mem_join (by decide) ?_
  rw [List.forall_mem_map]
  exact fun i _ => i.isImportChar each

theorem forall_mem_enclosed {list : String} (inside : ∀ c ∈ list.toList, isImportChar c = true)
    (bracketed : Bool) : ∀ c ∈ (enclosed bracketed list).toList, isImportChar c = true := by
  cases bracketed with
  | false => exact inside
  | true =>
    simp only [enclosed, if_true, String.toList_append, List.forall_mem_append]
    exact ⟨⟨by decide, inside⟩, by decide⟩

theorem ImportSource.isImportChar (s : ImportSource) :
    ∀ c ∈ s.printed.toList, Python.isImportChar c = true := by
  have dots : ∀ c ∈ List.replicate s.level '.', Python.isImportChar c = true := by
    intro c mem
    rw [List.eq_of_mem_replicate mem]
    decide
  rw [printed, String.toList_append, String.toList_ofList, List.forall_mem_append]
  refine ⟨dots, ?_⟩
  cases s.module? with
  | none => exact List.forall_mem_nil _
  | some m => exact m.isImportChar

theorem ImportStatement.isImportChar (s : ImportStatement) :
    ∀ c ∈ s.printed.toList, Python.isImportChar c = true := by
  cases s with
  | modules first others =>
    rw [printed, String.toList_append, List.forall_mem_append]
    exact ⟨by decide, forall_mem_listed Dotted.isImportChar _⟩
  | names source bracketed first others =>
    have list := forall_mem_enclosed (forall_mem_listed Identifier.isImportChar (first :: others))
      bracketed
    simp only [printed, String.toList_append, List.forall_mem_append]
    exact ⟨⟨⟨by decide, source.isImportChar⟩, by decide⟩, list⟩

/-! ## Signs that names have not -/

section

variable {c : Char} (other : Python.isNamePart c = false)

include other

theorem Identifier.not_mem (n : Identifier) : c ∉ n.1.toList :=
  n.2.1.not_mem other

theorem Dotted.not_mem (sign : c ≠ '.') (m : Dotted) : c ∉ m.printed.toList := by
  have free : ∀ n : Identifier, ∀ d ∈ n.1.toList, d ≠ c := fun n d mem same =>
    n.not_mem other (same ▸ mem)
  have between : ∀ d ∈ ".".toList, d ≠ c := by
    intro d mem
    rw [List.mem_singleton.mp mem]
    exact sign.symm
  have each : ∀ d ∈ m.printed.toList, d ≠ c := by
    refine Text.forall_mem_join between ?_
    rw [List.forall_mem_cons, List.forall_mem_map]
    exact ⟨free m.first, fun n _ => free n⟩
  exact fun mem => each c mem rfl

theorem Imported.not_mem {α : Type} {text : α → String} (free : ∀ a, c ∉ (text a).toList)
    (mark : c ∉ " as ".toList) (i : Imported α) : c ∉ (i.printed text).toList := by
  obtain ⟨origin, given⟩ := i
  cases given with
  | none => exact free origin
  | some here =>
    simp only [printed, String.toList_append, List.mem_append, not_or]
    exact ⟨⟨free origin, mark⟩, here.not_mem other⟩

end

/-! ## Ends

What is trimmed off a text is left alone if it is no character of names. -/

section

variable {drop : Char → Bool} (spared : ∀ c, Python.isNamePart c = true → drop c = false)

include spared

theorem Identifier.firm (n : Identifier) : Text.Firm drop n.1.toList :=
  Text.firm_of_none n.ne_nil fun c mem => spared c (n.isNamePart c mem)

theorem Dotted.firm (m : Dotted) : Text.Firm drop m.printed.toList := by
  refine Text.firm_join ?_
  rw [List.forall_mem_cons, List.forall_mem_map]
  exact ⟨m.first.firm spared, fun n _ => n.firm spared⟩

theorem Imported.firm {α : Type} {text : α → String} (each : ∀ a, Text.Firm drop (text a).toList)
    (i : Imported α) : Text.Firm drop (i.printed text).toList := by
  obtain ⟨origin, given⟩ := i
  cases given with
  | none => exact each origin
  | some here =>
    rw [printed, String.toList_append, String.toList_append, List.append_assoc]
    exact (each origin).append (here.firm spared) " as ".toList

theorem firm_listed {α : Type} {text : α → String} (each : ∀ a, Text.Firm drop (text a).toList)
    (first : Imported α) (others : List (Imported α)) :
    Text.Firm drop (Text.join ", " ((first :: others).map (Imported.printed text))).toList := by
  refine Text.firm_join ?_
  rw [List.forall_mem_cons, List.forall_mem_map]
  exact ⟨first.firm spared each, fun i _ => i.firm spared each⟩

end

/-! ## Entries -/

theorem flatten_joinLevels {α : Type} (own : List α) (levels : List (List α)) :
    (joinLevels [own] levels).flatten = own ++ levels.flatten := by
  cases levels with
  | nil => rfl
  | cons level deeper => simp [joinLevels]

theorem Imported.entry_read (i : Imported Dotted) :
    (i.read Dotted.printed).entry = (i.origin.printed, [i.printed Dotted.printed]) := by
  obtain ⟨origin, given⟩ := i
  cases given with
  | none => rfl
  | some here => rfl

/-- A statement is recorded with its entries, all of them at the top. -/
theorem ImportStatement.imports_stmt (s : ImportStatement) : s.stmt.imports = [s.entries] := by
  cases s with
  | modules first others =>
    rw [stmt, Stmt.imports, entries, List.map_map]
    exact congrArg (fun entry => [List.map entry (first :: others)])
      (funext Imported.entry_read)
  | names source bracketed first others =>
    rw [stmt, Stmt.imports, entries, ImportSource.printed, List.map_map]
    rfl

/-- A source of import statements has their entries, in order. -/
theorem importTable_stmt (statements : List ImportStatement) :
    importTable (statements.map ImportStatement.stmt) =
      Table.gather (statements.flatMap ImportStatement.entries) := by
  have levels : (bodyImports (statements.map ImportStatement.stmt)).flatten =
      statements.flatMap ImportStatement.entries := by
    induction statements with
    | nil => rfl
    | cons s rest ih =>
      rw [List.map_cons, bodyImports, s.imports_stmt, flatten_joinLevels, ih, List.flatMap_cons]
  rw [importTable, levels]

end RepoSurvey.Python
