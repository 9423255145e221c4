import RepoSurvey.Proofs.Outline.Exposed
import RepoSurvey.Proofs.Python.ImportStatements
import RepoSurvey.Proofs.Text.Matching

/-!
# Printed import statements in an outline

The outline reads an import statement of Python from its text. On a statement as it is printed the
text is taken apart in one way only, and gives the entries of the statement
(`addImport_printed`).

Python is read by its own parser, and by the structural parser when that one fails. The first
records what the statements of the source say, the second what the texts of the importing nodes
look like. On a source of printed import statements, with a tree that has a node for each of
them, the two record the same imports (`both_parsers_read_imports`).
-/

namespace RepoSurvey.Outline

open Survey (GrammarLibrary StructuralParser)
open Text (isBlank isWordChar)
open Text.Pattern (reads_literal reads_some1)

/-! ## Names from a module -/

/-- A character of a module and the dots in front of it. -/
def isModuleChar (c : Char) : Bool :=
  c == '.' || isWordChar c

/-- A text of the form that names from a module have. -/
def fromText (gap module gap' gap'' names : List Char) : List Char :=
  "from".toList ++ (gap ++ (module ++ (gap' ++ ("import".toList ++ (gap'' ++ names)))))

/-- Some characters of a class, at least one. -/
def Run (accepts : Char → Bool) (cs : List Char) : Prop :=
  (∀ c ∈ cs, accepts c = true) ∧ cs ≠ []

theorem reads_fromStatement_iff {before piece after : List Char} {caps : Text.Pieces} :
    fromStatement.Reads before piece after [] caps ↔
      ∃ gap module gap' gap'' names, piece = fromText gap module gap' gap'' names ∧
        Run isBlank gap ∧ Run isModuleChar module ∧ Run isBlank gap' ∧ Run isBlank gap'' ∧
        names ≠ [] ∧ caps = [(2, names), (1, module)] := by
  constructor
  · rintro ⟨_, _, _, rfl, lead, gap, _, _, rfl, readsGap, module, _, _, rfl, ⟨_, readsModule, rfl⟩,
      gap', _, _, rfl, readsGap', _, _, _, rfl, mark, gap'', names, _, rfl, readsGap'', _,
      readsNames, rfl⟩
    obtain ⟨rfl, rfl⟩ := reads_literal.mp lead
    obtain ⟨blank, some_blank, rfl⟩ := reads_some1.mp readsGap
    obtain ⟨inside, some_module, rfl⟩ := reads_some1.mp readsModule
    obtain ⟨blank', some_blank', rfl⟩ := reads_some1.mp readsGap'
    obtain ⟨rfl, rfl⟩ := reads_literal.mp mark
    obtain ⟨blank'', some_blank'', rfl⟩ := reads_some1.mp readsGap''
    obtain ⟨-, some_names, rfl⟩ := reads_some1.mp readsNames
    exact ⟨gap, module, gap', gap'', names, rfl, ⟨blank, some_blank⟩, ⟨inside, some_module⟩,
      ⟨blank', some_blank'⟩, ⟨blank'', some_blank''⟩, some_names, rfl⟩
  · rintro ⟨gap, module, gap', gap'', names, rfl, gaps, modules, gaps', gaps'', some_names, rfl⟩
    refine ⟨_, _, _, rfl, reads_literal.mpr ⟨rfl, rfl⟩, gap, _, _, rfl,
      reads_some1.mpr ⟨gaps.1, gaps.2, rfl⟩, module, _, _, rfl,
      ⟨_, reads_some1.mpr ⟨modules.1, modules.2, rfl⟩, rfl⟩, gap', _, _, rfl,
      reads_some1.mpr ⟨gaps'.1, gaps'.2, rfl⟩, _, _, _, rfl, reads_literal.mpr ⟨rfl, rfl⟩, gap'',
      names, _, rfl, reads_some1.mpr ⟨gaps''.1, gaps''.2, rfl⟩, _,
      reads_some1.mpr ⟨fun _ _ => rfl, some_names, rfl⟩, rfl⟩

theorem not_isModuleChar_of_isBlank {c : Char} (blank : isBlank c = true) :
    isModuleChar c = false := by
  rw [isModuleChar, Text.not_isWordChar_of_isBlank blank, Bool.or_false]
  exact beq_false_of_ne (Text.ne_of_class blank (by decide))

/-- A run comes to its end where the class does. -/
theorem run_append_inj {accepts : Char → Bool} {xs ys rest rest' : List Char}
    (runs : Run accepts xs) (runs' : Run accepts ys) (stop : ∀ c ∈ rest.head?, accepts c = false)
    (stop' : ∀ c ∈ rest'.head?, accepts c = false) (same : xs ++ rest = ys ++ rest') :
    xs = ys ∧ rest = rest' := by
  have stops : ∀ {cs : List Char}, (∀ c ∈ cs.head?, accepts c = false) →
      cs.head?.any accepts = false := by
    intro cs stop
    cases cs with
    | nil => rfl
    | cons c more => exact stop c rfl
  obtain rfl := Text.run_inj runs.1 runs'.1 (stops stop) (stops stop') same
  exact ⟨rfl, List.append_cancel_left same⟩

theorem Run.head {accepts other : Char → Bool} {xs : List Char} (runs : Run accepts xs)
    (apart : ∀ c, accepts c = true → other c = false) (rest : List Char) :
    ∀ c ∈ (xs ++ rest).head?, other c = false := by
  obtain ⟨all, some_char⟩ := runs
  obtain ⟨x, more, rfl⟩ := List.exists_cons_of_ne_nil some_char
  rintro c ⟨⟩
  exact apart x (all x List.mem_cons_self)

section

variable {gap module gap' gap'' names source tail : List Char}

/-- Names that do not begin with a blank are found again with their module. -/
theorem fromText_inj (gaps : Run isBlank gap) (modules : Run isModuleChar module)
    (gaps' : Run isBlank gap') (gaps'' : Run isBlank gap'') (sources : Run isModuleChar source)
    (starts : ∀ c ∈ tail.head?, isBlank c = false)
    (same : fromText gap module gap' gap'' names = fromText [' '] source [' '] [' '] tail) :
    module = source ∧ names = tail := by
  have blank : Run isBlank [' '] := ⟨by decide, List.cons_ne_nil _ _⟩
  have unblank : ∀ c, isModuleChar c = true → isBlank c = false := fun c =>
    Text.apart_symm not_isModuleChar_of_isBlank
  have unmodule : ∀ c, isBlank c = true → isModuleChar c = false := fun c =>
    not_isModuleChar_of_isBlank
  obtain ⟨-, same⟩ := run_append_inj gaps blank (modules.head unblank _) (sources.head unblank _)
    (List.append_cancel_left same)
  obtain ⟨found, same⟩ := run_append_inj modules sources (gaps'.head unmodule _)
    (blank.head unmodule _) same
  have mark : ∀ rest, ∀ c ∈ ("import".toList ++ rest).head?, isBlank c = false := by
    rintro rest c ⟨⟩
    decide
  obtain ⟨-, same⟩ := run_append_inj gaps' blank (mark _) (mark _) same
  obtain ⟨d, more, rfl⟩ := List.exists_cons_of_ne_nil gaps''.2
  obtain ⟨-, rests⟩ := List.cons.inj (List.append_cancel_left same)
  have rests : more ++ names = tail := rests
  refine ⟨found, ?_⟩
  cases more with
  | nil => exact rests
  | cons b further =>
    have first : isBlank b = false := by
      rw [← rests] at starts
      exact starts b rfl
    rw [gaps''.1 b (List.mem_cons_of_mem _ List.mem_cons_self)] at first
    cases first

/-- The module and the names of a text of this form. -/
theorem exists_opens?_fromText {text : String} (sources : Run isModuleChar source)
    (starts : ∀ c ∈ tail.head?, isBlank c = false) (some_names : tail ≠ [])
    (whole : text.toList = fromText [' '] source [' '] [' '] tail) :
    ∃ m cs, fromStatement.opens? text = some (m, cs) ∧ m.group cs 1 = String.ofList source ∧
      m.group cs 2 = String.ofList tail := by
  have blank : Run isBlank [' '] := ⟨by decide, List.cons_ne_nil _ _⟩
  have reads : fromStatement.Reads [] text.toList [] [] [(2, tail), (1, source)] :=
    reads_fromStatement_iff.mpr
      ⟨_, _, _, _, _, whole, blank, sources, blank, blank, some_names, rfl⟩
  have opens := Text.Pattern.isSome_opens? (p := fromStatement) rfl (List.append_nil _).symm reads
  obtain ⟨⟨m, cs⟩, opens⟩ := Option.isSome_iff_exists.mp opens
  obtain ⟨piece, after, caps, parts, reads', groups, stops⟩ :=
    Text.Pattern.exists_reads_of_opens? opens
  have ends : Text.Pattern.EndsInRun (fun _ => true) fromStatement :=
    .seq (.seq (.seq (.seq (.seq (.seq (.capture .run))))))
  have none : after = [] := by
    have stop := stops _ ends
    cases after with
    | nil => rfl
    | cons c more => cases stop
  obtain ⟨gap, module, gap', gap'', names, rfl, gaps, modules, gaps', gaps'', -, rfl⟩ :=
    reads_fromStatement_iff.mp reads'
  rw [none, List.append_nil, whole] at parts
  obtain ⟨rfl, rfl⟩ := fromText_inj gaps modules gaps' gaps'' sources starts parts.symm
  refine ⟨m, cs, opens, ?_, ?_⟩
  · rw [Text.Match.group, groups]
    rfl
  · rw [Text.Match.group, groups]
    rfl

end

/-! ## Lists of names -/

open Python (Identifier Dotted Imported ImportSource ImportStatement enclosed isNamePart
  printedImports)

section

variable {c : Char}

theorem isWordChar_of_isNamePart (part : isNamePart c = true) : isWordChar c = true := by
  rcases Bool.or_eq_true_iff.mp part with letter | score
  · exact Text.isWordChar_of_ascii letter
  · rw [isWordChar, score, Bool.or_true]

theorem not_isBlank_of_isNamePart (part : isNamePart c = true) : isBlank c = false :=
  Text.apart_symm Text.not_isWordChar_of_isBlank (isWordChar_of_isNamePart part)

end

section

variable {α : Type} {text : α → String}

/-- What is imported is told by the text in front of its local name. -/
theorem beforeText_printed (free : ∀ a, ' ' ∉ (text a).toList) (i : Imported α) :
    Text.beforeText " as " (i.printed text) = text i.origin := by
  have mark : " as ".toList = ' ' :: "as ".toList := by decide
  obtain ⟨origin, given⟩ := i
  cases given with
  | none =>
    rw [Imported.printed, Text.beforeText, mark, Text.beforeTextChars_of_not_mem (free origin),
      String.ofList_toList]
  | some here =>
    have whole : (Imported.printed text ⟨origin, some here⟩).toList =
        (text origin).toList ++ (' ' :: "as ".toList ++ here.1.toList) := by
      rw [Imported.printed, String.toList_append, String.toList_append, mark, List.append_assoc]
    rw [Text.beforeText, mark, whole, Text.beforeTextChars_append (free origin),
      Text.beforeTextChars_self, List.append_nil, String.ofList_toList]

/-- The pieces of a list are its items, in front of which there may be blanks. -/
theorem map_split_listed {β : Type} {read : String → β} {image : Imported α → β}
    {lead : List Char} (first : Imported α) (others : List (Imported α))
    (free : ∀ a, ',' ∉ (text a).toList) (firm : ∀ a, Text.Firm isBlank (text a).toList)
    (blank : lead = [] ∨ lead = [' '])
    (each : ∀ i : Imported α, read (i.printed text) = image i) :
    (Text.split ',' (String.ofList
      (lead ++ (Text.join ", " ((first :: others).map (Imported.printed text))).toList))).map
        (fun piece => read (Text.trim piece)) = (first :: others).map image := by
  have blanks : ∀ {gap : List Char}, gap = [] ∨ gap = [' '] → ∀ c ∈ gap, isBlank c = true := by
    rintro gap (rfl | rfl)
    · exact List.forall_mem_nil _
    · decide
  have unsplit : ',' ∉ lead := by
    rcases blank with rfl | rfl
    · exact List.not_mem_nil
    · decide
  have between : ", " = String.ofList (',' :: [' ']) := rfl
  rw [between]
  refine Text.map_split_join (List.cons_ne_nil first others) unsplit (by decide)
    (fun i _ => i.not_mem (by decide) free (by decide)) fun i _ gap given => ?_
  have whole := i.firm (fun _ => not_isBlank_of_isNamePart) firm
  have either : gap = [] ∨ gap = [' '] := by
    rcases given with rfl | rfl
    · exact blank
    · exact .inr rfl
  rw [whole.trim_behind (blanks either), each i]

end

/-! ## Statements -/

section

variable {imports : Table (List String)}

theorem filter_nonempty {α : Type} {items : List α} {text : α → String}
    (some_char : ∀ a, (text a).toList ≠ []) :
    ((items.map text).filter fun s => !s.isEmpty) = items.map text := by
  rw [List.filter_eq_self, List.forall_mem_map]
  intro a _
  rw [String.isEmpty_eq_false_iff.mpr (mt String.toList_eq_nil_iff.mpr (some_char a))]
  rfl

/-- Modules are read with their own names and as they are written. -/
theorem addPythonImport_modules (first : Imported Dotted) (others : List (Imported Dotted)) :
    addPythonImport (ImportStatement.modules first others).printed imports =
      (ImportStatement.modules first others).entries.foldl (fun t e => t.extend e.1 e.2)
        imports := by
  have firm : ∀ m : Dotted, Text.Firm isBlank m.printed.toList := fun m =>
    m.firm fun _ => not_isBlank_of_isNamePart
  have closed : fromStatement.opens? (ImportStatement.modules first others).printed = none := by
    refine Option.eq_none_iff_forall_ne_some.mpr fun found opens => ?_
    obtain ⟨piece, after, caps, parts, reads, -⟩ := Text.Pattern.exists_reads_of_opens? opens
    obtain ⟨gap, module, gap', gap'', names, rfl, -⟩ := reads_fromStatement_iff.mp reads
    rw [ImportStatement.printed, String.toList_append] at parts
    have heads : some 'i' = some 'f' := congrArg List.head? parts
    exact absurd heads (by decide)
  have pieces : (Text.split ',' (String.ofList
      ((ImportStatement.modules first others).printed.toList.drop 6))).map Text.trim =
        (first :: others).map (Imported.printed Dotted.printed) := by
    rw [ImportStatement.printed, String.toList_append]
    exact @map_split_listed _ _ _ id _ [' '] first others
      (fun m => m.not_mem (by decide) (by decide)) firm (.inr rfl) fun _ => rfl
  have origin (i : Imported Dotted) :
      Text.trim (Text.beforeText " as " (i.printed Dotted.printed)) = i.origin.printed := by
    rw [beforeText_printed (fun m => m.not_mem (by decide) (by decide)), (firm i.origin).trim_eq]
  have nonempty : ∀ i : Imported Dotted, (i.printed Dotted.printed).toList ≠ [] := fun i =>
    (i.firm (fun _ => not_isBlank_of_isNamePart) firm).some_char
  simp only [addPythonImport, closed]
  rw [pieces, filter_nonempty nonempty, ImportStatement.entries, List.foldl_map, List.foldl_map]
  simp only [origin]

theorem trimSet_enclosed {list : String} (firm : Text.Firm "() \n".toList.contains list.toList)
    (bracketed : Bool) : Text.trimSet "() \n" (enclosed bracketed list) = list := by
  cases bracketed with
  | false =>
    rw [enclosed, if_neg Bool.false_ne_true, Text.trimSet, firm.trimBy_eq, String.ofList_toList]
  | true =>
    rw [enclosed, if_pos rfl, Text.trimSet, String.toList_append, String.toList_append,
      List.append_assoc, firm.trimBy_enclosed (by decide) (by decide), String.ofList_toList]

theorem firm_enclosed {list : String} (firm : Text.Firm isBlank list.toList) (bracketed : Bool) :
    Text.Firm isBlank (enclosed bracketed list).toList := by
  cases bracketed with
  | false => exact firm
  | true =>
    have left : Text.Firm isBlank "(".toList := Text.firm_of_none (by decide) (by decide)
    have right : Text.Firm isBlank ")".toList := Text.firm_of_none (by decide) (by decide)
    rw [enclosed, if_pos rfl, String.toList_append, String.toList_append, List.append_assoc]
    exact left.append right list.toList

theorem run_source (source : ImportSource) : Run isModuleChar source.printed.toList := by
  have dots : ∀ c ∈ List.replicate source.level '.', isModuleChar c = true := by
    intro c mem
    rw [List.eq_of_mem_replicate mem]
    decide
  have dotted (m : Dotted) : ∀ c ∈ m.printed.toList, isModuleChar c = true := by
    have each : ∀ n : Identifier, ∀ c ∈ n.1.toList, isModuleChar c = true := fun n c mem =>
      Bool.or_eq_true_iff.mpr (.inr (isWordChar_of_isNamePart (n.isNamePart c mem)))
    refine Text.forall_mem_join (by decide) ?_
    rw [List.forall_mem_cons, List.forall_mem_map]
    exact ⟨each m.first, fun n _ => each n⟩
  rw [ImportSource.printed, String.toList_append, String.toList_ofList]
  cases source with
  | absolute m =>
    have some_char := (m.firm fun _ => not_isBlank_of_isNamePart).some_char
    exact ⟨dotted m, some_char⟩
  | relative above m =>
    refine ⟨List.forall_mem_append.mpr ⟨dots, ?_⟩, List.cons_ne_nil _ _⟩
    cases m with
    | none => exact List.forall_mem_nil _
    | some m => exact dotted m

theorem toList_names (source : ImportSource) (bracketed : Bool) (first : Imported Identifier)
    (others : List (Imported Identifier)) :
    (ImportStatement.names source bracketed first others).printed.toList =
      fromText [' '] source.printed.toList [' '] [' '] (enclosed bracketed
        (Text.join ", " ((first :: others).map (Imported.printed (·.1))))).toList := by
  have lead : "from ".toList = "from".toList ++ [' '] := by decide
  have mark : " import ".toList = [' '] ++ ("import".toList ++ [' ']) := by decide
  rw [ImportStatement.printed, String.toList_append, String.toList_append, String.toList_append,
    lead, mark, fromText]
  simp only [List.append_assoc]

/-- Names are read from their module, be they in brackets or not. -/
theorem addPythonImport_names (source : ImportSource) (bracketed : Bool)
    (first : Imported Identifier) (others : List (Imported Identifier)) :
    addPythonImport (ImportStatement.names source bracketed first others).printed imports =
      (ImportStatement.names source bracketed first others).entries.foldl
        (fun t e => t.extend e.1 e.2) imports := by
  have bare : ∀ c, isNamePart c = true → "() \n".toList.contains c = false := fun c part =>
    Text.not_contains_of_class (by decide) part
  have inside := Python.firm_listed bare (fun n => n.firm bare) first others
  have unblank : ∀ n : Identifier, Text.Firm isBlank n.1.toList := fun n =>
    n.firm fun _ => not_isBlank_of_isNamePart
  have firm := firm_enclosed
    (Python.firm_listed (fun _ => not_isBlank_of_isNamePart) unblank first others) bracketed
  obtain ⟨m, cs, opens, module, names⟩ := exists_opens?_fromText (run_source source) firm.starts
    firm.some_char (toList_names source bracketed first others)
  have pieces := @map_split_listed _ (fun n : Identifier => n.1) _ (Text.beforeText " as ")
    (fun i => i.origin.1) [] first others (fun n => n.not_mem (by decide)) unblank (.inl rfl)
    (beforeText_printed fun n => n.not_mem (by decide))
  rw [List.nil_append, String.ofList_toList] at pieces
  have nonempty : ∀ i : Imported Identifier, i.origin.1.toList ≠ [] := fun i => i.origin.ne_nil
  simp only [addPythonImport, opens, module, names, String.ofList_toList]
  rw [trimSet_enclosed inside, pieces, filter_nonempty nonempty]
  rfl

theorem trim_printed (s : ImportStatement) : Text.trim s.printed = s.printed := by
  have spared : ∀ c, isNamePart c = true → isBlank c = false := fun _ => not_isBlank_of_isNamePart
  refine Text.Firm.trim_eq ?_
  cases s with
  | modules first others =>
    have word : Text.Firm isBlank "import".toList := Text.firm_of_none (by decide) (by decide)
    have list := Python.firm_listed spared (fun m => m.firm spared) first others
    have lead : "import ".toList = "import".toList ++ [' '] := by decide
    rw [ImportStatement.printed, String.toList_append, lead, List.append_assoc]
    exact word.append list [' ']
  | names source bracketed first others =>
    have word : Text.Firm isBlank "from".toList := Text.firm_of_none (by decide) (by decide)
    have list := firm_enclosed
      (Python.firm_listed spared (fun n => n.firm spared) first others) bracketed
    have whole := word.append list
      ([' '] ++ (source.printed.toList ++ ([' '] ++ ("import".toList ++ [' ']))))
    rw [toList_names, fromText]
    simpa only [List.append_assoc] using whole

/-- A statement is read with its entries. -/
theorem addImport_printed (s : ImportStatement) :
    addImport "python" s.printed imports =
      s.entries.foldl (fun t e => t.extend e.1 e.2) imports := by
  rw [addImport, trim_printed]
  cases s with
  | modules first others => exact addPythonImport_modules first others
  | names source bracketed first others =>
    exact addPythonImport_names source bracketed first others

end

/-! ## Trees of import statements -/

/-- Kinds of nodes that import something in Python. -/
def importKinds : List String :=
  ["import_statement", "import_from_statement"]

/-- The nodes cover statements that are printed from a byte on, each on a line of its own: each
node imports, and its span is that of its statement. -/
inductive Covers : Nat → List ImportStatement → List Node → Prop where
  | nil {place : Nat} : Covers place [] []
  | cons {place : Nat} {s : ImportStatement} {rest : List ImportStatement} {n : Node}
    {ns : List Node} (imports : n.kind ∈ importKinds) (starts : n.start = place)
    (stops : n.stop = place + s.printed.utf8ByteSize) (later : Covers (n.stop + 1) rest ns) :
    Covers place (s :: rest) (n :: ns)

/-- A node that spans a statement has its text. -/
theorem text_of_span {n : Node} {s : ImportStatement} {before after : String}
    (starts : n.start = before.utf8ByteSize)
    (stops : n.stop = before.utf8ByteSize + s.printed.utf8ByteSize) :
    n.text (before ++ (s.printed ++ after)).toUTF8 = s.printed := by
  have ascii : ∀ c ∈ s.printed.toList, c.toNat < 128 := fun c mem =>
    Python.toNat_lt_of_isImportChar (s.isImportChar c mem)
  rw [← String.append_assoc, Node.text, starts, stops, Text.extract_toUTF8,
    Text.decodeIgnoring_toUTF8 ascii]

section

variable {g : Grammar}

theorem itemsAt_of_import (known : grammars.get? "python" = some g) {n : Node}
    (imports : n.kind ∈ importKinds) (source : ByteArray) :
    itemsAt g "python" source n = [.imported (n.text source)] := by
  obtain ⟨kind, start, stop, row, field, children⟩ := n
  obtain rfl := Option.some.inj known
  have importing : importKinds.contains kind = true := List.contains_iff_mem.mpr imports
  rw [itemsAt]
  exact if_pos importing

/-- Nodes that cover statements give their texts, in order. -/
theorem itemsAmong_of_covers (known : grammars.get? "python" = some g) {place : Nat}
    {statements : List ImportStatement} {ns : List Node} (covers : Covers place statements ns)
    {before ending : String} (here : before.utf8ByteSize = place) :
    itemsAmong g "python" (before ++ (printedImports statements ++ ending)).toUTF8 ns =
      (statements.map ImportStatement.printed).map Item.imported := by
  induction covers generalizing before with
  | nil => rfl
  | @cons place s rest n ns imports starts stops later ih =>
    subst here
    cases rest with
    | nil =>
      cases later
      rw [itemsAmong, itemsAt_of_import known imports]
      exact congrArg (fun text => [Item.imported text]) (text_of_span starts stops)
    | cons next more =>
      have size : (before ++ s.printed ++ "\n").utf8ByteSize = n.stop + 1 := by
        rw [String.utf8ByteSize_append, String.utf8ByteSize_append, stops]
        rfl
      have further := ih size
      rw [String.append_assoc, String.append_assoc] at further
      rw [Python.printedImports_cons, String.append_assoc, String.append_assoc, itemsAmong,
        itemsAt_of_import known imports, text_of_span starts stops, further]
      rfl

/-- What the texts of statements add to imports, one after another. -/
theorem foldl_addImport_printed (statements : List ImportStatement)
    (imports : Table (List String)) :
    (statements.map ImportStatement.printed).foldl (fun t text => addImport "python" text t)
        imports =
      (statements.flatMap ImportStatement.entries).foldl (fun t e => t.extend e.1 e.2) imports := by
  induction statements generalizing imports with
  | nil => rfl
  | cons s rest ih =>
    rw [List.map_cons, List.foldl_cons, addImport_printed, ih, List.flatMap_cons, List.foldl_append]

/-- The outline of a tree that covers statements has their entries. -/
theorem imports_collect_of_covers (known : grammars.get? "python" = some g)
    {statements : List ImportStatement} {root : Node} (covers : Covers 0 statements root.children)
    (ending path : String) :
    (collect g "python" (printedImports statements ++ ending) path root).imports =
      Table.gather (statements.flatMap ImportStatement.entries) := by
  have items : itemsAmong g "python" (printedImports statements ++ ending).toUTF8 root.children =
      (statements.map ImportStatement.printed).map Item.imported := by
    have found : itemsAmong g "python" ("" ++ (printedImports statements ++ ending)).toUTF8
        root.children = _ := itemsAmong_of_covers known covers rfl
    rwa [String.empty_append] at found
  rw [collect, items, foldl_addItem_imports]
  exact foldl_addImport_printed statements []

end

/-! ## Both parsers -/

/-- On printed import statements, with a tree that covers them, the structural parser and the
parser for Python both succeed. They record the same imports: the entries of the statements, the
modules in the order in which they first occur, and for each module all that is taken from it. -/
theorem both_parsers_read_imports {p : StructuralParser} {library : GrammarLibrary}
    {given : Option String} {path ending : String} {root : Node} {statements : List ImportStatement}
    (ended : ending = "" ∨ ending = "\n")
    (named : (given.filter fun l => !l.isEmpty).or (languageOfPath? path) = some "python")
    (loadable : p.has library "python" = true)
    (drawn : library.tree? "python" (printedImports statements ++ ending) = some root)
    (covers : Covers 0 statements root.children) :
    ∃ a b, p.parse library given (printedImports statements ++ ending) path = .ok a ∧
      Python.parse (printedImports statements ++ ending) path = .ok b ∧ a.imports = b.imports ∧
      b.imports = Table.gather (statements.flatMap ImportStatement.entries) := by
  have known : grammars.get? "python" = some _ := rfl
  obtain ⟨b, parsed, imports⟩ := Python.parse_printed statements ended path
  refine ⟨_, b, parse_eq_collect named known loadable drawn, parsed, ?_, imports⟩
  rw [imports, imports_collect_of_covers known covers]

/-- Modules and names with local names, in brackets, from packages above, and one module twice. -/
def sampleImports : List ImportStatement := [
  .modules ⟨⟨⟨"os", by decide⟩, [⟨"path", by decide⟩]⟩, some ⟨"p", by decide⟩⟩
    [⟨⟨⟨"sys", by decide⟩, []⟩, none⟩],
  .names (.relative 1 (some ⟨⟨"pkg", by decide⟩, []⟩)) true
    ⟨⟨"a", by decide⟩, some ⟨"b", by decide⟩⟩ [⟨⟨"c", by decide⟩, none⟩],
  .names (.relative 0 none) false ⟨⟨"x", by decide⟩, none⟩ [],
  .modules ⟨⟨⟨"sys", by decide⟩, []⟩, none⟩ []]

/-- The tree of these statements. -/
def sampleTree : Node :=
  .mk "module" 0 82 0 none [
    .mk "import_statement" 0 24 0 none [],
    .mk "import_from_statement" 25 54 1 none [],
    .mk "import_from_statement" 55 70 2 none [],
    .mk "import_statement" 71 81 3 none []]

theorem both_parsers_read_imports_of_sample :
    (∃ a b, StructuralParser.parse { enabled := true } (oneTree "python" sampleTree) none
      "import os.path as p, sys\nfrom ..pkg import (a as b, c)\nfrom . import x\nimport sys\n"
      "a.py" = .ok a ∧
      Python.parse
        "import os.path as p, sys\nfrom ..pkg import (a as b, c)\nfrom . import x\nimport sys\n"
        "a.py" = .ok b ∧ a.imports = b.imports ∧
      b.imports = [("os.path", ["os.path as p"]), ("sys", ["sys", "sys"]), ("..pkg", ["a", "c"]),
        (".", ["x"])]) := by
  have written : printedImports sampleImports ++ "\n" =
      "import os.path as p, sys\nfrom ..pkg import (a as b, c)\nfrom . import x\nimport sys\n" := by
    decide +kernel
  have named : (none.filter fun l : String => !l.isEmpty).or (languageOfPath? "a.py") =
    some "python" := by decide +kernel
  have loadable : StructuralParser.has { enabled := true } (oneTree "python" sampleTree)
    "python" = true := by decide +kernel
  have covers : Covers 0 sampleImports sampleTree.children :=
    .cons (by decide) rfl (by decide +kernel) <| .cons (by decide) rfl (by decide +kernel) <|
      .cons (by decide) rfl (by decide +kernel) <| .cons (by decide) rfl (by decide +kernel) .nil
  obtain ⟨a, b, structural, parsed, same, imports⟩ :=
    both_parsers_read_imports (.inr rfl) named loadable rfl covers
  rw [written] at structural parsed
  refine ⟨a, b, structural, parsed, same, ?_⟩
  rw [imports]
  decide +kernel

end RepoSurvey.Outline
