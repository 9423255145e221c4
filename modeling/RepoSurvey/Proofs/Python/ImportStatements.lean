import RepoSurvey.Proofs.Outcomes
import RepoSurvey.Proofs.Python.Cuts
import RepoSurvey.Proofs.Python.Taking
import RepoSurvey.Proofs.Text.Decoding

/-!
# Printed import statements are read

Each part of an import statement is taken from its tokens by the reader for it, and the end of
the line stops every reader of the statement. So a source of printed import statements is read,
and its imports are their entries.
-/

namespace RepoSurvey.Python

open Reader

section

variable {rest : List TokenKind}

theorem takes_identifier (n : Identifier) : Takes name [.name n.1] n.1 rest :=
  takes_name n.2.2 fun c mem => toNat_lt_of_isImportChar (n.isImportChar c mem)

/-! ## Names of modules -/

theorem takes_dottedName (m : Dotted) (ends : rest.head? ≠ some (.op ".")) :
    Takes dottedName m.kinds m.printed rest := by
  have each (n : Identifier) (after : List TokenKind) :
      Takes (do op "."; name) [.op ".", .name n.1] n.1 after := (takes_identifier n).token_bind
  have others := takes_many (fun _ => True) (fun _ _ => trivial) trivial
    (fun n => List.cons_ne_nil (.op ".") [.name n.1]) (fun n after _ => each n after)
    (Refuses.bind (refuses_token ends)) m.others
  exact (takes_identifier m.first).bind (others.map _)

theorem refuses_dottedName (other : ∀ text, rest.head? = some (.name text) → text ∈ keywords) :
    Refuses dottedName rest :=
  Refuses.bind (refuses_name other)

/-! ## Local names -/

/-- No token that follows here belongs to what is imported. -/
def Closed (after : List TokenKind) : Prop :=
  after.head? ≠ some (.op ".") ∧ after.head? ≠ some (.name "as")

theorem takes_aliased {α : Type} {p : Reader String} {text : α → String}
    {tokens : α → List TokenKind}
    (each : ∀ a after, after.head? ≠ some (.op ".") → Takes p (tokens a) (text a) after)
    (i : Imported α) (ends : Closed rest) :
    Takes (aliased p) (i.kinds tokens) (i.read text) rest := by
  obtain ⟨origin, given⟩ := i
  cases given with
  | none =>
    have mark : Takes (do
        let renamed ← skipWord "as"
        if renamed then return ⟨text origin, some (← name)⟩ else return ⟨text origin, none⟩)
        [] (Alias.mk (text origin) none) rest :=
      (takes_skipWord_nothing ends.2).bind_nothing Takes.pure
    have whole : Takes (aliased p) (tokens origin ++ []) ⟨text origin, none⟩ rest :=
      (each origin rest ends.1).bind mark
    rwa [List.append_nil] at whole
  | some here =>
    have mark : Takes (do
        let renamed ← skipWord "as"
        if renamed then return ⟨text origin, some (← name)⟩ else return ⟨text origin, none⟩)
        [.name "as", .name here.1] (Alias.mk (text origin) (some here.1)) rest :=
      (takes_skipWord "as").bind ((takes_identifier here).map _)
    exact (each origin _ (by simp)).bind mark

/-- The items of a list after the first. -/
theorem takes_others {α : Type} {p : Reader String} {text : α → String}
    {tokens : α → List TokenKind}
    (each : ∀ a after, after.head? ≠ some (.op ".") → Takes p (tokens a) (text a) after)
    (others : List (Imported α)) (ends : Closed rest) (noMore : rest.head? ≠ some (.op ",")) :
    Takes (many do op ","; aliased p) (others.flatMap fun i => .op "," :: i.kinds tokens)
      (others.map (Imported.read text)) rest := by
  have comma (i : Imported α) (after : List TokenKind) :
      Closed (.op "," :: i.kinds tokens ++ after) := by
    simp [Closed]
  exact takes_many Closed comma ends (fun i => List.cons_ne_nil _ _)
    (fun i after ends => (takes_aliased each i ends).token_bind)
    (Refuses.bind (refuses_token noMore)) others

/-- The end of a list of items. -/
theorem closed_listed {α : Type} {tokens : α → List TokenKind} (others : List (Imported α))
    (ends : Closed rest) :
    Closed ((others.flatMap fun i => .op "," :: i.kinds tokens) ++ rest) := by
  cases others with
  | nil => exact ends
  | cons i more => simp [Closed]

theorem takes_importModules (first : Imported Dotted) (others : List (Imported Dotted))
    (ends : Closed rest) (noMore : rest.head? ≠ some (.op ",")) :
    Takes importModules (ImportStatement.modules first others).kinds
      (ImportStatement.modules first others).stmt rest := by
  have each (m : Dotted) (after : List TokenKind) (ends : after.head? ≠ some (.op ".")) :=
    takes_dottedName m ends
  exact ((takes_aliased each first (closed_listed others ends)).bind
    ((takes_others each others ends noMore).map _)).token_bind

/-! ## Dots -/

/-- Dots are read one or three at a time. -/
theorem exists_dots (n : Nat) : ∃ threes : List Bool,
    dotKinds n = threes.flatMap (fun three => [.op (if three then "..." else ".")]) ∧
      ∀ start,
        (threes.map fun three => if three then 3 else 1).foldl (· + ·) start = start + n := by
  fun_induction dotKinds n with
  | case1 => exact ⟨[], rfl, fun start => rfl⟩
  | case2 n ih =>
    obtain ⟨threes, kinds, total⟩ := ih
    refine ⟨true :: threes, congrArg _ kinds, fun start => ?_⟩
    rw [List.map_cons, List.foldl_cons, total, if_pos rfl]
    omega
  | case3 n few ih =>
    obtain ⟨threes, kinds, total⟩ := ih
    refine ⟨false :: threes, congrArg _ kinds, fun start => ?_⟩
    rw [List.map_cons, List.foldl_cons, total, if_neg Bool.false_ne_true]
    omega

theorem takes_leadingDots (n : Nat) (ends : ∀ text, rest.head? ≠ some (.op text)) :
    Takes leadingDots (dotKinds n) n rest := by
  obtain ⟨threes, kinds, total⟩ := exists_dots n
  have dot (three : Bool) (after : List TokenKind) :
      Takes (do if ← skipOp "..." then return 3 else do op "."; return 1)
        [.op (if three then "..." else ".")] (if three then 3 else 1) after := by
    cases three with
    | true =>
      have three : Takes (Pure.pure 3 : Reader Nat) [] 3 after := .pure
      exact (takes_skipOp "...").bind three
    | false =>
      have one : Takes (do op "."; return 1 : Reader Nat) [.op "."] 1 after :=
        (takes_token (.op ".")).map fun _ => 1
      have other : (TokenKind.op "." :: after).head? ≠ some (.op "...") := by simp
      exact Takes.bind_nothing (a := false) (takes_skipOp_nothing other) one
  have none :
      Refuses (do if ← skipOp "..." then return 3 else do op "."; return 1 : Reader Nat) rest := by
    refine (takes_skipOp_nothing (ends "...")).bind_refuses ?_
    exact Refuses.bind (refuses_token (ends "."))
  have dots := takes_many (fun _ => True) (fun _ _ => trivial) trivial
    (fun three => List.cons_ne_nil _ _) (fun three after _ => dot three after) none threes
  rw [kinds, ← Nat.zero_add n, ← total 0]
  exact dots.map _

/-! ## Imports from a module -/

section

variable (first : Imported Identifier) (others : List (Imported Identifier))

theorem takes_nameList (ends : Closed rest) (noMore : rest.head? ≠ some (.op ",")) :
    Takes (commaList (aliased name))
      (listedKinds (Imported.kinds fun n => [.name n.1]) first others)
      ((first :: others).map (Imported.read (·.1)), false) rest := by
  have each (n : Identifier) (after : List TokenKind) (_ : after.head? ≠ some (.op ".")) :
      Takes name [.name n.1] n.1 after := takes_identifier n
  have trailing : Takes (do
        let trailing ← skipOp ","
        return ((first :: others).map (Imported.read (·.1)), trailing)) []
      ((first :: others).map (Imported.read fun n : Identifier => n.1), false) rest :=
    (takes_skipOp_nothing noMore).map _
  have further : Takes (do
        let more ← many do op ","; aliased name
        let trailing ← skipOp ","
        return (first.read (·.1) :: more, trailing))
      ((others.flatMap fun i => .op "," :: i.kinds fun n => [.name n.1]) ++ [])
      ((first :: others).map (Imported.read fun n : Identifier => n.1), false) rest :=
    (takes_others each others ends noMore).bind trailing
  rw [List.append_nil] at further
  exact (takes_aliased each first (closed_listed others ends)).bind further

theorem takes_importedNames (bracketed : Bool) (ends : Closed rest)
    (noMore : rest.head? ≠ some (.op ",")) :
    Takes importedNames
      (if bracketed then
        .op "(" :: listedKinds (Imported.kinds fun n => [.name n.1]) first others ++ [.op ")"]
      else listedKinds (Imported.kinds fun n => [.name n.1]) first others)
      ((first :: others).map (Imported.read (·.1))) rest := by
  have named : ∃ text more, first.kinds (fun n => [.name n.1]) = .name text :: more := by
    obtain ⟨origin, given⟩ := first
    cases given with
    | none => exact ⟨_, _, rfl⟩
    | some here => exact ⟨_, _, rfl⟩
  obtain ⟨text, more, starts⟩ := named
  rw [importedNames]
  cases bracketed with
  | false =>
    simp only [Bool.false_eq_true, if_false]
    refine Takes.bind_nothing (a := false) (takes_skipOp_nothing ?_) ?_
    · simp [listedKinds, starts]
    rw [if_neg Bool.false_ne_true]
    refine Takes.bind_nothing (a := false) (takes_skipOp_nothing ?_) ?_
    · simp [listedKinds, starts]
    rw [if_neg Bool.false_ne_true]
    have listed := takes_nameList first others ends noMore
    rw [← List.append_nil (listedKinds _ first others)]
    refine listed.bind ?_
    exact Takes.bind_nothing takes_check Takes.pure
  | true =>
    have closing : Closed (.op ")" :: rest) := by simp [Closed]
    have listed := takes_nameList first others closing (by simp)
    have behind : Takes (do
          let named ← commaList (aliased name)
          op ")"
          return named.1)
        (listedKinds (Imported.kinds fun n => [.name n.1]) first others ++ [.op ")"])
        ((first :: others).map (Imported.read fun n : Identifier => n.1)) rest := by
      refine listed.bind (Takes.token_bind ?_)
      exact Takes.pure
    refine Takes.bind_nothing (a := false) (takes_skipOp_nothing (by simp)) ?_
    rw [if_neg Bool.false_ne_true, if_pos rfl, List.cons_append]
    exact Takes.bind (a := true) (takes_skipOp "(") behind

end

/-- A module after dots, or none. -/
theorem takes_module (m : Option Dotted) (ends : rest.head? = some (.name "import")) :
    Takes (optional dottedName) ((m.map Dotted.kinds).getD []) (m.map Dotted.printed) rest := by
  cases m with
  | none =>
    refine Refuses.optional (refuses_dottedName fun text same => ?_)
    rw [ends] at same
    obtain rfl := TokenKind.name.inj (Option.some.inj same)
    decide
  | some m =>
    refine Takes.optional (takes_dottedName m ?_)
    rw [ends]
    simp

theorem takes_importFrom (source : ImportSource) (bracketed : Bool) (first : Imported Identifier)
    (others : List (Imported Identifier)) (ends : Closed rest)
    (noMore : rest.head? ≠ some (.op ",")) :
    Takes importFrom (ImportStatement.names source bracketed first others).kinds
      (ImportStatement.names source bracketed first others).stmt rest := by
  have given : (source.level != 0 || (source.module?.map Dotted.printed).isSome) = true := by
    cases source with
    | absolute m => rfl
    | relative above m => rfl
  have noOp {m : Option Dotted} {after : List TokenKind} (text : String) :
      ((m.map Dotted.kinds).getD [] ++ .name "import" :: after).head? ≠ some (.op text) := by
    cases m with
    | none => simp
    | some m => simp [Dotted.kinds]
  have names := takes_importedNames first others bracketed ends noMore
  rw [ImportStatement.kinds, ImportSource.kinds, List.cons_append, List.append_assoc]
  refine Takes.token_bind ((takes_leadingDots source.level ?_).bind
    ((takes_module source.module? rfl).bind ?_))
  · intro text
    rw [List.append_assoc]
    exact noOp text
  · rw [given]
    exact Takes.bind_nothing takes_check (Takes.token_bind (names.map _))

/-! ## Lines -/

/-- The word that a statement begins with. -/
def ImportStatement.lead : ImportStatement → String
  | modules _ _ => "import"
  | names _ _ _ _ => "from"

theorem ImportStatement.exists_kinds (s : ImportStatement) :
    ∃ more, s.kinds = .name s.lead :: more := by
  cases s with
  | modules first others => exact ⟨_, rfl⟩
  | names source bracketed first others => exact ⟨_, rfl⟩

theorem takes_simpleStatement (r : Rules) (s : ImportStatement) (after : List TokenKind) :
    Takes (simpleStatement r) s.kinds s.stmt (.newline :: after) := by
  have ends : Closed (.newline :: after) := by simp [Closed]
  have noMore : (TokenKind.newline :: after).head? ≠ some (.op ",") := by simp
  obtain ⟨more, begins⟩ := s.exists_kinds
  rw [simpleStatement, begins]
  refine Takes.peek_bind fun t same => ?_
  rw [← begins]
  cases s with
  | modules first others =>
    simp only [same, ImportStatement.lead]
    exact takes_importModules first others ends noMore
  | names source bracketed first others =>
    simp only [same, ImportStatement.lead]
    exact takes_importFrom source bracketed first others ends noMore

theorem takes_simpleLine (r : Rules) (s : ImportStatement) (after : List TokenKind) :
    Takes (simpleLine r) (s.kinds ++ [.newline]) [s.stmt] after := by
  have noMore : (TokenKind.newline :: after).head? ≠ some (.op ";") := by simp
  have nothing : Refuses (do op ";"; simpleStatement r) (.newline :: after) :=
    Refuses.bind (refuses_token noMore)
  refine (takes_simpleStatement r s after).bind (Takes.bind_nothing nothing.many
    (Takes.bind_nothing (takes_skipOp_nothing noMore) ?_))
  exact (takes_token .newline).map fun _ => [s.stmt]

theorem takes_statement (r : Rules) (s : ImportStatement) (after : List TokenKind) :
    Takes (statement r) (s.kinds ++ [.newline]) [s.stmt] after := by
  have line := takes_simpleLine r s after
  obtain ⟨more, begins⟩ := s.exists_kinds
  rw [statement]
  rw [begins, List.cons_append] at line ⊢
  refine Takes.peek_bind fun t same => ?_
  cases s with
  | modules first others =>
    simp only [same, ImportStatement.lead]
    exact line
  | names source bracketed first others =>
    simp only [same, ImportStatement.lead]
    exact line

/-! ## The end of the source -/

section

variable {kinds : List TokenKind} (ends : kinds.head? = some .stop) (r : Rules)

include ends

theorem skips_op (text : String) : Takes (skipOp text) [] false kinds :=
  takes_skipOp_nothing (by rw [ends]; simp)

theorem skips_word (text : String) : Takes (skipWord text) [] false kinds :=
  takes_skipWord_nothing (by rw [ends]; simp)

theorem sees_no_word (text : String) : Takes (seesWord text) [] false kinds := by
  have seen : Takes (seesWord text) [] _ kinds := takes_sees (.name text)
  rwa [ends] at seen

theorem refuses_atom : Refuses (atom r) kinds := by
  refine refuses_peek_bind fun t same => ?_
  rw [ends] at same
  simp only [Option.some.inj same]
  exact refuses_fail

theorem refuses_factor : Refuses (factor r) kinds := by
  have power_refuses : Refuses (power r) kinds := by
    refine Refuses.bind ((skips_word ends "await").bind_refuses ?_)
    exact refuses_position_bind fun place => Refuses.bind (refuses_atom ends r)
  refine (skips_op ends "+").bind_refuses ?_
  refine (skips_op ends "-").bind_refuses ?_
  exact (skips_op ends "~").bind_refuses power_refuses

omit ends in
theorem refuses_leftChain {operators : List (String × BinaryOp)} {operand : Reader Expr}
    (first : Refuses operand kinds) : Refuses (leftChain operators operand) kinds :=
  Refuses.bind first

omit ends in
theorem refuses_boolChain {o : BoolOp} {text : String} {operand : Reader Expr}
    (first : Refuses operand kinds) : Refuses (boolChain o text operand) kinds :=
  Refuses.bind first

/-- No expression begins with the end of the source, however deep expressions may nest. -/
theorem refuses_rules (depth : Nat) : Refuses (rules depth).factor kinds ∧
    Refuses (rules depth).inversion kinds ∧ Refuses (rules depth).expression kinds := by
  induction depth with
  | zero => exact ⟨refuses_fail, refuses_fail, refuses_fail⟩
  | succ depth ih =>
    obtain ⟨factor, inversion, -⟩ := ih
    refine ⟨refuses_factor ends (rules depth), ?_, ?_⟩
    · -- one chain of operands for each level of the operators of numbers
      have operands : Refuses (bitOr (rules depth)) kinds :=
        refuses_leftChain <| refuses_leftChain <| refuses_leftChain <| refuses_leftChain <|
          refuses_leftChain <| refuses_leftChain factor
      exact (skips_word ends "not").bind_refuses (Refuses.bind operands)
    · have body : Refuses (disjunction (rules depth)) kinds :=
        refuses_boolChain (refuses_boolChain inversion)
      exact (sees_no_word ends "lambda").bind_refuses (Refuses.bind body)

end

theorem refuses_statement_stop (depth : Nat) : Refuses (statement (rules depth)) [.stop] := by
  have ends : [TokenKind.stop].head? = some .stop := rfl
  have starred : Refuses (starExpression (rules depth)) [.stop] :=
    (skips_op ends "*").bind_refuses (refuses_rules ends depth).2.2
  have several : Refuses (starExpressions (rules depth)) [.stop] :=
    Refuses.bind (Refuses.bind starred)
  have expression : Refuses (expressionStatement (rules depth)) [.stop] :=
    (sees_no_word ends "yield").bind_refuses (Refuses.bind several)
  have simple : Refuses (simpleStatement (rules depth)) [.stop] := by
    refine refuses_peek_bind fun t same => ?_
    simp only [Option.some.inj same]
    exact expression
  refine refuses_peek_bind fun t same => ?_
  simp only [Option.some.inj same]
  exact Refuses.bind simple

theorem takes_moduleBody (depth : Nat) (statements : List ImportStatement) :
    Takes (moduleBody (rules depth))
      (statements.flatMap (fun s => s.kinds ++ [.newline]) ++ [.stop])
      (statements.map ImportStatement.stmt) [] := by
  have lines := takes_many (fun _ => True) (fun _ _ => trivial) trivial
    (fun s => List.append_ne_nil_of_right_ne_nil _ (List.cons_ne_nil _ _))
    (fun s after _ => takes_statement (rules depth) s after) (refuses_statement_stop depth)
    statements
  have groups : (statements.map fun s => [s.stmt]).flatten =
      statements.map ImportStatement.stmt := by
    rw [← List.flatMap_def, List.map_eq_flatMap]
  have stop : Takes (do
      token .stop
      return (statements.map fun s => [s.stmt]).flatten) [.stop]
      (statements.map ImportStatement.stmt) [] := by
    rw [groups]
    exact (takes_token .stop).map fun _ => statements.map ImportStatement.stmt
  exact lines.bind stop

end

/-- Printed import statements are read as what they are. -/
theorem module?_printed (statements : List ImportStatement) {ending : String}
    (ended : ending = "" ∨ ending = "\n") :
    module? (printedImports statements ++ ending) = some (statements.map ImportStatement.stmt) := by
  obtain ⟨ts, cut, kinds⟩ := exists_tokens statements ended
  have fed : '\r' ∉ (printedImports statements ++ ending).toList :=
    not_mem_content ended (by decide) (by decide)
  have left : Left ts 0 (statements.flatMap (fun s => s.kinds ++ [.newline]) ++ [.stop] ++ []) := by
    rw [List.append_nil]
    exact kinds
  have read := takes_moduleBody (8 * (printedImports statements ++ ending).toList.length + 64)
    statements ts 0 left
  simp only [module?, Text.unifyLineEnds_of_fed fed, cut, Option.bind_eq_bind, Option.bind_some,
    read]
  rfl

/-- What passes over import statements changes nothing on them. -/
theorem foldlM_stmt {β : Type} {f : β → Stmt → Except Unwritable β}
    (each : ∀ b (s : ImportStatement), f b s.stmt = .ok b) (statements : List ImportStatement)
    (start : β) : (statements.map ImportStatement.stmt).foldlM f start = .ok start := by
  induction statements with
  | nil => rfl
  | cons s rest ih =>
    rw [List.map_cons, List.foldlM_cons]
    exact Outcome.bind_of_eq_ok (each start s) ih

/-- Such a source is analysed, and its imports are the entries of its statements. -/
theorem parse_printed (statements : List ImportStatement) {ending : String}
    (ended : ending = "" ∨ ending = "\n") (path : String) :
    ∃ a, parse (printedImports statements ++ ending) path = .ok a ∧
      a.imports = Table.gather (statements.flatMap ImportStatement.entries) := by
  have functions : functionTable false (statements.map ImportStatement.stmt) = .ok [] :=
    foldlM_stmt (fun t s => by cases s <;> rfl) statements []
  have classes : classTable (statements.map ImportStatement.stmt) = .ok [] :=
    foldlM_stmt (fun t s => by cases s <;> rfl) statements []
  have top : topLevel (statements.map ImportStatement.stmt) = .ok { line := 1 } := by
    have kept : (statements.map ImportStatement.stmt).filter (fun s => !s.isDefinition) =
        statements.map ImportStatement.stmt := by
      rw [List.filter_eq_self, List.forall_mem_map]
      intro s _
      cases s <;> rfl
    have silent (f : Callable) (s : ImportStatement) : recordCalls f s.stmt.calls = .ok f := by
      have none : s.stmt.calls = [] := by
        cases s <;> rfl
      rw [none, recordCalls, inOrder, List.mergeSort_nil]
      rfl
    rw [topLevel, kept]
    exact foldlM_stmt silent statements _
  have analysed : ∃ a, analyse (statements.map ImportStatement.stmt) path = .ok a ∧
      a.imports = importTable (statements.map ImportStatement.stmt) := by
    rw [analyse, functions, classes, top]
    exact ⟨_, rfl, rfl⟩
  obtain ⟨a, read, imports⟩ := analysed
  rw [importTable_stmt] at imports
  refine ⟨a, ?_, imports⟩
  simp only [parse, module?_printed statements ended, read]

end RepoSurvey.Python
