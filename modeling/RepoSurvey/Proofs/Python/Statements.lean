import RepoSurvey.Proofs.Python.Expressions

/-!
# What the rules of statements draw

The readers of statements draw their lines from the tokens that they pass, like
those of expressions. With them the grammar is closed: at every depth the readers for
nested parts do so (`drawn_rules`), by induction on the depth.
-/

namespace RepoSurvey.Python

open Reader

variable {r : Rules} {known : List Nat}

/-! ## Simple statements -/

theorem draws_assignedValue (h : r.Drawn) : Draws known (assignedValue r) := by
  unfold assignedValue
  refine (draws_seesWord "yield").bind fun yields => ?_
  split
  · exact draws_yieldExpression h
  · exact draws_starExpressions h

theorem draws_assignmentTail (h : r.Drawn) : Draws known (assignmentTail r) := by
  unfold assignmentTail
  refine (draws_assignedValue h).bind fun first => ?_
  refine (Draws.grow (by grind) fun parts => ?_).bind fun all => ?_
  · refine (draws_op "=").bind fun _ => ?_
    dsimp only
    split
    · refine (Draws.check _).bind fun _ => ?_
      exact (draws_assignedValue h).bind fun e => .pure (by grind)
    · exact Draws.fail.bind fun _ => (draws_assignedValue h).bind fun e => .pure (by grind)
  · refine (draws_seesOp "=").bind fun _ => ?_
    exact (Draws.check _).bind fun _ => .pure (by grind)

theorem draws_augmentedOperator : Draws known augmentedOperator := by
  unfold augmentedOperator
  refine draws_peek.bind fun t => ?_
  split
  · exact (Draws.check _).bind fun _ => draws_op _
  · exact .fail

theorem draws_expressionStatement (h : r.Drawn) : Draws known (expressionStatement r) := by
  unfold expressionStatement
  refine (draws_seesWord "yield").bind fun yields => ?_
  split
  · exact (draws_yieldExpression h).bind fun e => .pure (by grind)
  refine (draws_starExpressions h).bind fun e => ?_
  refine (draws_skipOp ":").bind fun noted => ?_
  split
  · refine (Draws.check _).bind fun _ => ?_
    refine h.expression.bind fun note => ?_
    refine (draws_skipOp "=").bind fun valued => ?_
    split
    · exact (draws_assignedValue h).bind fun value => .pure (by grind)
    · exact .pure (by grind)
  refine (draws_skipOp "=").bind fun assigned => ?_
  split
  · refine (Draws.check _).bind fun _ => ?_
    exact (draws_assignmentTail h).bind fun parts => .pure (by grind)
  refine draws_augmentedOperator.optional.bind fun changed => ?_
  split
  · refine (Draws.check _).bind fun _ => ?_
    exact (draws_assignedValue h).bind fun value => .pure (by grind)
  · exact .pure (by grind)

theorem draws_dottedName : Draws known dottedName := by
  unfold dottedName
  refine draws_name.bind fun first => ?_
  refine (Draws.many ((draws_op ".").bind fun _ => draws_name)).bind fun rest => ?_
  exact .pure (by grind)

theorem draws_aliased {p : Reader String} (h : ∀ {known}, Draws known p) :
    Draws known (aliased p) := by
  unfold aliased
  refine h.bind fun title => ?_
  refine (draws_skipWord "as").bind fun renamed => ?_
  split
  · exact draws_name.bind fun local? => .pure (by grind)
  · exact .pure (by grind)

theorem draws_importModules : Draws known importModules := by
  unfold importModules
  refine (draws_word "import").bind fun _ => ?_
  refine (draws_aliased draws_dottedName).bind fun first => ?_
  refine (Draws.many ?_).bind fun rest => ?_
  · exact (draws_op ",").bind fun _ => draws_aliased draws_dottedName
  · exact .pure (by grind)

theorem draws_leadingDots : Draws known leadingDots := by
  unfold leadingDots
  refine (Draws.many ?_).bind fun dots => .pure (by grind)
  refine (draws_skipOp "...").bind fun three => ?_
  split
  · exact .pure (by grind)
  · exact (draws_op ".").bind fun _ => .pure (by grind)

theorem draws_importedNames : Draws known importedNames := by
  have names {known : List Nat} : Draws known (aliased name) := draws_aliased draws_name
  unfold importedNames
  refine (draws_skipOp "*").bind fun starred => ?_
  split
  · exact .pure (by grind)
  refine (draws_skipOp "(").bind fun opened => ?_
  split
  · refine (draws_commaList fun _ => names).bind ?_
    rintro ⟨items, _⟩
    exact (draws_op ")").bind fun _ => .pure (by grind)
  · refine (draws_commaList fun _ => names).bind ?_
    rintro ⟨items, trailing⟩
    exact (Draws.check _).bind fun _ => .pure (by grind)

theorem draws_importFrom : Draws known importFrom := by
  unfold importFrom
  refine (draws_word "from").bind fun _ => ?_
  refine draws_leadingDots.bind fun level => ?_
  refine draws_dottedName.optional.bind fun module => ?_
  refine (Draws.check _).bind fun _ => ?_
  refine (draws_word "import").bind fun _ => ?_
  exact draws_importedNames.bind fun names => .pure (by grind)

theorem draws_deletionEnds : Draws known deletionEnds := by
  unfold deletionEnds
  refine (draws_seesOp ";").bind fun ended => ?_
  split
  · exact .pure (by grind)
  · exact draws_sees _

theorem draws_deletion (h : r.Drawn) : Draws known (deletion r) := by
  unfold deletion
  refine (draws_word "del").bind fun _ => ?_
  refine (draws_commaList fun _ => ?_).bind ?_
  · refine h.primary.bind fun e => ?_
    exact (Draws.check _).bind fun _ => .pure (by grind)
  · rintro ⟨items, _⟩
    refine draws_deletionEnds.bind fun _ => ?_
    exact (Draws.check _).bind fun _ => .pure (by grind)

theorem draws_nameList : Draws known nameList := by
  unfold nameList
  refine draws_name.bind fun _ => ?_
  refine (Draws.many ((draws_op ",").bind fun _ => draws_name)).bind fun _ => ?_
  exact .pure (by grind)

theorem draws_simpleStatement (h : r.Drawn) : Draws known (simpleStatement r) := by
  unfold simpleStatement
  refine draws_peek.bind fun t => ?_
  split
  · refine (draws_word "return").bind fun _ => ?_
    exact (draws_starExpressions h).optional.bind fun value => .pure (by cases value <;> grind)
  · exact draws_importModules
  · exact draws_importFrom
  · refine (draws_word "raise").bind fun _ => ?_
    refine h.expression.optional.bind fun raised => ?_
    split
    · exact .pure (by grind)
    refine (draws_skipWord "from").bind fun caused => ?_
    split
    · exact h.expression.bind fun cause => .pure (by grind)
    · exact .pure (by grind)
  · exact (draws_word "pass").bind fun _ => .pure (by grind)
  · exact (draws_word "break").bind fun _ => .pure (by grind)
  · exact (draws_word "continue").bind fun _ => .pure (by grind)
  · exact draws_deletion h
  · refine (draws_word "assert").bind fun _ => ?_
    refine h.expression.bind fun test => ?_
    refine (draws_skipOp ",").bind fun explained => ?_
    split
    · exact h.expression.bind fun message => .pure (by grind)
    · exact .pure (by grind)
  · refine (draws_word "global").bind fun _ => ?_
    exact draws_nameList.bind fun _ => .pure (by grind)
  · refine (draws_word "nonlocal").bind fun _ => ?_
    exact draws_nameList.bind fun _ => .pure (by grind)
  · exact draws_expressionStatement h

/-- Further statements on a line, each after a semicolon. -/
theorem draws_furtherStatement (h : r.Drawn) : Draws known (do op ";"; simpleStatement r) :=
  (draws_op ";").bind fun _ => draws_simpleStatement h

theorem draws_simpleLine (h : r.Drawn) : Draws known (simpleLine r) := by
  unfold simpleLine
  refine (draws_simpleStatement h).bind fun first => ?_
  refine (draws_furtherStatement h).many.bind fun rest => ?_
  refine (draws_skipOp ";").bind fun _ => ?_
  exact (draws_token _).bind fun _ => .pure (by grind)

/-! ## Patterns of cases -/

theorem draws_captureName : Draws known captureName := by
  unfold captureName
  refine draws_name.bind fun title => ?_
  refine (Draws.check _).bind fun _ => ?_
  refine (draws_seesOp ".").bind fun _ => ?_
  refine (draws_seesOp "(").bind fun _ => ?_
  refine (draws_seesOp "=").bind fun _ => ?_
  exact (Draws.check _).bind fun _ => .pure (by grind)

theorem draws_signedNumber : Draws known signedNumber := by
  unfold signedNumber
  exact (draws_skipOp "-").bind fun _ => draws_numberToken

theorem draws_numberPattern : Draws known numberPattern := by
  have second (first : Constant) (signed : Bool) {known : List Nat} : Draws known (do
      if signed then
        let second ← numberToken
        check (!first.isImaginary && second.isImaginary)) := by
    split
    · exact draws_numberToken.bind fun _ => .check _
    · exact .pure (by grind)
  unfold numberPattern
  refine draws_signedNumber.bind fun first => ?_
  refine (draws_skipOp "+").bind fun plus => ?_
  dsimp only
  split
  · exact Draws.bind (.pure (by grind)) fun signed => second first signed
  · exact (draws_skipOp "-").bind fun signed => second first signed

theorem draws_literalPattern (h : r.Drawn) : Draws known (literalPattern r) := by
  unfold literalPattern
  refine draws_peek.bind fun t => ?_
  split
  · exact (draws_strings h).bind fun e => .pure (by grind)
  · exact draws_numberPattern.bind fun _ => .pure (by grind)
  · exact draws_numberPattern.bind fun _ => .pure (by grind)
  · exact draws_namedConstant.bind fun _ => .pure (by grind)

theorem draws_attributeName : Draws known attributeName := by
  unfold attributeName
  refine draws_name.bind fun _ => ?_
  refine (Draws.many1 ((draws_op ".").bind fun _ => draws_name)).bind fun _ => ?_
  exact .pure (by grind)

theorem draws_starPattern (h : r.Drawn) : Draws known (starPattern r) := by
  unfold starPattern
  refine (draws_skipOp "*").bind fun starred => ?_
  split
  · refine .orElse ?_ ?_
    · exact (draws_word "_").bind fun _ => .pure (by grind)
    · exact draws_captureName.bind fun _ => .pure (by grind)
  · exact h.pattern.bind fun parts => .pure (by grind)

/-- The expressions of several patterns speak of the lines of the patterns. -/
@[grind →] theorem mem_lines_of_flatMap {items : List (Bool × List Expr)} {n : Nat}
    (mem : n ∈ lines (items.flatMap (·.2))) : n ∈ lines items := by
  obtain ⟨e, inside, mem⟩ := mem_lines_iff.mp mem
  obtain ⟨item, listed, inside⟩ := List.mem_flatMap.mp inside
  refine mem_lines_iff.mpr ⟨item, listed, List.mem_append_right _ ?_⟩
  exact mem_lines_iff.mpr ⟨e, inside, mem⟩

theorem draws_patternsUpTo (h : r.Drawn) (closer : String) :
    Draws known (patternsUpTo r closer) := by
  unfold patternsUpTo
  refine (draws_skipOp closer).bind fun empty => ?_
  split
  · exact .pure (by grind)
  refine (draws_commaList fun _ => draws_starPattern h).bind ?_
  rintro ⟨items, _⟩
  exact (draws_op closer).bind fun _ => .pure (by grind)

theorem draws_groupPattern (h : r.Drawn) : Draws known (groupPattern r) := by
  unfold groupPattern
  refine (draws_skipOp ")").bind fun empty => ?_
  split
  · exact .pure (by grind)
  refine (draws_commaList fun _ => draws_starPattern h).bind ?_
  rintro ⟨items, trailing⟩
  dsimp only
  split
  · refine (Draws.check _).bind fun _ => ?_
    exact (draws_op ")").bind fun _ => .pure (by grind)
  · exact (draws_op ")").bind fun _ => .pure (by grind)

theorem draws_mappingEntry (h : r.Drawn) : Draws known (mappingEntry r) := by
  unfold mappingEntry
  refine (draws_skipOp "**").bind fun spread => ?_
  split
  · exact draws_captureName.bind fun _ => .pure (by grind)
  refine Draws.bind (.orElse (draws_literalPattern h) ?_) fun key => ?_
  · exact draws_attributeName.bind fun _ => .pure (by grind)
  · refine (draws_op ":").bind fun _ => ?_
    exact h.pattern.bind fun value => .pure (by grind)

theorem draws_mappingPattern (h : r.Drawn) : Draws known (mappingPattern r) := by
  unfold mappingPattern
  refine (draws_skipOp "\x7d").bind fun empty => ?_
  split
  · exact .pure (by grind)
  refine (draws_commaList fun _ => draws_mappingEntry h).bind ?_
  rintro ⟨items, _⟩
  refine (Draws.check _).bind fun _ => ?_
  exact (draws_op "\x7d").bind fun _ => .pure (by grind)

theorem draws_classArgument (h : r.Drawn) : Draws known (classArgument r) := by
  unfold classArgument
  refine .orElse ?_ ?_
  · refine draws_name.bind fun _ => ?_
    refine (draws_op "=").bind fun _ => ?_
    exact h.pattern.bind fun value => .pure (by grind)
  · exact h.pattern.bind fun value => .pure (by grind)

theorem draws_classPattern (h : r.Drawn) : Draws known (classPattern r) := by
  unfold classPattern
  refine draws_dottedName.bind fun _ => ?_
  refine (draws_op "(").bind fun _ => ?_
  refine (draws_skipOp ")").bind fun empty => ?_
  split
  · exact .pure (by grind)
  refine (draws_commaList fun _ => draws_classArgument h).bind ?_
  rintro ⟨items, _⟩
  refine (Draws.check _).bind fun _ => ?_
  exact (draws_op ")").bind fun _ => .pure (by grind)

theorem draws_namePattern (h : r.Drawn) : Draws known (namePattern r) := by
  unfold namePattern
  refine .orElse ?_ (.orElse ?_ (.orElse (draws_classPattern h) ?_))
  · exact draws_captureName.bind fun _ => .pure (by grind)
  · exact (draws_word "_").bind fun _ => .pure (by grind)
  · refine draws_attributeName.bind fun _ => ?_
    refine (draws_seesOp "(").bind fun _ => ?_
    refine (draws_seesOp "=").bind fun _ => ?_
    exact (Draws.check _).bind fun _ => .pure (by grind)

theorem draws_closedPattern (h : r.Drawn) : Draws known (closedPattern r) := by
  unfold closedPattern
  refine draws_peek.bind fun t => ?_
  split
  · exact (draws_op "(").bind fun _ => draws_groupPattern h
  · exact (draws_op "[").bind fun _ => draws_patternsUpTo h "]"
  · exact (draws_op "\x7b").bind fun _ => draws_mappingPattern h
  · exact (draws_literalPattern h).orElse (draws_namePattern h)
  · exact draws_literalPattern h

@[grind →] theorem mem_lines_of_flatten {α : Type} [HasLines α] {groups : List (List α)} {n : Nat}
    (mem : n ∈ lines groups.flatten) : n ∈ lines groups := by
  obtain ⟨a, inside, mem⟩ := mem_lines_iff.mp mem
  obtain ⟨group, listed, inside⟩ := List.mem_flatten.mp inside
  exact mem_lines_iff.mpr ⟨group, listed, mem_lines_iff.mpr ⟨a, inside, mem⟩⟩

theorem draws_casePattern (h : r.Drawn) : Draws known (casePattern r) := by
  unfold casePattern
  refine (draws_closedPattern h).bind fun first => ?_
  refine (Draws.many ((draws_op "|").bind fun _ => draws_closedPattern h)).bind fun rest => ?_
  refine (draws_skipWord "as").bind fun titled => ?_
  split
  · exact draws_captureName.bind fun _ => .pure (by grind)
  · exact .pure (by grind)

theorem draws_casePatterns (h : r.Drawn) : Draws known (casePatterns r) := by
  unfold casePatterns
  refine (draws_commaList fun _ => draws_starPattern h).bind ?_
  rintro ⟨items, trailing⟩
  dsimp only
  split
  · exact (Draws.check _).bind fun _ => .pure (by grind)
  · exact .pure (by grind)

/-! ## Compound statements -/

theorem draws_suite (h : r.Drawn) : Draws known (suite r) := by
  unfold suite
  exact (draws_op ":").bind fun _ => h.block

theorem draws_elseSuite (h : r.Drawn) : Draws known (elseSuite r) := by
  unfold elseSuite
  refine (draws_skipWord "else").bind fun other => ?_
  split
  · exact (draws_suite h).bind fun body => .pure (by grind)
  · exact .pure (by grind)

theorem draws_ifTail (h : r.Drawn) (fuel : Nat) : Draws known (ifTail r fuel) := by
  induction fuel generalizing known with
  | zero => exact .fail
  | succ fuel ih =>
    unfold ifTail
    refine (draws_namedExpression h).bind fun test => ?_
    refine (draws_suite h).bind fun body => ?_
    refine (draws_skipWord "elif").bind fun chained => ?_
    split
    · exact ih.bind fun inner => .pure (by grind)
    · exact (draws_elseSuite h).bind fun other => .pure (by grind)

theorem draws_ifStatement (h : r.Drawn) : Draws known (ifStatement r) := by
  intro ts
  exact ((draws_word "if").bind fun _ => draws_ifTail h (ts.size + 1)) ts

theorem draws_whileStatement (h : r.Drawn) : Draws known (whileStatement r) := by
  unfold whileStatement
  refine (draws_word "while").bind fun _ => ?_
  refine (draws_namedExpression h).bind fun test => ?_
  refine (draws_suite h).bind fun body => ?_
  exact (draws_elseSuite h).bind fun other => .pure (by grind)

theorem draws_forStatement (h : r.Drawn) : Draws known (forStatement r) := by
  unfold forStatement
  refine (draws_word "for").bind fun _ => ?_
  refine (draws_starTargets h).bind fun target => ?_
  refine (draws_word "in").bind fun _ => ?_
  refine (draws_starExpressions h).bind fun source => ?_
  refine (draws_suite h).bind fun body => ?_
  exact (draws_elseSuite h).bind fun other => .pure (by grind)

theorem draws_withItem (h : r.Drawn) : Draws known (withItem r) := by
  unfold withItem
  refine h.expression.bind fun e => ?_
  refine (Draws.optional ?_).bind fun target => .pure (by cases target <;> grind)
  refine (draws_word "as").bind fun _ => ?_
  refine (draws_starTarget h).bind fun target => ?_
  refine (draws_seesOp ",").bind fun _ => ?_
  refine (draws_seesOp ")").bind fun _ => ?_
  refine (draws_seesOp ":").bind fun _ => ?_
  exact (Draws.check _).bind fun _ => .pure (by grind)

theorem draws_withItems (h : r.Drawn) : Draws known (withItems r) := by
  unfold withItems
  refine .orElse ?_ ?_
  · refine (draws_op "(").bind fun _ => ?_
    refine (draws_commaList fun _ => draws_withItem h).bind ?_
    rintro ⟨items, _⟩
    refine (draws_op ")").bind fun _ => ?_
    refine (draws_seesOp ":").bind fun _ => ?_
    exact (Draws.check _).bind fun _ => .pure (by grind)
  · refine (draws_commaList fun _ => draws_withItem h).bind ?_
    rintro ⟨items, trailing⟩
    exact (Draws.check _).bind fun _ => .pure (by grind)

theorem draws_withStatement (h : r.Drawn) : Draws known (withStatement r) := by
  unfold withStatement
  refine (draws_word "with").bind fun _ => ?_
  refine (draws_withItems h).bind fun heads => ?_
  exact (draws_suite h).bind fun body => .pure (by grind)

theorem draws_handler (h : r.Drawn) (grouped : Bool) : Draws known (handler r grouped) := by
  unfold handler
  refine (draws_word "except").bind fun _ => ?_
  extract_lets further
  have draws_further {known : List Nat} (u : Unit) : Draws known (further u) := by
    refine (draws_seesOp ":").bind fun bare => ?_
    split
    · exact (draws_suite h).bind fun body => .pure (by grind)
    refine h.expression.bind fun e => ?_
    refine (draws_skipWord "as").bind fun titled => ?_
    dsimp only
    split
    · exact draws_name.bind fun _ => (draws_suite h).bind fun body => .pure (by grind)
    · exact (draws_suite h).bind fun body => .pure (by grind)
  split
  · exact (draws_op "*").bind draws_further
  · exact draws_further ()

theorem draws_finallySuite (h : r.Drawn) : Draws known (finallySuite r) := by
  unfold finallySuite
  refine (draws_word "finally").bind fun _ => ?_
  exact (draws_suite h).bind fun body => .pure (by grind)

theorem draws_tryStatement (h : r.Drawn) : Draws known (tryStatement r) := by
  unfold tryStatement
  refine (draws_word "try").bind fun _ => ?_
  refine (draws_suite h).bind fun body => ?_
  refine (draws_finallySuite h).optional.bind fun last => ?_
  split
  · exact .pure (by grind)
  refine Draws.bind (.orElse ?_ ?_) fun handlers => ?_
  · exact (draws_handler h true).many1
  · exact (draws_handler h false).many1
  · refine (draws_elseSuite h).bind fun other => ?_
    exact (draws_finallySuite h).optional.bind fun last => .pure (by cases last <;> grind)

theorem takesSolid_and_draws_functionTail (h : r.Drawn) {line : Nat} {isAsync : Bool}
    {decorators : List Expr} (own : line ∈ known) (outer : ∀ n ∈ lines decorators, n ∈ known) :
    TakesSolid (functionTail r line isAsync decorators) ∧
      Draws known (functionTail r line isAsync decorators) := by
  unfold functionTail
  refine takesSolid_and_draws_word_bind fun _ => ?_
  refine draws_name.bind fun title => ?_
  refine (draws_op "(").bind fun _ => ?_
  refine (draws_params h true ")").bind fun ps => ?_
  refine (draws_op ")").bind fun _ => ?_
  refine (draws_skipOp "->").bind fun typed => ?_
  dsimp only
  split
  · refine h.expression.map_some.bind fun returns => ?_
    exact (draws_suite h).bind fun body => .pure (by grind)
  · refine Draws.bind (.pure (by grind)) fun returns => ?_
    exact (draws_suite h).bind fun body => .pure (by grind)

theorem draws_functionStatement (h : r.Drawn) {decorators : List Expr}
    (outer : ∀ n ∈ lines decorators, n ∈ known) :
    Draws known (functionStatement r decorators) := by
  unfold functionStatement
  refine .position_bind fun start => ?_
  have tail (isAsync : Bool) :
      TakesSolid (functionTail r start.line isAsync decorators) ∧
        Draws (start.line :: known) (functionTail r start.line isAsync decorators) :=
    takesSolid_and_draws_functionTail h (by grind) (by grind)
  exact ⟨.skipWord_bind fun isAsync => (tail isAsync).1,
    (draws_skipWord "async").bind fun isAsync => (tail isAsync).2⟩

theorem draws_classStatement (h : r.Drawn) {decorators : List Expr}
    (outer : ∀ n ∈ lines decorators, n ∈ known) :
    Draws known (classStatement r decorators) := by
  unfold classStatement
  refine .position_bind fun start => takesSolid_and_draws_word_bind fun _ => ?_
  refine draws_name.bind fun title => ?_
  refine (draws_skipOp "(").bind fun opened => ?_
  dsimp only
  split
  · refine (draws_optionalArguments h).bind fun found => ?_
    refine (draws_op ")").bind fun _ => ?_
    refine Draws.bind (.pure (by grind)) fun arguments => ?_
    exact (draws_suite h).bind fun body => .pure (by grind)
  · refine Draws.bind (.pure (by grind)) fun arguments => ?_
    exact (draws_suite h).bind fun body => .pure (by grind)

theorem draws_decorator (h : r.Drawn) : Draws known (decorator r) := by
  unfold decorator
  refine (draws_op "@").bind fun _ => ?_
  refine (draws_namedExpression h).bind fun e => ?_
  exact (draws_token _).bind fun _ => .pure (by grind)

theorem draws_decorated (h : r.Drawn) : Draws known (decorated r) := by
  unfold decorated
  refine (draws_decorator h).many1.bind fun decorators => ?_
  refine (draws_seesWord "class").bind fun classed => ?_
  split
  · exact draws_classStatement h (by grind)
  · exact draws_functionStatement h (by grind)

theorem draws_asyncStatement (h : r.Drawn) : Draws known (asyncStatement r) := by
  unfold asyncStatement
  refine .orElse (draws_functionStatement h (by grind)) ?_
  exact (draws_word "async").bind fun _ => (draws_withStatement h).orElse (draws_forStatement h)

theorem draws_subject (h : r.Drawn) : Draws known (subject r) := by
  unfold subject
  refine (draws_commaList fun _ => draws_displayItem h).bind ?_
  rintro ⟨items, trailing⟩
  dsimp only
  split
  · exact (Draws.check _).bind fun _ => .pure (by grind)
  · exact .pure (by grind)

theorem draws_caseClause (h : r.Drawn) : Draws known (caseClause r) := by
  unfold caseClause
  refine (draws_word "case").bind fun _ => ?_
  refine (draws_casePatterns h).bind fun patterns => ?_
  refine (draws_skipWord "if").bind fun guarded => ?_
  dsimp only
  split
  · refine (draws_namedExpression h).map_some.bind fun guard => ?_
    exact (draws_suite h).bind fun body => .pure (by cases guard <;> grind)
  · refine Draws.bind (.pure (by grind)) fun guard => ?_
    exact (draws_suite h).bind fun body => .pure (by cases guard <;> grind)

theorem draws_matchStatement (h : r.Drawn) : Draws known (matchStatement r) := by
  unfold matchStatement
  refine (draws_word "match").bind fun _ => ?_
  refine (draws_subject h).bind fun e => ?_
  refine (draws_op ":").bind fun _ => ?_
  refine (draws_token _).bind fun _ => ?_
  refine (draws_token _).bind fun _ => ?_
  refine (draws_caseClause h).many1.bind fun cases => ?_
  exact (draws_token _).bind fun _ => .pure (by grind)

theorem draws_statement (h : r.Drawn) : Draws known (statement r) := by
  have one {p : Reader Stmt} (drawn : ∀ {known}, Draws known p) {known : List Nat} :
      Draws known (do return [← p]) :=
    drawn.bind fun s => .pure (by grind)
  unfold statement
  refine draws_peek.bind fun t => ?_
  split
  · exact one (draws_functionStatement h (by grind))
  · exact one (draws_classStatement h (by grind))
  · exact one (draws_decorated h)
  · exact one (draws_asyncStatement h)
  · exact one (draws_ifStatement h)
  · exact one (draws_whileStatement h)
  · exact one (draws_forStatement h)
  · exact one (draws_withStatement h)
  · exact one (draws_tryStatement h)
  · exact (one (draws_matchStatement h)).orElse (draws_simpleLine h)
  · exact draws_simpleLine h

theorem draws_block (h : r.Drawn) : Draws known (block r) := by
  unfold block
  refine (draws_sees _).bind fun indented => ?_
  split
  · refine (draws_token _).bind fun _ => ?_
    refine (draws_token _).bind fun _ => ?_
    refine (draws_statement h).many1.bind fun groups => ?_
    exact (draws_token _).bind fun _ => .pure (by grind)
  · exact draws_simpleLine h

/-! ## The grammar as a whole -/

/-- What is read from the source of a place is on its lines: the parentheses around it
add none. -/
theorem line_of_placeExpression (h : r.Drawn) {source : List Char} {position : Position} {e : Expr}
    (read : placeExpression r source position = some e) :
    ∀ n ∈ lines e, position.line ≤ n ∧ n ≤ position.line + source.count '\n' := by
  obtain ⟨ts, cut, read⟩ := Option.bind_eq_some_iff.mp read
  obtain ⟨⟨e', j⟩, read, same⟩ := Option.bind_eq_some_iff.mp read
  cases same
  have laid := laid_of_tokensFrom cut
  have feeds : ('(' :: source ++ [')']).count '\n' = source.count '\n' := by
    rw [List.cons_append, List.count_cons_of_ne (by decide), List.count_append]
    rfl
  have drawn : Draws [] (starExpressions r) := draws_starExpressions h
  intro n mem
  obtain ⟨k, t, -, -, here, solid, low, high⟩ := ((drawn ts 0 e j read).2 n mem).resolve_left nofun
  obtain ⟨first, last⟩ := laid.within t (Array.mem_of_getElem? here) solid
  rw [feeds] at last
  exact ⟨Nat.le_trans first low, Nat.le_trans high last⟩

/-- At every depth the readers for nested parts draw their lines from the tokens. -/
theorem drawn_rules (depth : Nat) : (rules depth).Drawn := by
  induction depth with
  | zero =>
    exact ⟨.fail, .fail, .fail, .fail, nofun, .fail, .fail⟩
  | succ depth ih =>
    exact {
      expression := draws_expression ih
      inversion := draws_inversion ih
      factor := draws_factor ih
      primary := draws_primary ih
      embedded := line_of_placeExpression ih
      pattern := draws_casePattern ih
      block := draws_block ih }

end RepoSurvey.Python
