import RepoSurvey.Proofs.Python.Formatted

/-!
# What the rules of expressions draw

Every reader of the grammar of expressions draws its lines from the tokens that it
passes, when the readers that it uses for nested parts do (`Rules.Drawn`). There
is one lemma for each reader, and its proof follows the reader step by step.
-/

namespace RepoSurvey.Python

open Reader

instance : HasLines Arguments := ⟨fun a => lines a.args ++ lines a.keywords⟩
instance : HasLines ParamList := ⟨fun l => lines l.params⟩

@[grind =] theorem lines_arguments (a : Arguments) : lines a = lines a.args ++ lines a.keywords :=
  rfl

@[grind =] theorem lines_paramList (l : ParamList) : lines l = lines l.params :=
  rfl

section

variable {r : Rules} {known : List Nat}

theorem takesSolid_numberToken : TakesSolid numberToken := by
  intro ts i a j read
  unfold numberToken at read
  split at read
  next text position here =>
    obtain ⟨_, -, same⟩ := Option.map_eq_some_iff.mp read
    cases same
    exact ⟨Nat.lt_succ_self i, _, here, rfl⟩
  next => cases read

theorem draws_numberToken : Draws known numberToken := by
  intro ts i a j read
  unfold numberToken at read
  split at read
  · obtain ⟨_, -, same⟩ := Option.map_eq_some_iff.mp read
    cases same
    exact ⟨Nat.le_succ _, nofun⟩
  · cases read

/-! ## Names and assignments inside expressions -/

theorem draws_assignmentExpression (h : r.Drawn) : Draws known (assignmentExpression r) := by
  unfold assignmentExpression
  refine draws_name.bind fun target => ?_
  refine (draws_op ":=").bind fun _ => ?_
  refine h.expression.bind fun value => ?_
  exact .pure (by grind)

theorem draws_plainExpression (h : r.Drawn) : Draws known (plainExpression r) := by
  unfold plainExpression
  refine h.expression.bind fun e => ?_
  refine (draws_seesOp ":=").bind fun _ => ?_
  refine (Draws.check _).bind fun _ => ?_
  exact .pure (by grind)

theorem draws_namedExpression (h : r.Drawn) : Draws known (namedExpression r) :=
  (draws_assignmentExpression h).orElse (draws_plainExpression h)

/-! ## Operators between operands -/

theorem draws_leftChain {operators : List (String × BinaryOp)} {operand : Reader Expr}
    (h : ∀ {known}, Draws known operand) : Draws known (leftChain operators operand) := by
  unfold leftChain
  refine h.bind fun first => ?_
  refine .grow (by grind) fun left => ?_
  refine draws_peek.bind fun t => ?_
  split
  · split
    · refine (draws_op _).bind fun _ => ?_
      refine h.bind fun right => ?_
      exact .pure (by grind)
    · exact .fail
  · exact .fail

theorem draws_sliceTail (h : r.Drawn) {lower : Option Expr} (start : ∀ n ∈ lines lower, n ∈ known) :
    Draws known (sliceTail r lower) := by
  unfold sliceTail
  refine h.expression.optional.bind fun upper => ?_
  refine (draws_skipOp ":").bind fun stepped => ?_
  dsimp only
  split
  · exact h.expression.optional.bind fun step => .pure (by grind)
  · exact Draws.bind (.pure (by grind)) fun step => .pure (by grind)

theorem draws_sliceItem (h : r.Drawn) : Draws known (sliceItem r) := by
  unfold sliceItem
  refine .orElse ?_ (.orElse (draws_assignmentExpression h) ?_)
  · exact (draws_op ":").bind fun _ => draws_sliceTail h (by grind)
  · refine h.expression.bind fun e => ?_
    refine (draws_skipOp ":").bind fun sliced => ?_
    split
    · exact draws_sliceTail h (by grind)
    · refine (draws_seesOp ":=").bind fun _ => ?_
      refine (Draws.check _).bind fun _ => ?_
      exact .pure (by grind)

theorem draws_subscriptItem (h : r.Drawn) : Draws known (subscriptItem r) := by
  unfold subscriptItem
  refine (draws_skipOp "*").bind fun starred => ?_
  split
  · refine h.expression.bind fun e => ?_
    exact .pure (by grind)
  · exact draws_sliceItem h

theorem draws_subscriptItems (h : r.Drawn) : Draws known (subscriptItems r) := by
  unfold subscriptItems
  refine (draws_commaList fun _ => draws_subscriptItem h).bind ?_
  rintro ⟨items, trailing⟩
  dsimp only
  split <;> exact .pure (by grind)

/-! ## Calls -/

theorem draws_argument (h : r.Drawn) {a : Arguments} (start : ∀ n ∈ lines a, n ∈ known) :
    Draws known (argument r a) := by
  unfold argument
  refine .orElse ?_ (.orElse ?_ (.orElse ?_ ?_))
  · refine (draws_op "*").bind fun _ => ?_
    refine (Draws.check _).bind fun _ => ?_
    refine h.expression.bind fun e => ?_
    exact .pure (by grind)
  · refine (draws_op "**").bind fun _ => ?_
    refine h.expression.bind fun e => ?_
    exact .pure (by grind)
  · refine draws_name.bind fun key => ?_
    refine (draws_op "=").bind fun _ => ?_
    refine h.expression.bind fun e => ?_
    exact .pure (by grind)
  · refine (Draws.check _).bind fun _ => ?_
    refine (draws_namedExpression h).bind fun e => ?_
    refine (draws_seesOp "=").bind fun _ => ?_
    refine (Draws.check _).bind fun _ => ?_
    exact .pure (by grind)

theorem draws_arguments (h : r.Drawn) : Draws known (arguments r) := by
  unfold arguments
  refine (draws_argument h (by grind)).bind fun first => ?_
  refine (Draws.grow (by grind) fun a => ?_).bind fun all => ?_
  · exact (draws_op ",").bind fun _ => draws_argument h (by grind)
  · exact (draws_skipOp ",").bind fun _ => .pure (by grind)

theorem draws_optionalArguments (h : r.Drawn) : Draws known (optionalArguments r) := by
  unfold optionalArguments
  refine (draws_seesOp ")").bind fun closed => ?_
  split
  · exact .pure (by grind)
  · exact (draws_arguments h).bind fun a => .pure (by grind)

/-! ## Comprehensions and displays -/

theorem draws_boolChain {o : BoolOp} {text : String} {operand : Reader Expr}
    (h : ∀ {known}, Draws known operand) : Draws known (boolChain o text operand) := by
  unfold boolChain
  refine h.bind fun first => ?_
  refine (Draws.many ((draws_word text).bind fun _ => h)).bind fun rest => ?_
  refine .pure ?_
  split <;> grind

theorem draws_conjunction (h : r.Drawn) : Draws known (conjunction r) :=
  draws_boolChain h.inversion

theorem draws_disjunction (h : r.Drawn) : Draws known (disjunction r) :=
  draws_boolChain (draws_conjunction h)

theorem draws_starTarget (h : r.Drawn) : Draws known (starTarget r) := by
  unfold starTarget
  refine (draws_skipOp "*").bind fun starred => ?_
  refine h.primary.bind fun value => ?_
  refine (Draws.check _).bind fun _ => ?_
  refine .pure ?_
  split <;> grind

theorem draws_starTargets (h : r.Drawn) : Draws known (starTargets r) := by
  unfold starTargets
  refine (draws_commaList fun _ => draws_starTarget h).bind ?_
  rintro ⟨items, trailing⟩
  dsimp only
  split <;> exact .pure (by grind)

theorem draws_comprehensionClause (h : r.Drawn) : Draws known (comprehensionClause r) := by
  unfold comprehensionClause
  refine (draws_skipWord "async").bind fun isAsync => ?_
  refine (draws_word "for").bind fun _ => ?_
  refine (draws_starTargets h).bind fun target => ?_
  refine (draws_word "in").bind fun _ => ?_
  refine (draws_disjunction h).bind fun source => ?_
  refine (Draws.many ((draws_word "if").bind fun _ => draws_disjunction h)).bind
    fun conditions => ?_
  exact .pure (by grind)

theorem draws_comprehensionClauses (h : r.Drawn) : Draws known (comprehensionClauses r) :=
  (draws_comprehensionClause h).many1

theorem draws_seesClause : Draws known seesClause := by
  unfold seesClause
  refine (draws_seesWord "for").bind fun plain => ?_
  split
  · exact .pure nofun
  · exact draws_seesWord "async"

theorem draws_bitOr (h : r.Drawn) : Draws known (bitOr r) :=
  draws_leftChain (draws_leftChain (draws_leftChain (draws_leftChain (draws_leftChain
    (draws_leftChain h.factor)))))

theorem draws_displayItem (h : r.Drawn) : Draws known (displayItem r) := by
  unfold displayItem
  refine (draws_skipOp "*").bind fun starred => ?_
  split
  · exact (draws_bitOr h).bind fun e => .pure (by grind)
  · exact draws_namedExpression h

theorem draws_starExpression (h : r.Drawn) : Draws known (starExpression r) := by
  unfold starExpression
  refine (draws_skipOp "*").bind fun starred => ?_
  split
  · exact (draws_bitOr h).bind fun e => .pure (by grind)
  · exact h.expression

theorem draws_starExpressions (h : r.Drawn) : Draws known (starExpressions r) := by
  unfold starExpressions
  refine (draws_commaList fun _ => draws_starExpression h).bind ?_
  rintro ⟨items, trailing⟩
  dsimp only
  split <;> exact .pure (by grind)

theorem draws_yieldExpression (h : r.Drawn) : Draws known (yieldExpression r) := by
  unfold yieldExpression
  refine (draws_word "yield").bind fun _ => ?_
  refine (draws_skipWord "from").bind fun delegated => ?_
  split
  · exact h.expression.bind fun e => .pure (by grind)
  · exact (draws_starExpressions h).optional.bind fun e => .pure (by grind)

/-- Further items of a display, each after a comma. -/
theorem draws_displayItems (h : r.Drawn) : Draws known (many do op ","; displayItem r) :=
  .many ((draws_op ",").bind fun _ => draws_displayItem h)

theorem draws_parenthesized (h : r.Drawn) : Draws known (parenthesized r) := by
  unfold parenthesized
  refine (draws_skipOp ")").bind fun empty => ?_
  split
  · exact .pure (by grind)
  refine (draws_seesWord "yield").bind fun yields => ?_
  split
  · refine (draws_yieldExpression h).bind fun e => ?_
    exact (draws_op ")").bind fun _ => .pure (by grind)
  refine (draws_displayItem h).bind fun first => ?_
  refine (draws_seesOp ",").bind fun more => ?_
  split
  · refine (draws_displayItems h).bind fun rest => ?_
    refine (draws_skipOp ",").bind fun _ => ?_
    exact (draws_op ")").bind fun _ => .pure (by grind)
  refine (Draws.check _).bind fun _ => ?_
  refine draws_seesClause.bind fun comprehended => ?_
  split
  · refine (draws_comprehensionClauses h).bind fun clauses => ?_
    exact (draws_op ")").bind fun _ => .pure (by grind)
  · exact (draws_op ")").bind fun _ => .pure (by grind)

theorem draws_bracketed (h : r.Drawn) : Draws known (bracketed r) := by
  unfold bracketed
  refine (draws_skipOp "]").bind fun empty => ?_
  split
  · exact .pure (by grind)
  refine (draws_displayItem h).bind fun first => ?_
  refine draws_seesClause.bind fun comprehended => ?_
  split
  · refine (Draws.check _).bind fun _ => ?_
    refine (draws_comprehensionClauses h).bind fun clauses => ?_
    exact (draws_op "]").bind fun _ => .pure (by grind)
  · refine (draws_displayItems h).bind fun rest => ?_
    refine (draws_skipOp ",").bind fun _ => ?_
    exact (draws_op "]").bind fun _ => .pure (by grind)

theorem draws_dictEntry (h : r.Drawn) : Draws known (dictEntry r) := by
  unfold dictEntry
  refine (draws_skipOp "**").bind fun spread => ?_
  split
  · exact (draws_bitOr h).bind fun e => .pure (by grind)
  · refine h.expression.bind fun key => ?_
    refine (draws_op ":").bind fun _ => ?_
    exact h.expression.bind fun value => .pure (by grind)

theorem draws_dictRest (h : r.Drawn) {first : Entry} (start : ∀ n ∈ lines first, n ∈ known) :
    Draws known (dictRest r first) := by
  unfold dictRest
  refine draws_seesClause.bind fun comprehended => ?_
  split
  · refine (draws_comprehensionClauses h).bind fun clauses => ?_
    exact (draws_op "\x7d").bind fun _ => .pure (by grind)
  · refine (Draws.many ((draws_op ",").bind fun _ => draws_dictEntry h)).bind fun rest => ?_
    refine (draws_skipOp ",").bind fun _ => ?_
    exact (draws_op "\x7d").bind fun _ => .pure (by grind)

theorem draws_setRest (h : r.Drawn) {first : Expr} (start : ∀ n ∈ lines first, n ∈ known) :
    Draws known (setRest r first) := by
  unfold setRest
  refine draws_seesClause.bind fun comprehended => ?_
  split
  · refine (Draws.check _).bind fun _ => ?_
    refine (draws_comprehensionClauses h).bind fun clauses => ?_
    exact (draws_op "\x7d").bind fun _ => .pure (by grind)
  · refine (draws_displayItems h).bind fun rest => ?_
    refine (draws_skipOp ",").bind fun _ => ?_
    exact (draws_op "\x7d").bind fun _ => .pure (by grind)

theorem draws_braced (h : r.Drawn) : Draws known (braced r) := by
  unfold braced
  refine (draws_skipOp "\x7d").bind fun empty => ?_
  split
  · exact .pure (by grind)
  refine (draws_seesOp "**").bind fun spread => ?_
  split
  · exact (draws_dictEntry h).bind fun first => draws_dictRest h (by grind)
  refine (draws_skipOp "*").bind fun starred => ?_
  split
  · exact (draws_bitOr h).bind fun e => draws_setRest h (by grind)
  refine (draws_assignmentExpression h).optional.bind fun named => ?_
  split
  · exact draws_setRest h (by grind)
  · refine h.expression.bind fun e => ?_
    refine (draws_skipOp ":").bind fun keyed => ?_
    split
    · exact h.expression.bind fun value => draws_dictRest h (by grind)
    · refine (draws_seesOp ":=").bind fun _ => ?_
      exact (Draws.check _).bind fun _ => draws_setRest h (by grind)

/-! ## Atoms and primaries -/

theorem draws_namedConstant : Draws known namedConstant := by
  unfold namedConstant
  refine .orElse ?_ (.orElse ?_ ?_)
  · exact (draws_word "None").bind fun _ => .pure (by grind)
  · exact (draws_word "True").bind fun _ => .pure (by grind)
  · exact (draws_word "False").bind fun _ => .pure (by grind)

theorem draws_atom (h : r.Drawn) : Draws known (atom r) := by
  unfold atom
  refine draws_peek.bind fun t => ?_
  split
  · exact .orElse draws_namedConstant (draws_name.bind fun _ => .pure (by grind))
  · exact draws_numberToken.bind fun _ => .pure (by grind)
  · exact draws_strings h
  · exact (draws_op "(").bind fun _ => draws_parenthesized h
  · exact (draws_op "[").bind fun _ => draws_bracketed h
  · exact (draws_op "\x7b").bind fun _ => draws_braced h
  · exact (draws_op "...").bind fun _ => .pure (by grind)
  · exact .fail

theorem draws_callArguments (h : r.Drawn) : Draws known (callArguments r) := by
  unfold callArguments
  refine (draws_skipOp ")").bind fun empty => ?_
  split
  · exact .pure (by grind)
  refine (draws_argument h (by grind)).bind fun first => ?_
  refine draws_seesClause.bind fun comprehended => ?_
  split
  · refine (Draws.check _).bind fun _ => ?_
    refine (draws_comprehensionClauses h).bind fun clauses => ?_
    exact (draws_op ")").bind fun _ => .pure (by grind)
  · refine (Draws.grow (by grind) fun a => ?_).bind fun all => ?_
    · exact (draws_op ",").bind fun _ => draws_argument h (by grind)
    · refine (draws_skipOp ",").bind fun _ => ?_
      exact (draws_op ")").bind fun _ => .pure (by grind)

theorem draws_trailer (h : r.Drawn) {start : Position} {e : Expr} (own : start.line ∈ known)
    (inner : ∀ n ∈ lines e, n ∈ known) : Draws known (trailer r start e) := by
  unfold trailer
  refine draws_peek.bind fun t => ?_
  split
  · refine (draws_op ".").bind fun _ => ?_
    exact draws_name.bind fun attr => .pure (by grind)
  · refine (draws_op "(").bind fun _ => ?_
    refine (draws_callArguments h).bind ?_
    rintro ⟨args, keywords⟩
    exact .pure (by grind)
  · refine (draws_op "[").bind fun _ => ?_
    refine (draws_subscriptItems h).bind fun index => ?_
    exact (draws_op "]").bind fun _ => .pure (by grind)
  · exact .fail

theorem takesSolid_atom (h : r.Drawn) : TakesSolid (atom r) := by
  unfold atom
  refine .peek_bind fun t => ?_
  split
  · refine .orElse (.orElse ?_ (.orElse ?_ ?_)) ?_
    · exact (takesSolid_word "None").bind fun _ => ⟨[], .pure (by grind)⟩
    · exact (takesSolid_word "True").bind fun _ => ⟨[], .pure (by grind)⟩
    · exact (takesSolid_word "False").bind fun _ => ⟨[], .pure (by grind)⟩
    · exact takesSolid_name.bind fun _ => ⟨[], .pure (by grind)⟩
  · exact takesSolid_numberToken.bind fun _ => ⟨[], .pure (by grind)⟩
  · exact takesSolid_strings
  · exact (takesSolid_op "(").bind fun _ => ⟨[], draws_parenthesized h⟩
  · exact (takesSolid_op "[").bind fun _ => ⟨[], draws_bracketed h⟩
  · exact (takesSolid_op "\x7b").bind fun _ => ⟨[], draws_braced h⟩
  · exact (takesSolid_op "...").bind fun _ => ⟨[], .pure (by grind)⟩
  · exact nofun

theorem draws_primary (h : r.Drawn) : Draws known (primary r) := by
  have grows (start : Position) (e : Expr) {known : List Nat} (own : start.line ∈ known)
      (inner : ∀ n ∈ lines e, n ∈ known) : Draws known (grow (trailer r start) e) :=
    .grow inner fun a => draws_trailer h (by grind) (by grind)
  unfold primary
  refine .position_bind fun start => ⟨?_, ?_⟩
  · exact (takesSolid_atom h).bind fun e =>
      ⟨start.line :: lines e, grows start e (by grind) (by grind)⟩
  · exact (draws_atom h).bind fun e => grows start e (by grind) (by grind)

theorem draws_awaited (h : r.Drawn) : Draws known (awaited r) := by
  unfold awaited
  refine (draws_skipWord "await").bind fun waits => ?_
  split
  · exact (draws_primary h).bind fun e => .pure (by grind)
  · exact draws_primary h

theorem draws_power (h : r.Drawn) : Draws known (power r) := by
  unfold power
  refine (draws_awaited h).bind fun base => ?_
  refine (draws_skipOp "**").bind fun raised => ?_
  split
  · exact h.factor.bind fun e => .pure (by grind)
  · exact .pure (by grind)

theorem draws_factor (h : r.Drawn) : Draws known (factor r) := by
  unfold factor
  refine (draws_skipOp "+").bind fun plus => ?_
  split
  · exact h.factor.bind fun e => .pure (by grind)
  refine (draws_skipOp "-").bind fun minus => ?_
  split
  · exact h.factor.bind fun e => .pure (by grind)
  refine (draws_skipOp "~").bind fun inverted => ?_
  split
  · exact h.factor.bind fun e => .pure (by grind)
  · exact draws_power h

/-! ## Comparisons and conditions -/

theorem draws_compareOperator : Draws known compareOperator := by
  unfold compareOperator
  refine draws_peek.bind fun t => ?_
  split
  · exact (draws_op "==").bind fun _ => .pure (by grind)
  · exact (draws_op "!=").bind fun _ => .pure (by grind)
  · exact (draws_op "<").bind fun _ => .pure (by grind)
  · exact (draws_op "<=").bind fun _ => .pure (by grind)
  · exact (draws_op ">").bind fun _ => .pure (by grind)
  · exact (draws_op ">=").bind fun _ => .pure (by grind)
  · refine (draws_word "not").bind fun _ => ?_
    exact (draws_word "in").bind fun _ => .pure (by grind)
  · exact (draws_word "in").bind fun _ => .pure (by grind)
  · refine (draws_word "is").bind fun _ => ?_
    refine (draws_skipWord "not").bind fun negated => ?_
    split <;> exact .pure (by grind)
  · exact .fail

theorem draws_comparison (h : r.Drawn) : Draws known (comparison r) := by
  unfold comparison
  refine (draws_bitOr h).bind fun first => ?_
  refine (Draws.many ?_).bind fun links => ?_
  · refine draws_compareOperator.bind fun o => ?_
    exact (draws_bitOr h).bind fun e => .pure (by grind)
  · refine .pure ?_
    split <;> grind

theorem draws_inversion (h : r.Drawn) : Draws known (inversion r) := by
  unfold inversion
  refine (draws_skipWord "not").bind fun negated => ?_
  split
  · exact h.inversion.bind fun e => .pure (by grind)
  · exact draws_comparison h

/-! ## Parameters -/

theorem draws_paramNote (h : r.Drawn) (noted starred : Bool) :
    Draws known (paramNote r noted starred) := by
  unfold paramNote
  split
  · exact .pure (by grind)
  refine (draws_skipOp ":").bind fun typed => ?_
  split
  · split
    · exact (draws_starExpression h).bind fun e => .pure (by grind)
    · exact h.expression.bind fun e => .pure (by grind)
  · exact .pure (by grind)

@[simp] theorem lines_byPosition (p : Param) : lines p.byPosition = lines p := by
  obtain ⟨kind, name, note, value⟩ := p
  cases kind <;> rfl

@[simp, grind =] theorem lines_map_byPosition (ps : List Param) :
    lines (ps.map Param.byPosition) = lines ps := by
  induction ps with
  | nil => rfl
  | cons p rest ih => rw [List.map_cons, lines_cons, lines_cons, ih, lines_byPosition]

theorem draws_param (h : r.Drawn) (noted : Bool) {l : ParamList}
    (start : ∀ n ∈ lines l, n ∈ known) : Draws known (param r noted l) := by
  unfold param
  refine (Draws.check _).bind fun _ => ?_
  refine (draws_skipOp "/").bind fun slash => ?_
  split
  · refine (Draws.check _).bind fun _ => ?_
    exact .pure (by grind)
  refine (draws_skipOp "**").bind fun spread => ?_
  split
  · refine draws_name.bind fun title => ?_
    refine (draws_paramNote h noted false).bind fun note => ?_
    exact .pure (by grind)
  refine (draws_skipOp "*").bind fun starred => ?_
  split
  · refine (Draws.check _).bind fun _ => ?_
    refine (draws_seesOp ",").bind fun bare => ?_
    split
    · refine (draws_ahead _).bind fun _ => ?_
      exact .pure (by grind)
    · refine draws_name.bind fun title => ?_
      refine (draws_paramNote h noted true).bind fun note => ?_
      exact .pure (by grind)
  refine draws_name.bind fun title => ?_
  refine (draws_paramNote h noted false).bind fun note => ?_
  refine (draws_skipOp "=").bind fun valued => ?_
  dsimp only
  split
  · refine h.expression.map_some.bind fun value => ?_
    split
    · exact .pure (by grind)
    · exact (Draws.check _).bind fun _ => .pure (by grind)
  · refine Draws.bind (.pure (by grind)) fun value => ?_
    split
    · exact .pure (by grind)
    · exact (Draws.check _).bind fun _ => .pure (by grind)

theorem draws_params (h : r.Drawn) (noted : Bool) (terminator : String) :
    Draws known (params r noted terminator) := by
  unfold params
  refine (draws_seesOp terminator).bind fun empty => ?_
  split
  · exact .pure (by grind)
  refine (draws_param h noted (by grind)).bind fun first => ?_
  refine (Draws.grow (by grind) fun l => ?_).bind fun all => ?_
  · exact (draws_op ",").bind fun _ => draws_param h noted (by grind)
  · refine (draws_skipOp ",").bind fun _ => ?_
    refine (draws_seesOp terminator).bind fun _ => ?_
    exact (Draws.check _).bind fun _ => .pure (by grind)

theorem draws_lambda (h : r.Drawn) : Draws known (lambda r) := by
  unfold lambda
  refine (draws_word "lambda").bind fun _ => ?_
  refine (draws_params h false ":").bind fun ps => ?_
  refine (draws_op ":").bind fun _ => ?_
  exact h.expression.bind fun body => .pure (by grind)

theorem draws_expression (h : r.Drawn) : Draws known (expression r) := by
  unfold expression
  refine (draws_seesWord "lambda").bind fun anonymous => ?_
  split
  · exact draws_lambda h
  refine (draws_disjunction h).bind fun body => ?_
  refine (draws_skipWord "if").bind fun conditional => ?_
  split
  · refine (draws_disjunction h).bind fun test => ?_
    refine (draws_word "else").bind fun _ => ?_
    exact h.expression.bind fun other => .pure (by grind)
  · exact .pure (by grind)

end

end RepoSurvey.Python
