import RepoSurvey.Python.Expression
import RepoSurvey.Text.Lines

/-!
# The grammar of Python statements

Simple statements, the compound statements with their suites, and the patterns
of cases. The grammar is closed here: `rules` ties the record of readers to a
nesting depth, and `module?` reads a whole source.
-/

namespace RepoSurvey.Python

open Reader

/-! ## Simple statements -/

/-- The operators that change a variable in place. -/
def augmentedOperators : List String :=
  ["+=", "-=", "*=", "@=", "/=", "%=", "&=", "|=", "^=", "<<=", ">>=", "**=", "//="]

/-- Reads what may stand on the right of an assignment. -/
def assignedValue (r : Rules) : Reader Expr := do
  if ← seesWord "yield" then yieldExpression r else starExpressions r

/-- Reads the further targets and the value of an assignment after its first
equals sign; `parts` holds the expressions so far, last first. -/
def assignmentTail (r : Rules) : Reader (List Expr) := do
  let first ← assignedValue r
  let all ← grow (fun parts => do
    op "="
    match parts with
    | e :: _ => check (e.isTarget true)
    | [] => fail
    return (← assignedValue r) :: parts) [first]
  check (!(← seesOp "="))
  return all.reverse

/-- Reads the operator of an assignment in place. -/
def augmentedOperator : Reader Unit := do
  let t ← peek
  match t.kind with
  | .op text => do
    check (augmentedOperators.contains text)
    op text
  | _ => fail

/-- Reads an assignment or an expression. -/
def expressionStatement (r : Rules) : Reader Stmt := do
  if ← seesWord "yield" then return .expression (← yieldExpression r)
  else
    let e ← starExpressions r
    if ← skipOp ":" then
      check e.isSingleTarget
      let note ← r.expression
      if ← skipOp "=" then return .simple [e, note, ← assignedValue r]
      else return .simple [e, note]
    else if ← skipOp "=" then
      check (e.isTarget true)
      return .simple (e :: (← assignmentTail r))
    else match ← optional augmentedOperator with
      | some _ =>
        check e.isSingleTarget
        return .simple [e, ← assignedValue r]
      | none => return .expression e

/-- Reads a dotted name. -/
def dottedName : Reader String := do
  let first ← name
  let rest ← many do
    op "."
    name
  return Text.join "." (first :: rest)

/-- Reads a name that may be given a local one. -/
def aliased (p : Reader String) : Reader Alias := do
  let title ← p
  let renamed ← skipWord "as"
  if renamed then return ⟨title, some (← name)⟩ else return ⟨title, none⟩

/-- Reads an import of modules. -/
def importModules : Reader Stmt := do
  word "import"
  let first ← aliased dottedName
  let rest ← many do
    op ","
    aliased dottedName
  return .importModules (first :: rest)

/-- Reads the dots in front of a module and counts them. -/
def leadingDots : Reader Nat := do
  let dots ← many do
    if ← skipOp "..." then return 3 else do op "."; return 1
  return dots.foldl (· + ·) 0

/-- Reads the names of an import from a module. -/
def importedNames : Reader (List Alias) := do
  if ← skipOp "*" then return [⟨"*", none⟩]
  else if ← skipOp "(" then
    let (names, _) ← commaList (aliased name)
    op ")"
    return names
  else
    let (names, trailing) ← commaList (aliased name)
    check (!trailing)
    return names

/-- Reads an import from a module. -/
def importFrom : Reader Stmt := do
  word "from"
  let level ← leadingDots
  let module ← optional dottedName
  check (level != 0 || module.isSome)
  word "import"
  return .importFrom level (module.getD "") (← importedNames)

/-- What ends a deletion. -/
def deletionEnds : Reader Bool := do
  if ← seesOp ";" then return true else sees .newline

/-- Reads a deletion. -/
def deletion (r : Rules) : Reader Stmt := do
  word "del"
  let (items, _) ← commaList do
    let e ← r.primary
    check e.isDeletable
    return e
  check (← deletionEnds)
  return .simple items

/-- Reads names separated by commas. -/
def nameList : Reader Unit := do
  let _ ← name
  let _ ← many do
    op ","
    name
  return ()

/-- Reads a simple statement. -/
def simpleStatement (r : Rules) : Reader Stmt := do
  let t ← peek
  match t.kind with
  | .name "return" => do
    word "return"
    return .simple (← optional (starExpressions r)).toList
  | .name "import" => importModules
  | .name "from" => importFrom
  | .name "raise" => do
    word "raise"
    match ← optional r.expression with
    | none => return .simple []
    | some e => if ← skipWord "from" then return .simple [e, ← r.expression] else return .simple [e]
  | .name "pass" => do word "pass"; return .simple []
  | .name "break" => do word "break"; return .simple []
  | .name "continue" => do word "continue"; return .simple []
  | .name "del" => deletion r
  | .name "assert" => do
    word "assert"
    let test ← r.expression
    if ← skipOp "," then return .simple [test, ← r.expression] else return .simple [test]
  | .name "global" => do word "global"; nameList; return .simple []
  | .name "nonlocal" => do word "nonlocal"; nameList; return .simple []
  | _ => expressionStatement r

/-- Reads the simple statements of one logical line. -/
def simpleLine (r : Rules) : Reader (List Stmt) := do
  let first ← simpleStatement r
  let rest ← many do
    op ";"
    simpleStatement r
  let _ ← skipOp ";"
  token .newline
  return first :: rest

/-! ## Patterns of cases -/

/-- Reads a name that a pattern binds. -/
def captureName : Reader String := do
  let title ← name
  check (title != "_")
  check (!(← seesOp ".") && !(← seesOp "(") && !(← seesOp "="))
  return title

/-- Reads a number with an optional sign. -/
def signedNumber : Reader Constant := do
  let _ ← skipOp "-"
  numberToken

/-- The number is imaginary. -/
def Constant.isImaginary : Constant → Bool
  | .imaginary _ => true
  | _ => false

/-- Reads a number, or the sum of a real and an imaginary one. -/
def numberPattern : Reader Unit := do
  let first ← signedNumber
  let signed ← if ← skipOp "+" then pure true else skipOp "-"
  if signed then
    let second ← numberToken
    check (!first.isImaginary && second.isImaginary)

/-- Reads a literal that a case compares with. -/
def literalPattern (r : Rules) : Reader (List Expr) := do
  let t ← peek
  match t.kind with
  | .string _ => return [← strings r]
  | .number _ => do numberPattern; return []
  | .op "-" => do numberPattern; return []
  | _ => do
    let _ ← namedConstant
    return []

/-- Reads a dotted name with at least one dot. -/
def attributeName : Reader Unit := do
  let _ ← name
  let _ ← many1 do
    op "."
    name
  return ()

/-- Reads a pattern that may be starred, and tells whether it was. -/
def starPattern (r : Rules) : Reader (Bool × List Expr) := do
  if ← skipOp "*" then
    (do word "_"; return (true, [])) <|> (do let _ ← captureName; return (true, []))
  else return (false, ← r.pattern)

/-- Reads patterns with commas between them up to a closing bracket. -/
def patternsUpTo (r : Rules) (closer : String) : Reader (List Expr) := do
  if ← skipOp closer then return []
  else
    let (items, _) ← commaList (starPattern r)
    op closer
    return items.flatMap (·.2)

/-- Reads what stands between parentheses after the opening one: a pattern or
a sequence of patterns. -/
def groupPattern (r : Rules) : Reader (List Expr) := do
  if ← skipOp ")" then return []
  else
    let (items, trailing) ← commaList (starPattern r)
    match items, trailing with
    | [(starred, _)], false => check (!starred)
    | _, _ => pure ()
    op ")"
    return items.flatMap (·.2)

/-- Reads an entry of a mapping pattern; the flag tells that it takes the rest. -/
def mappingEntry (r : Rules) : Reader (Bool × List Expr) := do
  if ← skipOp "**" then
    let _ ← captureName
    return (true, [])
  else
    let key ← literalPattern r <|> (do attributeName; return [])
    op ":"
    return (false, key ++ (← r.pattern))

/-- Reads a mapping pattern after its opening brace. -/
def mappingPattern (r : Rules) : Reader (List Expr) := do
  if ← skipOp "\x7d" then return []
  else
    let (items, _) ← commaList (mappingEntry r)
    check (items.dropLast.all fun item => !item.1)
    op "\x7d"
    return items.flatMap (·.2)

/-- Reads an argument of a class pattern; the flag tells that it has a name. -/
def classArgument (r : Rules) : Reader (Bool × List Expr) :=
  (do
    let _ ← name
    op "="
    return (true, ← r.pattern)) <|>
  (do return (false, ← r.pattern))

/-- Named arguments come after those by position. -/
def namedLast : List Bool → Bool
  | [] => true
  | true :: rest => rest.all id
  | false :: rest => namedLast rest

/-- Reads a class pattern. -/
def classPattern (r : Rules) : Reader (List Expr) := do
  let _ ← dottedName
  op "("
  if ← skipOp ")" then return []
  else
    let (items, _) ← commaList (classArgument r)
    check (namedLast (items.map (·.1)))
    op ")"
    return items.flatMap (·.2)

/-- Reads a pattern that begins with a name. -/
def namePattern (r : Rules) : Reader (List Expr) :=
  (do let _ ← captureName; return []) <|>
  (do word "_"; return []) <|>
  classPattern r <|>
  (do
    attributeName
    check (!(← seesOp "(") && !(← seesOp "="))
    return [])

/-- Reads a pattern without alternatives. -/
def closedPattern (r : Rules) : Reader (List Expr) := do
  let t ← peek
  match t.kind with
  | .op "(" => do op "("; groupPattern r
  | .op "[" => do op "["; patternsUpTo r "]"
  | .op "\x7b" => do op "\x7b"; mappingPattern r
  | .name _ => literalPattern r <|> namePattern r
  | _ => literalPattern r

/-- Reads a pattern: alternatives, perhaps with a name for what they match. -/
def casePattern (r : Rules) : Reader (List Expr) := do
  let first ← closedPattern r
  let rest ← many do
    op "|"
    closedPattern r
  if ← skipWord "as" then
    let _ ← captureName
  return first ++ rest.flatten

/-- Reads the patterns of a case; without brackets they are a sequence. -/
def casePatterns (r : Rules) : Reader (List Expr) := do
  let (items, trailing) ← commaList (starPattern r)
  match items, trailing with
  | [(starred, _)], false => check (!starred)
  | _, _ => pure ()
  return items.flatMap (·.2)

/-! ## Compound statements -/

/-- Reads a colon and the suite after it. -/
def suite (r : Rules) : Reader (List Stmt) := do
  op ":"
  r.block

/-- Reads an `else` with its suite, if there is one. -/
def elseSuite (r : Rules) : Reader (List Suite) := do
  if ← skipWord "else" then return [.body (← suite r)] else return []

/-- Reads a condition and what follows it; each `elif` nests in the one before. -/
def ifTail (r : Rules) : Nat → Reader Stmt
  | 0 => fail
  | fuel + 1 => do
    let test ← namedExpression r
    let body ← suite r
    if ← skipWord "elif" then
      let inner ← ifTail r fuel
      return .compound [test] [.body body, .body [inner]]
    else return .compound [test] (.body body :: (← elseSuite r))

/-- Reads a conditional statement. -/
def ifStatement (r : Rules) : Reader Stmt := fun ts i =>
  (do word "if"; ifTail r (ts.size + 1)) ts i

/-- Reads a `while` loop. -/
def whileStatement (r : Rules) : Reader Stmt := do
  word "while"
  let test ← namedExpression r
  let body ← suite r
  return .compound [test] (.body body :: (← elseSuite r))

/-- Reads a `for` loop. -/
def forStatement (r : Rules) : Reader Stmt := do
  word "for"
  let target ← starTargets r
  word "in"
  let source ← starExpressions r
  let body ← suite r
  return .compound [target, source] (.body body :: (← elseSuite r))

/-- Reads an item of a `with` statement. A target counts only when the item ends there. -/
def withItem (r : Rules) : Reader (List Expr) := do
  let e ← r.expression
  let target ← optional do
    word "as"
    let target ← starTarget r
    check ((← seesOp ",") || (← seesOp ")") || (← seesOp ":"))
    return target
  return e :: target.toList

/-- Reads the items of a `with` statement, up to its colon. -/
def withItems (r : Rules) : Reader (List Expr) :=
  (do
    op "("
    let (items, _) ← commaList (withItem r)
    op ")"
    check (← seesOp ":")
    return items.flatten) <|>
  (do
    let (items, trailing) ← commaList (withItem r)
    check (!trailing)
    return items.flatten)

/-- Reads a `with` statement. -/
def withStatement (r : Rules) : Reader Stmt := do
  word "with"
  let heads ← withItems r
  return .compound heads [.body (← suite r)]

/-- Reads a handler after `except`; `grouped` where a star stands before its class. -/
def handler (r : Rules) (grouped : Bool) : Reader Suite := do
  word "except"
  if grouped then op "*"
  if !grouped && (← seesOp ":") then return .clause [] (← suite r)
  else
    let e ← r.expression
    if ← skipWord "as" then
      let _ ← name
    return .clause [e] (← suite r)

/-- Reads a `finally` with its suite. -/
def finallySuite (r : Rules) : Reader Suite := do
  word "finally"
  return .body (← suite r)

/-- Reads a `try` statement. -/
def tryStatement (r : Rules) : Reader Stmt := do
  word "try"
  let body ← suite r
  match ← optional (finallySuite r) with
  | some last => return .compound [] [.body body, last]
  | none =>
    let handlers ← many1 (handler r true) <|> many1 (handler r false)
    let other ← elseSuite r
    let last ← optional (finallySuite r)
    return .compound [] (.body body :: handlers ++ other ++ last.toList)

/-- Reads a function after its first keyword, which stood on `line`. -/
def functionTail (r : Rules) (line : Nat) (isAsync : Bool) (decorators : List Expr) :
    Reader Stmt := do
  word "def"
  let title ← name
  op "("
  let ps ← params r true ")"
  op ")"
  let typed ← skipOp "->"
  let returns ← if typed then some <$> r.expression else pure none
  let body ← suite r
  return .function line isAsync title ps returns decorators body

/-- Reads a class. -/
def classStatement (r : Rules) (decorators : List Expr) : Reader Stmt := do
  let start ← position
  word "class"
  let title ← name
  let opened ← skipOp "("
  let (bases, keywords) ← if opened then do
      let found ← optionalArguments r
      op ")"
      pure found
    else pure ([], [])
  let body ← suite r
  return .classDef start.line title bases keywords decorators body

/-- Reads a function, asynchronous or not. -/
def functionStatement (r : Rules) (decorators : List Expr) : Reader Stmt := do
  let start ← position
  let isAsync ← skipWord "async"
  functionTail r start.line isAsync decorators

/-- Reads a decorator line. -/
def decorator (r : Rules) : Reader Expr := do
  op "@"
  let e ← namedExpression r
  token .newline
  return e

/-- Reads a decorated function or class. -/
def decorated (r : Rules) : Reader Stmt := do
  let decorators ← many1 (decorator r)
  if ← seesWord "class" then classStatement r decorators else functionStatement r decorators

/-- Reads an asynchronous statement. -/
def asyncStatement (r : Rules) : Reader Stmt := do
  functionStatement r [] <|> (do
    word "async"
    withStatement r <|> forStatement r)

/-- Reads what a `match` statement looks at. -/
def subject (r : Rules) : Reader Expr := do
  let (items, trailing) ← commaList (displayItem r)
  match items, trailing with
  | [e], false => do
    check (!e.isStarred)
    return e
  | _, _ => return .tuple items

/-- Reads a case of a `match` statement. -/
def caseClause (r : Rules) : Reader Suite := do
  word "case"
  let patterns ← casePatterns r
  let guarded ← skipWord "if"
  let guard ← if guarded then some <$> namedExpression r else pure none
  return .clause (patterns ++ guard.toList) (← suite r)

/-- Reads a `match` statement. -/
def matchStatement (r : Rules) : Reader Stmt := do
  word "match"
  let e ← subject r
  op ":"
  token .newline
  token .indent
  let cases ← many1 (caseClause r)
  token .dedent
  return .compound [e] cases

/-- Reads one statement, or the simple statements of one line. The word
`match` starts a statement of its own only where one can be read. -/
def statement (r : Rules) : Reader (List Stmt) := do
  let t ← peek
  match t.kind with
  | .name "def" => return [← functionStatement r []]
  | .name "class" => return [← classStatement r []]
  | .op "@" => return [← decorated r]
  | .name "async" => return [← asyncStatement r]
  | .name "if" => return [← ifStatement r]
  | .name "while" => return [← whileStatement r]
  | .name "for" => return [← forStatement r]
  | .name "with" => return [← withStatement r]
  | .name "try" => return [← tryStatement r]
  | .name "match" => (do return [← matchStatement r]) <|> simpleLine r
  | _ => simpleLine r

/-- Reads the suite after a colon: an indented block, or simple statements on the line. -/
def block (r : Rules) : Reader (List Stmt) := do
  if ← sees .newline then
    token .newline
    token .indent
    let groups ← many1 (statement r)
    token .dedent
    return groups.flatten
  else simpleLine r

/-! ## The grammar as a whole -/

/-- The source of a place in a formatted string, read by itself. -/
def placeExpression (r : Rules) (source : List Char) (position : Position) : Option Expr := do
  let before : Position := ⟨position.line, position.column - 1⟩
  let ts ← tokensFrom before ('(' :: source ++ [')'])
  let (e, _) ← starExpressions r ts 0
  return e

/-- The rules, with so many levels of nesting. -/
def rules : Nat → Rules
  | 0 => ⟨fail, fail, fail, fail, fun _ _ => none, fail, fail⟩
  | depth + 1 =>
    { expression := fun ts i => expression (rules depth) ts i
      inversion := fun ts i => inversion (rules depth) ts i
      factor := fun ts i => factor (rules depth) ts i
      primary := fun ts i => primary (rules depth) ts i
      embedded := fun source position => placeExpression (rules depth) source position
      pattern := fun ts i => casePattern (rules depth) ts i
      block := fun ts i => block (rules depth) ts i }

/-- Reads the statements of a whole source. -/
def moduleBody (r : Rules) : Reader (List Stmt) := do
  let groups ← many (statement r)
  token .stop
  return groups.flatten

/-- The statements of a source, when it follows the grammar. Lines may end in
any of the three ways. -/
def module? (source : String) : Option (List Stmt) := do
  let cs := Text.unifyLineEnds source.toList
  let ts ← tokens cs
  let (body, _) ← moduleBody (rules (8 * cs.length + 64)) ts 0
  return body

end RepoSurvey.Python
