import RepoSurvey.Python.Literal
import RepoSurvey.Python.Reader

/-!
# The grammar of Python expressions

One reader for each rule, from the loosest operator down to the atoms. What a
rule needs from rules above it comes through a record of readers, `Rules`, so
each definition stands alone; the record is closed over a nesting depth where
the grammar is put together. Every use of the record comes after at least one
character of the source, so the length of the source is depth enough.
-/

namespace RepoSurvey.Python

/-- The readers that a rule may use for parts nested in it. -/
structure Rules where
  /-- An expression without commas and assignments. -/
  expression : Reader Expr
  /-- A negation or a comparison. -/
  inversion : Reader Expr
  /-- A signed operand or a power. -/
  factor : Reader Expr
  /-- An atom with its attributes, subscripts and calls. -/
  primary : Reader Expr
  /-- The source of a place in a formatted string, with where it starts. -/
  embedded : List Char → Position → Option Expr
  /-- A pattern of a case; the value lists the expressions in it. -/
  pattern : Reader (List Expr)
  /-- The suite of a compound statement after its colon. -/
  block : Reader (List Stmt)

open Reader

/-! ## Strings -/

/-- The value of adjacent string literals as it grows: finished pieces and the
text after them. -/
structure Joining where
  /-- Pieces in order, last first. -/
  parts : List Part := []
  /-- Text that is not yet a piece. -/
  text : List Char := []

/-- One more text. -/
def Joining.addText (j : Joining) (cs : List Char) : Joining :=
  { j with text := j.text ++ cs }

/-- The text so far becomes a piece. -/
def Joining.flush (j : Joining) : Joining :=
  if j.text.isEmpty then j else { parts := .text j.text :: j.parts, text := [] }

/-- The pieces in order. -/
def Joining.finish (j : Joining) : List Part :=
  j.flush.parts.reverse

mutual

/-- Reads the expressions in a raw piece and adds it. `place` tells where a
position in the body stands in the source. -/
def addPart (r : Rules) (place : Nat → Position) (j : Joining) : RawPart → Option Joining
  | .text cs => some (j.addText cs)
  | .place source offset echo conversion format => do
    let value ← r.embedded source (place offset)
    let format ← match format with
      | some parts => (addParts r place {} parts).map fun f => some f.finish
      | none => some none
    let j := (j.addText echo).flush
    return { j with parts := .place value conversion format :: j.parts }

/-- Reads the expressions in raw pieces and adds them in order. -/
def addParts (r : Rules) (place : Nat → Position) (j : Joining) : List RawPart → Option Joining
  | [] => some j
  | part :: rest => do
    let j ← addPart r place j part
    addParts r place j rest

end

/-- One text literal or formatted literal added to the value. -/
def addLiteral (r : Rules) (position : Position) (token : List Char) (j : Joining) :
    Option Joining :=
  let l := stringLiteral token
  if l.letters.format then do
    let parts ← formatParts? l.letters.raw l.body
    addParts r (fun i => position.afterAll (token.take (l.opening + i))) j parts
  else (textBody? l.letters.raw l.body).map j.addText

/-- Adjacent literals of text added in order. -/
def addLiterals (r : Rules) (j : Joining) : List (Position × List Char) → Option Joining
  | [] => some j
  | (position, token) :: rest => do
    let j ← addLiteral r position token j
    addLiterals r j rest

/-- The bytes of adjacent literals of bytes. -/
def joinBytes : List (List Char) → Option (List UInt8)
  | [] => some []
  | token :: rest => do
    let l := stringLiteral token
    let bytes ← bytesBody? l.letters.raw l.body
    let more ← joinBytes rest
    return bytes ++ more

/-- The value of adjacent string literals. Text and bytes do not mix. -/
def stringsValue (r : Rules) (literals : List (Position × List Char)) : Option Expr :=
  let letters := literals.map fun l => (stringLiteral l.2).letters
  if letters.all (·.bytes) then
    (joinBytes (literals.map (·.2))).map fun bytes => .constant (.bytes bytes)
  else if letters.any (·.bytes) then none
  else (addLiterals r {} literals).map fun j =>
    if letters.any (·.format) then .joined j.finish
    else
      let marked := (literals.head?.bind fun l => l.2.head?) == some 'u'
      .constant (.text j.text marked)

/-- Reads a string token. -/
def stringToken : Reader (Position × List Char) := fun ts i =>
  match ts[i]? with
  | some ⟨.string text, position⟩ => some ((position, text), i + 1)
  | _ => none

/-- Reads adjacent string literals. -/
def strings (r : Rules) : Reader Expr := do
  let literals ← many1 stringToken
  ofOption (stringsValue r literals)

/-- Reads a number. -/
def numberToken : Reader Constant := fun ts i =>
  match ts[i]? with
  | some ⟨.number text, _⟩ => (numberValue? text).map fun value => (value, i + 1)
  | _ => none

/-! ## Names and assignments inside expressions -/

/-- Reads an assignment inside an expression: a name and its value. -/
def assignmentExpression (r : Rules) : Reader Expr := do
  let target ← name
  op ":="
  let value ← r.expression
  return .named (.name target) value

/-- Reads an expression that no assignment follows. -/
def plainExpression (r : Rules) : Reader Expr := do
  let e ← r.expression
  check (!(← seesOp ":="))
  return e

/-- Reads an expression, perhaps with a name for it. -/
def namedExpression (r : Rules) : Reader Expr :=
  assignmentExpression r <|> plainExpression r

/-! ## Operators between operands -/

/-- Reads operands of one left-associative level. -/
def leftChain (operators : List (String × BinaryOp)) (operand : Reader Expr) : Reader Expr := do
  let first ← operand
  grow (fun left => do
    let t ← peek
    match t.kind with
    | .op text =>
      match operators.lookup text with
      | some o => do
        op text
        let right ← operand
        return .binary left o right
      | none => fail
    | _ => fail) first

/-- Reads a slice after its first colon. -/
def sliceTail (r : Rules) (lower : Option Expr) : Reader Expr := do
  let upper ← optional r.expression
  let stepped ← skipOp ":"
  let step ← if stepped then optional r.expression else pure none
  return .slice lower upper step

/-- Reads an item of a subscript: a slice or an expression, perhaps with a name. -/
def sliceItem (r : Rules) : Reader Expr :=
  (do op ":"; sliceTail r none) <|> assignmentExpression r <|>
  (do
    let e ← r.expression
    if ← skipOp ":" then sliceTail r (some e)
    else
      check (!(← seesOp ":="))
      return e)

/-- Reads a subscript item that may be starred. -/
def subscriptItem (r : Rules) : Reader Expr := do
  if ← skipOp "*" then
    let e ← r.expression
    return .starred e
  else sliceItem r

/-- Reads the inside of a subscript. -/
def subscriptItems (r : Rules) : Reader Expr := do
  let (items, trailing) ← commaList (subscriptItem r)
  match items, trailing with
  | [.starred e], _ => return .tuple [.starred e]
  | [e], false => return e
  | _, _ => return .tuple items

/-! ## Calls -/

/-- The arguments of a call as they are read, last first. -/
structure Arguments where
  /-- Arguments by position. -/
  args : List Expr := []
  /-- Arguments by name. -/
  keywords : List Keyword := []
  /-- A mapping was spread. -/
  spread : Bool := false

/-- Reads one more argument. After an argument by name none by position may
follow, and after a spread mapping no starred one either. -/
def argument (r : Rules) (a : Arguments) : Reader Arguments :=
  (do
    op "*"
    check (!a.spread)
    let e ← r.expression
    return { a with args := .starred e :: a.args }) <|>
  (do
    op "**"
    let e ← r.expression
    return { a with keywords := .mk none e :: a.keywords, spread := true }) <|>
  (do
    let key ← name
    op "="
    let e ← r.expression
    return { a with keywords := .mk (some key) e :: a.keywords }) <|>
  (do
    check a.keywords.isEmpty
    let e ← namedExpression r
    check (!(← seesOp "="))
    return { a with args := e :: a.args })

/-- Reads the arguments between the parentheses of a call, without them. -/
def arguments (r : Rules) : Reader Arguments := do
  let first ← argument r {}
  let all ← grow (fun a => do
    op ","
    argument r a) first
  let _ ← skipOp ","
  return all

/-- Reads the arguments that a class or a call may have. -/
def optionalArguments (r : Rules) : Reader (List Expr × List Keyword) := do
  if ← seesOp ")" then return ([], [])
  else
    let a ← arguments r
    return (a.args.reverse, a.keywords.reverse)

/-! ## Comprehensions and displays -/

/-- Reads a disjunction: the operands of `or`, each a conjunction. -/
def boolChain (o : BoolOp) (text : String) (operand : Reader Expr) : Reader Expr := do
  let first ← operand
  let rest ← many do
    word text
    operand
  return if rest.isEmpty then first else .boolean o (first :: rest)

/-- Reads operands of `and`. -/
def conjunction (r : Rules) : Reader Expr :=
  boolChain .and "and" r.inversion

/-- Reads operands of `or`. -/
def disjunction (r : Rules) : Reader Expr :=
  boolChain .or "or" (conjunction r)

/-- Reads one target, starred or not. -/
def starTarget (r : Rules) : Reader Expr := do
  let starred ← skipOp "*"
  let value ← r.primary
  let e := if starred then .starred value else value
  check (e.isTarget true)
  return e

/-- Reads targets separated by commas; several make a tuple. -/
def starTargets (r : Rules) : Reader Expr := do
  let (items, trailing) ← commaList (starTarget r)
  match items, trailing with
  | [e], false => return e
  | _, _ => return .tuple items

/-- Reads a clause of a comprehension. -/
def comprehensionClause (r : Rules) : Reader Clause := do
  let isAsync ← skipWord "async"
  word "for"
  let target ← starTargets r
  word "in"
  let source ← disjunction r
  let conditions ← many do
    word "if"
    disjunction r
  return .mk isAsync target source conditions

/-- Reads the clauses of a comprehension. -/
def comprehensionClauses (r : Rules) : Reader (List Clause) :=
  many1 (comprehensionClause r)

/-- A comprehension clause is at hand. -/
def seesClause : Reader Bool := do
  if ← seesWord "for" then return true else seesWord "async"

/-- The operators that bind more loosely than sums, loosest first. -/
def bitOr (r : Rules) : Reader Expr :=
  leftChain [("|", .bitOr)] <|
  leftChain [("^", .bitXor)] <|
  leftChain [("&", .bitAnd)] <|
  leftChain [("<<", .shiftLeft), (">>", .shiftRight)] <|
  leftChain [("+", .add), ("-", .sub)] <|
  leftChain [("*", .mul), ("/", .div), ("//", .floorDiv), ("%", .mod), ("@", .matMul)] r.factor

/-- Reads an expression that may be starred or named, as in a display. -/
def displayItem (r : Rules) : Reader Expr := do
  if ← skipOp "*" then return .starred (← bitOr r) else namedExpression r

/-- The item is starred. -/
def Expr.isStarred : Expr → Bool
  | .starred _ => true
  | _ => false

/-- Reads `yield` with what it yields. -/
def starExpression (r : Rules) : Reader Expr := do
  if ← skipOp "*" then return .starred (← bitOr r) else r.expression

/-- Reads expressions separated by commas; several make a tuple. -/
def starExpressions (r : Rules) : Reader Expr := do
  let (items, trailing) ← commaList (starExpression r)
  match items, trailing with
  | [e], false => return e
  | _, _ => return .tuple items

/-- Reads a `yield`. -/
def yieldExpression (r : Rules) : Reader Expr := do
  word "yield"
  if ← skipWord "from" then return .yieldFrom (← r.expression)
  else return .yield (← optional (starExpressions r))

/-- Reads what stands between parentheses after the opening one. -/
def parenthesized (r : Rules) : Reader Expr := do
  if ← skipOp ")" then return .tuple []
  else if ← seesWord "yield" then
    let e ← yieldExpression r
    op ")"
    return e
  else
    let first ← displayItem r
    if ← seesOp "," then
      let rest ← many do
        op ","
        displayItem r
      let _ ← skipOp ","
      op ")"
      return .tuple (first :: rest)
    else
      check (!first.isStarred)
      if ← seesClause then
        let clauses ← comprehensionClauses r
        op ")"
        return .generator first clauses
      else
        op ")"
        return first

/-- Reads what stands between square brackets after the opening one. -/
def bracketed (r : Rules) : Reader Expr := do
  if ← skipOp "]" then return .list []
  else
    let first ← displayItem r
    if ← seesClause then
      check (!first.isStarred)
      let clauses ← comprehensionClauses r
      op "]"
      return .listComp first clauses
    else
      let rest ← many do
        op ","
        displayItem r
      let _ ← skipOp ","
      op "]"
      return .list (first :: rest)

/-- Reads an entry of a dictionary. -/
def dictEntry (r : Rules) : Reader Entry := do
  if ← skipOp "**" then return .mk none (← bitOr r)
  else
    let key ← r.expression
    op ":"
    let value ← r.expression
    return .mk (some key) value

/-- Reads the rest of a dictionary or of its comprehension after the first entry. -/
def dictRest (r : Rules) (first : Entry) : Reader Expr := do
  match first, ← seesClause with
  | .mk (some key) value, true =>
    let clauses ← comprehensionClauses r
    op "\x7d"
    return .dictComp key value clauses
  | _, _ =>
    let rest ← many do
      op ","
      dictEntry r
    let _ ← skipOp ","
    op "\x7d"
    return .dict (first :: rest)

/-- Reads the rest of a set or of its comprehension after the first item. -/
def setRest (r : Rules) (first : Expr) : Reader Expr := do
  if ← seesClause then
    check (!first.isStarred)
    let clauses ← comprehensionClauses r
    op "\x7d"
    return .setComp first clauses
  else
    let rest ← many do
      op ","
      displayItem r
    let _ ← skipOp ","
    op "\x7d"
    return .set (first :: rest)

/-- Reads what stands between braces after the opening one. -/
def braced (r : Rules) : Reader Expr := do
  if ← skipOp "\x7d" then return .dict []
  else if ← seesOp "**" then dictRest r (← dictEntry r)
  else if ← skipOp "*" then setRest r (.starred (← bitOr r))
  else match ← optional (assignmentExpression r) with
    | some e => setRest r e
    | none =>
      let e ← r.expression
      if ← skipOp ":" then dictRest r (.mk (some e) (← r.expression))
      else
        check (!(← seesOp ":="))
        setRest r e

/-! ## Atoms and primaries -/

/-- Reads one of the constants that have names. -/
def namedConstant : Reader Expr :=
  (do word "None"; return .constant .none) <|>
  (do word "True"; return .constant (.bool true)) <|>
  (do word "False"; return .constant (.bool false))

/-- Reads an atom. -/
def atom (r : Rules) : Reader Expr := do
  let t ← peek
  match t.kind with
  | .name _ => namedConstant <|> (do return .name (← name))
  | .number _ => return .constant (← numberToken)
  | .string _ => strings r
  | .op "(" => do op "("; parenthesized r
  | .op "[" => do op "["; bracketed r
  | .op "\x7b" => do op "\x7b"; braced r
  | .op "..." => do op "..."; return .constant .ellipsis
  | _ => fail

/-- Reads the arguments of a call after the opening parenthesis, and the
closing one. A lone comprehension needs no parentheses of its own. -/
def callArguments (r : Rules) : Reader (List Expr × List Keyword) := do
  if ← skipOp ")" then return ([], [])
  else
    let first ← argument r {}
    match first.args, ← seesClause with
    | [e], true =>
      check (!e.isStarred)
      let clauses ← comprehensionClauses r
      op ")"
      return ([.generator e clauses], [])
    | _, _ =>
      let all ← grow (fun a => do
        op ","
        argument r a) first
      let _ ← skipOp ","
      op ")"
      return (all.args.reverse, all.keywords.reverse)

/-- Reads one more attribute, call or subscript. -/
def trailer (r : Rules) (start : Position) (e : Expr) : Reader Expr := do
  let t ← peek
  match t.kind with
  | .op "." => do
    op "."
    let attr ← name
    return .attribute e attr
  | .op "(" => do
    op "("
    let (args, keywords) ← callArguments r
    return .call start e args keywords
  | .op "[" => do
    op "["
    let index ← subscriptItems r
    op "]"
    return .subscript e index
  | _ => fail

/-- Reads an atom with its attributes, calls and subscripts. -/
def primary (r : Rules) : Reader Expr := do
  let start ← position
  let e ← atom r
  grow (trailer r start) e

/-- Reads a primary that may be awaited. -/
def awaited (r : Rules) : Reader Expr := do
  if ← skipWord "await" then return .await (← primary r) else primary r

/-- Reads a power. -/
def power (r : Rules) : Reader Expr := do
  let base ← awaited r
  if ← skipOp "**" then return .binary base .pow (← r.factor) else return base

/-- Reads a signed operand or a power. -/
def factor (r : Rules) : Reader Expr := do
  if ← skipOp "+" then return .unary .plus (← r.factor)
  else if ← skipOp "-" then return .unary .minus (← r.factor)
  else if ← skipOp "~" then return .unary .invert (← r.factor)
  else power r

/-! ## Comparisons and conditions -/

/-- Reads a comparison operator. -/
def compareOperator : Reader CompareOp := do
  let t ← peek
  match t.kind with
  | .op "==" => do op "=="; return .eq
  | .op "!=" => do op "!="; return .notEq
  | .op "<" => do op "<"; return .lt
  | .op "<=" => do op "<="; return .le
  | .op ">" => do op ">"; return .gt
  | .op ">=" => do op ">="; return .ge
  | .name "not" => do word "not"; word "in"; return .notIn
  | .name "in" => do word "in"; return .isIn
  | .name "is" => do
    word "is"
    if ← skipWord "not" then return .isNot else return .is
  | _ => fail

/-- Reads a comparison. -/
def comparison (r : Rules) : Reader Expr := do
  let first ← bitOr r
  let links ← many do
    let o ← compareOperator
    let e ← bitOr r
    return Link.mk o e
  return if links.isEmpty then first else .compare first links

/-- Reads a negation or a comparison. -/
def inversion (r : Rules) : Reader Expr := do
  if ← skipWord "not" then return .unary .not (← r.inversion) else comparison r

/-! ## Parameters -/

/-- The parameters as they are read. -/
structure ParamList where
  /-- The parameters so far, last first. -/
  params : List Param := []
  /-- A parameter by position had a default. -/
  defaults : Bool := false
  /-- The slash was read. -/
  slash : Bool := false
  /-- A star was read: from here on by name only. -/
  star : Bool := false
  /-- Nothing may follow. -/
  closed : Bool := false

/-- Reads a type note, where the grammar has them. -/
def paramNote (r : Rules) (noted starred : Bool) : Reader (Option Expr) := do
  if !noted then return none
  else if ← skipOp ":" then
    if starred then return some (← starExpression r) else return some (← r.expression)
  else return none

/-- The parameters before a slash take arguments by position only. -/
def Param.byPosition : Param → Param
  | .mk .positional name note value => .mk .positionalOnly name note value
  | p => p

/-- Reads one more parameter or mark. -/
def param (r : Rules) (noted : Bool) (l : ParamList) : Reader ParamList := do
  check (!l.closed)
  if ← skipOp "/" then
    check (!l.slash && !l.star && !l.params.isEmpty)
    return { l with params := l.params.map Param.byPosition, slash := true }
  else if ← skipOp "**" then
    let title ← name
    let note ← paramNote r noted false
    return { l with params := .mk .namedRest title note none :: l.params, closed := true }
  else if ← skipOp "*" then
    check (!l.star)
    if ← seesOp "," then
      -- A bare star needs a parameter after it.
      ahead do
        op ","
        name
      return { l with star := true }
    else
      let title ← name
      let note ← paramNote r noted true
      return { l with params := .mk .rest title note none :: l.params, star := true }
  else
    let title ← name
    let note ← paramNote r noted false
    let valued ← skipOp "="
    let value ← if valued then some <$> r.expression else pure none
    if l.star then return { l with params := .mk .namedOnly title note value :: l.params }
    else
      check (value.isSome || !l.defaults)
      return { l with
        params := .mk .positional title note value :: l.params
        defaults := l.defaults || value.isSome }

/-- Reads parameters up to what ends them; `noted` where they may have types. -/
def params (r : Rules) (noted : Bool) (terminator : String) : Reader (List Param) := do
  if ← seesOp terminator then return []
  else
    let first ← param r noted {}
    let all ← grow (fun l => do
      op ","
      param r noted l) first
    let _ ← skipOp ","
    check (← seesOp terminator)
    return all.params.reverse

/-- Reads a lambda. -/
def lambda (r : Rules) : Reader Expr := do
  word "lambda"
  let ps ← params r false ":"
  op ":"
  let body ← r.expression
  return .lambda ps body

/-- Reads an expression: a lambda, a condition with two results, or a disjunction. -/
def expression (r : Rules) : Reader Expr := do
  if ← seesWord "lambda" then lambda r
  else
    let body ← disjunction r
    if ← skipWord "if" then
      let test ← disjunction r
      word "else"
      let other ← r.expression
      return .conditional test body other
    else return body

end RepoSurvey.Python
