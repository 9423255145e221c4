import RepoSurvey.Decimal.Shortest
import RepoSurvey.Decimal.Spelled
import RepoSurvey.Python.Tree
import RepoSurvey.Text.Cut
import RepoSurvey.Text.Quoted

/-!
# Expressions written out

The text of an expression in a uniform style: one blank around operators and
after commas, and parentheses where the nesting of operators asks for them.
Each operator has a rank; an operand of lower rank than its place demands is
put in parentheses.

Two expressions have no text: an integer with too many digits, and a
formatted string one of whose places needs a backslash.
-/

namespace RepoSurvey.Python

/-- Why an expression cannot be written out. -/
inductive Unwritable where
  /-- A place of a formatted string needs a backslash. -/
  | backslashInPlace
  /-- An integer has too many digits. -/
  | hugeInteger
  deriving Repr, DecidableEq

/-- The text in which each reason is reported. -/
def Unwritable.message : Unwritable → String
  | .backslashInPlace => "Unable to avoid backslash in f-string expression part"
  | .hugeInteger => Decimal.digitsMessage ""

/-! ## Ranks -/

/-- The rank of a named expression, which binds loosest. -/
def rankNamed : Nat := 1

/-- The rank of a tuple. -/
def rankTuple : Nat := 2

/-- The rank of a yield. -/
def rankYield : Nat := 3

/-- The rank of a conditional expression and a lambda. -/
def rankTest : Nat := 4

/-- The rank of a disjunction. -/
def rankOr : Nat := 5

/-- The rank of a conjunction. -/
def rankAnd : Nat := 6

/-- The rank of a negation. -/
def rankNot : Nat := 7

/-- The rank of a comparison. -/
def rankCompare : Nat := 8

/-- The rank of a bitwise or. -/
def rankBitOr : Nat := 9

/-- The rank of a bitwise exclusive or. -/
def rankBitXor : Nat := 10

/-- The rank of a bitwise and. -/
def rankBitAnd : Nat := 11

/-- The rank of a shift. -/
def rankShift : Nat := 12

/-- The rank of a sum. -/
def rankSum : Nat := 13

/-- The rank of a product. -/
def rankTerm : Nat := 14

/-- The rank of a sign. -/
def rankFactor : Nat := 15

/-- The rank of a power. -/
def rankPower : Nat := 16

/-- The rank of an awaited expression. -/
def rankAwait : Nat := 17

/-- The rank of an atom, which binds tightest. -/
def rankAtom : Nat := 18

/-- The rank above another; atoms have the highest. -/
def rankAbove (n : Nat) : Nat :=
  min (n + 1) rankAtom

/-- The text, in parentheses when its rank is below what the place demands. -/
def parenthesize (demanded rank : Nat) (text : String) : String :=
  if rank < demanded then "(" ++ text ++ ")" else text

/-- The text of an operator and its rank. -/
def BinaryOp.text : BinaryOp → String × Nat
  | .add => ("+", rankSum)
  | .sub => ("-", rankSum)
  | .mul => ("*", rankTerm)
  | .matMul => ("@", rankTerm)
  | .div => ("/", rankTerm)
  | .mod => ("%", rankTerm)
  | .floorDiv => ("//", rankTerm)
  | .pow => ("**", rankPower)
  | .shiftLeft => ("<<", rankShift)
  | .shiftRight => (">>", rankShift)
  | .bitOr => ("|", rankBitOr)
  | .bitXor => ("^", rankBitXor)
  | .bitAnd => ("&", rankBitAnd)

/-- The text of an operator before its operand, and its rank. -/
def UnaryOp.text : UnaryOp → String × Nat
  | .not => ("not ", rankNot)
  | .invert => ("~", rankFactor)
  | .plus => ("+", rankFactor)
  | .minus => ("-", rankFactor)

/-- The text of a comparison. -/
def CompareOp.text : CompareOp → String
  | .eq => "=="
  | .notEq => "!="
  | .lt => "<"
  | .le => "<="
  | .gt => ">"
  | .ge => ">="
  | .is => "is"
  | .isNot => "is not"
  | .isIn => "in"
  | .notIn => "not in"

/-! ## String literals -/

/-- The four kinds of quotes, in order of preference. -/
def allQuotes : List String := ["'", "\"", "\"\"\"", "'''"]

/-- Escapes what cannot stand as itself; line feeds and tabs only on request. -/
def escapeSome (whitespace : Bool) (cs : List Char) : List Char :=
  cs.flatMap fun c =>
    if !whitespace && (c == '\n' || c == '\t') then [c]
    else if c == '\\' || !Text.isPrintable c then Text.charEscape c
    else [c]

/-- The quotes are tripled. -/
def isTriple (quotes : String) : Bool :=
  quotes.length == 3

/-- The body of a literal with few escapes, and the quotes it may stand in,
best first, out of those offered. -/
def literalBody (offered : List String) (whitespace : Bool) (cs : List Char) :
    List Char × List String :=
  let escaped := escapeSome whitespace cs
  let fitting := if escaped.contains '\n' then offered.filter isTriple else offered
  let fitting := fitting.filter fun q => !Text.occursIn q.toList escaped
  match fitting with
  | [] =>
    let quote := Text.quoteFor cs
    let found := (offered.find? fun q => q.toList.contains quote).getD (String.singleton quote)
    (Text.quotedBody quote cs, [found])
  | _ =>
    match escaped.getLast? with
    | none => (escaped, fitting)
    | some last =>
      let clash (q : String) : Bool := q.toList.head? == some last
      let ordered := (fitting.filter fun q => !clash q) ++ fitting.filter clash
      if ordered.head?.any clash then (escaped.dropLast ++ ['\\', last], ordered)
      else (escaped, ordered)

/-- A literal with few escapes. -/
def literalText (cs : List Char) : String :=
  let (body, quotes) := literalBody allQuotes false cs
  let quote := quotes.headD "'"
  quote ++ String.ofList body ++ quote

/-- The pieces of a formatted string in common quotes; each piece comes with a
flag that tells plain text. Nothing when no quotes fit all pieces. -/
def joinPieces (offered : List String) (out : List Char) : List (List Char × Bool) → Option String
  | [] =>
    let quote := offered.headD "'"
    some (quote ++ String.ofList out ++ quote)
  | (cs, isText) :: rest =>
    let (body, quotes) := literalBody offered isText cs
    if quotes.any offered.contains then joinPieces quotes (out ++ body) rest else none

/-- The pieces of a formatted string in triple quotes, fully escaped. -/
def joinEscaped (pieces : List (List Char × Bool)) : String :=
  let body := pieces.flatMap fun (cs, _) => (Text.quotedBody '\x27' ('"' :: cs)).drop 1
  "'''" ++ String.ofList body ++ "'''"

/-! ## Constants -/

/-- The text of a real number; what is too large is written as a number that is. -/
def realText (x : Float) (format : Decimal.RealFormat) : String :=
  let text := format.text x
  if text == "inf" then "1e309" else text

/-- The text of a constant; `flat` where backslashes are avoided. -/
def Constant.write (flat : Bool) : Constant → Except Unwritable String
  | .none => .ok "None"
  | .bool b => .ok (if b then "True" else "False")
  | .ellipsis => .ok "..."
  | .int n =>
    match Decimal.integerText? n with
    | .some digits => .ok digits
    | .none => .error .hugeInteger
  | .real x => .ok (realText x Decimal.plainReal)
  | .imaginary x => .ok (realText x Decimal.barePlainReal ++ "j")
  | .text cs marked =>
    .ok ((if marked then "u" else "") ++
      (if flat then literalText cs else String.ofList (Text.quotedChars cs)))
  | .bytes bs => .ok (Text.quotedBytes bs)

/-- An attribute of an integer needs a blank before its dot. -/
def Expr.needsGap : Expr → Bool
  | .constant (.int _) => true
  | .constant (.bool _) => true
  | _ => false

/-- Doubles the braces of plain text in a formatted string. -/
def doubleBraces (cs : List Char) : List Char :=
  cs.flatMap fun c => if c == '{' || c == '}' then [c, c] else [c]

/-- Items between commas; a single one gets a comma after it. -/
def commaItems (items : List String) : String :=
  match items with
  | [item] => item ++ ","
  | _ => Text.join ", " items

/-- Parameters with the marks between their kinds. `slash` tells that a slash
is owed, `star` that a star has been written. -/
def placeMarks (slash star : Bool) : List (ParamKind × String) → List String
  | [] => if slash then ["/"] else []
  | (.positionalOnly, text) :: rest => text :: placeMarks true star rest
  | (kind, text) :: rest =>
    let before := if slash then ["/"] else []
    match kind with
    | .namedOnly => before ++ (if star then [text] else ["*", text]) ++ placeMarks false true rest
    | .rest => before ++ text :: placeMarks false true rest
    | _ => before ++ text :: placeMarks false star rest

/-- The stars in front of a parameter's name. -/
def ParamKind.stars : ParamKind → String
  | .rest => "*"
  | .namedRest => "**"
  | _ => ""

/-! ## Expressions -/

mutual

/-- The text of an expression in a place that demands a rank; `flat` where
backslashes are avoided. -/
def Expr.write (flat : Bool) (demanded : Nat) : Expr → Except Unwritable String
  | .name id => .ok id
  | .constant c => c.write flat
  | .joined parts => do
    let pieces ← writeParts flat parts
    if flat then return "f" ++ literalText (pieces.flatMap (·.1))
    else
      return "f" ++ (joinPieces allQuotes [] pieces).getD (joinEscaped pieces)
  | .attribute value attr => do
    let text ← value.write flat rankAtom
    return text ++ (if value.needsGap then " ." else ".") ++ attr
  | .subscript value index => do
    let text ← value.write flat rankAtom
    let inner ← match index with
      | .tuple (item :: items) => do
        let first ← item.write flat rankTest
        let others ← writeAll flat rankTest items
        pure (commaItems (first :: others))
      | e => e.write flat rankTest
    return text ++ "[" ++ inner ++ "]"
  | .call _ func args keywords => do
    let head ← func.write flat rankAtom
    let args ← writeAll flat rankTest args
    let keywords ← writeKeywords flat keywords
    return head ++ "(" ++ Text.join ", " (args ++ keywords) ++ ")"
  | .starred value => return "*" ++ (← value.write flat rankBitOr)
  | .tuple items => do
    let texts ← writeAll flat rankTest items
    let body := commaItems texts
    return if texts.isEmpty || rankTuple < demanded then "(" ++ body ++ ")" else body
  | .list items => return "[" ++ Text.join ", " (← writeAll flat rankTest items) ++ "]"
  | .set items => return "\x7b" ++ Text.join ", " (← writeAll flat rankTest items) ++ "\x7d"
  | .dict entries => return "\x7b" ++ Text.join ", " (← writeEntries flat entries) ++ "\x7d"
  | .listComp item clauses =>
    return "[" ++ (← item.write flat rankTest) ++ (← writeClauses flat clauses) ++ "]"
  | .setComp item clauses =>
    return "\x7b" ++ (← item.write flat rankTest) ++ (← writeClauses flat clauses) ++ "\x7d"
  | .generator item clauses =>
    return "(" ++ (← item.write flat rankTest) ++ (← writeClauses flat clauses) ++ ")"
  | .dictComp key value clauses =>
    return "\x7b" ++ (← key.write flat rankTest) ++ ": " ++ (← value.write flat rankTest) ++
      (← writeClauses flat clauses) ++ "\x7d"
  | .slice lower upper step => do
    let low ← writeOption flat lower
    let high ← writeOption flat upper
    let by_ ← writeOption flat step
    return low ++ ":" ++ high ++ (if step.isSome then ":" ++ by_ else "")
  | .boolean op values => do
    let (text, rank) := match op with
      | .and => (" and ", rankAnd)
      | .or => (" or ", rankOr)
    return parenthesize demanded rank (Text.join text (← writeRising flat (rankAbove rank) values))
  | .binary left op right => do
    let (text, rank) := op.text
    let rightward := op == .pow
    let l ← left.write flat (if rightward then rankAbove rank else rank)
    let r ← right.write flat (if rightward then rank else rankAbove rank)
    return parenthesize demanded rank (l ++ " " ++ text ++ " " ++ r)
  | .unary op operand => do
    let (text, rank) := op.text
    return parenthesize demanded rank (text ++ (← operand.write flat rank))
  | .compare first links => do
    let head ← first.write flat (rankAbove rankCompare)
    return parenthesize demanded rankCompare (head ++ (← writeLinks flat links))
  | .named target value => do
    let name ← target.write flat rankAtom
    let text ← value.write flat rankAtom
    return parenthesize demanded rankNamed (name ++ " := " ++ text)
  | .lambda params body => do
    let ps ← writeParams flat params
    let text ← body.write flat rankTest
    let head := Text.join ", " (placeMarks false false ps)
    return parenthesize demanded rankTest
      ("lambda" ++ (if head.isEmpty then "" else " " ++ head) ++ ": " ++ text)
  | .conditional test body orelse => do
    let yes ← body.write flat (rankAbove rankTest)
    let cond ← test.write flat (rankAbove rankTest)
    let no ← orelse.write flat rankTest
    return parenthesize demanded rankTest (yes ++ " if " ++ cond ++ " else " ++ no)
  | .await value =>
    return parenthesize demanded rankAwait ("await " ++ (← value.write flat rankAtom))
  | .yield none => return parenthesize demanded rankYield "yield"
  | .yield (some value) =>
    return parenthesize demanded rankYield ("yield " ++ (← value.write flat rankAtom))
  | .yieldFrom value =>
    return parenthesize demanded rankYield ("yield from " ++ (← value.write flat rankAtom))

/-- The texts of expressions in places that demand one rank. -/
def writeAll (flat : Bool) (demanded : Nat) : List Expr → Except Unwritable (List String)
  | [] => .ok []
  | e :: rest => return (← e.write flat demanded) :: (← writeAll flat demanded rest)

/-- The texts of expressions in places that demand ever higher ranks. -/
def writeRising (flat : Bool) (demanded : Nat) : List Expr → Except Unwritable (List String)
  | [] => .ok []
  | e :: rest => return (← e.write flat demanded) :: (← writeRising flat (rankAbove demanded) rest)

/-- The text of an expression that may be missing. -/
def writeOption (flat : Bool) : Option Expr → Except Unwritable String
  | none => .ok ""
  | some e => e.write flat rankTest

/-- A piece of a formatted string before it is quoted. -/
def writePart (flat : Bool) : Part → Except Unwritable (List Char)
  | .text cs => .ok (doubleBraces cs)
  | .place value conversion format => do
    let text ← value.write true (rankAbove rankTest)
    let cs := text.toList
    if cs.contains '\\' then throw .backslashInPlace
    let gap := if cs.head? == some '{' then [' '] else []
    let converted := match conversion with
      | some c => ['!', c]
      | none => []
    let format ← writeFormat flat format
    return '{' :: gap ++ cs ++ converted ++ format ++ ['}']

/-- The format of a place with its colon, when it has one. -/
def writeFormat (flat : Bool) : Option (List Part) → Except Unwritable (List Char)
  | none => .ok []
  | some parts => do
    let pieces ← writeParts flat parts
    return ':' :: pieces.flatMap (·.1)

/-- The pieces of a formatted string before they are quoted, each with a flag
that tells plain text. -/
def writeParts (flat : Bool) : List Part → Except Unwritable (List (List Char × Bool))
  | [] => .ok []
  | .text cs :: rest => return (doubleBraces cs, true) :: (← writeParts flat rest)
  | part :: rest => return ((← writePart flat part), false) :: (← writeParts flat rest)

/-- Arguments by name. -/
def writeKeywords (flat : Bool) : List Keyword → Except Unwritable (List String)
  | [] => .ok []
  | .mk (some name) value :: rest =>
    return (name ++ "=" ++ (← value.write flat rankTest)) :: (← writeKeywords flat rest)
  | .mk none value :: rest =>
    return ("**" ++ (← value.write flat rankTest)) :: (← writeKeywords flat rest)

/-- Entries of a dictionary. -/
def writeEntries (flat : Bool) : List Entry → Except Unwritable (List String)
  | [] => .ok []
  | .mk (some key) value :: rest => do
    let k ← key.write flat rankTest
    let v ← value.write flat rankTest
    return (k ++ ": " ++ v) :: (← writeEntries flat rest)
  | .mk none value :: rest =>
    return ("**" ++ (← value.write flat rankBitOr)) :: (← writeEntries flat rest)

/-- Clauses of a comprehension, each with a blank before it. -/
def writeClauses (flat : Bool) : List Clause → Except Unwritable String
  | [] => .ok ""
  | .mk isAsync target source conditions :: rest => do
    let t ← target.write flat rankTuple
    let s ← source.write flat (rankAbove rankTest)
    let cs ← writeAll flat (rankAbove rankTest) conditions
    let more ← writeClauses flat rest
    return (if isAsync then " async for " else " for ") ++ t ++ " in " ++ s ++
      Text.join "" (cs.map (" if " ++ ·)) ++ more

/-- Comparisons with their operands, each with a blank before it. -/
def writeLinks (flat : Bool) : List Link → Except Unwritable String
  | [] => .ok ""
  | .mk op operand :: rest => do
    let text ← operand.write flat (rankAbove rankCompare)
    return " " ++ op.text ++ " " ++ text ++ (← writeLinks flat rest)

/-- Parameters with their kinds. -/
def writeParams (flat : Bool) : List Param → Except Unwritable (List (ParamKind × String))
  | [] => .ok []
  | .mk kind name note value :: rest => do
    let typed ← writeOption flat note
    let given ← writeOption flat value
    let text := kind.stars ++ name ++ (if note.isSome then ": " ++ typed else "") ++
      (if value.isSome then "=" ++ given else "")
    return (kind, text) :: (← writeParams flat rest)

end

/-- The text of an expression that stands by itself. -/
def Expr.text (e : Expr) : Except Unwritable String :=
  e.write false rankTest

/-- The dotted name that the expression is, or else its text. -/
def Expr.dottedText (e : Expr) : Except Unwritable String :=
  match e.dotted? with
  | some names => .ok (Text.join "." names)
  | none => e.text

end RepoSurvey.Python
