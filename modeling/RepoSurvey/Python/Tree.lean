import RepoSurvey.Python.Token

/-!
# Trees of Python

The tree of a source, as far as an analysis asks for it. Expressions are kept
whole, because some of them are written out again. Of statements the tree
keeps what they define and import, the expressions in them in order, and how
they nest.
-/

namespace RepoSurvey.Python

/-! ## Constants and operators -/

/-- A literal value. -/
inductive Constant where
  /-- The absent value. -/
  | none
  /-- A truth value. -/
  | bool (value : Bool)
  /-- Three dots. -/
  | ellipsis
  /-- An integer. -/
  | int (value : Nat)
  /-- A real number. -/
  | real (value : Float)
  /-- An imaginary number. -/
  | imaginary (value : Float)
  /-- A text; `marked` when its first literal starts with a `u`. -/
  | text (value : List Char) (marked : Bool)
  /-- Bytes. -/
  | bytes (value : List UInt8)
  deriving Inhabited

/-- The short-circuit operators. -/
inductive BoolOp where
  | and | or
  deriving Repr, DecidableEq

/-- The operators before one operand. -/
inductive UnaryOp where
  | not | invert | plus | minus
  deriving Repr, DecidableEq

/-- The arithmetic operators. -/
inductive BinaryOp where
  | add | sub | mul | matMul | div | mod | floorDiv | pow
  | shiftLeft | shiftRight | bitOr | bitXor | bitAnd
  deriving Repr, DecidableEq

/-- The comparisons. -/
inductive CompareOp where
  | eq | notEq | lt | le | gt | ge | is | isNot | isIn | notIn
  deriving Repr, DecidableEq

/-- What a parameter takes. -/
inductive ParamKind where
  /-- An argument by position only. -/
  | positionalOnly
  /-- An argument by position or by name. -/
  | positional
  /-- The further arguments by position. -/
  | rest
  /-- An argument by name only. -/
  | namedOnly
  /-- The further arguments by name. -/
  | namedRest
  deriving Repr, DecidableEq

/-! ## Expressions -/

mutual

/-- An expression. -/
inductive Expr where
  | name (id : String)
  | constant (value : Constant)
  | joined (parts : List Part)
  | attribute (value : Expr) (attr : String)
  | subscript (value index : Expr)
  | call (position : Position) (func : Expr) (args : List Expr) (keywords : List Keyword)
  | starred (value : Expr)
  | tuple (items : List Expr)
  | list (items : List Expr)
  | set (items : List Expr)
  | dict (entries : List Entry)
  | listComp (item : Expr) (clauses : List Clause)
  | setComp (item : Expr) (clauses : List Clause)
  | generator (item : Expr) (clauses : List Clause)
  | dictComp (key value : Expr) (clauses : List Clause)
  | slice (lower upper step : Option Expr)
  | boolean (op : BoolOp) (values : List Expr)
  | binary (left : Expr) (op : BinaryOp) (right : Expr)
  | unary (op : UnaryOp) (operand : Expr)
  | compare (first : Expr) (links : List Link)
  | named (target value : Expr)
  | lambda (params : List Param) (body : Expr)
  | conditional (test body orelse : Expr)
  | await (value : Expr)
  | yield (value : Option Expr)
  | yieldFrom (value : Expr)

/-- A piece of a formatted string: text, or a place with its conversion and format. -/
inductive Part where
  | text (value : List Char)
  | place (value : Expr) (conversion : Option Char) (format : Option (List Part))

/-- An argument by name, or the spread of a mapping when it has no name. -/
inductive Keyword where
  | mk (name : Option String) (value : Expr)

/-- An entry of a dictionary, or the spread of a mapping when it has no key. -/
inductive Entry where
  | mk (key : Option Expr) (value : Expr)

/-- A `for` clause of a comprehension with its conditions. -/
inductive Clause where
  | mk (isAsync : Bool) (target source : Expr) (conditions : List Expr)

/-- A comparison with the next operand. -/
inductive Link where
  | mk (op : CompareOp) (operand : Expr)

/-- A parameter. -/
inductive Param where
  | mk (kind : ParamKind) (name : String) (note default : Option Expr)

end

instance : Inhabited Expr := ⟨.constant .none⟩

/-- The kind of a parameter. -/
def Param.kind : Param → ParamKind
  | .mk kind _ _ _ => kind

/-- The name of a parameter. -/
def Param.name : Param → String
  | .mk _ name _ _ => name

/-! ## Statements -/

/-- A name with its local name, when it has one. -/
structure Alias where
  /-- The name. -/
  name : String
  /-- The local name. -/
  local? : Option String
  deriving Repr, DecidableEq

mutual

/-- A statement. -/
inductive Stmt where
  /-- A function with the line of its first keyword. -/
  | function (line : Nat) (isAsync : Bool) (name : String) (params : List Param)
      (returns : Option Expr) (decorators : List Expr) (body : List Stmt)
  /-- A class. -/
  | classDef (line : Nat) (name : String) (bases : List Expr) (keywords : List Keyword)
      (decorators : List Expr) (body : List Stmt)
  /-- An expression as a statement. -/
  | expression (value : Expr)
  /-- Another simple statement, by the expressions in it. -/
  | simple (parts : List Expr)
  /-- An import of modules. -/
  | importModules (names : List Alias)
  /-- An import of names from a module so many levels up. -/
  | importFrom (level : Nat) (module : String) (names : List Alias)
  /-- A compound statement, by the expressions in its head and its suites. -/
  | compound (heads : List Expr) (suites : List Suite)

/-- A suite of a compound statement. -/
inductive Suite where
  /-- Statements that belong to it directly. -/
  | body (statements : List Stmt)
  /-- A handler or a case, with the expressions in its head. -/
  | clause (heads : List Expr) (statements : List Stmt)

end

/-! ## Dotted names -/

/-- The parts of a chain of attributes on a name, when the expression is one. -/
def Expr.dotted? : Expr → Option (List String)
  | .name id => some [id]
  | .attribute value attr => value.dotted?.map (· ++ [attr])
  | _ => none

/-! ## Targets -/

mutual

/-- The expression can be assigned to; a star is allowed where `star` says so. -/
def Expr.isTarget (star : Bool) : Expr → Bool
  | .name _ => true
  | .attribute _ _ => true
  | .subscript _ _ => true
  | .starred value => star && value.isTarget false
  | .tuple items => areTargets items
  | .list items => areTargets items
  | _ => false

/-- Every expression can be assigned to, with or without a star. -/
def areTargets : List Expr → Bool
  | [] => true
  | e :: rest => e.isTarget true && areTargets rest

end

/-- The expression is a name, an attribute or a subscript. -/
def Expr.isSingleTarget : Expr → Bool
  | .name _ => true
  | .attribute _ _ => true
  | .subscript _ _ => true
  | _ => false

mutual

/-- The expression can be deleted. -/
def Expr.isDeletable : Expr → Bool
  | .name _ => true
  | .attribute _ _ => true
  | .subscript _ _ => true
  | .tuple items => areDeletable items
  | .list items => areDeletable items
  | _ => false

/-- Every expression can be deleted. -/
def areDeletable : List Expr → Bool
  | [] => true
  | e :: rest => e.isDeletable && areDeletable rest

end

end RepoSurvey.Python
