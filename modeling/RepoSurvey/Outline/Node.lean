import RepoSurvey.Text.Decoding

/-!
# Syntax trees

A node of a syntax tree has a kind, a span of bytes in the source, the row it
starts on, perhaps the name of the field it fills in its parent, and children.
-/

namespace RepoSurvey.Outline

/-- A node of a syntax tree. -/
inductive Node where
  /-- Kind, first byte, byte after the last, row, field in the parent, children. -/
  | mk (kind : String) (start stop row : Nat) (field : Option String) (children : List Node)
  deriving Inhabited

namespace Node

/-- What kind of construct the node is. -/
def kind : Node → String
  | .mk kind _ _ _ _ _ => kind

/-- The first byte of the node. -/
def start : Node → Nat
  | .mk _ start _ _ _ _ => start

/-- The byte after the node. -/
def stop : Node → Nat
  | .mk _ _ stop _ _ _ => stop

/-- The row on which the node starts, counted from zero. -/
def row : Node → Nat
  | .mk _ _ _ row _ _ => row

/-- The field of the parent that the node fills. -/
def field : Node → Option String
  | .mk _ _ _ _ field _ => field

/-- The nodes inside. -/
def children : Node → List Node
  | .mk _ _ _ _ _ children => children

/-- The line on which the node starts. -/
def line (n : Node) : Int :=
  n.row + 1

/-- The first child that fills a field. -/
def child? (n : Node) (field : String) : Option Node :=
  n.children.find? fun c => c.field == some field

/-- The children of one of the kinds. -/
def childrenOf (n : Node) (kinds : List String) : List Node :=
  n.children.filter fun c => kinds.contains c.kind

/-- The source text of a node; bytes that are no characters are left out. -/
def text (source : ByteArray) (n : Node) : String :=
  Text.decodeIgnoring (source.extract n.start n.stop).toList

end Node

mutual

/-- The node that fills a field, the node that fills it inside that one, and so on. -/
def Node.chain (field : String) : Node → List Node
  | .mk _ _ _ _ _ children => chainAmong field children

/-- The chain that begins with the first of several nodes that fills a field. -/
def chainAmong (field : String) : List Node → List Node
  | [] => []
  | .mk kind start stop row f children :: rest =>
    if f == some field then .mk kind start stop row f children :: chainAmong field children
    else chainAmong field rest

end

end RepoSurvey.Outline
