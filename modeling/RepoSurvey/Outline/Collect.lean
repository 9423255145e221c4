import RepoSurvey.Outline.Import

/-!
# The outline of a file

A walk over a syntax tree that collects imports, functions and classes. It
stops at every node that is one of these, so that what is defined inside a
function stays hidden; the methods of a class are collected by a walk of their
own through its body. Of several definitions under one key the first is kept.
-/

namespace RepoSurvey.Outline

/-- The part of a tree that a decorated definition decorates. -/
def decoratedKind : String := "decorated_definition"

/-- A declared variable. -/
def variableKind : String := "variable_declarator"

/-! ## Methods -/

mutual

/-- The methods in a part of a class body. -/
def methodsAt (g : Grammar) (source : ByteArray) : Node → List (String × Callable)
  | .mk kind start stop row field children =>
    let n := Node.mk kind start stop row field children
    let decorators := decoratorsOf source n
    let definition := if kind == decoratedKind then n.child? "definition" else none
    let target := definition.getD n
    if g.functions.contains target.kind then (functionOf? g source decorators target).toList
    else if g.classes.contains target.kind then []
    else if definition.isSome then methodsInDefinition g source children
    else methodsAmong g source children

/-- The methods in several parts of a class body. -/
def methodsAmong (g : Grammar) (source : ByteArray) : List Node → List (String × Callable)
  | [] => []
  | n :: rest => methodsAt g source n ++ methodsAmong g source rest

/-- The methods inside the first of several nodes that is a definition. -/
def methodsInDefinition (g : Grammar) (source : ByteArray) : List Node → List (String × Callable)
  | [] => []
  | .mk _ _ _ _ field children :: rest =>
    if field == some "definition" then methodsAmong g source children
    else methodsInDefinition g source rest

end

/-- The first entry of each key. -/
def firstEntries {α : Type} (entries : List (String × α)) : Table α :=
  entries.foldl (fun t (key, value) => Table.setNew t key value) []

/-- A base class that makes a component of a class. -/
def isComponentBase (base : String) : Bool :=
  Text.holds base "Component" || Text.endsWith base "Widget"

/-- The class that a node defines, with its name. -/
def classOf? (g : Grammar) (source : ByteArray) (decorators : List Decorator) (n : Node) :
    Option (String × ClassDef) :=
  let name := nameOf source n
  if name.isEmpty then none
  else
    let bases := basesOf g source n
    let body := (n.child? "body").getD n
    some (name, {
      line := n.line
      methods := firstEntries (methodsAmong g source body.children)
      bases := bases
      decorators := decorators
      isComponent := bases.any isComponentBase })

/-! ## Items -/

/-- What an outline consists of. -/
inductive Item where
  /-- An importing node with its text. -/
  | imported (text : String)
  /-- A function with its signature. -/
  | function (signature : String) (f : Callable)
  /-- A class with its name. -/
  | klass (name : String) (c : ClassDef)

/-- The item that a defining node gives. -/
def definitionItems (g : Grammar) (language : String) (source : ByteArray)
    (decorators : List Decorator) (n : Node) : List Item :=
  if g.classes.contains n.kind then
    match classOf? g source decorators n with
    | some (name, c) => [.klass name c]
    | none => []
  else match functionOf? g source decorators n with
    | some (signature, f) => [.function signature { f with
        isComponent :=
          Text.beginsUpper signature && (language == "javascript" || language == "typescript")
        isHook := beginsAsHook signature }]
    | none => []

mutual

/-- The items that a node gives, itself or by what is inside it. -/
def itemsAt (g : Grammar) (language : String) (source : ByteArray) : Node → List Item
  | .mk kind start stop row field children =>
    let n := Node.mk kind start stop row field children
    if g.imports.contains kind then [.imported (n.text source)]
    else if kind == decoratedKind then
      match n.child? "definition" with
      | some d => definitionItems g language source (decoratorsOf source n) d
      | none => []
    else if g.classes.contains kind || g.functions.contains kind then
      definitionItems g language source (decoratorsOf source n) n
    else if kind == variableKind && (functionValue? n).isSome then
      match functionValue? n with
      | some value =>
        match variableFunction? g source n value with
        | some (signature, f) => [.function signature f]
        | none => []
      | none => []
    else itemsAmong g language source children

/-- The items that several nodes give. -/
def itemsAmong (g : Grammar) (language : String) (source : ByteArray) : List Node → List Item
  | [] => []
  | n :: rest => itemsAt g language source n ++ itemsAmong g language source rest

end

/-- An analysis with one more item. -/
def addItem (a : FileAnalysis) : Item → FileAnalysis
  | .imported text => { a with imports := addImport a.language text a.imports }
  | .function signature f => { a with functions := a.functions.setNew signature f }
  | .klass name c => { a with classes := a.classes.setNew name c }

/-- The analysis of a file from its syntax tree. -/
def collect (g : Grammar) (language content path : String) (root : Node) : FileAnalysis :=
  (itemsAmong g language content.toUTF8 root.children).foldl addItem
    { path := path, language := language }

end RepoSurvey.Outline
