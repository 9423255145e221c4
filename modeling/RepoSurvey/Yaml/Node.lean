import RepoSurvey.Yaml.Token

/-!
# Nodes of a YAML document

The tokens of a text are put together into nodes: scalars, sequences and
mappings, each with the tag it was given. An anchor names a node and an alias
stands for it, so a document is a graph and may even contain itself: nodes
refer to each other by number. A text holds at most one document.
-/

namespace RepoSurvey.Yaml

/-- The tag of a node as far as the text gives it. -/
inductive GivenTag where
  /-- A full tag. -/
  | named (name : String)
  /-- No tag, or the one that asks for none: the content decides. -/
  | free
  deriving Repr, DecidableEq

/-- What a node holds. -/
inductive Content where
  /-- A scalar; a plain one may stand for more than its text. -/
  | scalar (text : List Char) (plain : Bool)
  /-- A sequence of nodes. -/
  | sequence (items : List Nat)
  /-- Pairs of key and value. -/
  | mapping (entries : List (Nat × Nat))
  deriving Repr, DecidableEq

/-- A node. -/
structure Node where
  /-- Its tag. -/
  tag : GivenTag
  /-- What it holds. -/
  content : Content
  deriving Repr, DecidableEq

/-- The node without tag and text. -/
def Node.blank : Node :=
  { tag := .free, content := .scalar [] true }

/-- Why the tokens are no document. -/
inductive Refusal where
  /-- A token stands where it must not. -/
  | misplaced
  /-- The tokens end too early. -/
  | ranOut
  deriving Repr, DecidableEq

/-- What is left to read and what has been made of the rest. -/
structure Composer where
  /-- The tokens that are left. -/
  rest : List Token
  /-- The nodes so far. -/
  nodes : Array Node := #[]
  /-- The nodes that have a name. -/
  anchors : List (String × Nat) := []
  /-- What the handles of tags stand for. -/
  handles : List (String × String) := []

/-- A step of composing. -/
abbrev Compose := StateT Composer (Except Refusal)

/-! ## Tokens -/

/-- The token at hand. -/
def peekToken : Compose Token := do
  match (← get).rest with
  | t :: _ => pure t
  | [] => throw .ranOut

/-- Passes the token at hand. -/
def passToken : Compose Unit :=
  modify fun c => { c with rest := c.rest.drop 1 }

/-- The token at hand is one of `ts`. -/
def atAny (ts : List Token) : Compose Bool :=
  return ts.contains (← peekToken)

/-- Passes the token at hand when it is `t`, and tells whether it was. -/
def passIf (t : Token) : Compose Bool := do
  if (← peekToken) == t then
    passToken
    pure true
  else pure false

/-- Passes the token `t`, which must be at hand. -/
def expect (t : Token) : Compose Unit := do
  if !(← passIf t) then throw .misplaced

/-! ## Nodes -/

/-- Adds a node and gives its number. -/
def addNode (n : Node) : Compose Nat :=
  modifyGet fun c => (c.nodes.size, { c with nodes := c.nodes.push n })

/-- Gives a node its content. -/
def fill (number : Nat) (content : Content) : Compose Unit :=
  modify fun c => { c with nodes := c.nodes.modify number fun n => { n with content := content } }

/-- Adds a node under its anchor. -/
def addNamed (anchor : Option String) (n : Node) : Compose Nat := do
  let number ← addNode n
  match anchor with
  | some name => modify fun c => { c with anchors := (name, number) :: c.anchors }
  | none => pure ()
  return number

/-- The full tag that was written. -/
def fullTag (t : WrittenTag) : Compose String := do
  match t.handle with
  | none => return t.suffix
  | some handle =>
    match (← get).handles.lookup handle with
    | some base => return base ++ t.suffix
    | none => throw .misplaced

/-- An anchor at hand. -/
def anchorAtHand : Compose (Option String) := do
  match ← peekToken with
  | .anchor name =>
    passToken
    return some name
  | _ => return none

/-- A tag at hand. -/
def tagAtHand : Compose (Option WrittenTag) := do
  match ← peekToken with
  | .tag written =>
    passToken
    return some written
  | _ => return none

/-- Anchor and tag at hand, in either order. -/
def properties : Compose (Option String × Option WrittenTag) := do
  match ← anchorAtHand with
  | some name => return (some name, ← tagAtHand)
  | none =>
    match ← tagAtHand with
    | some written => return (← anchorAtHand, some written)
    | none => return (none, none)

/-- The node tag that a full tag asks for. -/
def givenTag : Option String → GivenTag
  | none => .free
  | some "!" => .free
  | some name => .named name

/-- Where a node stands. -/
inductive Position where
  /-- In a flow collection. -/
  | flow
  /-- In a block. -/
  | block
  /-- In a block mapping, where the entries of a sequence need no indentation. -/
  | entry
  deriving Repr, DecidableEq

mutual

/-- The node at hand, or an empty one before any of the tokens `ends`. -/
def nodeUnless (ends : List Token) (position : Position) : Nat → Compose Nat
  | 0 => throw .ranOut
  | fuel + 1 => do
    if ← atAny ends then addNode Node.blank else node position fuel

/-- The node at hand. -/
def node (position : Position) : Nat → Compose Nat
  | 0 => throw .ranOut
  | fuel + 1 => do
    match ← peekToken with
    | .alias name =>
      passToken
      match (← get).anchors.lookup name with
      | some number => return number
      | none => throw .misplaced
    | _ =>
      let (anchor, written) ← properties
      let full ← match written with
        | some t => (some <$> fullTag t : Compose (Option String))
        | none => pure none
      let named := (← get).anchors
      let taken := match anchor with
        | some name => (named.lookup name).isSome
        | none => false
      let tag := givenTag full
      let start (content : Content) : Compose Nat :=
        if taken then throw .misplaced else addNamed anchor { tag := tag, content := content }
      let inBlock := position != .flow
      match ← peekToken with
      | .blockEntry =>
        if position == .entry then
          let number ← start (.sequence [])
          let items ← looseItems [] fuel
          fill number (.sequence items)
          return number
        else emptyNode anchor full.isSome start
      | .scalar text plain =>
        passToken
        start (.scalar text ((plain && full.isNone) || full == some "!"))
      | .flowSequenceStart =>
        passToken
        let number ← start (.sequence [])
        let items ← flowItems [] true fuel
        fill number (.sequence items)
        return number
      | .flowMappingStart =>
        passToken
        let number ← start (.mapping [])
        let entries ← flowEntries [] true fuel
        fill number (.mapping entries)
        return number
      | .blockSequenceStart =>
        if inBlock then
          passToken
          let number ← start (.sequence [])
          let items ← blockItems [] fuel
          fill number (.sequence items)
          return number
        else emptyNode anchor full.isSome start
      | .blockMappingStart =>
        if inBlock then
          passToken
          let number ← start (.mapping [])
          let entries ← blockEntries [] fuel
          fill number (.mapping entries)
          return number
        else emptyNode anchor full.isSome start
      | _ => emptyNode anchor full.isSome start
where
  /-- A node of which only anchor or tag are written. -/
  emptyNode (anchor : Option String) (tagged : Bool) (start : Content → Compose Nat) :
      Compose Nat :=
    if anchor.isSome || tagged then start (.scalar [] true) else throw .misplaced

/-- The items of an indented block sequence. -/
def blockItems (items : List Nat) : Nat → Compose (List Nat)
  | 0 => throw .ranOut
  | fuel + 1 => do
    if ← passIf .blockEntry then
      let item ← nodeUnless [.blockEntry, .blockEnd] .block fuel
      blockItems (item :: items) fuel
    else
      expect .blockEnd
      return items.reverse

/-- The items of a block sequence that is not indented. -/
def looseItems (items : List Nat) : Nat → Compose (List Nat)
  | 0 => throw .ranOut
  | fuel + 1 => do
    if ← passIf .blockEntry then
      let item ← nodeUnless [.blockEntry, .key, .value, .blockEnd] .block fuel
      looseItems (item :: items) fuel
    else return items.reverse

/-- The entries of a block mapping. -/
def blockEntries (entries : List (Nat × Nat)) : Nat → Compose (List (Nat × Nat))
  | 0 => throw .ranOut
  | fuel + 1 => do
    if ← passIf .key then
      let key ← nodeUnless [.key, .value, .blockEnd] .entry fuel
      let value ← valueOf [.key, .value, .blockEnd] .entry fuel
      blockEntries ((key, value) :: entries) fuel
    else
      expect .blockEnd
      return entries.reverse

/-- The value after a key; an empty node when no colon follows. -/
def valueOf (ends : List Token) (position : Position) : Nat → Compose Nat
  | 0 => throw .ranOut
  | fuel + 1 => do
    if ← passIf .value then nodeUnless ends position fuel else addNode Node.blank

/-- The items of a flow sequence. -/
def flowItems (items : List Nat) (first : Bool) : Nat → Compose (List Nat)
  | 0 => throw .ranOut
  | fuel + 1 => do
    if ← passIf .flowSequenceEnd then return items.reverse
    if !first then expect .flowEntry
    if ← passIf .key then
      let pair ← addNode { tag := .free, content := .mapping [] }
      let key ← nodeUnless [.value, .flowEntry, .flowSequenceEnd] .flow fuel
      let value ← valueOf [.flowEntry, .flowSequenceEnd] .flow fuel
      fill pair (.mapping [(key, value)])
      flowItems (pair :: items) false fuel
    else if ← passIf .flowSequenceEnd then return items.reverse
    else
      let item ← node .flow fuel
      flowItems (item :: items) false fuel

/-- The entries of a flow mapping. -/
def flowEntries (entries : List (Nat × Nat)) (first : Bool) : Nat → Compose (List (Nat × Nat))
  | 0 => throw .ranOut
  | fuel + 1 => do
    if ← passIf .flowMappingEnd then return entries.reverse
    if !first then expect .flowEntry
    if ← passIf .key then
      let key ← nodeUnless [.value, .flowEntry, .flowMappingEnd] .flow fuel
      let value ← valueOf [.flowEntry, .flowMappingEnd] .flow fuel
      flowEntries ((key, value) :: entries) false fuel
    else if ← passIf .flowMappingEnd then return entries.reverse
    else
      let key ← node .flow fuel
      let value ← addNode Node.blank
      flowEntries ((key, value) :: entries) false fuel

end

/-! ## Documents -/

/-- What the handles stand for unless a directive says otherwise. -/
def defaultHandles : List (String × String) :=
  [("!", "!"), ("!!", "tag:yaml.org,2002:")]

/-- Reads the directives before a document; `versioned` holds after a version. -/
def directives (versioned : Bool) : Nat → Compose Unit
  | 0 => throw .ranOut
  | fuel + 1 => do
    match ← peekToken with
    | .versionDirective major =>
      if versioned || major != 1 then throw .misplaced
      passToken
      directives true fuel
    | .tagDirective handle base =>
      if ((← get).handles.lookup handle).isSome then throw .misplaced
      modify fun c => { c with handles := (handle, base) :: c.handles }
      passToken
      directives versioned fuel
    | .otherDirective =>
      passToken
      directives versioned fuel
    | _ => modify fun c => { c with handles := c.handles ++ defaultHandles }

/-- The token is part of a directive. -/
def isDirective : Token → Bool
  | .versionDirective _ => true
  | .tagDirective _ _ => true
  | .otherDirective => true
  | _ => false

/-- Passes marks at the end of a document. -/
def passEnds : Nat → Compose Unit
  | 0 => pure ()
  | fuel + 1 => do
    if ← passIf .documentEnd then passEnds fuel

/-- The document of a text; none when the text has none. -/
def document (fuel : Nat) : Compose (Option Nat) := do
  let first ← peekToken
  if first == .streamEnd then return none
  let root ←
    if isDirective first || first == .documentStart then do
      directives false fuel
      expect .documentStart
      let t ← peekToken
      if isDirective t || [.documentStart, .documentEnd, .streamEnd].contains t then
        addNode Node.blank
      else node .block fuel
    else do
      modify fun c => { c with handles := defaultHandles }
      node .block fuel
  passEnds fuel
  expect .streamEnd
  return some root

/-- The nodes of a document by number, and the number of its root. -/
structure Graph where
  /-- The nodes. -/
  nodes : Array Node
  /-- The root. -/
  root : Nat

/-- The node of a number. -/
def Graph.node (g : Graph) (number : Nat) : Node :=
  (g.nodes[number]?).getD Node.blank

/-- The nodes of the document that a text holds. -/
def compose (text : List Char) : Except Problem (Option Graph) :=
  let (found, problem) := tokens text
  let fuel := 4 * found.size + 8
  match (document fuel).run { rest := found.toList } with
  | .ok (root, c) => .ok (root.map fun r => { nodes := c.nodes, root := r })
  | .error .misplaced => .error .malformed
  | .error .ranOut => .error (problem.getD .malformed)

end RepoSurvey.Yaml
