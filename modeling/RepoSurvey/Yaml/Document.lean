import RepoSurvey.Yaml.Scalar

/-!
# YAML documents as data

Each node of a document becomes a datum. A mapping may merge others into
itself: their entries come first, so that its own win, and of several the one
merged first wins. Collections are filled after the collection they stand in,
in the order in which they were met; the first problem on that way is the
problem of the text. A key must not be a collection.
-/

namespace RepoSurvey.Yaml

/-- The value of a node. Collections refer to nodes by number, and a mapping
keeps its entries whose keys are texts. -/
inductive Datum where
  | null
  | bool (value : Bool)
  | int (value : Int)
  | float (value : Float)
  | text (value : String)
  | bytes (value : List UInt8)
  | date
  | sequence (items : List Nat)
  | mapping (entries : List (String × Nat))
  /-- A sequence of pairs. -/
  | pairs
  /-- A set. -/
  | set
  deriving Inhabited

/-- The datum cannot be a key. -/
def Datum.isCollection : Datum → Bool
  | .sequence _ => true
  | .mapping _ => true
  | .pairs => true
  | .set => true
  | _ => false

/-- The data of a document by node, and its root. -/
structure Document where
  /-- The data. -/
  data : Array Datum
  /-- The root. -/
  root : Nat

/-- The datum of a node. -/
def Document.datum (d : Document) (number : Nat) : Datum :=
  (d.data[number]?).getD .null

/-- The nodes that become data. -/
structure Builder where
  /-- The nodes, with merges carried out as they are met. -/
  graph : Graph
  /-- The data so far. -/
  data : Array (Option Datum)
  /-- The collections that still have to be filled, latest first. -/
  queue : List Nat := []

/-- A step of building data. -/
abbrev Build := StateT Builder (Except Problem)

/-- The node of a number. -/
def nodeOf (number : Nat) : Build Node :=
  return (← get).graph.node number

/-- Gives a node another content. -/
def setContent (number : Nat) (content : Content) : Build Unit :=
  modify fun b => { b with graph := { b.graph with
    nodes := b.graph.nodes.modify number fun n => { n with content := content } } }

/-- The entries of a mapping, or a problem. -/
def entriesOf (number : Nat) : Build (List (Nat × Nat)) := do
  match (← nodeOf number).content with
  | .mapping entries => return entries
  | _ => throw .malformed

/-- Keeps the datum of a node. -/
def setDatum (number : Nat) (datum : Datum) : Build Unit :=
  modify fun b => { b with data := b.data.setIfInBounds number (some datum) }

/-! ## Merging -/

/-- The mappings that a merge key names, in the order in which their entries come. -/
def mergeSources (number : Nat) : Build (List Nat) := do
  match (← nodeOf number).content with
  | .mapping _ => return [number]
  | .sequence items => return items.reverse
  | .scalar _ _ => throw .malformed

/-- Carries out the merges of a mapping. -/
def flatten (number : Nat) : Nat → Build Unit
  | 0 => throw .malformed
  | fuel + 1 => do
    let entries ← entriesOf number
    let kinds ← entries.mapM fun (key, _) => return (← nodeOf key).kind
    let marked := entries.zip kinds
    let own := (marked.filter fun (_, kind) => kind != .merge).map (·.1)
    let merged := (marked.filter fun (_, kind) => kind == .merge).map (·.1.2)
    setContent number (.mapping own)
    for (entry, kind) in marked do
      if kind == .default then
        modify fun b => { b with graph := { b.graph with
          nodes := b.graph.nodes.modify entry.1 fun n =>
            { n with tag := .named "tag:yaml.org,2002:str" } } }
    let sources ← merged.mapM mergeSources
    for group in sources do
      for source in group.reverse do flatten source fuel
    let before ← sources.flatten.mapM entriesOf
    if !merged.isEmpty then setContent number (.mapping (before.flatten ++ own))

/-! ## Scalars and collections -/

/-- The text of a scalar. A mapping may hold it under its default key. -/
def scalarText (number : Nat) : Nat → Build (List Char)
  | 0 => throw .malformed
  | fuel + 1 => do
    match (← nodeOf number).content with
    | .scalar text _ => return text
    | .sequence _ => throw .malformed
    | .mapping entries =>
      let named ← entries.filterM fun (key, _) => return (← nodeOf key).kind == .default
      match named with
      | (_, value) :: _ => scalarText value fuel
      | [] => throw .malformed

/-- The datum of a scalar of a kind; none for kinds of collections. -/
def scalarDatum? (kind : Kind) (text : List Char) : Except Problem (Option Datum) :=
  match kind with
  | .null => .ok (some .null)
  | .bool => (boolValue text).map fun b => some (.bool b)
  | .int => (intValue text).map fun n => some (.int n)
  | .float => (floatValue text).map fun x => some (.float x)
  | .bytes => (bytesValue text).map fun b => some (.bytes b)
  | .date => (dateValue text).map fun _ => some .date
  | .text => .ok (some (.text (String.ofList text)))
  | _ => .ok none

/-- What a collection of a kind is before it is filled. -/
def emptyDatum? : Kind → Option Datum
  | .sequence => some (.sequence [])
  | .mapping => some (.mapping [])
  | .set => some .set
  | .pairs => some .pairs
  | .orderedMap => some .pairs
  | _ => none

/-- The datum of a node. A collection is left to be filled later. -/
def build (number : Nat) : Build Datum := do
  let b ← get
  match (b.data[number]?).getD none with
  | some datum => return datum
  | none =>
    let kind := (b.graph.node number).kind
    match emptyDatum? kind with
    | some datum =>
      setDatum number datum
      modify fun b => { b with queue := number :: b.queue }
      return datum
    | none =>
      if kind == .merge || kind == .default || kind == .unknown then throw .malformed
      let text ← scalarText number (b.graph.nodes.size + 1)
      match scalarDatum? kind text with
      | .ok (some datum) =>
        setDatum number datum
        return datum
      | .ok none => throw .malformed
      | .error problem => throw problem

/-- The entries of a mapping whose keys are texts. -/
def buildEntries (number : Nat) : Build (List (String × Nat)) := do
  let _ ← entriesOf number
  flatten number ((← get).graph.nodes.size + 1)
  let entries ← entriesOf number
  let named ← entries.mapM fun (key, value) => do
    let datum ← build key
    if datum.isCollection then throw .malformed
    let _ ← build value
    match datum with
    | .text name => return [(name, value)]
    | _ => return []
  return named.flatten

/-- Builds the pairs of a sequence of mappings with one entry each. -/
def buildPairs (number : Nat) : Build Unit := do
  match (← nodeOf number).content with
  | .sequence items =>
    for item in items do
      match ← entriesOf item with
      | [(key, value)] =>
        let _ ← build key
        let _ ← build value
      | _ => throw .malformed
  | _ => throw .malformed

/-- Fills a collection. -/
def fillCollection (number : Nat) : Build Unit := do
  match (← get).data[number]?.getD none with
  | some (.sequence _) =>
    match (← nodeOf number).content with
    | .sequence items =>
      let _ ← items.mapM build
      setDatum number (.sequence items)
    | _ => throw .malformed
  | some (.mapping _) => setDatum number (.mapping (← buildEntries number))
  | some .set =>
    let _ ← buildEntries number
  | some .pairs => buildPairs number
  | _ => pure ()

/-- Fills collections, round by round, until none is left. -/
def fillAll : Nat → Build Unit
  | 0 => pure ()
  | fuel + 1 => do
    let waiting := (← get).queue.reverse
    if waiting.isEmpty then return
    modify fun b => { b with queue := [] }
    for number in waiting do fillCollection number
    fillAll fuel

/-- The document that a text holds; none when it holds none. -/
def read (text : List Char) : Except Problem (Option Document) := do
  match ← compose text with
  | none => return none
  | some graph =>
    let start : Builder := { graph := graph, data := Array.replicate graph.nodes.size none }
    let whole : Build Unit := do
      let _ ← build graph.root
      fillAll (graph.nodes.size + 1)
    let (_, b) ← whole.run start
    return some { data := b.data.map fun datum => datum.getD .null, root := graph.root }

end RepoSurvey.Yaml
