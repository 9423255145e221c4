import RepoSurvey.Detection.Ledger
import RepoSurvey.Detection.Naming
import RepoSurvey.Detection.Statistics
import RepoSurvey.Text.Loose

/-!
# Events that a repository emits and listens to

Every tag of an event has one of a few forms, and the form decides what it
stands for. A tag of no form, or of a library that the file does not import,
is put aside and counts as a generic event where nothing surer claims its
container; what a container is comes before that, and names come last.
-/

namespace RepoSurvey.Detection.Event

open Text (Pattern isWordChar)

/-! ## Context -/

/-- What is known of a file before its containers are looked at. -/
structure Context where
  /-- The path under which it is reported. -/
  path : String
  /-- Its analysis. -/
  analysis : FileAnalysis
  /-- It imports React. -/
  react : Bool
  /-- It imports Electron. -/
  electron : Bool
  /-- It is a Python file that imports Django. -/
  django : Bool

/-- The context of a file. -/
def contextOf (path : String) (a : FileAnalysis) : Context where
  path := path
  analysis := a
  react := hasImport a ["react", "react-native"]
  electron := hasImport a ["electron"]
  django := a.language == "python" && hasImport a ["django"]

/-- An event found in a container. -/
def record (ctx : Context) (c : Container) (line : Int) (kind framework event source : String)
    (more : Table Json) : EventRecord where
  kind := kind
  framework := framework
  file := ctx.path
  line := line
  event := event
  container := some c.name
  details := ("source", .str source) :: more

/-! ## Forms of tags -/

/-- A text in single quotes, as the numbered piece. -/
def quoted (number : Nat) : Pattern :=
  .sequence [.literal "'", .capture number (.many (Pattern.otherThan "'")), .literal "'"]

/-- A call between processes: module, method and channel. -/
def ipcForm : Pattern :=
  .sequence [.capture 1 (.oneOf ["ipcMain", "ipcRenderer"]), .literal ".",
    .capture 2 (.some1 isWordChar), .literal "(", quoted 3, .literal ")", .textEnd]

/-- A handler given as a property of an element; the name is piece 1. -/
def propertyForm : Pattern :=
  .sequence [.literal "on", .capture 1 (.seq (.one isCapital) (.many isWordChar)), .textEnd]

/-- A listener added to an element; the event is piece 1. -/
def listenerForm : Pattern :=
  .sequence [.literal "addEventListener(", quoted 1, .literal ")", .textEnd]

/-- A handler assigned to an element; the event is piece 1. -/
def assignedForm : Pattern :=
  .sequence [.literal "on", .capture 1 (.some1 fun c => 'a' ≤ c && c ≤ 'z'), .literal "=", .textEnd]

/-- A call of an emitter: method and event. -/
def emitterForm : Pattern :=
  .sequence [.literal ".", .capture 1 (.oneOf ["on", "once", "emit", "addListener"]), .literal "(",
    quoted 2, .literal ")", .textEnd]

/-- A call of a signal: its path and the method. -/
def signalForm : Pattern :=
  .sequence [.capture 1 (.some1 fun c => isWordChar c || c == '.'), .literal ".",
    .capture 2 (.oneOf ["connect", "send", "send_robust", "disconnect"]), .textEnd]

/-- What a tag says. -/
inductive Form where
  /-- A call between processes. -/
  | ipc (module method channel : String)
  /-- A call of a signal. -/
  | signal (path method : String)
  /-- A handler given as a property. -/
  | property
  /-- A listener added to an element. -/
  | listener (event : String)
  /-- A handler assigned to an element. -/
  | assigned (event : String)
  /-- A call of an emitter. -/
  | emitter (method event : String)
  deriving Repr, DecidableEq

/-- The pieces of the match at the beginning of a tag. -/
def pieces? (p : Pattern) (tag : String) : Option (Nat → String) :=
  (p.opens? tag).map fun (m, text) => m.group text

/-- The forms that need no import, in order. -/
def plainForm? (tag : String) : Option Form :=
  ((pieces? listenerForm tag).map fun piece => .listener (piece 1)).or <|
  ((pieces? assignedForm tag).map fun piece => .assigned (piece 1)).or <|
  (pieces? emitterForm tag).map fun piece => .emitter (piece 1) (piece 2)

/-- The form of a tag in a file. A tag in the form of a signal is nothing else,
and counts only where Django is imported. -/
def form? (ctx : Context) (tag : String) : Option Form :=
  match pieces? ipcForm tag, pieces? signalForm tag with
  | some piece, _ => some (.ipc (piece 1) (piece 2) (piece 3))
  | none, some piece => if ctx.django then some (.signal (piece 1) (piece 2)) else none
  | none, none =>
    if ctx.react && (propertyForm.opens? tag).isSome then some .property else plainForm? tag

/-! ## What a tag stands for -/

/-- The name of a channel that is not known. -/
def unknownChannel : String := "unknown-channel"

/-- Methods that answer a call between processes. -/
def ipcHandlers : List String :=
  ["handle", "handleOnce", "invoke"]

/-- Properties that are events of a kind of their own. -/
def namedProperties : List String :=
  ["onClick", "onChange", "onSubmit"]

/-- The event that a tag of some form stands for. -/
def formRecord (ctx : Context) (c : Container) (tag : String) (form : Form) : EventRecord :=
  let here (kind framework event : String) (more : Table Json) : EventRecord :=
    record ctx c (c.info.lineFor tag) kind framework event tag more
  match form with
  | .ipc module method channel =>
    here (if ipcHandlers.contains method then "ipc_handle" else "ipc_on") "Electron"
      (if channel.isEmpty then unknownChannel else channel)
      [("process", .str (if module == "ipcMain" then "main" else "renderer"))]
  | .signal path method =>
    here "dom_event" "Django" (hyphenated (Text.afterLast '.' path)) [("signal_call", .str method)]
  | .property =>
    here (if namedProperties.contains tag then tag else "react_event") "React"
      (Text.lower (String.ofList (tag.toList.drop 2))) []
  | .listener event => here "addEventListener" "DOM" event []
  | .assigned event => here "dom_event" "DOM" event []
  | .emitter method event =>
    here "addEventListener" "Custom" event
      [("role", .str (if method == "emit" then "emit" else "listen"))]

/-- Judges a tag. -/
def judge (ctx : Context) (c : Container) (tag : String) : Verdict EventRecord :=
  match form? ctx tag with
  | some form => .found (formRecord ctx c tag form) []
  | none => .undecided

/-! ## Containers -/

/-- A name that sets up handlers between processes. -/
def ipcSetup : Pattern :=
  .choice [
    .sequence [.looseOneOf ["setup", "init"], .many Pattern.inLine, .loose "ipc"],
    .sequence [.loose "register", .many Pattern.inLine, .loose "handler"]]

/-- The text without the first occurrence of the pattern. -/
def eraseFirst (p : Pattern) (s : String) : String :=
  let text := s.toList.toArray
  match p.findFrom? text 0 with
  | some m => Text.Match.textBetween text 0 m.start ++ Text.Match.textBetween text m.stop text.size
  | none => s

/-- The channel that the name of a function suggests. -/
def channelOf (name : String) : String :=
  let bare := eraseFirst (.loose "ipc") (withoutStart ["setup", "init", "register"] name)
  let channel := Text.trimSet "-" (hyphenated bare)
  if channel.isEmpty then unknownChannel else channel

/-- The decorator that connects a function to a signal. -/
def receiverName : String := "receiver"

/-- Decorators of functions that are called on signals. -/
def signalDecorators : List String :=
  [receiverName, "post_save", "pre_save", "post_delete", "pre_delete", "signal"]

/-- The signal that a decorator connects to. -/
def decoratorSignal? (d : Decorator) : Option String :=
  let short := Text.afterLast '.' d.name
  if !signalDecorators.contains short then none
  else match d.arguments with
    | first :: _ => some (if short == receiverName then Text.afterLast '.' first else short)
    | [] => some short

/-- A name that handles a form. -/
def formHandler : Pattern :=
  .looseOneOf ["form", "submit"]

/-- The event that a Python function or method is. -/
def pythonRecord? (ctx : Context) (c : Container) : Option EventRecord :=
  let here (kind event source : String) : EventRecord :=
    record ctx c c.info.line kind "Django" event source []
  match c.info.decorators.findSome? decoratorSignal? with
  | some signal => some (here "dom_event" (hyphenated signal) "signal_decorator")
  | none =>
    let first := c.info.parameters.take 1
    let isHandler := first == ["request"] || first == ["self"]
    if ctx.django && isHandler && formHandler.occurs c.bareName then
      some (here "onSubmit" "form_submit" "form_handler")
    else none

/-- A name that speaks of emitters. -/
def emitterName : Pattern :=
  .looseOneOf ["emit", "listener", "observer", "notify", "subscribe"]

/-- The event that a container is. -/
def structuralRecord? (ctx : Context) (c : Container) : Option EventRecord :=
  let name := c.bareName
  if ctx.electron && ipcSetup.occurs name then
    some (record ctx c c.info.line "ipc_handle" "Electron" (channelOf name) "ipc_setup" [])
  else if ctx.analysis.language == "python" then pythonRecord? ctx c
  else if emitterName.occurs name then
    let bare := withoutStart ["emit", "notify", "on"] name
    let event := if bare.isEmpty then name else bare
    some (record ctx c c.info.line "addEventListener" "Custom" (Text.trimSet "-" (hyphenated event))
      "emitter_naming" [])
  else none

/-! ## Vague signs -/

/-- Words that tell the kind of a generic event, in order. -/
def kindWords : List (String × String) := [
  ("click", "onClick"), ("change", "onChange"), ("submit", "onSubmit"),
  ("listener", "addEventListener")]

/-- The kind of a generic event. -/
def genericKind (text : String) : String :=
  match kindWords.find? fun (word, _) => Text.holds (Text.lower text) word with
  | some (_, kind) => kind
  | none => "dom_event"

/-- The event of which nothing is known. -/
def unknownEvent : String := "unknown"

/-- Words that tell a generic event, in order. -/
def eventWords : List String :=
  ["click", "change", "submit", "focus", "blur", "load"]

/-- The name of a generic event. -/
def genericEvent (text : String) : String :=
  (eventWords.find? (Text.holds (Text.lower text))).getD unknownEvent

/-- The event that a tag of no form stands for. -/
def genericRecord (ctx : Context) (c : Container) (tag : String) : EventRecord :=
  record ctx c (c.info.lineFor tag) (genericKind tag) "Generic" (genericEvent tag) tag []

/-- A name that handles something. -/
def handlerName : Pattern :=
  .choice [
    .seq .textStart (.loose "handle"),
    .sequence [.textStart, .loose "on", .one Text.isLooseLetter],
    .looseOneOf ["click", "change", "submit", "handler", "listener", "callback"]]

/-- The event that the name of a container suggests. -/
def namedRecord? (ctx : Context) (c : Container) : Option EventRecord :=
  let name := c.bareName
  if handlerName.occurs name then
    some (record ctx c c.info.line (genericKind name) "Generic" (genericEvent name)
      "naming_convention" [])
  else none

/-! ## Files and corpora -/

/-- The events of a file. -/
def detectFile (path : String) (a : FileAnalysis) : List EventRecord :=
  let ctx := contextOf path a
  let cs := containers a
  let judged := Id.run (({} : Ledger String EventRecord).judgeSignals (fun c => c.info.eventTags)
    (fun c tag => pure (judge ctx c tag)) cs)
  let matched := judged.matchStructure (fun c => (structuralRecord? ctx c).toList) cs
  let taken := Id.run (matched.takePending (fun c tag => pure (some (genericRecord ctx c tag))) cs)
  (taken.matchNames (namedRecord? ctx) cs).findings

/-- The events of a corpus in order of file and line. -/
def detect (corpus : Corpus) : List EventRecord :=
  sortByPlace EventRecord.file EventRecord.line
    (corpus.usable.flatMap fun (path, a) => detectFile path a)

/-- The kinds of events that are always reported. -/
def kinds : List String :=
  ["onClick", "onChange", "onSubmit", "addEventListener", "ipc_handle", "ipc_on", "dom_event",
    "react_event"]

/-- The statistics of events. Unknown events are not ranked. -/
def statistics (found : List EventRecord) : Json :=
  .obj [
    ("total_events", .nat found.length),
    ("type_distribution", Json.table .nat (distribution kinds (found.map EventRecord.kind))),
    ("framework_distribution", Json.table .nat (Table.tally (found.map EventRecord.framework))),
    ("files_with_events", .nat (distinct (found.map EventRecord.file)).length),
    ("common_events", rankingJson "name" (topCounts
      ((found.map EventRecord.event).filter fun event => event != unknownEvent) usualLimit))]

/-- The report on the events found in a corpus. -/
def reportOf (found : List EventRecord) (corpus : Corpus) : Json :=
  report (statistics found) (found.map fun f => .obj (Json.dropNulls f.fields)) corpus

end RepoSurvey.Detection.Event
