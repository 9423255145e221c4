import RepoSurvey.JavaScript.Bracket
import RepoSurvey.Text.Casing

/-!
# Raw signals in JavaScript and TypeScript

The places in a source that speak of state, events or routes, each with the
tag or route hint it leaves. Signals are listed pattern by pattern; within a
pattern they come in the order of the source.
-/

namespace RepoSurvey.JavaScript

open Text (Pattern Match isWordOrDollar)

/-- What a signal leaves in the callable it belongs to. -/
inductive Mark where
  /-- A tag of a state change. -/
  | state (tag : String)
  /-- A tag of an event. -/
  | event (tag : String)
  /-- A route with its kind, verb and path. -/
  | route (kind method path : String)
  deriving Repr, DecidableEq

/-- A mark and the position it was found at. -/
structure Signal where
  /-- Where the pattern matched. -/
  position : Nat
  /-- What it leaves. -/
  mark : Mark
  deriving Repr, DecidableEq

/-! ## Patterns of state -/

/-- The previous character does not continue a dotted name. -/
def freshName : Pattern :=
  .notAfter isDottedPart

/-- The previous character does not continue an identifier. -/
def freshWord : Pattern :=
  .notAfter isWordOrDollar

/-- The optional name of the library before a hook. -/
def libraryName : Pattern :=
  .optional (.literal "React.")

/-- Type arguments in angle brackets, without parentheses. -/
def typeArguments : Pattern :=
  .optional (.sequence [.one (· == '<'), .many (Text.Pattern.otherThan ">()"), .one (· == '>')])

/-- A pair bound to a state hook: the value is piece 1, the setter piece 2, the hook piece 3. -/
def stateDestructured : Pattern :=
  .sequence [.wordEdge, .oneOf ["const", "let", "var"], blanks, .one (· == '['), blanks,
    .capture 1 name, blanks,
    .optional (.sequence [.one (· == ','), blanks, .capture 2 name, blanks]),
    .one (· == ']'), blanks, .one (· == '='), blanks, libraryName,
    .capture 3 (.seq (.literal "use") (.oneOf ["State", "Reducer"])), .wordEdge]

/-- A call of a state hook: the hook is piece 1. -/
def stateHook : Pattern :=
  .sequence [freshName, libraryName,
    .capture 1 (.seq (.literal "use") (.oneOf ["State", "Reducer", "Selector"])),
    blanks, typeArguments, blanks, .one (· == '(')]

/-- A call of a component's state setter: the first key is piece 1. -/
def setStateCall : Pattern :=
  .sequence [.wordEdge, .literal "this.setState", blanks, .one (· == '('), blanks,
    .optional (.sequence [.one (· == '{'), blanks, .capture 1 name])]

/-- A dispatched action: its type is piece 1, or its creator piece 2. -/
def dispatchCall : Pattern :=
  .sequence [freshName, .literal "dispatch", blanks, .one (· == '('), blanks,
    .optional (.alt
      (.sequence [.one (· == '{'), .run (· != '}') 0 none false, .literal "type", blanks,
        .one (· == ':'), blanks, quoted 1])
      (.sequence [.capture 2 name, blanks, .one (· == '(')]))]

/-- A call of a setter: its name is piece 1. -/
def setterCall : Pattern :=
  .sequence [freshName,
    .capture 1 (.sequence [.literal "set", .one fun c => 'A' ≤ c && c ≤ 'Z', .many isWordOrDollar]),
    blanks, .one (· == '(')]

/-- A call that makes or changes observable state: its name is piece 1. -/
def observableCall : Pattern :=
  .sequence [freshName,
    .capture 1 (.oneOf ["makeAutoObservable", "makeObservable", "observable", "runInAction",
      "action", "computed"]),
    blanks, .one (· == '(')]

/-- Setters of the platform, which keep no state. -/
def platformSetters : List String :=
  ["setTimeout", "setInterval", "setImmediate"]

/-! ## Patterns of events -/

/-- A handler property in markup: its name is piece 1. -/
def handlerProperty : Pattern :=
  .sequence [freshName,
    .capture 1 (.sequence [.literal "on", .one fun c => 'A' ≤ c && c ≤ 'Z',
      .many fun c => ('A' ≤ c && c ≤ 'Z') || ('a' ≤ c && c ≤ 'z')]),
    blanks, .one (· == '='), blanks, .one (· == '{')]

/-- A listener added to an element: the event is piece 1. -/
def listenerCall : Pattern :=
  .sequence [.literal ".addEventListener", blanks, .one (· == '('), blanks, quoted 1]

/-- A handler assigned to an element: the property is piece 1. -/
def handlerAssignment : Pattern :=
  .sequence [.one (· == '.'),
    .capture 1 (.seq (.literal "on") (.some1 fun c => 'a' ≤ c && c ≤ 'z')),
    blanks, .one (· == '='), .notBefore (· == '=')]

/-- A message between processes: side, method and channel are pieces 1 to 3. -/
def channelCall : Pattern :=
  .sequence [.wordEdge, .capture 1 (.oneOf ["ipcMain", "ipcRenderer"]), .one (· == '.'),
    .capture 2 (.oneOf ["handle", "handleOnce", "on", "once", "send", "invoke"]),
    blanks, .one (· == '('), blanks, quoted 3]

/-- An emitter's call: receiver, method and event are pieces 1 to 3. -/
def emitterCall : Pattern :=
  .sequence [freshWord, .capture 1 (.some1 isWordOrDollar), .one (· == '.'),
    .capture 2 (.oneOf ["on", "once", "emit", "addListener"]),
    blanks, .one (· == '('), blanks, quoted 3]

/-! ## Patterns of routes -/

/-- A quote of any of the three kinds. -/
def isAnyQuote (c : Char) : Bool :=
  isQuote c || c == '\x60'

/-- A route declared by a call: receiver, verb and path are pieces 1, 2 and 4. -/
def routeCall : Pattern :=
  .sequence [.wordEdge, .capture 1 name, .one (· == '.'),
    .capture 2 (.oneOf ["get", "post", "put", "delete", "patch", "head", "options"]),
    blanks, .one (· == '('), blanks, .capture 3 (.one isAnyQuote),
    .capture 4 (.some1 fun c => !isAnyQuote c), .again 3]

/-! ## Signals -/

/-- The signals of one pattern. -/
def signalsOf (p : Pattern) (code : Array Char) (mark : Match → Option Mark) : List Signal :=
  (p.findAll code).filterMap fun m => (mark m).map fun found => ⟨m.start, found⟩

/-- The tag of a pair bound to a state hook. -/
def destructuredTag (value : String) (setter : Option String) (hook : String) : String :=
  match setter with
  | some s => "[" ++ value ++ ", " ++ s ++ "] = " ++ hook
  | none => "[" ++ value ++ "] = " ++ hook

/-- The tag of a component's state setter. -/
def setStateTag : Option String → String
  | some key => "this.setState(\x7b" ++ key ++ "\x7d)"
  | none => "this.setState()"

/-- The tag of a dispatched action. -/
def dispatchTag (type creator : Option String) : String :=
  match type, creator with
  | some t, _ => "dispatch(\x7btype: '" ++ t ++ "'\x7d)"
  | none, some c => "dispatch(" ++ c ++ "())"
  | none, none => "dispatch()"

/-- The positions of the hooks that a destructured pair already speaks for. -/
def claimedHooks (code : Array Char) : List Nat :=
  (stateDestructured.findAll code).filterMap fun m => (m.place? 3).map (·.1)

/-- Signals of state. -/
def stateSignals (code : Array Char) : List Signal :=
  let claimed := claimedHooks code
  signalsOf stateDestructured code (fun m =>
      some (.state (destructuredTag (m.group code 1) (m.group? code 2) (m.group code 3)))) ++
    signalsOf stateHook code (fun m =>
      if (m.place? 1).any fun place => claimed.contains place.1 then none
      else some (.state (m.group code 1))) ++
    signalsOf setStateCall code (fun m => some (.state (setStateTag (m.group? code 1)))) ++
    signalsOf dispatchCall code (fun m =>
      some (.state (dispatchTag (m.group? code 1) (m.group? code 2)))) ++
    signalsOf setterCall code (fun m =>
      let setter := m.group code 1
      if platformSetters.contains setter then none else some (.state (setter ++ "("))) ++
    signalsOf observableCall code (fun m => some (.state (m.group code 1 ++ "(")))

/-- Signals of events. A message between processes is not counted again as an emitter's call. -/
def eventSignals (code : Array Char) : List Signal :=
  let channels := (channelCall.findAll code).map (·.start)
  signalsOf handlerProperty code (fun m => some (.event (m.group code 1))) ++
    signalsOf listenerCall code (fun m =>
      some (.event ("addEventListener('" ++ m.group code 1 ++ "')"))) ++
    signalsOf handlerAssignment code (fun m => some (.event (m.group code 1 ++ "="))) ++
    signalsOf channelCall code (fun m =>
      some (.event (m.group code 1 ++ "." ++ m.group code 2 ++ "('" ++ m.group code 3 ++ "')"))) ++
    signalsOf emitterCall code (fun m =>
      if channels.contains m.start then none
      else some (.event ("." ++ m.group code 2 ++ "('" ++ m.group code 3 ++ "')")))

/-- The kind of a route by the name of its receiver. -/
def routeKind (receiver : String) : String :=
  if Text.holds (Text.lower receiver) "router" then "router_route" else "express_route"

/-- Signals of routes. -/
def routeSignals (code : Array Char) : List Signal :=
  signalsOf routeCall code fun m =>
    some (.route (routeKind (m.group code 1)) (Text.upper (m.group code 2)) (m.group code 4))

/-- Every signal of a source, read from its code. -/
def signals (code : Array Char) : List Signal :=
  stateSignals code ++ eventSignals code ++ routeSignals code

end RepoSurvey.JavaScript
