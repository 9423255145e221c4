import RepoSurvey.Text.Blank
import RepoSurvey.Text.Casing
import RepoSurvey.Text.Cut

/-!
# The text of routes

A route names its parameters in one of three ways: after a colon, between
braces, or between angle brackets, where a converter and a colon may stand in
front of the name. `parameters` reads the names; `normalize` replaces each by
the same word, so that routes that differ in names alone become equal. A route
may also be inferred from the name of a view.
-/

namespace RepoSurvey.Detection.RoutePath

/-- A character of a parameter's name. -/
def isNamePart (c : Char) : Bool :=
  c.isAlphanum || c == '_'

/-! ## Parameters -/

/-- The name between angle brackets: what follows the first colon, if
something stands on both sides of it. -/
def bracketName (body : List Char) : List Char :=
  let converter := body.takeWhile (· != ':')
  let name := (body.dropWhile (· != ':')).drop 1
  if converter.isEmpty || name.isEmpty then body else name

/-- The parameter that begins with `c`, and how many of the characters after
`c` belong to it. -/
def parameterAt? (c : Char) (rest : List Char) : Option (List Char × Nat) :=
  if c == '<' then
    let body := rest.takeWhile (· != '>')
    if body.isEmpty || body.length == rest.length then none
    else some (bracketName body, body.length + 1)
  else if c == '\x7b' then
    let name := rest.takeWhile isNamePart
    if name.isEmpty || rest[name.length]? != some '\x7d' then none
    else some (name, name.length + 1)
  else if c == ':' then
    let name := rest.takeWhile isNamePart
    if name.isEmpty then none else some (name, name.length)
  else none

/-- The parameters of a route from left to right; `skip` characters belong to
the last one. -/
def parametersFrom (skip : Nat) : List Char → List (List Char)
  | [] => []
  | c :: rest =>
    match skip with
    | n + 1 => parametersFrom n rest
    | 0 =>
      match parameterAt? c rest with
      | some (name, n) => name :: parametersFrom n rest
      | none => parametersFrom 0 rest

/-- The names of the parameters of a route, and a star when it has one. -/
def parameters (route : String) : List String :=
  let cs := route.toList
  (parametersFrom 0 cs).map String.ofList ++ (if cs.contains '*' then ["*"] else [])

/-! ## Normal form -/

/-- Replaces each piece that `piece?` finds at a character, with the
characters after it that belong to it. -/
def replacePieces (piece? : Char → List Char → Option (List Char × Nat)) (skip : Nat) :
    List Char → List Char
  | [] => []
  | c :: rest =>
    match skip with
    | n + 1 => replacePieces piece? n rest
    | 0 =>
      match piece? c rest with
      | some (image, n) => image ++ replacePieces piece? n rest
      | none => c :: replacePieces piece? 0 rest

/-- A parameter after a colon. -/
def colonPiece? (c : Char) (rest : List Char) : Option (List Char × Nat) :=
  let name := rest.takeWhile isNamePart
  if c == ':' && !name.isEmpty then some (":param".toList, name.length) else none

/-- A parameter between braces. -/
def bracePiece? (c : Char) (rest : List Char) : Option (List Char × Nat) :=
  let name := rest.takeWhile isNamePart
  if c == '\x7b' && !name.isEmpty && rest[name.length]? == some '\x7d' then
    some ("\x7bparam\x7d".toList, name.length + 1)
  else none

/-- A parameter between angle brackets. -/
def anglePiece? (c : Char) (rest : List Char) : Option (List Char × Nat) :=
  let body := rest.takeWhile (· != '>')
  if c == '<' && !body.isEmpty && body.length < rest.length then
    some ("<param>".toList, body.length + 1)
  else none

/-- The characters of a route with the same name for every parameter. -/
def normalChars (cs : List Char) : List Char :=
  replacePieces anglePiece? 0 (replacePieces bracePiece? 0 (replacePieces colonPiece? 0 cs))

/-- A route with the same name for every parameter. -/
def normalize (route : String) : String :=
  String.ofList (normalChars route.toList)

/-! ## Inferred routes -/

/-- The text with a hyphen before every ASCII upper-case letter. -/
def hyphenate (cs : List Char) : List Char :=
  cs.flatMap fun c => if 'A' ≤ c && c ≤ 'Z' then ['-', c] else [c]

/-- The text without an ending, and without a hyphen or an underscore before
it. A line feed at the very end stays and does not count. -/
def dropEnding (ending : List Char) (cs : List Char) : List Char :=
  let lineEnd := if cs.getLast? == some '\n' then ['\n'] else []
  let body := cs.take (cs.length - lineEnd.length)
  if ending.isSuffixOf body then
    let kept := body.take (body.length - ending.length)
    (match kept.getLast? with
      | some c => if c == '-' || c == '_' then kept.dropLast else kept
      | none => kept) ++ lineEnd
  else cs

/-- The route that the name of a view suggests. -/
def infer (viewName : String) : String :=
  let lowered := Text.lower (String.ofList (hyphenate viewName.toList))
  let bare := Text.trimStartBy (· == '-') lowered.toList
  let short := dropEnding "api".toList (dropEnding "view".toList bare)
  let route := Text.trimBy (· == '-') (Text.replaceChar '_' ['-'] short)
  if route.isEmpty then "/" else "/" ++ String.ofList route ++ "/"

/-- Two parts of a route, each without slashes at its ends, as one route. -/
def joined (first second : String) : String :=
  let parts := [first, second].filterMap fun part =>
    let bare := Text.trimSet "/" part
    if bare.isEmpty then none else some bare
  "/" ++ Text.join "/" parts

end RepoSurvey.Detection.RoutePath
