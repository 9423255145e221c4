import RepoSurvey.Analysis.Finding

/-!
# Analyses as JSON

The field names and the order of every record in the output. A file leaves
out what is not known about it; a finding keeps a missing container inside an
analysis and leaves it out when it stands in a report of its own.
-/

namespace RepoSurvey

/-- A decorator as JSON. -/
def Decorator.toJson (d : Decorator) : Json :=
  .obj [("name", .str d.name), ("arguments", Json.strings d.arguments)]

/-- A callable as JSON. -/
def Callable.toJson (f : Callable) : Json :=
  .obj [
    ("line_number", .int f.line),
    ("docstring", .str f.docstring),
    ("parameters", Json.strings f.parameters),
    ("state_changes", Json.strings f.stateTags),
    ("event_handlers", Json.strings f.eventTags),
    ("api_endpoints", .arr f.routeHints),
    ("decorators", .arr (f.decorators.map Decorator.toJson)),
    ("is_component", .bool f.isComponent),
    ("is_hook", .bool f.isHook),
    ("is_async", .bool f.isAsync),
    ("tag_lines", Json.table .int f.tagLines)]

/-- A class as JSON. -/
def ClassDef.toJson (c : ClassDef) : Json :=
  .obj [
    ("line_number", .int c.line),
    ("docstring", .str c.docstring),
    ("methods", Json.table Callable.toJson c.methods),
    ("base_classes", Json.strings c.bases),
    ("decorators", .arr (c.decorators.map Decorator.toJson)),
    ("is_component", .bool c.isComponent)]

/-- The fields of a route. -/
def Endpoint.fields (e : Endpoint) : List (String × Json) := [
  ("type", .str e.kind),
  ("framework", .str e.framework),
  ("file", .str e.file),
  ("line", .int e.line),
  ("method", .str e.method),
  ("route", .str e.route),
  ("container", Json.ofOption .str e.container),
  ("metadata", .obj e.details)]

/-- The fields of a state change. -/
def StateChange.fields (s : StateChange) : List (String × Json) := [
  ("type", .str s.kind),
  ("framework", .str s.framework),
  ("file", .str s.file),
  ("line", .int s.line),
  ("variable", .str s.variableName),
  ("mutation_type", .str s.mutation),
  ("container", Json.ofOption .str s.container),
  ("metadata", .obj s.details)]

/-- The fields of an event. -/
def EventRecord.fields (e : EventRecord) : List (String × Json) := [
  ("type", .str e.kind),
  ("framework", .str e.framework),
  ("file", .str e.file),
  ("line", .int e.line),
  ("event", .str e.event),
  ("container", Json.ofOption .str e.container),
  ("metadata", .obj e.details)]

/-- A framework detection as JSON. -/
def FrameworkDetection.toJson (d : FrameworkDetection Float) : Json :=
  .obj [
    ("name", .str d.name),
    ("confidence", .real d.confidence),
    ("evidence", Json.strings d.evidence),
    ("patterns", Json.strings d.patterns)]

/-- A list field that is left out when empty. -/
def listField (name : String) (items : List Json) : List (String × Json) :=
  if items.isEmpty then [] else [(name, .arr items)]

/-- The fields of an analysis; what is not known is left out. -/
def FileAnalysis.fields (a : FileAnalysis) : List (String × Json) :=
  Json.dropNulls [
    ("path", .str a.path),
    ("language", .str a.language),
    ("imports", Json.table Json.strings a.imports),
    ("functions", Json.table Callable.toJson a.functions),
    ("classes", Json.table ClassDef.toJson a.classes),
    ("module_scope", Json.ofOption Callable.toJson a.moduleScope),
    ("lines", Json.ofOption .int a.lines),
    ("characters", Json.ofOption .int a.characters),
    ("non_empty_lines", Json.ofOption .int a.nonEmptyLines),
    ("avg_line_length", Json.ofOption .real a.averageLineLength),
    ("error", Json.ofOption .str a.error)]

/-- An analysis as JSON. -/
def FileAnalysis.toJson (a : FileAnalysis) : Json :=
  .obj a.fields

/-- The findings of one file as fields beside its analysis. -/
def Findings.fields (f : Findings) : List (String × Json) :=
  listField "api_endpoints" (f.endpoints.map fun e => .obj e.fields) ++
    listField "state_patterns" (f.states.map fun s => .obj s.fields) ++
    listField "event_records" (f.events.map fun e => .obj e.fields)

end RepoSurvey
