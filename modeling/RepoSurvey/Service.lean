import RepoSurvey.Breakdown
import RepoSurvey.Service.Body
import RepoSurvey.Survey

/-!
# The service

The surveys of the program as answers to requests: one address tells whether
the service is up, one surveys a repository, and one surveys sources that come
with the request. A mistake of the caller is answered with a status of its own
and, where the mistake lies in a value, with a text that says what is wrong.
-/

namespace RepoSurvey.Service

/-! ## Requests and answers -/

/-- A request. -/
structure Request where
  /-- The method. -/
  method : String
  /-- The address. -/
  path : String
  /-- The body, if there is one. -/
  body : Option Json

/-- An answer. -/
structure Response where
  /-- The status. -/
  status : Nat
  /-- The body. -/
  body : Json
  deriving Inhabited

/-- The answer of a status with a text that says more. -/
def Response.withDetail (status : Nat) (detail : String) : Response where
  status := status
  body := .obj [("detail", .str detail)]

/-- The answer to a body that does not say what it should. -/
def Response.unprocessable : Response :=
  .withDetail 422 "Unprocessable Entity"

/-- The answer with an overview. -/
def Response.ofOverview (o : Overview) : Response where
  status := 200
  body := o.toJson

/-- The answer of a survey. -/
def answerOf (survey : Survey.Attempt Overview) : Except Breakdown Response :=
  match (survey.run.run {}).1 with
  | .ok overview => .ok (.ofOverview overview)
  | .error failure => .error (.survey failure)

/-! ## Addresses -/

/-- Whether the service is up. -/
def health : Response where
  status := 200
  body := .obj [("status", .str "ok"), ("engine_version", .str Overview.engineVersion)]

/-- Surveys a repository. -/
def surveyRepository (ws : Scan.Workspace) (b : RepositoryBody) : Except Breakdown Response :=
  match ws.found? b.path with
  | none => .ok (.withDetail 404 (Failure.message (.missing b.path)))
  | some (.file _) => .ok (.withDetail 400 (Failure.message (.notADirectory b.path)))
  | some (.directory _) =>
    match Survey.loadConfig ws b.path with
    | .error (name, e) =>
      match Config.valueMessage? name e with
      | some message => .ok (.withDetail 400 message)
      | none => .error (.config name e)
    | .ok config =>
      let overrides : Survey.Overrides :=
        { extensions := b.extensions, limit := b.limit
          excludeTests := if b.includeTests then some false else none }
      answerOf (Survey.ofRepository {} {} config overrides ws b.path)

/-- Surveys sources. -/
def surveySources (b : SourcesBody) : Except Breakdown Response :=
  if b.files.any fun (path, _) => path.isEmpty then
    .ok (.withDetail 400 "Source paths must be non-empty strings")
  else answerOf (Survey.ofSources {} {} {} b.repository b.files)

/-- What answers the body of a request. -/
abbrev Handler := Option Json → Except Breakdown Response

/-- The methods and the answers of the known addresses. -/
def routes (ws : Scan.Workspace) : List (String × String × Handler) :=
  [("/health", "GET", fun _ => .ok health),
    ("/analyze", "POST", fun body =>
      match body.bind RepositoryBody.ofJson? with
      | some b => surveyRepository ws b
      | none => .ok .unprocessable),
    ("/analyze/sources", "POST", fun body =>
      match body.bind SourcesBody.ofJson? with
      | some b => surveySources b
      | none => .ok .unprocessable)]

/-- The address without what follows it in a request, and without slashes at
its end. The slash at its beginning may be missing. -/
def address (path : String) : String :=
  let bare := String.ofList (path.toList.takeWhile fun c => c != '?' && c != '#')
  Text.trimEndSet "/" (if Text.startsWith bare "/" then bare else "/" ++ bare)

/-- Answers a request. -/
def respond (ws : Scan.Workspace) (r : Request) : Except Breakdown Response :=
  match (routes ws).lookup (address r.path) with
  | none => .ok (.withDetail 404 "Not Found")
  | some (method, act) =>
    if r.method.toUpper == method then act r.body
    else .ok (.withDetail 405 "Method Not Allowed")

end RepoSurvey.Service
