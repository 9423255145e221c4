import RepoSurvey.Analysis.Finding
import RepoSurvey.Detection.Framework.Profile
import RepoSurvey.Failure

/-!
# Weighing the evidence

Every sign found in a file counts its weight for the framework. The sum is
measured against a scale: the weights that a corpus of these languages could
yield, damped by a factor and never less than a floor. The confidence is their
quotient, at most one, and a framework is reported from a threshold on.

Counts are natural numbers. The scale and the confidence are numbers of any
kind that can be multiplied, divided and compared, so the rule is the same for
doubles and for fractions.
-/

namespace RepoSurvey.Detection.Framework

/-- Counts as doubles. -/
instance natCastFloat : NatCast Float where
  natCast := Float.ofNat

/-- How evidence is weighed. -/
structure Weighing (α : Type) where
  /-- The share of the possible score that counts as certainty. -/
  damping : α
  /-- The least scale. -/
  floor : α

/-! ## Evidence -/

/-- The evidence for a framework. -/
structure Evidence where
  /-- The sum of the weights. -/
  score : Nat := 0
  /-- The file of every sign that was found. -/
  files : List String := []
  /-- Every sign that was found. -/
  signs : List String := []

/-- The evidence together with a sign found in a file. -/
def Evidence.add (e : Evidence) (path : String) (s : Sign) : Evidence where
  score := e.score + s.weight
  files := e.files ++ [path]
  signs := e.signs ++ [s.id]

/-- Every sign found in a corpus with the file it was found in, for the
profiles of one name. -/
def findings (profiles : List Profile) (name : String) (corpus : Corpus) : List (String × Sign) :=
  corpus.usable.flatMap fun (path, a) =>
    (profiles.filter fun p => p.name == name).flatMap fun p =>
      (p.signs.filter fun s => s.isIn path a).map fun s => (path, s)

/-- The evidence that a corpus gives for a name. -/
def evidence (profiles : List Profile) (name : String) (corpus : Corpus) : Evidence :=
  (findings profiles name corpus).foldl (fun e (path, s) => e.add path s) {}

/-! ## The scale -/

/-- The languages of a corpus that are known. -/
def knownLanguages (corpus : Corpus) : List String :=
  (corpus.map fun (_, a) => a.language).filter fun language =>
    !language.isEmpty && language != unknownLanguage

/-- The sign could be found in a corpus of these languages. -/
def Sign.isAchievable (s : Sign) (corpus : Corpus) : Bool :=
  if s.languages.isEmpty then !corpus.isEmpty
  else (knownLanguages corpus).any s.languages.contains

/-- The sum of the weights that a corpus of these languages could yield. -/
def achievable (p : Profile) (corpus : Corpus) : Nat :=
  (p.signs.filter fun s => s.isAchievable corpus).foldr (fun s n => s.weight + n) 0

variable {α : Type} [NatCast α] [Mul α] [Div α] [BEq α]
variable [LT α] [LE α] [DecidableLT α] [DecidableLE α]

/-- The score that counts as certainty. -/
def scale (w : Weighing α) (p : Profile) (corpus : Corpus) : α :=
  let damped := (achievable p corpus : α) * w.damping
  if damped < w.floor then w.floor else damped

/-! ## Confidence -/

/-- The quotient of a score and its scale, at most one. -/
def confidence (score : Nat) (scale : α) : α :=
  let share := (score : α) / scale
  if ((1 : Nat) : α) < share then ((1 : Nat) : α) else share

/-- The least confidence with which a framework is reported. -/
def Profile.least (p : Profile) : α :=
  (p.threshold : α) / ((100 : Nat) : α)

/-- What the evidence says for one profile: nothing when there is none. Evidence
cannot be measured against a scale of zero. -/
def weigh (w : Weighing α) (profiles : List Profile) (corpus : Corpus) (p : Profile) :
    Except Failure (Option (FrameworkDetection α)) :=
  let found := evidence profiles p.name corpus
  let scale := scale w p corpus
  if found.score == 0 then .ok none
  else if scale == ((0 : Nat) : α) then .error .noScale
  else .ok (some {
    name := p.name
    confidence := confidence found.score scale
    evidence := distinct found.files
    patterns := distinct found.signs })

/-- A weighed framework reaches the threshold of its profile. -/
def reaches (p : Profile) (d : FrameworkDetection α) : Bool :=
  decide (p.least ≤ d.confidence)

/-- The frameworks of a corpus, the surest first. -/
def detect (w : Weighing α) (profiles : List Profile) (corpus : Corpus) :
    Except Failure (List (FrameworkDetection α)) := do
  let weighed ← profiles.mapM fun p => do
    return (← weigh w profiles corpus p).toList.filter (reaches p)
  return weighed.flatten.mergeSort fun a b => decide (b.confidence ≤ a.confidence)

end RepoSurvey.Detection.Framework
