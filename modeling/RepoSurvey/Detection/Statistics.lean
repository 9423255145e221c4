import RepoSurvey.Analysis.Render

/-!
# Statistics of findings

How often each label occurs, which labels are the most frequent, and how many
files are concerned. A report puts the statistics of a detector beside its
findings and tells how many files were looked at.
-/

namespace RepoSurvey.Detection

/-- How often each of the `labels` occurs; the `known` ones are there even
when they do not occur. -/
def distribution (known labels : List String) : Table Nat :=
  (Table.tally labels).foldl (fun t (label, n) => Table.set t label n)
    (known.map fun label => (label, 0))

/-- Counted labels, the most frequent first; equal counts go by label. -/
def ranking (labels : List String) : List (String × Nat) :=
  (Table.tally (labels.filter fun label => !label.isEmpty)).mergeSort fun a b =>
    decide (b.2 < a.2) || (a.2 == b.2 && decide (a.1 ≤ b.1))

/-- The beginning of a list: the first `limit` members, or all but the last
`-limit` of them when the limit is negative. -/
def upToLimit {α : Type} (limit : Int) (items : List α) : List α :=
  if 0 ≤ limit then items.take limit.toNat else items.take (items.length - limit.natAbs)

/-- The usual length of a ranking. -/
def usualLimit : Int := 10

/-- The most frequent labels. -/
def topCounts (labels : List String) (limit : Int) : List (String × Nat) :=
  upToLimit limit (ranking labels)

/-- A ranking as JSON, with the labels under `key`. -/
def rankingJson (key : String) (entries : List (String × Nat)) : Json :=
  .arr (entries.map fun (label, n) => .obj [(key, .str label), ("count", .nat n)])

/-- How often each language occurs. -/
def languageDistribution (corpus : Corpus) : Table Nat :=
  Table.tally ((corpus.map fun (_, a) => a.language).filter fun language => !language.isEmpty)

/-- What a report says about the files that were looked at. -/
def breakdown (corpus : Corpus) : Json :=
  .obj [
    ("total_files", .nat corpus.length),
    ("language_distribution", Json.table .nat (languageDistribution corpus)),
    ("files_analyzed", .nat corpus.usable.length)]

/-- A report: the statistics, the findings, and the files. -/
def report (summary : Json) (findings : List Json) (corpus : Corpus) : Json :=
  .obj [("summary", summary), ("findings", .arr findings), ("breakdown", breakdown corpus)]

end RepoSurvey.Detection
