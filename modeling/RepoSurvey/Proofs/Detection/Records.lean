import RepoSurvey.Proofs.Python.Sightings

/-!
# The tags of a record

Both parsers write tags into callables in the same way, so every record that they
make accounts for what was told to it (`Callable.Accounts`): in a script for the matches
that belong to its place, in a Python source for the calls in its statements.
-/

namespace RepoSurvey

open Detection (containers)

/-- Every function, method or top level of a source that is read accounts for the
matches or calls that belong to it; in a script no tag is on a line before its own. -/
theorem records_account {content path : String} {a : FileAnalysis} :
    (JavaScript.parse content path = .ok a →
      ∃ m, JavaScript.mask content.toList = .ok m ∧ ∀ c ∈ containers a, ∃ place,
        m.declarations.Kept place ∧
          JavaScript.written m.code m.declarations.spans place = some c.info ∧
          c.info.Accounts (m.Tells place) ∧
          ∀ tag line, c.info.tagLines.get? tag = some line → c.info.line ≤ line) ∧
    (Python.parse content path = .ok a →
      ∃ body, Python.module? content = some body ∧ ∀ c ∈ containers a, ∃ held,
        Python.Answers body held c.info ∧ c.info.Accounts (Python.Tells held)) := by
  refine ⟨JavaScript.accounts_container, fun parsed => ?_⟩
  obtain ⟨body, read, made⟩ := Python.exists_of_parse parsed
  refine ⟨body, read, fun c mem => ?_⟩
  obtain ⟨held, answers⟩ := (Python.exists_container_iff_answers made).mp ⟨c, mem, rfl⟩
  exact ⟨held, answers, Python.accounts_of_answers read answers⟩

/-- A script that dispatches one action twice. -/
def dispatchTwice : String :=
  "function f() \x7b\n  dispatch(load())\n  dispatch(load())\n\x7d\n"

/-- A Python source in which a record is saved by a method and twice at the top level. -/
def saveTwice : String :=
  "class A:\n  def f(self):\n    self.save()\na.save()\nb.send()\na.save()\n"

theorem records_account_of_repeated_tags :
    (∃ a, JavaScript.parse dispatchTwice "a.js" = .ok a ∧ ∃ c ∈ containers a,
      c.info.tagLines = [("dispatch(load())", 2)] ∧
        ∃ m place, c.info.Accounts (JavaScript.Masked.Tells m place)) ∧
    ∃ a, Python.parse saveTwice "a.py" = .ok a ∧ ∃ c ∈ containers a,
      c.info.tagLines = [("a.save(", 4), ("b.send", 5)] ∧
        ∃ held, c.info.Accounts (Python.Tells held) := by
  have script : ∃ a ∈ (JavaScript.parse dispatchTwice "a.js").toOption, ∃ c ∈ containers a,
      c.info.tagLines = [("dispatch(load())", 2)] := by decide +kernel
  have python : ∃ a ∈ (Python.parse saveTwice "a.py").toOption, ∃ c ∈ containers a,
      c.info.tagLines = [("a.save(", 4), ("b.send", 5)] := by decide +kernel
  constructor
  · obtain ⟨a, read, c, mem, noted⟩ := script
    have parsed := Outcome.eq_ok_of_toOption read
    obtain ⟨m, -, each⟩ := records_account.1 parsed
    obtain ⟨place, -, -, accounts, -⟩ := each c mem
    exact ⟨a, parsed, c, mem, noted, m, place, accounts⟩
  · obtain ⟨a, read, c, mem, noted⟩ := python
    have parsed := Outcome.eq_ok_of_toOption read
    obtain ⟨body, -, each⟩ := records_account.2 parsed
    obtain ⟨held, -, accounts⟩ := each c mem
    exact ⟨a, parsed, c, mem, noted, held, accounts⟩

end RepoSurvey
