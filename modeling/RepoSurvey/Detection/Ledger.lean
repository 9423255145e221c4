import RepoSurvey.Detection.Container

/-!
# Claims on containers

A detector goes over the containers of a file several times, from the surest
signs to the vaguest. A container that has been claimed by a finding is passed
over by the rounds that follow. Signals that no framework accounts for are put
aside, and count as generic ones if their container is still unclaimed later;
names are looked at last, and a finding by name claims nothing.
-/

namespace RepoSurvey.Detection

/-- What a framework makes of a signal. -/
inductive Verdict (α : Type) where
  /-- The findings it stands for. -/
  | found (first : α) (more : List α)
  /-- It may still be a generic signal. -/
  | undecided
  /-- It is no signal at all. -/
  | dismissed

/-- What a detector has found so far. -/
structure Ledger (σ α : Type) where
  /-- The findings in order of discovery. -/
  findings : List α := []
  /-- The names of claimed containers. -/
  claimed : List String := []
  /-- Signals put aside, by container name. -/
  pending : Table (List σ) := []

namespace Ledger

variable {σ α : Type} {m : Type → Type} [Monad m]

/-- Adds findings that claim a container; no findings claim nothing. -/
def claim (l : Ledger σ α) (name : String) (found : List α) : Ledger σ α :=
  if found.isEmpty then l
  else { l with findings := l.findings ++ found, claimed := l.claimed ++ [name] }

/-- Adds findings that claim nothing. -/
def note (l : Ledger σ α) (found : List α) : Ledger σ α :=
  { l with findings := l.findings ++ found }

/-- The container has been claimed. -/
def isClaimed (l : Ledger σ α) (c : Container) : Bool :=
  l.claimed.contains c.name

/-- Enters a verdict on a signal of a container. -/
def enter (l : Ledger σ α) (c : Container) (signal : σ) : Verdict α → Ledger σ α
  | .found first more => l.claim c.name (first :: more)
  | .undecided => { l with pending := l.pending.extend c.name [signal] }
  | .dismissed => l

/-- The first round: every signal of every container is judged. -/
def judgeSignals (l : Ledger σ α) (signals : Container → List σ)
    (judge : Container → σ → m (Verdict α)) (cs : List Container) : m (Ledger σ α) :=
  cs.foldlM (fun l c =>
    (signals c).foldlM (fun l signal => do return l.enter c signal (← judge c signal)) l) l

/-- The second round: what a container is made of claims it. The top level is left alone. -/
def matchStructure (l : Ledger σ α) (structural : Container → List α) (cs : List Container) :
    Ledger σ α :=
  cs.foldl (fun l c =>
    if l.isClaimed c || c.isTopLevel then l else l.claim c.name (structural c)) l

/-- The third round: signals put aside count in containers that are unclaimed. -/
def takePending (l : Ledger σ α) (generic : Container → σ → m (Option α)) (cs : List Container) :
    m (Ledger σ α) :=
  cs.foldlM (fun l c =>
    if l.isClaimed c then pure l
    else ((l.pending.get? c.name).getD []).foldlM
      (fun l signal => do return l.claim c.name (← generic c signal).toList) l) l

/-- The last round: names of unclaimed containers. -/
def matchNames (l : Ledger σ α) (naming : Container → Option α) (cs : List Container) :
    Ledger σ α :=
  cs.foldl (fun l c =>
    if l.isClaimed c || c.isTopLevel then l else l.note (naming c).toList) l

end Ledger

end RepoSurvey.Detection
