import RepoSurvey.Proofs.JavaScript.Sightings
import RepoSurvey.Proofs.Python.Keeping
import RepoSurvey.Proofs.Python.StatementOrder

/-!
# What the containers of a Python source account for

The tag of a call ends in a parenthesis when the call changes records and in a
letter when it handles a signal, so no tag is of both kinds. The calls of a function
are sorted by place, and those of the top level come statement by statement in the
order of the source. Either way the calls are noted in the order of their lines, and
each container accounts for the calls in the statements that it answers for
(`accounts_of_answers`).
-/

namespace RepoSurvey.Python

open Outcome (exists_of_bind_ok eq_foldl_of_ok)

/-- What a callable is told by a call on an object: its tag, where the call changes
records or handles a signal and its receiver can be written out. -/
def MethodCall.sighting? (c : MethodCall) : Option Sighting :=
  match c.receiver.dottedText with
  | .error _ => none
  | .ok receiver =>
    if recordMethods.contains c.attr then
      some ⟨.state, receiver ++ "." ++ c.attr ++ "(", c.position.line⟩
    else if signalMethods.contains c.attr then
      some ⟨.event, receiver ++ "." ++ c.attr, c.position.line⟩
    else none

/-- The sightings of calls, in the order of the source. -/
def sightings (calls : List MethodCall) : List Sighting :=
  (inOrder calls).filterMap MethodCall.sighting?

/-! ## Recording is noting -/

variable {f f' : Callable} {c c' : MethodCall} {s s' : Sighting} {calls : List MethodCall}

theorem eq_of_recordCall (ok : recordCall f c = .ok f') :
    f' = f.noteAll c.sighting?.toList := by
  obtain ⟨receiver, written, ok⟩ := exists_of_bind_ok ok
  unfold MethodCall.sighting?
  rw [written]
  dsimp only at ok ⊢
  split at ok
  next state =>
    rw [if_pos state]
    split at ok
    next known =>
      cases ok
      exact (if_pos known).symm
    next new =>
      cases ok
      exact (if_neg new).symm
  next notState =>
    rw [if_neg notState]
    split at ok
    next event =>
      rw [if_pos event]
      split at ok
      next known =>
        cases ok
        exact (if_pos known).symm
      next new =>
        cases ok
        exact (if_neg new).symm
    next notEvent =>
      rw [if_neg notEvent]
      exact (Except.ok.inj ok).symm

theorem eq_noteAll_of_recordCalls (ok : recordCalls f calls = .ok f') :
    f' = f.noteAll (sightings calls) := by
  rw [sightings, Callable.noteAll, List.filterMap_eq_flatMap_toList, List.foldl_flatMap]
  exact eq_foldl_of_ok (fun _ _ _ => eq_of_recordCall) ok

/-! ## The order of sightings -/

theorem line_of_sighting? (told : c.sighting? = some s) : s.line = c.position.line := by
  unfold MethodCall.sighting? at told
  split at told
  · cases told
  split at told
  · cases told
    rfl
  · obtain ⟨-, same⟩ := Option.ite_none_right_eq_some.mp told
    cases same
    rfl

/-- The last character of a tag tells its kind. -/
theorem kind_of_sighting? (told : c.sighting? = some s) :
    s.kind = if s.tag.toList.getLast? = some '(' then .state else .event := by
  unfold MethodCall.sighting? at told
  split at told
  · cases told
  next receiver _ =>
  split at told
  · cases told
    rw [if_pos]
    rw [String.toList_append]
    exact List.getLast?_concat
  · obtain ⟨known, same⟩ := Option.ite_none_right_eq_some.mp told
    cases same
    have letters : ∀ attr ∈ signalMethods, attr.toList ≠ [] ∧ attr.toList.getLast? ≠ some '(' := by
      decide
    obtain ⟨long, last⟩ := letters c.attr (List.contains_iff_mem.mp known)
    rw [if_neg]
    rw [String.toList_append, List.getLast?_append_of_ne_nil _ long]
    exact last

theorem mayFollow_of_line_le (le : c.position.line ≤ c'.position.line)
    (told : c.sighting? = some s) (told' : c'.sighting? = some s') : s.MayFollow s' := by
  intro same
  rw [kind_of_sighting? told, kind_of_sighting? told', same, line_of_sighting? told,
    line_of_sighting? told']
  exact ⟨rfl, Int.ofNat_le.mpr le⟩

theorem Position.le_iff {p q : Position} :
    p.le q = true ↔ p.line < q.line ∨ (p.line = q.line ∧ p.column ≤ q.column) := by
  simp only [Position.le, Bool.or_eq_true, Bool.and_eq_true, decide_eq_true_eq, beq_iff_eq]

/-- Calls in the order of the source are in the order of their lines. -/
theorem pairwise_inOrder (calls : List MethodCall) :
    (inOrder calls).Pairwise fun a b => a.position.line ≤ b.position.line := by
  have sorted := @List.pairwise_mergeSort MethodCall (fun a b => a.position.le b.position)
    (fun a b c => by simp only [Position.le_iff]; omega)
    (fun a b => by simp only [Bool.or_eq_true, Position.le_iff]; omega) calls
  refine sorted.imp fun le => ?_
  rw [Position.le_iff] at le
  omega

theorem mem_sightings : s ∈ sightings calls ↔ ∃ c ∈ calls, c.sighting? = some s := by
  rw [sightings, List.mem_filterMap]
  exact exists_congr fun c => and_congr_left fun _ => List.mem_mergeSort

theorem pairwise_sightings (calls : List MethodCall) :
    (sightings calls).Pairwise Sighting.MayFollow :=
  List.pairwise_filterMap.mpr ((pairwise_inOrder calls).imp fun le _ told _ told' =>
    mayFollow_of_line_le le told told')

/-! ## Containers -/

/-- What is told by calls in statements. -/
def Tells (held : List Stmt) (s : Sighting) : Prop :=
  ∃ c ∈ bodyCalls held, c.sighting? = some s

theorem mem_bodyCalls {body : List Stmt} : c ∈ bodyCalls body ↔ ∃ s ∈ body, c ∈ s.calls := by
  induction body with
  | nil => exact ⟨nofun, nofun⟩
  | cons s rest ih => simp only [bodyCalls, List.mem_append, ih, List.exists_mem_cons_iff]

/-- The sightings of the top level, statement by statement. -/
def outerSightings (body : List Stmt) : List Sighting :=
  body.flatMap fun s => sightings s.calls

theorem eq_noteAll_of_topLevel {body : List Stmt} (ok : topLevel body = .ok f) :
    f = Callable.noteAll { line := 1 }
      (outerSightings (body.filter fun s => !s.isDefinition)) := by
  rw [outerSightings, Callable.noteAll, List.foldl_flatMap]
  exact eq_foldl_of_ok (fun _ _ _ => eq_noteAll_of_recordCalls) ok

/-- Statements in the order of the source tell what may follow one another. -/
theorem pairwise_outerSightings {body : List Stmt} (ordered : body.Pairwise Before) :
    (outerSightings body).Pairwise Sighting.MayFollow := by
  refine List.pairwise_flatMap.mpr ⟨fun s _ => pairwise_sightings s.calls, ?_⟩
  refine ordered.imp fun {s t} before a mem b mem' => ?_
  obtain ⟨c, inside, told⟩ := mem_sightings.mp mem
  obtain ⟨c', inside', told'⟩ := mem_sightings.mp mem'
  refine mayFollow_of_line_le (before _ ?_ _ ?_) told told'
  · exact mem_lines_of_calls (List.mem_map.mpr ⟨c, inside, rfl⟩)
  · exact mem_lines_of_calls (List.mem_map.mpr ⟨c', inside', rfl⟩)

theorem mem_outerSightings {body : List Stmt} : s ∈ outerSightings body ↔ Tells body s := by
  simp only [outerSightings, List.mem_flatMap, mem_sightings, Tells, mem_bodyCalls]
  constructor
  · rintro ⟨t, inside, c, mem, told⟩
    exact ⟨c, ⟨t, inside, mem⟩, told⟩
  · rintro ⟨c, ⟨t, inside, mem⟩, told⟩
    exact ⟨t, inside, c, mem, told⟩

theorem accounts_of_functionOf? {isMethod : Bool} {t : Stmt} {signature : String}
    (made : functionOf? isMethod t = .ok (some (signature, f))) : f.Accounts (Tells [t]) := by
  cases t with
  | function line isAsync name params returns decorators body =>
    obtain ⟨decorated, -, made⟩ := exists_of_bind_ok made
    obtain ⟨tagged, recorded, made⟩ := exists_of_bind_ok made
    cases made
    have bare : Callable.Silent {
        line := line, docstring := docstring body, parameters := parameterNames params
        decorators := decorated, isAsync := isAsync } :=
      ⟨fun kind => by cases kind <;> rfl, rfl⟩
    have accounts := bare.accounts_noteAll
      (pairwise_sightings (Stmt.function line isAsync name params returns decorators body).calls)
    rw [← eq_noteAll_of_recordCalls recorded] at accounts
    have same : tagged.SameTags
        { tagged with routeHints := routeHints line name decorated isMethod } :=
      ⟨funext fun kind => by cases kind <;> rfl, rfl⟩
    refine (accounts.congr same).iff_congr fun s => ?_
    rw [mem_sightings, Tells, bodyCalls, bodyCalls, List.append_nil]
  | _ => cases made

/-- The top level accounts for the calls in the statements that define nothing. -/
theorem accounts_of_topLevel {source : String} {body : List Stmt}
    (read : module? source = some body) (made : topLevel body = .ok f) :
    f.Accounts (Tells (body.filter fun s => !s.isDefinition)) := by
  have ordered := (lines_of_module read).2.filter fun s => !s.isDefinition
  have bare : Callable.Silent { line := 1 } := ⟨fun kind => by cases kind <;> rfl, rfl⟩
  rw [eq_noteAll_of_topLevel made]
  exact (bare.accounts_noteAll (pairwise_outerSightings ordered)).iff_congr fun s =>
    mem_outerSightings

/-- A container accounts for the calls in the statements that it answers for. -/
theorem accounts_of_answers {source : String} {body held : List Stmt}
    (read : module? source = some body) (answers : Answers body held f) :
    f.Accounts (Tells held) := by
  cases answers with
  | function _ made => exact accounts_of_functionOf? made
  | method _ _ made => exact accounts_of_functionOf? made
  | top made _ => exact accounts_of_topLevel read made

end RepoSurvey.Python
