import Mathlib.Logic.Relation
import RepoSurvey.Proofs.Survey.Batches

/-!
# A session through many operations

Whoever holds a session may set it up, ask what it can do, ask for a parser, and survey files
one by one or in batches, in any order and however often. What such an operation does to a
session that is set up is made of single steps (`Happens`): the structural parser is asked for a
language, a record is left, a report is made. `StructuralParser.asked` says all that asking does.

So what one step keeps holds over whole runs. `structural_tier_kept` says of every sequence of
operations that the set-up is attempted once, by the first operation that needs it, and that
the parser it gives stays: it never holds a language as loaded and as rejected, gives up no
rejection, warns once of each, and answers the same whenever it is asked.
-/

namespace RepoSurvey.Survey

/-! ## Operations -/

/-- What may be asked of a session. -/
inductive Operation where
  /-- To be set up. -/
  | setUp
  /-- To say what it can do. -/
  | statistics
  /-- To say whether it has a structural parser for a language. -/
  | hasParser (language : String)
  /-- To survey a file. -/
  | surveyFile (path content : String)
  /-- To survey a batch of files for a watcher. -/
  | surveyFiles (w : Watch) (files : Table String)

namespace Operation

/-- What an operation does. Its answer, or its failure, goes to whoever asked. -/
def act (k : Components) : Operation → Act Unit
  | .setUp => openSession k
  | .statistics => do
    let _ ← Survey.statistics k
  | .hasParser language => do
    let _ ← Survey.hasParser k language
  | .surveyFile path content => do
    let _ ← Survey.surveyFile k path content
  | .surveyFiles w files => do
    let _ ← (Survey.surveyFiles k w (plainReport files.length) files).run

/-- The operation sets the session up when that has not been done. -/
def setsUp : Operation → Bool
  | .statistics => false
  | .hasParser _ => false
  | .setUp => true
  | .surveyFile _ _ => true
  | .surveyFiles _ _ => true

/-- The run after an operation. -/
def after (k : Components) (r : Run) (op : Operation) : Run :=
  ((op.act k).run r).2

end Operation

/-- The run after some operations. -/
def runFrom (k : Components) (r : Run) (ops : List Operation) : Run :=
  ops.foldl (Operation.after k) r

/-- The run of a new session through some operations. -/
def runOf (k : Components) (ops : List Operation) : Run :=
  runFrom k {} ops

/-- The languages whose grammars could not be loaded. -/
def Run.rejected (r : Run) : List String :=
  r.session.structural.elim [] StructuralParser.rejected

/-- What the structural parser has recorded. -/
def Run.warnings (r : Run) : List Log.Record :=
  r.records.filter fun record => record.source == Log.loggerName (some "parsers.tree_sitter")

/-- The record of a grammar that could not be loaded. -/
def rejection (language : String) : Log.Record where
  level := .warning
  source := Log.loggerName (some "parsers.tree_sitter")
  message := "Tree-sitter grammar for " ++ language ++ " unavailable: no grammar " ++ language

theorem rejection_inj {a b : String} (same : rejection a = rejection b) : a = b := by
  have texts := congrArg (fun record => record.message.toList) same
  simp only [rejection, String.toList_append, List.append_assoc] at texts
  have parts := List.append_cancel_left texts
  have lengths := congrArg List.length parts
  simp only [List.length_append] at lengths
  exact String.toList_injective (List.append_inj_left parts (by omega))

/-! ## What asking does -/

namespace StructuralParser

variable {p p' p'' : StructuralParser} {library : GrammarLibrary}

/-- A parser later on: it has noted more, and forgotten nothing. -/
structure Grows (p p' : StructuralParser) : Prop where
  enabled : p'.enabled = p.enabled
  loaded : p.loaded <+: p'.loaded
  rejected : p.rejected <+: p'.rejected

theorem Grows.refl (p : StructuralParser) : p.Grows p :=
  ⟨rfl, List.prefix_rfl, List.prefix_rfl⟩

theorem Grows.trans (first : p.Grows p') (second : p'.Grows p'') : p.Grows p'' :=
  ⟨second.enabled.trans first.enabled, first.loaded.trans second.loaded,
    first.rejected.trans second.rejected⟩

/-- What it does to a parser to be asked for a language: nothing, or the language is loaded that
was not rejected, or it is rejected for the first time, with a record. -/
inductive Asked (p : StructuralParser) (library : GrammarLibrary) (language : String) : Prop where
  | settled (same : p.prepared library language = p) (silent : p.askRecords library language = [])
  | loads (new : p.prepared library language = { p with loaded := p.loaded ++ [language] })
      (silent : p.askRecords library language = []) (open_ : language ∉ p.rejected)
  | rejects (new : p.prepared library language = { p with rejected := p.rejected ++ [language] })
      (told : p.askRecords library language = [rejection language])
      (unread : language ∉ p.loaded) (open_ : language ∉ p.rejected)

theorem asked (p : StructuralParser) (library : GrammarLibrary) (language : String) :
    p.Asked library language := by
  cases considered : p.considers library language with
  | false =>
    refine .settled ?_ ?_
    · simp only [prepared, considered, Bool.not_false, Bool.true_or, if_true]
    · simp only [askRecords, considered, Bool.false_and, Bool.false_eq_true, if_false]
  | true =>
    have open_ : language ∉ p.rejected := by
      simp only [considers, Bool.and_eq_true, Bool.not_eq_true', List.contains_eq_mem,
        decide_eq_false_iff_not] at considered
      exact considered.2
    cases held : p.loaded.contains language with
    | true =>
      refine .settled ?_ ?_
      · simp only [prepared, held, Bool.or_true, if_true]
      · simp only [askRecords, has, held, considered, Bool.true_or, Bool.and_self, Bool.not_true,
          Bool.and_false, Bool.false_eq_true, if_false]
    | false =>
      cases known : library.languages.contains language with
      | true =>
        refine .loads ?_ ?_ open_
        · simp only [prepared, considered, held, known, Bool.not_true, Bool.or_self,
            Bool.false_eq_true, if_false, if_true]
        · simp only [askRecords, has, held, known, considered, Bool.false_or, Bool.and_self,
            Bool.not_true, Bool.and_false, Bool.false_eq_true, if_false]
      | false =>
        refine .rejects ?_ ?_ ?_ open_
        · simp only [prepared, considered, held, known, Bool.not_true, Bool.or_self,
            Bool.false_eq_true, if_false]
        · simp only [askRecords, has, held, known, considered, Bool.or_self, Bool.and_false,
            Bool.not_false, Bool.and_self, if_true]
          rfl
        · intro mem
          rw [List.contains_iff_mem.mpr mem] at held
          cases held

theorem grows_prepared (p : StructuralParser) (library : GrammarLibrary) (language : String) :
    p.Grows (p.prepared library language) := by
  cases p.asked library language with
  | settled same => rw [same]; exact .refl p
  | loads new => rw [new]; exact ⟨rfl, List.prefix_append _ _, List.prefix_rfl⟩
  | rejects new => rw [new]; exact ⟨rfl, List.prefix_rfl, List.prefix_append _ _⟩

end StructuralParser

/-! ## Steps -/

variable {k : Components} {r r' : Run} {α β : Type}

/-- One thing that happens to a run whose session is set up. -/
inductive Happens (k : Components) (r : Run) : Run → Prop where
  /-- The structural parser is asked for a language. -/
  | asked {p : StructuralParser} (language : String) (held : r.session.structural = some p) :
      Happens k r { r with
        session := { r.session with structural := some (p.prepared k.library language) }
        records := r.records ++ p.askRecords k.library language }
  /-- A record is left by the part that chooses parsers. -/
  | noted (level : Log.Level) (message : String) :
      Happens k r { r with
        records := r.records ++ [⟨level, Log.loggerName (some coordinatorPart), message⟩] }
  /-- A report is made. -/
  | told (report : Report) : Happens k r { r with reports := r.reports ++ [report] }

/-- Steps, one after another. -/
abbrev Leads (k : Components) : Run → Run → Prop :=
  Relation.ReflTransGen (Happens k)

theorem Happens.initialized (step : Happens k r r') :
    r'.session.initialized = r.session.initialized := by
  cases step <;> rfl

theorem Leads.initialized (leads : Leads k r r') :
    r'.session.initialized = r.session.initialized := by
  induction leads with
  | refl => rfl
  | tail _ step ih => exact step.initialized.trans ih

/-- Two acts do the same in every run whose session is set up, and it is made of steps. -/
def Agree (k : Components) (x x' : Act α) : Prop :=
  ∀ r : Run, r.session.initialized = true → x.run r = x'.run r ∧ Leads k r (x.run r).2

namespace Agree

theorem pure (a : α) : Agree k (Pure.pure a) (Pure.pure a : Act α) :=
  fun _ _ => ⟨rfl, .refl⟩

theorem bind {x x' : Act α} {f f' : α → Act β} (first : Agree k x x')
    (second : ∀ a, Agree k (f a) (f' a)) : Agree k (x >>= f) (x' >>= f') := by
  intro r set
  obtain ⟨same, leads⟩ := first r set
  obtain ⟨same', leads'⟩ := second (x.run r).1 (x.run r).2 (leads.initialized.trans set)
  rw [StateT.run_bind, StateT.run_bind, ← same]
  exact ⟨same', leads.trans leads'⟩

theorem note (level : Log.Level) (message : String) :
    Agree k (note level coordinatorPart message) (note level coordinatorPart message) :=
  fun _ _ => ⟨rfl, .single (.noted level message)⟩

/-- A session that is set up is not set up again, whatever the library would say. -/
theorem openSession (k' : Components) : Agree k (openSession k) (openSession k') := by
  intro r set
  have passed : ∀ k'' : Components, (Survey.openSession k'').run r = ((), r) := by
    intro k''
    show ((), { r with session := r.session.opened k''
                       records := r.records ++ r.session.openRecords k'' }) = ((), r)
    rw [Session.opened, Session.openRecords, if_pos set, if_pos set, List.append_nil]
  rw [passed k, passed k']
  exact ⟨rfl, .refl⟩

theorem hasParser (language : String) : Agree k (hasParser k language) (hasParser k language) := by
  refine fun r _ => ⟨rfl, ?_⟩
  cases held : r.session.structural with
  | none => rw [hasParser_run_of_none held]
  | some p =>
    rw [hasParser_run_of_some held]
    exact .single (.asked language held)

theorem structuralLanguages (languages : List String) :
    Agree k (structuralLanguages k languages) (structuralLanguages k languages) := by
  induction languages with
  | nil => exact pure _
  | cons language rest ih => exact (hasParser language).bind fun _ => ih.bind fun _ => pure _

theorem statistics : Agree k (statistics k) (statistics k) := by
  refine fun r set => ⟨rfl, ?_⟩
  show Leads k r ((do
    let languages ← if r.session.structural.any fun p => p.isAvailable k.library then
      Survey.structuralLanguages k Outline.languages else Pure.pure []
    return _ : Act Json).run r).2
  split
  · exact (((structuralLanguages Outline.languages).bind fun _ => pure _) r set).2
  · exact .refl

theorem throughTree (path content language : String) (usedFallback : Bool) (sep : String) :
    Agree k (throughTree k path content language usedFallback sep)
      (throughTree k path content language usedFallback sep) := by
  refine (hasParser language).bind fun found => ?_
  cases found with
  | false => exact pure _
  | true =>
    cases k.structural language content path with
    | ok a => exact pure _
    | error failure => exact (note _ _).bind fun _ => pure _

theorem route (path content language : String) :
    Agree k (route k path content language) (route k path content language) := by
  rw [Survey.route]
  simp only [afterFailure_eq, readTree_eq]
  cases primaryParser? k language with
  | some own =>
    cases read : own.2 content path with
    | ok a =>
      simp only [read]
      exact pure _
    | error failure =>
      simp only [read]
      exact (note _ _).bind fun _ => throughTree _ _ _ _ _
  | none =>
    by_cases grown : treeLanguages.contains language = true
    · simp only [grown, if_true]
      exact throughTree _ _ _ _ _
    · simp only [grown]
      exact pure _

/-- Surveying a file in a session that is set up asks nothing of the set-up. -/
theorem surveyFile (opening : Except Failure Unit) (path content : String) :
    Agree k (surveyFile k path content)
      (surveyFile { k with openLibrary := opening } path content) := by
  refine (openSession _).bind fun _ => ?_
  dsimp only
  cases k.detectLanguage path content with
  | error failure => exact (note _ _).bind fun _ => pure _
  | ok language => exact (route path content language).bind fun _ => pure _

theorem surveyAdmitted (opening : Except Failure Unit) (path content : String) :
    Agree k (surveyAdmitted k path content)
      (surveyAdmitted { k with openLibrary := opening } path content) := by
  rw [Survey.surveyAdmitted, Survey.surveyAdmitted]
  cases k.admitFile path with
  | ok _ => exact surveyFile opening path content
  | error failure => exact pure _

/-- Attempts agree in their steps and in what becomes of them. -/
theorem bind_attempt {x x' : Attempt α} {f f' : α → Attempt β} (first : Agree k x.run x'.run)
    (second : ∀ a, Agree k (f a).run (f' a).run) : Agree k (x >>= f).run (x' >>= f').run := by
  rw [ExceptT.run_bind, ExceptT.run_bind]
  refine first.bind fun outcome => ?_
  cases outcome with
  | ok a => exact second a
  | error failure => exact pure _

theorem lift {x x' : Act α} (h : Agree k x x') :
    Agree k (liftM x : Attempt α).run (liftM x' : Attempt α).run :=
  h.bind fun _ => pure _

theorem checkCancelled (w : Watch) : Agree k (checkCancelled w).run (checkCancelled w).run := by
  refine fun r _ => ⟨rfl, ?_⟩
  rw [checkCancelled_run]

theorem announce (w : Watch) (report : Report) :
    Agree k (announce w report).run (announce w report).run := by
  refine fun r _ => ⟨rfl, ?_⟩
  rw [announce_run]
  exact .single (.told report)

theorem surveyRest (opening : Except Failure Unit) (w : Watch) (describe : Nat → String → Report)
    (done : Nat) (files : Table String) :
    Agree k (surveyRest k w describe done files).run
      (surveyRest { k with openLibrary := opening } w describe done files).run := by
  induction files generalizing done with
  | nil => exact pure _
  | cons file rest ih =>
    exact (checkCancelled w).bind_attempt fun _ =>
      (surveyAdmitted opening file.1 file.2).lift.bind_attempt fun _ =>
        (announce w _).bind_attempt fun _ => (ih (done + 1)).bind_attempt fun _ => pure _

theorem surveyFiles (opening : Except Failure Unit) (w : Watch)
    (describe : Nat → String → Report) (files : Table String) :
    Agree k (surveyFiles k w describe files).run
      (surveyFiles { k with openLibrary := opening } w describe files).run :=
  (openSession _).lift.bind_attempt fun _ => surveyRest opening w describe 0 files

/-- In a session that is set up, an operation is made of steps, whatever the library would say
if it were opened again. -/
theorem act (opening : Except Failure Unit) (op : Operation) :
    Agree k (op.act k) (op.act { k with openLibrary := opening }) := by
  cases op with
  | setUp => exact openSession _
  | statistics => exact statistics.bind fun _ => pure _
  | hasParser language => exact (hasParser language).bind fun _ => pure _
  | surveyFile path content => exact (surveyFile opening path content).bind fun _ => pure _
  | surveyFiles w files => exact (surveyFiles opening w _ files).bind fun _ => pure _

end Agree

/-! ## What steps keep -/

/-- There is no parser later on if there was none, and else it is the same one, grown. -/
abbrev SameParser : Option StructuralParser → Option StructuralParser → Prop :=
  Option.Rel StructuralParser.Grows

theorem SameParser.refl (p? : Option StructuralParser) : SameParser p? p? := by
  cases p? with
  | none => exact .none
  | some p => exact .some (.refl p)

theorem SameParser.trans {p? p?' p?'' : Option StructuralParser} (first : SameParser p? p?')
    (second : SameParser p?' p?'') : SameParser p? p?'' := by
  cases first with
  | none => exact second
  | some grows =>
    cases second with
    | some grows' => exact .some (grows.trans grows')

theorem SameParser.rejected (same : SameParser r.session.structural r'.session.structural) :
    r.rejected <+: r'.rejected := by
  rw [Run.rejected, Run.rejected]
  generalize r.session.structural = p?, r'.session.structural = p?' at same
  cases same with
  | none => exact List.prefix_rfl
  | some grows => exact grows.rejected

theorem Leads.sameParser (leads : Leads k r r') :
    SameParser r.session.structural r'.session.structural := by
  induction leads with
  | refl => exact .refl _
  | tail _ step ih =>
    refine ih.trans ?_
    cases step with
    | asked language held =>
      rw [held]
      exact .some (StructuralParser.grows_prepared _ _ _)
    | noted => exact .refl _
    | told => exact .refl _

theorem Leads.ready (leads : Leads k r r') (ready : r.session.Ready k) :
    r'.session.Ready k := by
  induction leads with
  | refl => exact ready
  | tail _ step ih =>
    cases step with
    | asked language held =>
      refine ⟨ih.initialized, fun library => ?_, fun failure library => ?_⟩
      · obtain ⟨p, held', agrees⟩ := ih.agrees library
        obtain rfl := Option.some.inj (held.symm.trans held')
        exact ⟨_, rfl, agrees.prepared language⟩
      · have none := ih.without failure library
        rw [held] at none
        cases none
    | noted => exact ih
    | told => exact ih

/-- What the structural parser of a run has noted and recorded hangs together. -/
structure Kept (r : Run) : Prop where
  /-- No language is both loaded and rejected. -/
  apart : ∀ p, r.session.structural = some p → ∀ language ∈ p.loaded, language ∉ p.rejected
  /-- None is rejected twice. -/
  nodup : r.rejected.Nodup
  /-- The warnings are those of the languages that were rejected, in their order. -/
  warnings : r.warnings = r.rejected.map rejection

theorem Kept.happens (kept : Kept r) (step : Happens k r r') : Kept r' := by
  cases step with
  | told => exact ⟨kept.apart, kept.nodup, kept.warnings⟩
  | noted level message =>
    refine ⟨kept.apart, kept.nodup, ?_⟩
    have silent : (({ r with
        records := r.records ++ [⟨level, Log.loggerName (some coordinatorPart), message⟩] } :
        Run).warnings = r.warnings) := by
      have other : (Log.loggerName (some coordinatorPart) ==
          Log.loggerName (some "parsers.tree_sitter")) = false := by decide
      rw [Run.warnings, List.filter_append, List.filter_cons_of_neg, List.filter_nil,
        List.append_nil, Run.warnings]
      exact Bool.eq_false_iff.mp other
    exact silent.trans kept.warnings
  | @asked p language held =>
    have rejected : r.rejected = p.rejected := by
      rw [Run.rejected, held]
      rfl
    have apart := kept.apart p held
    have nodup := kept.nodup
    have warnings := kept.warnings
    rw [rejected] at nodup warnings
    cases p.asked k.library language with
    | settled same silent =>
      rw [same, silent]
      refine ⟨fun p' held' => ?_, nodup, ?_⟩
      · obtain rfl := Option.some.inj held'
        exact apart
      · rw [Run.warnings, List.append_nil]
        exact warnings
    | loads new silent open_ =>
      rw [new, silent]
      refine ⟨fun p' held' other mem => ?_, nodup, ?_⟩
      · obtain rfl := Option.some.inj held'
        rcases List.mem_append.mp mem with old | new
        · exact apart other old
        · rwa [List.mem_singleton.mp new]
      · rw [Run.warnings, List.append_nil]
        exact warnings
    | rejects new told unread open_ =>
      rw [new, told]
      refine ⟨fun p' held' other mem => ?_, ?_, ?_⟩
      · obtain rfl := Option.some.inj held'
        intro mem'
        rcases List.mem_append.mp mem' with old | new
        · exact apart other mem old
        · rw [List.mem_singleton.mp new] at mem
          exact unread mem
      · exact List.nodup_append.mpr ⟨nodup, List.nodup_singleton _, fun a old b new => by
          rw [List.mem_singleton.mp new]
          rintro rfl
          exact open_ old⟩
      · show (r.records ++ [rejection language]).filter _ = (p.rejected ++ [language]).map rejection
        rw [List.filter_append, List.map_append]
        exact congrArg (· ++ [rejection language]) warnings

theorem Kept.leads (kept : Kept r) (leads : Leads k r r') : Kept r' := by
  induction leads with
  | refl => exact kept
  | tail _ step ih => exact ih.happens step

theorem Kept.count_le_one (kept : Kept r) (language : String) :
    r.records.count (rejection language) ≤ 1 := by
  have own : r.records.count (rejection language) = r.warnings.count (rejection language) :=
    (List.count_filter (p := fun record : Log.Record =>
      record.source == Log.loggerName (some "parsers.tree_sitter")) (beq_self_eq_true _)).symm
  rw [own, kept.warnings]
  exact List.nodup_iff_count_le_one.mp (kept.nodup.map fun _ _ => rejection_inj) _

/-! ## Whole runs -/

theorem runFrom_append (k : Components) (r : Run) (ops more : List Operation) :
    runFrom k r (ops ++ more) = runFrom k (runFrom k r ops) more :=
  List.foldl_append

/-- Nothing happens to a new session before an operation that sets it up. -/
theorem runOf_of_idle {ops : List Operation} (idle : ops.any Operation.setsUp = false) :
    runOf k ops = {} := by
  induction ops with
  | nil => rfl
  | cons op rest ih =>
    rw [List.any_cons, Bool.or_eq_false_iff] at idle
    have unmoved : op.after k {} = {} := by
      cases op with
      | statistics => rfl
      | hasParser language => rfl
      | setUp => cases idle.1
      | surveyFile => cases idle.1
      | surveyFiles => cases idle.1
    rw [runOf, runFrom, List.foldl_cons, unmoved]
    exact ih idle.2

theorem initialized_openedRun (k : Components) (r : Run) :
    (openedRun k r).session.initialized = true := by
  rw [openedRun, Session.opened]
  split
  next set => exact set
  next => split <;> rfl

theorem openedRun_of_initialized (set : r.session.initialized = true) : openedRun k r = r := by
  rw [openedRun, Session.opened, Session.openRecords, if_pos set, if_pos set, List.append_nil]

theorem openSession_run (k : Components) (r : Run) :
    (openSession k).run r = ((), openedRun k r) :=
  rfl

/-- An operation that sets a session up does that first. -/
theorem after_openedRun {op : Operation} (sets : op.setsUp = true) (r : Run) :
    op.after k r = op.after k (openedRun k r) := by
  have once : openedRun k (openedRun k r) = openedRun k r :=
    openedRun_of_initialized (initialized_openedRun k r)
  cases op with
  | setUp => exact once.symm
  | surveyFile path content =>
    simp only [Operation.after, Operation.act, surveyFile, bind_assoc, StateT.run_bind,
      openSession_run, once]
  | surveyFiles w files =>
    simp only [Operation.after, Operation.act, StateT.run_bind, surveyFiles_run, once]
  | statistics => cases sets
  | hasParser => cases sets

/-- From a session that is set up a run is made of steps, and a library that would open
differently makes no difference. -/
theorem leads_runFrom (set : r.session.initialized = true) (opening : Except Failure Unit)
    (ops : List Operation) :
    runFrom k r ops = runFrom { k with openLibrary := opening } r ops ∧
      Leads k r (runFrom k r ops) := by
  induction ops generalizing r with
  | nil => exact ⟨rfl, .refl⟩
  | cons op rest ih =>
    obtain ⟨same, leads⟩ := Agree.act opening op r set
    have alike : op.after k r = op.after { k with openLibrary := opening } r :=
      congrArg Prod.snd same
    obtain ⟨same', leads'⟩ := ih (leads.initialized.trans set)
    refine ⟨?_, leads.trans leads'⟩
    rw [runFrom, runFrom, List.foldl_cons, List.foldl_cons, ← alike]
    exact same'

/-- Once it is set up, what happened to a session is the set-up and steps after it. -/
theorem leads_runOf {ops : List Operation} (busy : ops.any Operation.setsUp = true) :
    Leads k (openedRun k {}) (runOf k ops) := by
  induction ops with
  | nil => cases busy
  | cons op rest ih =>
    cases sets : op.setsUp with
    | true =>
      have set := initialized_openedRun k {}
      have first : Leads k (openedRun k {}) (op.after k {}) := by
        rw [after_openedRun sets]
        exact (Agree.act k.openLibrary op _ set).2
      exact first.trans (leads_runFrom (first.initialized.trans set) k.openLibrary rest).2
    | false =>
      have idle : [op].any Operation.setsUp = false := by
        rw [List.any_cons, sets, List.any_nil, Bool.or_self]
      have unmoved : op.after k {} = {} := runOf_of_idle idle
      rw [List.any_cons, sets, Bool.false_or] at busy
      rw [runOf, runFrom, List.foldl_cons, unmoved]
      exact ih busy

theorem kept_openedRun (k : Components) : Kept (openedRun k {}) := by
  rw [openedRun, Session.opened, Session.openRecords]
  simp only [Bool.false_eq_true, if_false]
  cases k.openLibrary with
  | ok done =>
    refine ⟨fun p held => ?_, List.nodup_nil, ?_⟩
    · obtain rfl := Option.some.inj held
      exact List.forall_mem_nil _
    · cases k.library.available <;> rfl
  | error failure => exact ⟨fun _ held => (by cases held), List.nodup_nil, rfl⟩

theorem kept_runOf (k : Components) (ops : List Operation) : Kept (runOf k ops) := by
  cases busy : ops.any Operation.setsUp with
  | true => exact (kept_openedRun k).leads (leads_runOf busy)
  | false =>
    rw [runOf_of_idle busy]
    exact ⟨nofun, List.nodup_nil, rfl⟩

/-! ## The structural parser of a session -/

section

variable {ops : List Operation}

theorem runOf_append (k : Components) (ops more : List Operation) :
    runOf k (ops ++ more) = runFrom k (runOf k ops) more :=
  runFrom_append k {} ops more

theorem initialized_runOf (busy : ops.any Operation.setsUp = true) :
    (runOf k ops).session.initialized = true :=
  (leads_runOf busy).initialized.trans (initialized_openedRun k {})

theorem initialized_runOf_eq (k : Components) (ops : List Operation) :
    (runOf k ops).session.initialized = ops.any Operation.setsUp := by
  cases busy : ops.any Operation.setsUp with
  | true => exact initialized_runOf busy
  | false => rw [runOf_of_idle busy]

/-- The set-up gives a parser when the library can be opened. -/
theorem isSome_structural_openedRun_iff (k : Components) :
    (openedRun k {}).session.structural.isSome = true ↔ k.openLibrary = .ok () := by
  rw [openedRun, Session.opened]
  simp only [Bool.false_eq_true, if_false]
  cases k.openLibrary with
  | ok done => exact ⟨fun _ => rfl, fun _ => rfl⟩
  | error failure => exact ⟨fun there => (by cases there), fun opened => (by cases opened)⟩

/-- Once the session is set up, the answer for a language is a matter of the library. -/
theorem hasParser_runOf (busy : ops.any Operation.setsUp = true) (language : String) :
    ((hasParser k language).run (runOf k ops)).1 = k.reads language := by
  have new : Session.Sound k {} := fun initialized => (by cases initialized)
  have ready : (openedRun k {}).session.Ready k := new.opened
  obtain ⟨r', ran, -⟩ := gives_hasParser language _ ((leads_runOf busy).ready ready)
  rw [ran]

theorem rejected_runOf_prefix (k : Components) (ops more : List Operation) :
    (runOf k ops).rejected <+: (runOf k (ops ++ more)).rejected := by
  cases busy : ops.any Operation.setsUp with
  | true =>
    rw [runOf_append]
    exact (leads_runFrom (initialized_runOf busy) k.openLibrary more).2.sameParser.rejected
  | false =>
    rw [runOf_of_idle busy]
    exact List.nil_prefix

end

/-- What holds of the structural parser of a new session after some operations, and from then
on through all that come later. -/
structure TierKept (k : Components) (ops : List Operation) : Prop where
  /-- The session counts as set up from the first operation that sets it up, whether the library
  could be opened or not. -/
  initialized : (runOf k ops).session.initialized = ops.any Operation.setsUp
  /-- Before that operation nothing has happened. -/
  idle : ops.any Operation.setsUp = false → runOf k ops = {}
  /-- That operation first attempts the set-up, which gives a parser when the library can be
  opened. -/
  first : ops.any Operation.setsUp = false → ∀ op : Operation, op.setsUp = true →
    runOf k (ops ++ [op]) = op.after k (openedRun k {}) ∧
      ((openedRun k {}).session.structural.isSome = true ↔ k.openLibrary = .ok ())
  /-- Later it is not attempted again: setting up leaves the run as it is, what opening the
  library would give now makes no difference, and the parser stays. -/
  later : ops.any Operation.setsUp = true → ∀ (opening : Except Failure Unit) more,
    (openSession k).run (runOf k ops) = ((), runOf k ops) ∧
      runFrom { k with openLibrary := opening } (runOf k ops) more = runOf k (ops ++ more) ∧
      SameParser (runOf k ops).session.structural (runOf k (ops ++ more)).session.structural
  /-- No language is both loaded and rejected. -/
  apart : ∀ p, (runOf k ops).session.structural = some p →
    ∀ language ∈ p.loaded, language ∉ p.rejected
  /-- What is rejected stays rejected. -/
  stays : ∀ more, (runOf k ops).rejected <+: (runOf k (ops ++ more)).rejected
  /-- The parser has warned of what it has rejected, in this order and of nothing else. -/
  warnings : (runOf k ops).warnings = (runOf k ops).rejected.map rejection
  /-- It has warned of no language twice. -/
  once : ∀ language, (runOf k ops).records.count (rejection language) ≤ 1
  /-- Once the session is set up, the answer for a language is the same at every point. -/
  answers : ops.any Operation.setsUp = true → ∀ more language,
    ((hasParser k language).run (runOf k (ops ++ more))).1 =
      ((hasParser k language).run (runOf k ops)).1

/-- The structural parser through any sequence of operations. -/
theorem structural_tier_kept (k : Components) (ops : List Operation) : TierKept k ops where
  initialized := initialized_runOf_eq k ops
  idle := runOf_of_idle
  first idle op sets := by
    rw [runOf_append, runOf_of_idle idle]
    exact ⟨after_openedRun sets {}, isSome_structural_openedRun_iff k⟩
  later busy opening more := by
    obtain ⟨same, leads⟩ := leads_runFrom (initialized_runOf busy) opening more
    rw [openSession_run, openedRun_of_initialized (initialized_runOf busy), runOf_append]
    exact ⟨rfl, same.symm, leads.sameParser⟩
  apart := (kept_runOf k ops).apart
  stays := rejected_runOf_prefix k ops
  warnings := (kept_runOf k ops).warnings
  once := (kept_runOf k ops).count_le_one
  answers busy more language := by
    have busy' : (ops ++ more).any Operation.setsUp = true := by
      rw [List.any_append, busy, Bool.true_or]
    rw [hasParser_runOf busy', hasParser_runOf busy]

end RepoSurvey.Survey
