import RepoSurvey.Proofs.Detection.Hints
import RepoSurvey.Proofs.Tally

/-!
# What the analysis of a tree keeps

Functions are kept by signature, classes by name, and the methods of a class by
signature again. Of several with one key the last is kept (`LastOf`,
`mem_table_iff`). So the containers of an analysis are the functions that are the last
of their signature, the methods that are the last of theirs in a class that is
the last of its name, and the top level when it carries a tag
(`exists_container_iff_answers`).
-/

namespace RepoSurvey.Python

open Outcome (exists_of_bind_ok foldlM_ok)

/-! ## The last of each key -/

/-- The signature of a function. -/
def Stmt.signature? : Stmt → Option String
  | .function _ _ name params _ _ _ => some (signatureOf name (parameterNames params))
  | _ => none

/-- The name of a class. -/
def Stmt.className? : Stmt → Option String
  | .classDef _ name _ _ _ _ => some name
  | _ => none

/-- The statement has the key, and none after it does. -/
structure LastOf (key? : Stmt → Option String) (body : List Stmt) (k : String) (s : Stmt) :
    Prop where
  /-- The statement has the key. -/
  key : key? s = some k
  /-- It is one of the body, and no later one has the key. -/
  last : ∃ front back, body = front ++ s :: back ∧ ∀ s' ∈ back, key? s' ≠ some k

section

variable {key? : Stmt → Option String} {body rest : List Stmt} {k : String} {s s' : Stmt}

theorem LastOf.mem (h : LastOf key? body k s) : s ∈ body := by
  obtain ⟨front, back, rfl, -⟩ := h.last
  exact List.mem_append_right _ List.mem_cons_self

/-- The last of a body is the last of the rest, or the first when the rest has none. -/
theorem lastOf_cons : LastOf key? (s :: rest) k s' ↔
    LastOf key? rest k s' ∨ ((∀ t ∈ rest, key? t ≠ some k) ∧ key? s = some k ∧ s = s') := by
  constructor
  · rintro ⟨key, front, back, parts, none⟩
    cases front with
    | nil =>
      obtain ⟨rfl, rfl⟩ := List.cons.inj parts
      exact .inr ⟨none, key, rfl⟩
    | cons t front =>
      obtain ⟨rfl, rfl⟩ := List.cons.inj parts
      exact .inl ⟨key, front, back, rfl, none⟩
  · rintro (⟨key, front, back, rfl, none⟩ | ⟨none, key, rfl⟩)
    · exact ⟨key, s :: front, back, rfl, none⟩
    · exact ⟨key, [], rest, rfl, none⟩

end

/-- Entries made of statements, the last of each key. -/
def tableOf {α : Type} (make : Stmt → Except Unwritable (Option (String × α)))
    (body : List Stmt) (t : Table α) : Except Unwritable (Table α) :=
  body.foldlM (fun t s => do
    match ← make s with
    | some (k, v) => return Table.set t k v
    | none => return t) t

section

variable {α : Type} {make : Stmt → Except Unwritable (Option (String × α))}
  {key? : Stmt → Option String} {body : List Stmt} {t t' : Table α} {k : String} {v : α}

theorem get?_tableOf (keyed : ∀ s e?, make s = .ok e? → e?.map (·.1) = key? s)
    (ok : tableOf make body t = .ok t') :
    t'.get? k = some v ↔
      (∃ s, LastOf key? body k s ∧ make s = .ok (some (k, v))) ∨
        ((∀ s ∈ body, key? s ≠ some k) ∧ t.get? k = some v) := by
  induction body generalizing t with
  | nil =>
    cases ok
    refine ⟨fun known => .inr ⟨nofun, known⟩, ?_⟩
    rintro (⟨s, last, -⟩ | ⟨-, known⟩)
    · cases last.mem
    · exact known
  | cons s rest ih =>
    rw [tableOf, List.foldlM_cons] at ok
    obtain ⟨next, first, ok⟩ := exists_of_bind_ok ok
    obtain ⟨e?, made, first⟩ := exists_of_bind_ok first
    rw [ih ok]
    have key := keyed s e? made
    have after : next.get? k = some v ↔
        make s = .ok (some (k, v)) ∨ (key? s ≠ some k ∧ t.get? k = some v) := by
      cases e? with
      | none =>
        cases first
        simp [made, ← key]
      | some e =>
        cases first
        rw [Table.set, Table.get?_update, made, ← key]
        obtain ⟨k', v'⟩ := e
        by_cases own : k = k'
        · subst own
          simp
        · simp [own, Ne.symm own]
    rw [after]
    constructor
    · rintro (⟨s', last, made'⟩ | ⟨none, made' | ⟨other, old⟩⟩)
      · exact .inl ⟨s', lastOf_cons.mpr (.inl last), made'⟩
      · exact .inl ⟨s, lastOf_cons.mpr (.inr ⟨none, (keyed s _ made').symm, rfl⟩), made'⟩
      · exact .inr ⟨List.forall_mem_cons.mpr ⟨other, none⟩, old⟩
    · rintro (⟨s', last, made'⟩ | ⟨none, old⟩)
      · rcases lastOf_cons.mp last with later | ⟨none, -, rfl⟩
        · exact .inl ⟨s', later, made'⟩
        · exact .inr ⟨none, .inl made'⟩
      · obtain ⟨other, none⟩ := List.forall_mem_cons.mp none
        exact .inr ⟨none, .inr ⟨other, old⟩⟩

theorem exists_of_mem_tableOf (ok : tableOf make body t = .ok t') :
    ∀ s ∈ body, ∃ e?, make s = .ok e? := by
  induction body generalizing t with
  | nil => exact nofun
  | cons s rest ih =>
    rw [tableOf, List.foldlM_cons] at ok
    obtain ⟨next, first, ok⟩ := exists_of_bind_ok ok
    obtain ⟨e?, made, -⟩ := exists_of_bind_ok first
    exact List.forall_mem_cons.mpr ⟨⟨e?, made⟩, ih ok⟩

theorem nodup_tableOf (ok : tableOf make body [] = .ok t) : t.keys.Nodup := by
  have empty : (Table.keys ([] : Table α)).Nodup := List.nodup_nil
  refine foldlM_ok (motive := fun t : Table α => t.keys.Nodup) ?_ empty ok
  intro t s t' nodup taken
  obtain ⟨e?, -, taken⟩ := exists_of_bind_ok taken
  cases e? with
  | none => exact Except.ok.inj taken ▸ nodup
  | some e => exact Except.ok.inj taken ▸ Table.nodup_update nodup _ _

/-- A table has what is made of the last statement with each key, and nothing else. -/
theorem mem_tableOf_iff (keyed : ∀ s e?, make s = .ok e? → e?.map (·.1) = key? s)
    (ok : tableOf make body [] = .ok t) :
    (k, v) ∈ t ↔ ∃ s, LastOf key? body k s ∧ make s = .ok (some (k, v)) := by
  rw [Table.mem_iff_get? (nodup_tableOf ok), get?_tableOf keyed ok]
  exact or_iff_left nofun

/-- The last statement with a key leaves an entry. -/
theorem LastOf.exists_mem_tableOf (keyed : ∀ s e?, make s = .ok e? → e?.map (·.1) = key? s)
    (ok : tableOf make body [] = .ok t) {s : Stmt} (last : LastOf key? body k s) :
    ∃ v, make s = .ok (some (k, v)) ∧ (k, v) ∈ t := by
  obtain ⟨e?, made⟩ := exists_of_mem_tableOf ok s last.mem
  obtain ⟨⟨_, v⟩, rfl, rfl⟩ := Option.map_eq_some_iff.mp ((keyed s e? made).trans last.key)
  exact ⟨v, made, (mem_tableOf_iff keyed ok).mpr ⟨s, last, made⟩⟩

end

/-! ## Functions and classes -/

theorem map_fst_functionOf? {isMethod : Bool} (s : Stmt) (e? : Option (String × Callable))
    (made : functionOf? isMethod s = .ok e?) : e?.map (·.1) = s.signature? := by
  cases s with
  | function line isAsync name params returns decorators body =>
    obtain ⟨decorated, -, made⟩ := exists_of_bind_ok made
    obtain ⟨tagged, -, made⟩ := exists_of_bind_ok made
    cases made
    rfl
  | _ =>
    cases made
    rfl

theorem functionTable_eq (isMethod : Bool) (body : List Stmt) :
    functionTable isMethod body = tableOf (functionOf? isMethod) body [] := by
  unfold functionTable tableOf
  congr
  funext t s
  exact bind_congr fun e? => by cases e? <;> rfl

theorem mem_functionTable_iff {isMethod : Bool} {body : List Stmt} {t : Table Callable}
    {signature : String} {f : Callable} (ok : functionTable isMethod body = .ok t) :
    (signature, f) ∈ t ↔ ∃ s, LastOf Stmt.signature? body signature s ∧
      functionOf? isMethod s = .ok (some (signature, f)) :=
  mem_tableOf_iff map_fst_functionOf? (functionTable_eq isMethod body ▸ ok)

/-- The name and description of a class; nothing for another statement. -/
def classOf? : Stmt → Except Unwritable (Option (String × ClassDef))
  | .classDef line name bases _ decorators inner => do
    let methods ← functionTable true inner
    let bases ← bases.mapM Expr.dottedText
    let decorated ← decorators.mapM decoratorOf
    return some (name, {
      line := line, docstring := docstring inner, methods := methods
      bases := bases, decorators := decorated })
  | _ => .ok none

theorem map_fst_classOf? (s : Stmt) (e? : Option (String × ClassDef))
    (made : classOf? s = .ok e?) : e?.map (·.1) = s.className? := by
  cases s with
  | classDef line name bases keywords decorators inner =>
    obtain ⟨methods, -, made⟩ := exists_of_bind_ok made
    obtain ⟨bases, -, made⟩ := exists_of_bind_ok made
    obtain ⟨decorated, -, made⟩ := exists_of_bind_ok made
    cases made
    rfl
  | _ =>
    cases made
    rfl

theorem classTable_eq (body : List Stmt) : classTable body = tableOf classOf? body [] := by
  unfold classTable tableOf
  congr
  funext t s
  cases s with
  | classDef line name bases keywords decorators inner =>
    simp only [classOf?, bind_assoc, pure_bind]
  | _ => rfl

theorem LastOf.exists_mem_functionTable {isMethod : Bool} {body : List Stmt} {t : Table Callable}
    {signature : String} {s : Stmt} (ok : functionTable isMethod body = .ok t)
    (last : LastOf Stmt.signature? body signature s) :
    ∃ f, functionOf? isMethod s = .ok (some (signature, f)) ∧ (signature, f) ∈ t :=
  last.exists_mem_tableOf map_fst_functionOf? (functionTable_eq isMethod body ▸ ok)

theorem LastOf.exists_mem_classTable {body : List Stmt} {t : Table ClassDef} {name : String}
    {s : Stmt} (ok : classTable body = .ok t) (last : LastOf Stmt.className? body name s) :
    ∃ c, classOf? s = .ok (some (name, c)) ∧ (name, c) ∈ t :=
  last.exists_mem_tableOf map_fst_classOf? (classTable_eq body ▸ ok)

theorem mem_classTable_iff {body : List Stmt} {t : Table ClassDef} {name : String} {c : ClassDef}
    (ok : classTable body = .ok t) :
    (name, c) ∈ t ↔
      ∃ s, LastOf Stmt.className? body name s ∧ classOf? s = .ok (some (name, c)) := by
  rw [classTable_eq] at ok
  exact mem_tableOf_iff map_fst_classOf? ok

/-! ## Containers -/

/-- The callable is kept with the tags of calls in the statements: in those of one
function or method, or in those of the top level that define nothing. -/
inductive Answers (body : List Stmt) : List Stmt → Callable → Prop
  | function {s : Stmt} {f : Callable} {signature : String}
    (last : LastOf Stmt.signature? body signature s)
    (made : functionOf? false s = .ok (some (signature, f))) : Answers body [s] f
  | method {line : Nat} {name : String} {bases : List Expr} {keywords : List Keyword}
    {decorators : List Expr} {inner : List Stmt} {s : Stmt} {f : Callable} {signature : String}
    (lastClass : LastOf Stmt.className? body name
      (.classDef line name bases keywords decorators inner))
    (last : LastOf Stmt.signature? inner signature s)
    (made : functionOf? true s = .ok (some (signature, f))) : Answers body [s] f
  | top {f : Callable} (made : topLevel body = .ok f)
    (carries : (f.stateTags.isEmpty && f.eventTags.isEmpty) = false) :
    Answers body (body.filter fun s => !s.isDefinition) f

/-- What is known of a class that is made. -/
theorem exists_of_classOf? {s : Stmt} {name : String} {c : ClassDef}
    (made : classOf? s = .ok (some (name, c))) :
    ∃ line bases keywords decorators inner,
      s = .classDef line name bases keywords decorators inner ∧ c.line = line ∧
        functionTable true inner = .ok c.methods := by
  cases s with
  | classDef line name bases keywords decorators inner =>
    obtain ⟨methods, listed, made⟩ := exists_of_bind_ok made
    obtain ⟨bases', -, made⟩ := exists_of_bind_ok made
    obtain ⟨decorated, -, made⟩ := exists_of_bind_ok made
    cases made
    exact ⟨line, bases, keywords, decorators, inner, rfl, rfl, listed⟩
  | _ => cases made

theorem exists_container_iff_answers {body : List Stmt} {path : String} {a : FileAnalysis}
    (ok : analyse body path = .ok a) {f : Callable} :
    (∃ c ∈ Detection.containers a, c.info = f) ↔ ∃ held, Answers body held f := by
  obtain ⟨functions, classes, top, named, grouped, outside, rfl⟩ := exists_of_analyse ok
  rw [JavaScript.exists_container_iff]
  constructor
  · rintro (⟨signature, known⟩ | ⟨name, c, known, signature, member⟩ | known)
    · obtain ⟨s, last, made⟩ := (mem_functionTable_iff named).mp known
      exact ⟨[s], .function last made⟩
    · obtain ⟨s, lastClass, made⟩ := (mem_classTable_iff grouped).mp known
      obtain ⟨_, _, _, _, _, rfl, -, listed⟩ := exists_of_classOf? made
      obtain ⟨s, last, made⟩ := (mem_functionTable_iff listed).mp member
      exact ⟨[s], .method lastClass last made⟩
    · obtain ⟨carries, same⟩ := Option.ite_none_left_eq_some.mp known
      cases same
      exact ⟨_, .top outside (Bool.eq_false_iff.mpr carries)⟩
  · rintro ⟨held, answers⟩
    cases answers with
    | function last made => exact .inl ⟨_, (mem_functionTable_iff named).mpr ⟨_, last, made⟩⟩
    | method lastClass last made =>
      obtain ⟨c, madeClass, known⟩ := lastClass.exists_mem_classTable grouped
      obtain ⟨_, _, _, _, _, same, -, listed⟩ := exists_of_classOf? madeClass
      cases same
      have member := (mem_functionTable_iff listed).mpr ⟨_, last, made⟩
      exact .inr (.inl ⟨_, c, known, _, member⟩)
    | top made carries =>
      cases outside.symm.trans made
      exact .inr (.inr (by simp [carries]))

end RepoSurvey.Python
