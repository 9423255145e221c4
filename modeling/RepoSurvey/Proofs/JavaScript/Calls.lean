import RepoSurvey.Proofs.JavaScript.Tags
import RepoSurvey.Proofs.Text.Matching

/-!
# What the tags of a source say

A tag is written from the texts that a pattern captures. `EventCall` and
`StateCall` are what is captured, before it is written as a tag: `Matches` says
that a match in the code captures it, and every tag of a source is written from
something that is captured (`Speaks.exists_eventCall`, `Speaks.exists_stateCall`).

What is captured is never any text at all. Names are identifiers, literals have
no quotes, and methods are among those that are looked for
(`EventCall.Matches.proper`, `StateCall.Matches.proper`).
-/

namespace RepoSurvey.JavaScript

open Text (Pattern Match isWordOrDollar)

/-! ## Captured texts -/

/-- A name as sources write them. -/
def IsIdentifier (s : String) : Prop :=
  ∃ first rest, s.toList = first :: rest ∧ isNameStart first = true ∧
    ∀ c ∈ rest, isWordOrDollar c = true

/-- A text that can stand between quotes of either kind. -/
def IsLiteral (s : String) : Prop :=
  s.toList ≠ [] ∧ ∀ c ∈ s.toList, isQuote c = false

section

variable {code : Array Char} {p q : Pattern} {m : Match} {number : Nat} {before after : List Char}
  {caps caps' : Text.Pieces} {held : String}

/-- What a match captures under a number that one piece of the pattern captures. -/
theorem exists_group (number : Nat) (found : m ∈ p.findAll code) (always : p.captures number = true)
    (only : p.captured number = [q]) : ∃ held, m.group? code number = some held ∧
      ∃ before after caps caps', q.Reads before held.toList after caps caps' := by
  obtain ⟨held, group⟩ := Pattern.exists_group?_of_captures found always
  obtain ⟨r, mem, read⟩ := Pattern.exists_captured_reads found group
  rw [only, List.mem_singleton] at mem
  subst mem
  exact ⟨held, group, read⟩

theorem reads_of_group (found : m ∈ p.findAll code) (only : p.captured number = [q])
    (group : m.group? code number = some held) :
    ∃ before after caps caps', q.Reads before held.toList after caps caps' := by
  obtain ⟨r, mem, read⟩ := Pattern.exists_captured_reads found group
  rw [only, List.mem_singleton] at mem
  subst mem
  exact read

theorem isIdentifier_of_reads (reads : name.Reads before held.toList after caps caps') :
    IsIdentifier held := by
  obtain ⟨first, rest, mid, parts, ⟨⟨c, rfl, starts⟩, -⟩, further⟩ := reads
  exact ⟨c, rest, parts, starts, (Pattern.reads_many.mp further).1⟩

theorem isLiteral_of_reads
    (reads : (Pattern.some1 fun c => !isQuote c).Reads before held.toList after caps caps') :
    IsLiteral held := by
  obtain ⟨free, nonempty, -⟩ := Pattern.reads_some1.mp reads
  refine ⟨nonempty, fun c mem => ?_⟩
  rw [← Bool.not_eq_true', free c mem]

theorem mem_of_reads_oneOf {words : List String}
    (reads : (Pattern.oneOf words).Reads before held.toList after caps caps') : held ∈ words := by
  obtain ⟨word, mem, same, -⟩ := Pattern.reads_oneOf.mp reads
  rwa [String.toList_inj.mp same]

end

/-! ## Events -/

/-- What is captured about an event. -/
inductive EventCall where
  /-- A handler property in markup, by its name after the first two letters. -/
  | property (name : String)
  /-- A listener added to an element. -/
  | listener (event : String)
  /-- A handler assigned to an element, by the name of the property after the first two letters. -/
  | assigned (name : String)
  /-- A message between processes. -/
  | channel (side method event : String)
  /-- A call of an emitter. -/
  | emitter (method event : String)

namespace EventCall

/-- The tag in which it is written. -/
def tag : EventCall → String
  | .property name => "on" ++ name
  | .listener event => "addEventListener('" ++ event ++ "')"
  | .assigned name => "on" ++ name ++ "="
  | .channel side method event => side ++ "." ++ method ++ "('" ++ event ++ "')"
  | .emitter method event => "." ++ method ++ "('" ++ event ++ "')"

/-- A match in the code captures it. -/
def Matches (code : Array Char) (m : Match) : EventCall → Prop
  | .property name => m ∈ handlerProperty.findAll code ∧ m.group? code 1 = some ("on" ++ name)
  | .listener event => m ∈ listenerCall.findAll code ∧ m.group? code 1 = some event
  | .assigned name => m ∈ handlerAssignment.findAll code ∧ m.group? code 1 = some ("on" ++ name)
  | .channel side method event => m ∈ channelCall.findAll code ∧ m.group? code 1 = some side ∧
      m.group? code 2 = some method ∧ m.group? code 3 = some event
  | .emitter method event => m ∈ emitterCall.findAll code ∧ m.group? code 2 = some method ∧
      m.group? code 3 = some event

/-- It is something that can be captured. -/
def Proper : EventCall → Prop
  | .property name => ∃ first rest, name.toList = first :: rest ∧
      ('A' ≤ first && first ≤ 'Z') = true ∧
      ∀ c ∈ rest, (('A' ≤ c && c ≤ 'Z') || ('a' ≤ c && c ≤ 'z')) = true
  | .listener event => IsLiteral event
  | .assigned name => name.toList ≠ [] ∧ ∀ c ∈ name.toList, ('a' ≤ c && c ≤ 'z') = true
  | .channel side method event => side ∈ ["ipcMain", "ipcRenderer"] ∧
      method ∈ ["handle", "handleOnce", "on", "once", "send", "invoke"] ∧ IsLiteral event
  | .emitter method event => method ∈ ["on", "once", "emit", "addListener"] ∧ IsLiteral event

end EventCall

section

variable {code : Array Char} {m : Match} {tag : String}

theorem group_eq_of_group? {number : Nat} {held : String}
    (group : m.group? code number = some held) : m.group code number = held := by
  rw [Match.group, group]
  rfl

theorem on_append_inj {name name' : String} (same : "on" ++ name = "on" ++ name') :
    name = name' := by
  have lists := congrArg String.toList same
  rw [String.toList_append, String.toList_append] at lists
  exact String.toList_inj.mp (List.append_cancel_left lists)

theorem eq_on_append {held : String} {rest : List Char}
    (parts : held.toList = "on".toList ++ rest) :
    held = "on" ++ String.ofList rest := by
  rw [← String.toList_inj, String.toList_append, parts]
  exact congrArg _ String.toList_ofList.symm

theorem exists_handlerProperty (found : m ∈ handlerProperty.findAll code) :
    ∃ name, m.group? code 1 = some ("on" ++ name) ∧ (EventCall.property name).Proper := by
  obtain ⟨held, group, _, _, _, _, reads⟩ := exists_group 1 found rfl rfl
  obtain ⟨_, rest, _, parts, opening, first, more, _, rfl, ⟨⟨c, rfl, capital⟩, -⟩, letters⟩ := reads
  obtain ⟨rfl, -⟩ := Pattern.reads_literal.mp opening
  rw [eq_on_append parts] at group
  exact ⟨String.ofList (c :: more), group, c, more, String.toList_ofList, capital,
    (Pattern.reads_many.mp letters).1⟩

theorem exists_handlerAssignment (found : m ∈ handlerAssignment.findAll code) :
    ∃ name, m.group? code 1 = some ("on" ++ name) ∧ (EventCall.assigned name).Proper := by
  obtain ⟨held, group, _, _, _, _, reads⟩ := exists_group 1 found rfl rfl
  obtain ⟨_, rest, _, parts, opening, letters⟩ := reads
  obtain ⟨rfl, -⟩ := Pattern.reads_literal.mp opening
  obtain ⟨letters, nonempty, -⟩ := Pattern.reads_some1.mp letters
  rw [eq_on_append parts] at group
  refine ⟨String.ofList rest, group, ?_, ?_⟩
  · rwa [String.toList_ofList]
  · rwa [String.toList_ofList]

theorem exists_property (found : m ∈ handlerProperty.findAll code) :
    ∃ name, (EventCall.property name).Matches code m ∧
      (EventCall.property name).tag = m.group code 1 := by
  obtain ⟨name, group, -⟩ := exists_handlerProperty found
  exact ⟨name, ⟨found, group⟩, (group_eq_of_group? group).symm⟩

theorem exists_listener (found : m ∈ listenerCall.findAll code) :
    ∃ event, (EventCall.listener event).Matches code m ∧
      (EventCall.listener event).tag = "addEventListener('" ++ m.group code 1 ++ "')" := by
  obtain ⟨event, group, -⟩ := exists_group 1 found rfl rfl
  refine ⟨event, ⟨found, group⟩, ?_⟩
  rw [group_eq_of_group? group]
  rfl

theorem exists_assigned (found : m ∈ handlerAssignment.findAll code) :
    ∃ name, (EventCall.assigned name).Matches code m ∧
      (EventCall.assigned name).tag = m.group code 1 ++ "=" := by
  obtain ⟨name, group, -⟩ := exists_handlerAssignment found
  refine ⟨name, ⟨found, group⟩, ?_⟩
  rw [group_eq_of_group? group]
  rfl

theorem exists_channel (found : m ∈ channelCall.findAll code) :
    ∃ side method event, (EventCall.channel side method event).Matches code m ∧
      (EventCall.channel side method event).tag =
        m.group code 1 ++ "." ++ m.group code 2 ++ "('" ++ m.group code 3 ++ "')" := by
  obtain ⟨side, group, -⟩ := exists_group 1 found rfl rfl
  obtain ⟨method, group', -⟩ := exists_group 2 found rfl rfl
  obtain ⟨event, group'', -⟩ := exists_group 3 found rfl rfl
  refine ⟨side, method, event, ⟨found, group, group', group''⟩, ?_⟩
  rw [group_eq_of_group? group, group_eq_of_group? group', group_eq_of_group? group'']
  rfl

theorem exists_emitter (found : m ∈ emitterCall.findAll code) :
    ∃ method event, (EventCall.emitter method event).Matches code m ∧
      (EventCall.emitter method event).tag =
        "." ++ m.group code 2 ++ "('" ++ m.group code 3 ++ "')" := by
  obtain ⟨method, group, -⟩ := exists_group 2 found rfl rfl
  obtain ⟨event, group', -⟩ := exists_group 3 found rfl rfl
  refine ⟨method, event, ⟨found, group, group'⟩, ?_⟩
  rw [group_eq_of_group? group, group_eq_of_group? group']
  rfl

/-- A tag of an event is written from something that is captured. -/
theorem Speaks.exists_eventCall (speaks : Speaks code m (.event tag)) :
    ∃ call : EventCall, call.Matches code m ∧ call.tag = tag := by
  cases speaks with
  | property found =>
    obtain ⟨_, written⟩ := exists_property found
    exact ⟨_, written⟩
  | listener found =>
    obtain ⟨_, written⟩ := exists_listener found
    exact ⟨_, written⟩
  | assignment found =>
    obtain ⟨_, written⟩ := exists_assigned found
    exact ⟨_, written⟩
  | channel found =>
    obtain ⟨_, _, _, written⟩ := exists_channel found
    exact ⟨_, written⟩
  | emitter found _ =>
    obtain ⟨_, _, written⟩ := exists_emitter found
    exact ⟨_, written⟩

theorem EventCall.Matches.proper {call : EventCall} (matched : call.Matches code m) :
    call.Proper := by
  cases call with
  | property name =>
    obtain ⟨found, group⟩ := matched
    obtain ⟨name', group', proper⟩ := exists_handlerProperty found
    rw [group, Option.some_inj] at group'
    rwa [on_append_inj group']
  | listener event =>
    obtain ⟨found, group⟩ := matched
    obtain ⟨_, _, _, _, reads⟩ := reads_of_group found rfl group
    exact isLiteral_of_reads reads
  | assigned name =>
    obtain ⟨found, group⟩ := matched
    obtain ⟨name', group', proper⟩ := exists_handlerAssignment found
    rw [group, Option.some_inj] at group'
    rwa [on_append_inj group']
  | channel side method event =>
    obtain ⟨found, group, group', group''⟩ := matched
    obtain ⟨_, _, _, _, reads⟩ := reads_of_group found rfl group
    obtain ⟨_, _, _, _, reads'⟩ := reads_of_group found rfl group'
    obtain ⟨_, _, _, _, reads''⟩ := reads_of_group found rfl group''
    exact ⟨mem_of_reads_oneOf reads, mem_of_reads_oneOf reads', isLiteral_of_reads reads''⟩
  | emitter method event =>
    obtain ⟨found, group, group'⟩ := matched
    obtain ⟨_, _, _, _, reads⟩ := reads_of_group found rfl group
    obtain ⟨_, _, _, _, reads'⟩ := reads_of_group found rfl group'
    exact ⟨mem_of_reads_oneOf reads, isLiteral_of_reads reads'⟩

end

/-! ## State -/

/-- What is captured about a change of state. -/
inductive StateCall where
  /-- A pair bound to a state hook: its value, its setter if there is one, and the hook. -/
  | pair (value : String) (setter : Option String) (hook : String)
  /-- A call of a state hook. -/
  | hook (name : String)
  /-- A call of a component's state setter, with the first key. -/
  | setState (key : Option String)
  /-- A dispatched action, with its type or its creator. -/
  | dispatch (type creator : Option String)
  /-- A call of a setter. -/
  | setter (name : String)
  /-- A call that makes or changes observable state. -/
  | observable (name : String)

namespace StateCall

/-- The tag in which it is written. -/
def tag : StateCall → String
  | .pair value bound source => destructuredTag value bound source
  | .hook name => name
  | .setState key => setStateTag key
  | .dispatch type creator => dispatchTag type creator
  | .setter name => name ++ "("
  | .observable name => name ++ "("

/-- A match in the code captures it. -/
def Matches (code : Array Char) (m : Match) : StateCall → Prop
  | .pair value bound source => m ∈ stateDestructured.findAll code ∧
      m.group? code 1 = some value ∧ m.group? code 2 = bound ∧ m.group? code 3 = some source
  | .hook name => m ∈ stateHook.findAll code ∧ m.group? code 1 = some name
  | .setState key => m ∈ setStateCall.findAll code ∧ m.group? code 1 = key
  | .dispatch type creator => m ∈ dispatchCall.findAll code ∧ m.group? code 1 = type ∧
      m.group? code 2 = creator
  | .setter name => m ∈ setterCall.findAll code ∧ m.group? code 1 = some name ∧
      name ∉ platformSetters
  | .observable name => m ∈ observableCall.findAll code ∧ m.group? code 1 = some name

/-- It is something that can be captured. -/
def Proper : StateCall → Prop
  | .pair value bound source => IsIdentifier value ∧ (∀ s ∈ bound, IsIdentifier s) ∧
      source ∈ ["useState", "useReducer"]
  | .hook name => name ∈ ["useState", "useReducer", "useSelector"]
  | .setState key => ∀ k ∈ key, IsIdentifier k
  | .dispatch type creator => (∀ t ∈ type, IsLiteral t) ∧ ∀ f ∈ creator, IsIdentifier f
  | .setter name => (∃ first rest, name.toList = "set".toList ++ first :: rest ∧
      ('A' ≤ first && first ≤ 'Z') = true ∧ ∀ c ∈ rest, isWordOrDollar c = true) ∧
      name ∉ platformSetters
  | .observable name => name ∈ ["makeAutoObservable", "makeObservable", "observable",
      "runInAction", "action", "computed"]

end StateCall

section

variable {code : Array Char} {m : Match} {tag : String}

theorem exists_pair (found : m ∈ stateDestructured.findAll code) :
    ∃ value hook, (StateCall.pair value (m.group? code 2) hook).Matches code m ∧
      (StateCall.pair value (m.group? code 2) hook).tag =
        destructuredTag (m.group code 1) (m.group? code 2) (m.group code 3) := by
  obtain ⟨value, group, -⟩ := exists_group 1 found rfl rfl
  obtain ⟨hook, group', -⟩ := exists_group 3 found rfl rfl
  refine ⟨value, hook, ⟨found, group, rfl, group'⟩, ?_⟩
  rw [group_eq_of_group? group, group_eq_of_group? group']
  rfl

theorem exists_hook (found : m ∈ stateHook.findAll code) :
    ∃ name, (StateCall.hook name).Matches code m ∧ (StateCall.hook name).tag = m.group code 1 := by
  obtain ⟨name, group, -⟩ := exists_group 1 found rfl rfl
  exact ⟨name, ⟨found, group⟩, (group_eq_of_group? group).symm⟩

theorem exists_setter (found : m ∈ setterCall.findAll code)
    (own : m.group code 1 ∉ platformSetters) :
    ∃ name, (StateCall.setter name).Matches code m ∧
      (StateCall.setter name).tag = m.group code 1 ++ "(" := by
  obtain ⟨name, group, -⟩ := exists_group 1 found rfl rfl
  rw [group_eq_of_group? group] at own ⊢
  exact ⟨name, ⟨found, group, own⟩, rfl⟩

theorem exists_observable (found : m ∈ observableCall.findAll code) :
    ∃ name, (StateCall.observable name).Matches code m ∧
      (StateCall.observable name).tag = m.group code 1 ++ "(" := by
  obtain ⟨name, group, -⟩ := exists_group 1 found rfl rfl
  rw [group_eq_of_group? group]
  exact ⟨name, ⟨found, group⟩, rfl⟩

/-- A tag of a change of state is written from something that is captured. -/
theorem Speaks.exists_stateCall (speaks : Speaks code m (.state tag)) :
    ∃ call : StateCall, call.Matches code m ∧ call.tag = tag := by
  cases speaks with
  | pair found =>
    obtain ⟨_, _, written⟩ := exists_pair found
    exact ⟨_, written⟩
  | hook found _ =>
    obtain ⟨_, written⟩ := exists_hook found
    exact ⟨_, written⟩
  | setState found => exact ⟨.setState (m.group? code 1), ⟨found, rfl⟩, rfl⟩
  | dispatch found =>
    exact ⟨.dispatch (m.group? code 1) (m.group? code 2), ⟨found, rfl, rfl⟩, rfl⟩
  | setter found own =>
    obtain ⟨_, written⟩ := exists_setter found own
    exact ⟨_, written⟩
  | observable found =>
    obtain ⟨_, written⟩ := exists_observable found
    exact ⟨_, written⟩

theorem mem_of_reads_hook {words : List String} {before after : List Char}
    {caps caps' : Text.Pieces} {held : String}
    (reads : (Pattern.seq (.literal "use") (.oneOf words)).Reads before held.toList after caps
      caps') : ∃ word ∈ words, held = "use" ++ word := by
  obtain ⟨_, rest, _, parts, opening, further⟩ := reads
  obtain ⟨rfl, -⟩ := Pattern.reads_literal.mp opening
  obtain ⟨word, mem, rfl, -⟩ := Pattern.reads_oneOf.mp further
  refine ⟨word, mem, ?_⟩
  rw [← String.toList_inj, parts, String.toList_append]

theorem StateCall.Matches.proper {call : StateCall} (matched : call.Matches code m) :
    call.Proper := by
  cases call with
  | pair value setter hook =>
    obtain ⟨found, group, group', group''⟩ := matched
    obtain ⟨_, _, _, _, reads⟩ := reads_of_group found rfl group
    obtain ⟨_, _, _, _, reads''⟩ := reads_of_group found rfl group''
    refine ⟨isIdentifier_of_reads reads, fun s same => ?_, ?_⟩
    · obtain ⟨_, _, _, _, reads'⟩ := reads_of_group found rfl (group'.trans same)
      exact isIdentifier_of_reads reads'
    · obtain ⟨word, mem, rfl⟩ := mem_of_reads_hook reads''
      exact List.mem_map_of_mem mem
  | hook name =>
    obtain ⟨found, group⟩ := matched
    obtain ⟨_, _, _, _, reads⟩ := reads_of_group found rfl group
    obtain ⟨word, mem, rfl⟩ := mem_of_reads_hook reads
    exact List.mem_map_of_mem mem
  | setState key =>
    obtain ⟨found, group⟩ := matched
    intro k same
    obtain ⟨_, _, _, _, reads⟩ := reads_of_group found rfl (group.trans same)
    exact isIdentifier_of_reads reads
  | dispatch type creator =>
    obtain ⟨found, group, group'⟩ := matched
    refine ⟨fun t same => ?_, fun f same => ?_⟩
    · obtain ⟨_, _, _, _, reads⟩ := reads_of_group found rfl (group.trans same)
      exact isLiteral_of_reads reads
    · obtain ⟨_, _, _, _, reads⟩ := reads_of_group found rfl (group'.trans same)
      exact isIdentifier_of_reads reads
  | setter name =>
    obtain ⟨found, group, own⟩ := matched
    obtain ⟨_, _, _, _, reads⟩ := reads_of_group found rfl group
    obtain ⟨_, _, _, parts, opening, _, rest, _, rfl, ⟨⟨c, rfl, capital⟩, -⟩, more⟩ := reads
    obtain ⟨rfl, -⟩ := Pattern.reads_literal.mp opening
    exact ⟨⟨c, rest, parts, capital, (Pattern.reads_many.mp more).1⟩, own⟩
  | observable name =>
    obtain ⟨found, group⟩ := matched
    obtain ⟨_, _, _, _, reads⟩ := reads_of_group found rfl group
    exact mem_of_reads_oneOf reads

end

end RepoSurvey.JavaScript
