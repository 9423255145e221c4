import RepoSurvey.Proofs.Detection.Claims
import RepoSurvey.Proofs.JavaScript.Calls
import RepoSurvey.Proofs.JavaScript.Masking
import RepoSurvey.Proofs.Text.Classes
import RepoSurvey.Proofs.Text.Cutting

/-!
# What is read from the tags of events

A source is read by one set of patterns, which write tags, and the tags are read
by another. The forms read what was written: `ReadsBack` says of a form that it
reads the tags of calls of one kind and nothing else, and captures in them the
texts of which they were written. Tags of different calls are different
(`tag_injective`), so the order in which the forms are tried does not matter
(`form?_tag`), and the event that a tag stands for tells what was captured in the
source (`eventTags_decode`).
-/

namespace RepoSurvey.Detection.Event

open JavaScript (EventCall Masked analyse mask parse)
open Text (Pattern Pieces)

/-! ## Tags that the forms read -/

/-- A form can read what is captured back from its tag. -/
def Readable : EventCall → Prop
  | .property name => ∃ first rest, name.toList = first :: rest ∧ isCapital first = true ∧
      ∀ c ∈ rest, Text.isWordChar c = true
  | .listener event => '\'' ∉ event.toList
  | .assigned name => (∀ c ∈ name.toList, ('a' ≤ c && c ≤ 'z') = true) ∧ name.toList ≠ []
  | .channel side method event => side ∈ ["ipcMain", "ipcRenderer"] ∧
      ((∀ c ∈ method.toList, Text.isWordChar c = true) ∧ method.toList ≠ []) ∧ '\'' ∉ event.toList
  | .emitter method event => method ∈ ["on", "once", "emit", "addListener"] ∧ '\'' ∉ event.toList

/-- The texts that a form captures in its tag. -/
def piecesOf : EventCall → Pieces
  | .property name => [(1, name.toList)]
  | .listener event => [(1, event.toList)]
  | .assigned name => [(1, name.toList)]
  | .channel side method event => [(3, event.toList), (2, method.toList), (1, side.toList)]
  | .emitter method event => [(2, event.toList), (1, method.toList)]

section

variable {call call' : EventCall} {name event side method : String}

theorem toList_tag_property :
    (EventCall.property name).tag.toList = 'o' :: 'n' :: name.toList :=
  String.toList_append

theorem toList_tag_listener : (EventCall.listener event).tag.toList =
    "addEventListener(".toList ++ '\'' :: (event.toList ++ ['\'', ')']) := by
  have written : (EventCall.listener event).tag = "addEventListener('" ++ event ++ "')" := rfl
  rw [written, String.toList_append, String.toList_append]
  rfl

theorem toList_tag_assigned :
    (EventCall.assigned name).tag.toList = 'o' :: 'n' :: (name.toList ++ ['=']) := by
  have written : (EventCall.assigned name).tag = "on" ++ name ++ "=" := rfl
  rw [written, String.toList_append, String.toList_append]
  rfl

theorem toList_tag_emitter : (EventCall.emitter method event).tag.toList =
    '.' :: (method.toList ++ '(' :: '\'' :: (event.toList ++ ['\'', ')'])) := by
  have written : (EventCall.emitter method event).tag = "." ++ method ++ "('" ++ event ++ "')" :=
    rfl
  simp [written]

theorem toList_tag_channel : (EventCall.channel side method event).tag.toList =
    side.toList ++ '.' :: (method.toList ++ '(' :: '\'' :: (event.toList ++ ['\'', ')'])) := by
  have written : (EventCall.channel side method event).tag =
      side ++ "." ++ method ++ "('" ++ event ++ "')" := rfl
  simp [written]

/-! ## How tags end -/

/-- A tag is a word, or its last character is none of a word. -/
theorem tag_ends (readable : Readable call) :
    (∀ c ∈ call.tag.toList, Text.isWordChar c = true) ∨
      ∃ front, call.tag.toList = front ++ [')'] ∨ call.tag.toList = front ++ ['='] := by
  cases call with
  | property name =>
    obtain ⟨first, rest, parts, capital, word⟩ := readable
    have ascii : Text.isAsciiAlphanumeric first = true := by
      have letter : ('A' ≤ first && first ≤ 'Z') = true := capital
      simp only [Text.isAsciiAlphanumeric, letter, Bool.or_true, Bool.true_or]
    left
    rw [toList_tag_property, parts]
    refine List.forall_mem_cons.mpr ⟨by decide, List.forall_mem_cons.mpr ⟨by decide, ?_⟩⟩
    exact List.forall_mem_cons.mpr ⟨Text.isWordChar_of_ascii ascii, word⟩
  | listener event =>
    exact .inr ⟨"addEventListener('".toList ++ event.toList ++ ['\''],
      .inl (by simp [toList_tag_listener])⟩
  | assigned name => exact .inr ⟨'o' :: 'n' :: name.toList, .inr toList_tag_assigned⟩
  | channel side method event =>
    exact .inr ⟨side.toList ++ '.' :: (method.toList ++ '(' :: '\'' :: (event.toList ++ ['\''])),
      .inl (by simp [toList_tag_channel])⟩
  | emitter method event =>
    exact .inr ⟨'.' :: (method.toList ++ '(' :: '\'' :: (event.toList ++ ['\''])),
      .inl (by simp [toList_tag_emitter])⟩

/-- What may follow a form at the end does not follow a tag. -/
theorem eq_nil_of_tag_eq {piece after : List Char} (readable : Readable call)
    (whole : call.tag.toList = piece ++ after) (stop : after = [] ∨ after = ['\n']) :
    after = [] := by
  refine stop.resolve_right ?_
  rintro rfl
  rcases tag_ends readable with word | ⟨front, bracket | equals⟩
  · have feed : '\n' ∈ call.tag.toList := by
      rw [whole]
      exact List.mem_append_right _ (List.mem_singleton_self _)
    exact absurd (word _ feed) (by decide)
  · cases (List.append_inj' (whole.symm.trans bracket) rfl).2
  · cases (List.append_inj' (whole.symm.trans equals) rfl).2

/-! ## Tags tell calls apart -/

/-- The first character of a tag. -/
def opening : EventCall → Char
  | .property _ => 'o'
  | .listener _ => 'a'
  | .assigned _ => 'o'
  | .channel _ _ _ => 'i'
  | .emitter _ _ => '.'

theorem head?_tag (readable : Readable call) : call.tag.toList.head? = some (opening call) := by
  cases call with
  | property name => rw [toList_tag_property]; rfl
  | listener event => rw [toList_tag_listener]; rfl
  | assigned name => rw [toList_tag_assigned]; rfl
  | emitter method event => rw [toList_tag_emitter]; rfl
  | channel side method event =>
    have opens : ∀ side ∈ ["ipcMain", "ipcRenderer"], side.toList.head? = some 'i' := by decide
    rw [toList_tag_channel, List.head?_append, opens side readable.1]
    rfl

theorem property_tag_ne_assigned {name' : String} (readable : Readable (.property name))
    (readable' : Readable (.assigned name')) :
    (EventCall.property name).tag ≠ (EventCall.assigned name').tag := by
  intro same
  have lists := congrArg String.toList same
  obtain ⟨first, rest, parts, capital, -⟩ := readable
  obtain ⟨letters, nonempty⟩ := readable'
  obtain ⟨first', rest', parts'⟩ := List.exists_cons_of_ne_nil nonempty
  rw [toList_tag_property, toList_tag_assigned, parts, parts'] at lists
  simp only [List.cons_append, List.cons.injEq, true_and] at lists
  obtain ⟨rfl, -⟩ := lists
  have small := letters first (by rw [parts']; exact List.mem_cons_self)
  simp only [isCapital, Bool.and_eq_true, decide_eq_true_eq] at capital small
  exact absurd (Char.le_trans small.1 capital.2) (by decide)

theorem method_event_inj {method' event' : String} (free : '(' ∉ method.toList)
    (free' : '(' ∉ method'.toList)
    (same : method.toList ++ '(' :: '\'' :: (event.toList ++ ['\'', ')']) =
      method'.toList ++ '(' :: '\'' :: (event'.toList ++ ['\'', ')'])) :
    method = method' ∧ event = event' := by
  obtain ⟨methods, tails⟩ := Text.append_cons_inj free free' same
  have events := List.append_cancel_right (List.cons.inj tails).2
  exact ⟨String.toList_inj.mp methods, String.toList_inj.mp events⟩

/-- Different calls have different tags. -/
theorem tag_injective (readable : Readable call) (readable' : Readable call')
    (same : call.tag = call'.tag) : call = call' := by
  have lists := congrArg String.toList same
  have heads : opening call = opening call' := by
    have firsts := congrArg List.head? lists
    rwa [head?_tag readable, head?_tag readable', Option.some_inj] at firsts
  have not_word : ∀ {s : String} {d : Char}, (∀ c ∈ s.toList, Text.isWordChar c = true) →
      Text.isWordChar d = false → d ∉ s.toList :=
    fun word other mem => Text.ne_of_class (word _ mem) other rfl
  cases call with
  | property name =>
    cases call' with
    | property name' =>
      rw [toList_tag_property, toList_tag_property] at lists
      rw [String.toList_inj.mp ((List.append_cancel_left_eq "on".toList _ _).mp lists)]
    | assigned name' => exact absurd same (property_tag_ne_assigned readable readable')
    | listener _ | channel _ _ _ | emitter _ _ => exact absurd heads (by simp [opening])
  | listener event =>
    cases call' with
    | listener event' =>
      rw [toList_tag_listener, toList_tag_listener, List.append_cancel_left_eq] at lists
      rw [String.toList_inj.mp (List.append_cancel_right (List.cons.inj lists).2)]
    | property _ | assigned _ | channel _ _ _ | emitter _ _ =>
      exact absurd heads (by simp [opening])
  | assigned name =>
    cases call' with
    | assigned name' =>
      rw [toList_tag_assigned, toList_tag_assigned] at lists
      have names := List.append_cancel_right (List.cons.inj (List.cons.inj lists).2).2
      rw [String.toList_inj.mp names]
    | property name' => exact absurd same.symm (property_tag_ne_assigned readable' readable)
    | listener _ | channel _ _ _ | emitter _ _ => exact absurd heads (by simp [opening])
  | channel side method event =>
    cases call' with
    | channel side' method' event' =>
      have free : ∀ side ∈ ["ipcMain", "ipcRenderer"], '.' ∉ side.toList := by decide
      rw [toList_tag_channel, toList_tag_channel] at lists
      obtain ⟨sides, calls⟩ := Text.append_cons_inj (free _ readable.1) (free _ readable'.1) lists
      obtain ⟨rfl, rfl⟩ := method_event_inj (not_word readable.2.1.1 (by decide))
        (not_word readable'.2.1.1 (by decide)) calls
      rw [String.toList_inj.mp sides]
    | property _ | listener _ | assigned _ | emitter _ _ => exact absurd heads (by simp [opening])
  | emitter method event =>
    cases call' with
    | emitter method' event' =>
      have free : ∀ method ∈ ["on", "once", "emit", "addListener"], '(' ∉ method.toList := by decide
      rw [toList_tag_emitter, toList_tag_emitter] at lists
      obtain ⟨rfl, rfl⟩ := method_event_inj (free _ readable.1) (free _ readable'.1)
        (List.cons.inj lists).2
      rfl
    | property _ | listener _ | assigned _ | channel _ _ _ => exact absurd heads (by simp [opening])

/-! ## What the forms read -/

/-- The form reads the tags of calls of one kind and nothing else, and captures in them
what they were written of. -/
structure ReadsBack (p : Pattern) (kind : EventCall → Prop) : Prop where
  plain : p.Plain = true
  reads_iff : ∀ {piece after : List Char} {caps : Pieces}, p.Reads [] piece after [] caps ↔
    ∃ call, kind call ∧ piece = call.tag.toList ∧ Readable call ∧ (after = [] ∨ after = ['\n']) ∧
      caps = piecesOf call

theorem reads_quoted {number : Nat} {before piece after : List Char} {caps caps' : Pieces} :
    (quoted number).Reads before piece after caps caps' ↔
      ∃ event : String, piece = '\'' :: (event.toList ++ ['\'']) ∧ '\'' ∉ event.toList ∧
        caps' = (number, event.toList) :: caps := by
  have free : ∀ event : String,
      (∀ c ∈ event.toList, Pattern.otherThan "'" c = true) ↔ '\'' ∉ event.toList := by
    intro event
    have quote : ∀ c, Pattern.otherThan "'" c = true ↔ c ≠ '\'' := by simp [Pattern.otherThan]
    simp only [quote]
    exact ⟨fun all mem => all _ mem rfl, fun none c mem same => none (same ▸ mem)⟩
  simp [quoted, Pattern.sequence, Pattern.reads_seq, Pattern.reads_capture_many, free]

theorem reads_capitalised {number : Nat} {before piece after : List Char} {caps caps' : Pieces} :
    (Pattern.capture number (.seq (.one isCapital) (.many Text.isWordChar))).Reads before piece
        after caps caps' ↔
      ∃ name : String, (∃ first rest, name.toList = first :: rest ∧ isCapital first = true ∧
        ∀ c ∈ rest, Text.isWordChar c = true) ∧ piece = name.toList ∧
        caps' = (number, name.toList) :: caps := by
  refine Pattern.reads_capture (fun cs => ∃ first rest, cs = first :: rest ∧
    isCapital first = true ∧ ∀ c ∈ rest, Text.isWordChar c = true) fun mid => ?_
  constructor
  · rintro ⟨_, rest, _, rfl, ⟨⟨first, rfl, capital⟩, rfl⟩, further⟩
    obtain ⟨word, rfl⟩ := Pattern.reads_many.mp further
    exact ⟨⟨first, rest, rfl, capital, word⟩, rfl⟩
  · rintro ⟨⟨first, rest, rfl, capital, word⟩, rfl⟩
    exact ⟨[first], rest, _, rfl, ⟨⟨first, rfl, capital⟩, rfl⟩,
      Pattern.reads_many.mpr ⟨word, rfl⟩⟩

theorem readsBack_ipcForm :
    ReadsBack ipcForm fun call => ∃ side method event, call = .channel side method event where
  plain := rfl
  reads_iff := by
    simp [ipcForm, Pattern.sequence, Pattern.reads_seq, Pattern.reads_textEnd,
      Pattern.reads_capture_oneOf, Pattern.reads_capture_some1, reads_quoted, toList_tag_channel,
      Readable, piecesOf, and_assoc, -List.mem_cons]

theorem readsBack_propertyForm :
    ReadsBack propertyForm fun call => ∃ name, call = .property name where
  plain := rfl
  reads_iff := by
    intro piece after caps
    simp [propertyForm, Pattern.sequence, Pattern.reads_seq, Pattern.reads_textEnd,
      reads_capitalised, toList_tag_property, Readable, piecesOf]

theorem readsBack_listenerForm :
    ReadsBack listenerForm fun call => ∃ event, call = .listener event where
  plain := rfl
  reads_iff := by
    simp [listenerForm, Pattern.sequence, Pattern.reads_seq, Pattern.reads_textEnd, reads_quoted,
      toList_tag_listener, Readable, piecesOf, -exists_and_left]

theorem readsBack_assignedForm :
    ReadsBack assignedForm fun call => ∃ name, call = .assigned name where
  plain := rfl
  reads_iff := by
    simp [assignedForm, Pattern.sequence, Pattern.reads_seq, Pattern.reads_textEnd,
      Pattern.reads_capture_some1, toList_tag_assigned, Readable, piecesOf]

theorem readsBack_emitterForm :
    ReadsBack emitterForm fun call => ∃ method event, call = .emitter method event where
  plain := rfl
  reads_iff := by
    simp [emitterForm, Pattern.sequence, Pattern.reads_seq, Pattern.reads_textEnd,
      Pattern.reads_capture_oneOf, reads_quoted, toList_tag_emitter, Readable, piecesOf, and_assoc,
      -List.mem_cons]

namespace ReadsBack

variable {p : Pattern} {kind : EventCall → Prop}

/-- What a form reads at the beginning of a tag is the whole tag. -/
theorem of_reads (h : ReadsBack p kind) (readable : Readable call) {piece after : List Char}
    {caps : Pieces} (whole : call.tag.toList = piece ++ after)
    (reads : p.Reads [] piece after [] caps) : kind call ∧ caps = piecesOf call := by
  obtain ⟨call', own, rfl, readable', stop, rfl⟩ := h.reads_iff.mp reads
  obtain rfl := eq_nil_of_tag_eq readable whole stop
  rw [List.append_nil] at whole
  obtain rfl := tag_injective readable readable' (String.toList_inj.mp whole)
  exact ⟨own, rfl⟩

theorem exists_pieces? (h : ReadsBack p kind) (readable : Readable call) (own : kind call) :
    ∃ piece, pieces? p call.tag = some piece ∧
      ∀ number s, (piecesOf call).lookup number = some s.toList → piece number = s := by
  have reads : p.Reads [] call.tag.toList [] [] (piecesOf call) :=
    h.reads_iff.mpr ⟨call, own, rfl, readable, .inl rfl, rfl⟩
  have opens := Pattern.isSome_opens? h.plain (List.append_nil _).symm reads
  obtain ⟨⟨m, text⟩, opens⟩ := Option.isSome_iff_exists.mp opens
  obtain ⟨piece, after, caps, whole, reads, groups, -⟩ := Pattern.exists_reads_of_opens? opens
  obtain ⟨-, rfl⟩ := h.of_reads readable whole reads
  refine ⟨m.group text, ?_, fun number s held => ?_⟩
  · rw [pieces?, opens]
    rfl
  · rw [Text.Match.group, groups, held]
    exact String.ofList_toList

theorem pieces?_eq_none (h : ReadsBack p kind) (readable : Readable call) (other : ¬ kind call) :
    pieces? p call.tag = none := by
  rw [pieces?, Option.map_eq_none_iff]
  cases opens : p.opens? call.tag with
  | none => rfl
  | some found =>
    obtain ⟨piece, after, caps, whole, reads, -⟩ := Pattern.exists_reads_of_opens? opens
    exact absurd (h.of_reads readable whole reads).1 other

end ReadsBack

theorem exists_of_reads_signalForm {piece after : List Char} {caps : Pieces}
    (reads : signalForm.Reads [] piece after [] caps) :
    ∃ path method : String, piece = path.toList ++ '.' :: method.toList ∧
      method ∈ ["connect", "send", "send_robust", "disconnect"] ∧
        (after = [] ∨ after = ['\n']) := by
  simp only [signalForm, Pattern.sequence, Pattern.reads_seq, Pattern.reads_textEnd,
    Pattern.reads_literal, Pattern.reads_capture_oneOf, Pattern.reads_capture_some1] at reads
  obtain ⟨_, _, _, rfl, ⟨path, -, rfl, rfl⟩, _, _, _, rfl, ⟨rfl, rfl⟩, _, _, _, rfl,
    ⟨method, mem, rfl, rfl⟩, stop, rfl, -⟩ := reads
  rw [List.append_nil]
  exact ⟨path, method, rfl, mem, stop⟩

/-- No tag of a call has the form of a signal. -/
theorem pieces?_signalForm (readable : Readable call) : pieces? signalForm call.tag = none := by
  rw [pieces?, Option.map_eq_none_iff, ← Option.not_isSome_iff_eq_none]
  intro opens
  obtain ⟨⟨m, text⟩, opens⟩ := Option.isSome_iff_exists.mp opens
  obtain ⟨piece, after, caps, whole, reads, -⟩ := Pattern.exists_reads_of_opens? opens
  obtain ⟨path, method, rfl, mem, stop⟩ := exists_of_reads_signalForm reads
  obtain rfl := eq_nil_of_tag_eq readable whole stop
  rw [List.append_nil] at whole
  have last : call.tag.toList.getLast? = ('.' :: method.toList).getLast? := by
    rw [whole, List.getLast?_append_of_ne_nil path.toList (List.cons_ne_nil _ _)]
  have letters : ∀ method ∈ ["connect", "send", "send_robust", "disconnect"],
      ('.' :: method.toList).getLast? ≠ some ')' ∧ ('.' :: method.toList).getLast? ≠ some '=' := by
    decide
  rcases tag_ends readable with word | ⟨front, bracket | equals⟩
  · have point : '.' ∈ call.tag.toList := by
      rw [whole]
      exact List.mem_append_right _ List.mem_cons_self
    exact absurd (word _ point) (by decide)
  · rw [bracket, List.getLast?_concat] at last
    exact (letters _ mem).1 last.symm
  · rw [equals, List.getLast?_concat] at last
    exact (letters _ mem).2 last.symm

/-! ## The form of a tag -/

/-- The form in which what is captured comes back, in a file with or without React. -/
def formOf (react : Bool) : EventCall → Option Form
  | .property _ => if react then some .property else none
  | .listener event => some (.listener event)
  | .assigned name => some (.assigned name)
  | .channel side method event => some (.ipc side method event)
  | .emitter method event => some (.emitter method event)

theorem isSome_pieces? (p : Pattern) (tag : String) :
    (pieces? p tag).isSome = (p.opens? tag).isSome :=
  Option.isSome_map

/-- The form of a tag is that of the call it was written of, whatever the order in which the
forms are tried. -/
theorem form?_tag (ctx : Context) (readable : Readable call) :
    form? ctx call.tag = formOf ctx.react call := by
  have signal := pieces?_signalForm readable
  have ipc := readsBack_ipcForm.pieces?_eq_none readable
  have property := readsBack_propertyForm.pieces?_eq_none readable
  have listener := readsBack_listenerForm.pieces?_eq_none readable
  have assigned := readsBack_assignedForm.pieces?_eq_none readable
  have emitter := readsBack_emitterForm.pieces?_eq_none readable
  cases call with
  | channel side method event =>
    obtain ⟨piece, found, held⟩ :=
      readsBack_ipcForm.exists_pieces? readable ⟨side, method, event, rfl⟩
    simp only [form?, found, formOf, held 1 side rfl, held 2 method rfl, held 3 event rfl]
  | property name =>
    obtain ⟨piece, found, -⟩ := readsBack_propertyForm.exists_pieces? readable ⟨name, rfl⟩
    simp [form?, plainForm?, formOf, ← isSome_pieces?, found, signal, ipc nofun, listener nofun,
      assigned nofun, emitter nofun]
  | listener event =>
    obtain ⟨piece, found, held⟩ := readsBack_listenerForm.exists_pieces? readable ⟨event, rfl⟩
    simp [form?, plainForm?, formOf, ← isSome_pieces?, found, held 1 event rfl, signal, ipc nofun,
      property nofun]
  | assigned name =>
    obtain ⟨piece, found, held⟩ := readsBack_assignedForm.exists_pieces? readable ⟨name, rfl⟩
    simp [form?, plainForm?, formOf, ← isSome_pieces?, found, held 1 name rfl, signal, ipc nofun,
      property nofun, listener nofun]
  | emitter method event =>
    obtain ⟨piece, found, held⟩ :=
      readsBack_emitterForm.exists_pieces? readable ⟨method, event, rfl⟩
    simp [form?, plainForm?, formOf, ← isSome_pieces?, found, held 1 method rfl, held 2 event rfl,
      signal, ipc nofun, property nofun, listener nofun, assigned nofun]

/-! ## What a tag stands for -/

/-- The framework of what is captured, in a file with or without React. -/
def frameworkOf? (react : Bool) : EventCall → Option String
  | .property _ => if react then some "React" else none
  | .listener _ => some "DOM"
  | .assigned _ => some "DOM"
  | .channel _ _ _ => some "Electron"
  | .emitter _ _ => some "Custom"

/-- The name of the event that is captured. -/
def eventOf : EventCall → String
  | .property name => Text.lower name
  | .listener event => event
  | .assigned name => name
  | .channel _ _ event => event
  | .emitter _ event => event

/-- The role of what is captured: only emitters have one. -/
def roleOf? : EventCall → Option String
  | .emitter method _ => some (if method = "emit" then "emit" else "listen")
  | _ => none

/-- The record says what is captured, and where its tag is. -/
structure Tells (ctx : Context) (c : Container) (call : EventCall) (f : EventRecord) : Prop where
  framework : frameworkOf? ctx.react call = some f.framework
  event : f.event = eventOf call
  role : f.details.get? "role" = (roleOf? call).map Json.str
  file : f.file = ctx.path
  line : f.line = c.info.lineFor call.tag
  container : f.container = some c.name

theorem readable_of_proper (proper : call.Proper) : Readable call := by
  have unquoted : ∀ {s : String}, JavaScript.IsLiteral s → '\'' ∉ s.toList := by
    intro s literal mem
    exact absurd (literal.2 _ mem) (by decide)
  cases call with
  | property name =>
    obtain ⟨first, rest, parts, capital, letters⟩ := proper
    refine ⟨first, rest, parts, capital, fun c mem => Text.isWordChar_of_ascii ?_⟩
    have letter := letters c mem
    simp only [Text.isAsciiAlphanumeric, Bool.or_eq_true] at letter ⊢
    exact .inl letter.symm
  | listener event => exact unquoted proper
  | assigned name => exact ⟨proper.2, proper.1⟩
  | channel side method event =>
    obtain ⟨known, method_known, literal⟩ := proper
    have word : ∀ method ∈ ["handle", "handleOnce", "on", "once", "send", "invoke"],
        method.toList.all Text.isWordChar = true ∧ method.toList ≠ [] := by decide
    obtain ⟨letters, nonempty⟩ := word method method_known
    exact ⟨known, ⟨List.all_eq_true.mp letters, nonempty⟩, unquoted literal⟩
  | emitter method event => exact ⟨proper.1, unquoted proper.2⟩

theorem tells_formRecord {ctx : Context} (c : Container) (proper : call.Proper) {form : Form}
    (known : formOf ctx.react call = some form) :
    Tells ctx c call (formRecord ctx c call.tag form) := by
  cases call with
  | property name =>
    obtain ⟨react, made⟩ := Option.ite_none_right_eq_some.mp known
    cases made
    have framework : frameworkOf? ctx.react (.property name) = some "React" := if_pos react
    have rest : (EventCall.property name).tag.toList.drop 2 = name.toList := by
      rw [toList_tag_property]
      rfl
    have event : Text.lower (String.ofList ((EventCall.property name).tag.toList.drop 2)) =
        Text.lower name := by
      rw [rest, String.ofList_toList]
    exact ⟨framework, event, rfl, rfl, rfl, rfl⟩
  | listener event =>
    cases known
    exact ⟨rfl, rfl, rfl, rfl, rfl, rfl⟩
  | assigned name =>
    cases known
    exact ⟨rfl, rfl, rfl, rfl, rfl, rfl⟩
  | channel side method event =>
    cases known
    have nonempty : event.isEmpty ≠ true := by
      rw [Ne, String.isEmpty_iff, ← String.toList_eq_nil_iff]
      exact proper.2.2.1
    exact ⟨rfl, if_neg nonempty, rfl, rfl, rfl, rfl⟩
  | emitter method event =>
    cases known
    have role : (if method == "emit" then "emit" else "listen") =
        if method = "emit" then "emit" else "listen" := by
      simp only [beq_iff_eq]
    exact ⟨rfl, rfl, congrArg (fun role => some (Json.str role)) role, rfl, rfl, rfl⟩

theorem formOf_eq_none_iff {react : Bool} :
    formOf react call = none ↔ (∃ name, call = .property name) ∧ react = false := by
  cases call with
  | property name => simp [formOf]
  | listener _ | assigned _ | channel _ _ _ | emitter _ _ => simp [formOf]

theorem judge_eq (ctx : Context) (c : Container) (tag : String) :
    judge ctx c tag = match form? ctx tag with
      | some form => .found (formRecord ctx c tag form) []
      | none => .undecided :=
  rfl

theorem judge_undecided_iff {ctx : Context} {c : Container} {tag : String} :
    judge ctx c tag = .undecided ↔ form? ctx tag = none := by
  rw [judge_eq]
  cases form? ctx tag with
  | none => simp
  | some form => simp

/-- How a tag of a container is judged, by what it was written of: it is found as what was
captured, except for properties in files without React. -/
structure Decodes (file : String) (a : FileAnalysis) (c : Container) (call : EventCall) : Prop where
  found : (frameworkOf? (hasImport a ["react", "react-native"]) call).isSome →
    ∃ f ∈ detectFile file a, judge (contextOf file a) c call.tag = .found f [] ∧
      Tells (contextOf file a) c call f
  undecided_iff : judge (contextOf file a) c call.tag = .undecided ↔
    (∃ name, call = .property name) ∧ hasImport a ["react", "react-native"] = false

theorem decodes_of_proper {file : String} {a : FileAnalysis} {c : Container}
    (there : c ∈ containers a) (signal : call.tag ∈ c.info.eventTags) (proper : call.Proper) :
    Decodes file a c call := by
  have read := form?_tag (contextOf file a) (readable_of_proper proper)
  have framed : (frameworkOf? (contextOf file a).react call).isSome =
      (formOf (contextOf file a).react call).isSome := by
    cases call with
    | property name => cases react : (contextOf file a).react <;> rfl
    | listener _ | assigned _ | channel _ _ _ | emitter _ _ => rfl
  refine ⟨fun known => ?_, ?_⟩
  · obtain ⟨form, made⟩ := Option.isSome_iff_exists.mp (framed.symm.trans known)
    have judged : judge (contextOf file a) c call.tag =
        .found (formRecord (contextOf file a) c call.tag form) [] := by
      rw [judge_eq, read, made]
    exact ⟨_, mem_detectFile there signal judged, judged, tells_formRecord c proper made⟩
  · rw [judge_undecided_iff, read, formOf_eq_none_iff]
    rfl

/-- Of a source that is read, every tag of an event in a container was written of something
that is captured in the code, and says again what was captured: an event of the DOM, of
Electron, of an emitter, or of React where the file imports it. Only properties in files
without React stand for no event of a framework. -/
theorem eventTags_decode {content path : String} {a : FileAnalysis}
    (parsed : parse content path = .ok a) (file : String) :
    ∃ m, mask content.toList = .ok m ∧
      ∀ c ∈ containers a, ∀ tag ∈ c.info.eventTags,
        (∃ call found, EventCall.Matches m.code found call ∧ call.tag = tag) ∧
          ∀ call found, EventCall.Matches m.code found call → call.tag = tag →
            Decodes file a c call := by
  obtain ⟨m, masked, traces⟩ := JavaScript.trace_in_container_iff parsed
  refine ⟨m, masked, fun c there tag signal => ⟨?_, ?_⟩⟩
  · obtain ⟨found, mark, speaks, left, -⟩ := (traces (.eventTag tag)).mp ⟨c, there, signal⟩
    cases mark with
    | event written =>
      cases left
      obtain ⟨call, matched, same⟩ := speaks.exists_eventCall
      exact ⟨call, found, matched, same⟩
    | state _ | route _ _ _ => cases left
  · rintro call found matched rfl
    exact decodes_of_proper there signal matched.proper

/-- A source that emits an event. -/
def emission : String := "a.emit('b')"

/-- What the source says once its literal is blanked. -/
def emissionMasked : Masked where
  code := emission.toList.toArray
  skeleton := "a.emit(' ')".toList.toArray

theorem parse_emission (path : String) : parse emission path = .ok (analyse emissionMasked path) :=
  JavaScript.parse_eq_ok_iff.mpr
    ⟨emissionMasked, JavaScript.mask_eq_of_toOption (by decide +kernel), rfl⟩

theorem eventTags_decode_of_emission :
    parse emission "a.js" = .ok (analyse emissionMasked "a.js") ∧
      (∃ c ∈ containers (analyse emissionMasked "a.js"), ".emit('b')" ∈ c.info.eventTags) ∧
      ∃ m, mask emission.toList = .ok m ∧
        ∀ c ∈ containers (analyse emissionMasked "a.js"), ∀ tag ∈ c.info.eventTags,
          (∃ call found, EventCall.Matches m.code found call ∧ call.tag = tag) ∧
            ∀ call found, EventCall.Matches m.code found call → call.tag = tag →
              Decodes "a.js" (analyse emissionMasked "a.js") c call :=
  ⟨parse_emission "a.js", by decide +kernel, eventTags_decode (parse_emission "a.js") "a.js"⟩

end

end RepoSurvey.Detection.Event
