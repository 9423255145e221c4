import RepoSurvey.Proofs.Detection.EventTags
import RepoSurvey.Proofs.Detection.StateTags
import RepoSurvey.Proofs.JavaScript.Ownership
import RepoSurvey.Proofs.Tagging
import RepoSurvey.Proofs.Text.Decoding

/-!
# What the containers of a source account for

The signals of a source come pattern by pattern, and from each pattern in the
order of the source. A tag shows which pattern it comes from: tags of
different patterns begin differently (`rankOf`). So two signals with one tag
come from one pattern, the first of them stands first in the source, and the line
that is taken down for a tag is the earliest (`pairwise_before_signals`).

Each container of the analysis accounts for the sightings at its place
(`accounts_container`), and none of its tags is on an earlier line than the
container itself, because a position belongs to a callable that begins before it.
-/

namespace RepoSurvey.JavaScript

open Detection (isCapital)
open Detection.Event (toList_tag_property toList_tag_listener toList_tag_assigned toList_tag_channel
  toList_tag_emitter)
open Detection.State (toList_tag_setState toList_tag_dispatch toList_tag_setter
  exists_toList_tag_pair)
open Text (Pattern Match)

/-! ## Tags by pattern -/

/-- Where the pattern that leaves a tag stands among the patterns, by how the tag begins. -/
def rankOf : List Char → Nat
  | [] => 5
  | a :: rest =>
    if a = '[' then 0 else if a = 'u' then 1 else if a = 't' then 2 else if a = 'd' then 3
    else if a = 's' then 4
    else if a = 'o' && rest.head? == some 'n' then if rest[1]?.any isCapital then 6 else 8
    else if a = 'a' && rest.head? == some 'd' then 7
    else if a = 'i' then 9 else if a = '.' then 10 else 5

/-- Where the pattern of a change of state stands. -/
def StateCall.rank : StateCall → Nat
  | .pair _ _ _ => 0
  | .hook _ => 1
  | .setState _ => 2
  | .dispatch _ _ => 3
  | .setter _ => 4
  | .observable _ => 5

/-- Where the pattern of an event stands. -/
def EventCall.rank : EventCall → Nat
  | .property _ => 6
  | .listener _ => 7
  | .assigned _ => 8
  | .channel _ _ _ => 9
  | .emitter _ _ => 10

theorem StateCall.rank_lt (call : StateCall) : call.rank < 6 := by
  cases call <;> simp only [rank, Nat.reduceLT]

theorem EventCall.le_rank (call : EventCall) : 6 ≤ call.rank := by
  cases call <;> simp only [rank, Nat.reduceLeDiff]

theorem rankOf_append {front rest : List Char} (long : 3 ≤ front.length) :
    rankOf (front ++ rest) = rankOf front := by
  match front, long with
  | _ :: _ :: _ :: _, _ => rfl

theorem rankOf_handler (first : Char) (rest : List Char) :
    rankOf ('o' :: 'n' :: first :: rest) = if isCapital first then 6 else 8 :=
  rfl

theorem StateCall.Proper.rankOf_tag {call : StateCall} (proper : call.Proper) :
    rankOf call.tag.toList = call.rank := by
  cases call with
  | pair value setter hook =>
    obtain ⟨rest, parts, -⟩ := exists_toList_tag_pair value hook setter
    rw [parts]
    rfl
  | hook name =>
    have each : ∀ name ∈ ["useState", "useReducer", "useSelector"], rankOf name.toList = 1 := by
      decide
    exact each name proper
  | setState key =>
    cases key with
    | none => decide
    | some key =>
      rw [toList_tag_setState, rankOf_append (by decide)]
      exact (by decide : rankOf "this.setState(".toList = 2)
  | dispatch type creator =>
    cases type with
    | some type =>
      rw [toList_tag_dispatch, rankOf_append (by decide)]
      exact (by decide : rankOf "dispatch(\x7btype: ".toList = 3)
    | none =>
      cases creator with
      | none => decide
      | some creator =>
        have written : (dispatch none (some creator)).tag = "dispatch(" ++ creator ++ "())" := rfl
        rw [written, String.toList_append, String.toList_append, List.append_assoc,
          rankOf_append (by decide)]
        exact (by decide : rankOf "dispatch(".toList = 3)
  | setter name =>
    obtain ⟨⟨first, rest, parts, -, -⟩, -⟩ := proper
    rw [toList_tag_setter, parts, List.append_assoc, rankOf_append (by decide)]
    exact (by decide : rankOf "set".toList = 4)
  | observable name =>
    have each : ∀ name ∈ ["makeAutoObservable", "makeObservable", "observable", "runInAction",
        "action", "computed"], 3 ≤ name.toList.length ∧ rankOf name.toList = 5 := by
      decide
    have written : (observable name).tag = name ++ "(" := rfl
    rw [written, String.toList_append, rankOf_append (each name proper).1]
    exact (each name proper).2

theorem EventCall.Proper.rankOf_tag {call : EventCall} (proper : call.Proper) :
    rankOf call.tag.toList = call.rank := by
  cases call with
  | property name =>
    obtain ⟨first, rest, parts, capital, -⟩ := proper
    rw [toList_tag_property, parts, rankOf_handler]
    exact if_pos capital
  | listener event =>
    rw [toList_tag_listener, rankOf_append (by decide)]
    exact (by decide : rankOf "addEventListener(".toList = 7)
  | assigned name =>
    obtain ⟨nonempty, small⟩ := proper
    obtain ⟨first, rest, parts⟩ := List.exists_cons_of_ne_nil nonempty
    have lower := small first (parts ▸ List.mem_cons_self)
    rw [toList_tag_assigned, parts, List.cons_append, rankOf_handler]
    refine if_neg ?_
    intro capital
    simp only [isCapital, Bool.and_eq_true, decide_eq_true_eq] at capital lower
    exact absurd (Char.le_trans lower.1 capital.2) (by decide)
  | channel side method event =>
    have each : ∀ side ∈ ["ipcMain", "ipcRenderer"],
        3 ≤ side.toList.length ∧ rankOf side.toList = 9 := by
      decide
    obtain ⟨long, known⟩ := each side proper.1
    rw [toList_tag_channel, rankOf_append long]
    exact known
  | emitter method event =>
    rw [toList_tag_emitter]
    rfl

/-! ## The order of signals -/

/-- Where the pattern that leaves a mark stands. -/
def Mark.rank : Mark → Nat
  | .state tag => rankOf tag.toList
  | .event tag => rankOf tag.toList
  | .route _ _ _ => 11

/-- The first signal is left by an earlier pattern, or by the same one earlier in the source. -/
def Signal.Before (s t : Signal) : Prop :=
  s.mark.rank < t.mark.rank ∨ (s.mark.rank = t.mark.rank ∧ s.position < t.position)

/-- Signals in order, from patterns in a range. -/
structure Ranked (low high : Nat) (found : List Signal) : Prop where
  /-- Each comes before those after it. -/
  ordered : found.Pairwise Signal.Before
  /-- Each is left by a pattern of the range. -/
  within : ∀ s ∈ found, low ≤ s.mark.rank ∧ s.mark.rank < high

section

variable {code : Array Char} {low high : Nat} {found later : List Signal}

theorem Ranked.append (mid : Nat) (h : Ranked low mid found) (h' : Ranked mid high later)
    (up : low ≤ mid ∧ mid ≤ high) : Ranked low high (found ++ later) where
  ordered := by
    refine List.pairwise_append.mpr ⟨h.ordered, h'.ordered, ?_⟩
    intro s mem t mem'
    exact .inl (Nat.lt_of_lt_of_le (h.within s mem).2 (h'.within t mem').1)
  within := by
    intro s mem
    rcases List.mem_append.mp mem with mem | mem
    · have inside := h.within s mem
      exact ⟨inside.1, Nat.lt_of_lt_of_le inside.2 up.2⟩
    · have inside := h'.within s mem
      exact ⟨Nat.le_trans up.1 inside.1, inside.2⟩

/-- The matches of one pattern come in the order of the source. -/
theorem ranked_signalsOf {p : Pattern} {mark : Match → Option Mark} {n : Nat}
    (each : ∀ m ∈ p.findAll code, ∀ k, mark m = some k → k.rank = n) :
    Ranked n (n + 1) (signalsOf p code mark) where
  ordered := by
    refine List.pairwise_filterMap.mpr ((Pattern.findAll_increasing p code).imp_of_mem ?_)
    intro m m' found found' apart s leaves t leaves'
    obtain ⟨k, own, rfl⟩ := Option.map_eq_some_iff.mp leaves
    obtain ⟨k', own', rfl⟩ := Option.map_eq_some_iff.mp leaves'
    refine .inr ⟨?_, apart.1⟩
    rw [each m found k own, each m' found' k' own']
  within := by
    intro s mem
    obtain ⟨m, found, leaves, -⟩ := mem_signalsOf.mp mem
    have rank := each m found s.mark leaves
    omega

theorem rank_of_stateCall {m : Match} {call : StateCall} {tag : String} {k : Mark}
    (written : call.Matches code m ∧ call.tag = tag) (leaves : some (Mark.state tag) = some k) :
    k.rank = call.rank := by
  obtain ⟨matched, rfl⟩ := written
  cases leaves
  exact matched.proper.rankOf_tag

theorem rank_of_eventCall {m : Match} {call : EventCall} {tag : String} {k : Mark}
    (written : call.Matches code m ∧ call.tag = tag) (leaves : some (Mark.event tag) = some k) :
    k.rank = call.rank := by
  obtain ⟨matched, rfl⟩ := written
  cases leaves
  exact matched.proper.rankOf_tag

theorem ranked_stateSignals : Ranked 0 6 (stateSignals code) := by
  unfold stateSignals
  refine .append 5 (.append 4 (.append 3 (.append 2 (.append 1 (ranked_signalsOf ?pair)
    (ranked_signalsOf ?hook) (by decide)) (ranked_signalsOf ?setState) (by decide))
    (ranked_signalsOf ?dispatch) (by decide)) (ranked_signalsOf ?setter) (by decide))
    (ranked_signalsOf ?observable) (by decide)
  case pair =>
    intro m found k leaves
    obtain ⟨_, _, written⟩ := exists_pair found
    exact rank_of_stateCall written leaves
  case hook =>
    intro m found k leaves
    obtain ⟨_, written⟩ := exists_hook found
    exact rank_of_stateCall written (Option.ite_none_left_eq_some.mp leaves).2
  case setState =>
    intro m found k leaves
    have matched : (StateCall.setState (m.group? code 1)).Matches code m := ⟨found, rfl⟩
    exact rank_of_stateCall ⟨matched, rfl⟩ leaves
  case dispatch =>
    intro m found k leaves
    have matched : (StateCall.dispatch (m.group? code 1) (m.group? code 2)).Matches code m :=
      ⟨found, rfl, rfl⟩
    exact rank_of_stateCall ⟨matched, rfl⟩ leaves
  case setter =>
    intro m found k leaves
    obtain ⟨own, leaves⟩ := Option.ite_none_left_eq_some.mp leaves
    rw [List.contains_iff_mem] at own
    obtain ⟨_, written⟩ := exists_setter found own
    exact rank_of_stateCall written leaves
  case observable =>
    intro m found k leaves
    obtain ⟨_, written⟩ := exists_observable found
    exact rank_of_stateCall written leaves

theorem ranked_eventSignals : Ranked 6 11 (eventSignals code) := by
  unfold eventSignals
  refine .append 10 (.append 9 (.append 8 (.append 7 (ranked_signalsOf ?property)
    (ranked_signalsOf ?listener) (by decide)) (ranked_signalsOf ?assigned) (by decide))
    (ranked_signalsOf ?channel) (by decide)) (ranked_signalsOf ?emitter) (by decide)
  case property =>
    intro m found k leaves
    obtain ⟨_, written⟩ := exists_property found
    exact rank_of_eventCall written leaves
  case listener =>
    intro m found k leaves
    obtain ⟨_, written⟩ := exists_listener found
    exact rank_of_eventCall written leaves
  case assigned =>
    intro m found k leaves
    obtain ⟨_, written⟩ := exists_assigned found
    exact rank_of_eventCall written leaves
  case channel =>
    intro m found k leaves
    obtain ⟨_, _, _, written⟩ := exists_channel found
    exact rank_of_eventCall written leaves
  case emitter =>
    intro m found k leaves
    obtain ⟨_, _, written⟩ := exists_emitter found
    exact rank_of_eventCall written (Option.ite_none_left_eq_some.mp leaves).2

theorem ranked_routeSignals : Ranked 11 12 (routeSignals code) :=
  ranked_signalsOf fun _ _ _ leaves => by
    cases leaves
    rfl

/-- The signals of a source come pattern by pattern, and from each in the order of the source. -/
theorem pairwise_before_signals (code : Array Char) : (signals code).Pairwise Signal.Before :=
  (ranked_stateSignals.append 6 ranked_eventSignals (by decide)).append 11 ranked_routeSignals
    (by decide) |>.ordered

/-! ## Sightings -/

/-- What a callable is told when a mark is found on a line; routes leave no tag. -/
def Mark.sighting? (mark : Mark) (line : Int) : Option Sighting :=
  match mark with
  | .state tag => some ⟨.state, tag, line⟩
  | .event tag => some ⟨.event, tag, line⟩
  | .route _ _ _ => none

/-- A signal as the callable it belongs to is told it. -/
def Signal.sighting? (code : Array Char) (s : Signal) : Option Sighting :=
  s.mark.sighting? (lineAt code s.position)

theorem rank_of_sighting? {mark : Mark} {line : Int} {s : Sighting}
    (told : mark.sighting? line = some s) : mark.rank = rankOf s.tag.toList ∧ s.line = line := by
  cases mark <;> cases told <;> exact ⟨rfl, rfl⟩

/-- The pattern of a tag tells its kind. -/
theorem kind_of_sighting? {mark : Mark} {line : Int} {m : Match} {s : Sighting}
    (speaks : Speaks code m mark) (told : mark.sighting? line = some s) :
    s.kind = if rankOf s.tag.toList < 6 then .state else .event := by
  cases mark with
  | state tag =>
    cases told
    obtain ⟨call, matched, rfl⟩ := speaks.exists_stateCall
    rw [matched.proper.rankOf_tag, if_pos call.rank_lt]
  | event tag =>
    cases told
    obtain ⟨call, matched, rfl⟩ := speaks.exists_eventCall
    rw [matched.proper.rankOf_tag, if_neg (Nat.not_lt_of_le call.le_rank)]
  | route kind method path => cases told

theorem lineAt_mono {i j : Nat} (le : i ≤ j) : lineAt code i ≤ lineAt code j := by
  rw [lineAt_eq, lineAt_eq]
  exact Int.ofNat_le.mpr (Text.lineOf_mono le)

/-- Signals that are taken out of those of a source tell what may follow one another. -/
theorem pairwise_mayFollow {found : List Signal} (some_of : found.Sublist (signals code)) :
    (found.filterMap (Signal.sighting? code)).Pairwise Sighting.MayFollow := by
  refine List.pairwise_filterMap.mpr
    (((pairwise_before_signals code).sublist some_of).imp_of_mem ?_)
  intro s s' mem mem' before t told t' told' same
  obtain ⟨m, speaks, -⟩ := mem_signals_iff.mp (some_of.subset mem)
  obtain ⟨m', speaks', -⟩ := mem_signals_iff.mp (some_of.subset mem')
  obtain ⟨rank, line⟩ := rank_of_sighting? told
  obtain ⟨rank', line'⟩ := rank_of_sighting? told'
  refine ⟨?_, ?_⟩
  · rw [kind_of_sighting? speaks told, kind_of_sighting? speaks' told', same]
  · rw [line, line']
    refine lineAt_mono ?_
    rcases before with lower | ⟨-, earlier⟩
    · rw [rank, rank', same] at lower
      exact absurd lower (Nat.lt_irrefl _)
    · exact Nat.le_of_lt earlier

theorem sameTags_recordAll {f g : Callable} (same : f.SameTags g) (found : List Signal) :
    (recordAll code f found).SameTags (g.noteAll (found.filterMap (Signal.sighting? code))) := by
  induction found generalizing f g with
  | nil => exact same
  | cons s rest ih =>
    obtain ⟨position, mark⟩ := s
    cases mark with
    | state tag => exact ih (same.note ⟨.state, tag, lineAt code position⟩)
    | event tag => exact ih (same.note ⟨.event, tag, lineAt code position⟩)
    | route kind method path => exact ih ⟨same.tags, same.lines⟩

theorem Untouched.silent {f : Callable} (h : Untouched f) : f.Silent where
  noTag := by
    intro kind
    cases kind with
    | state => exact h.noState
    | event => exact h.noEvent
  noLine := h.noLine

end

/-! ## Containers -/

/-- What the callable at a place is to be told: the tag of each match that speaks
and belongs there, on the line of the match. -/
def Masked.Tells (m : Masked) (place : Option Nat) (s : Sighting) : Prop :=
  ∃ found mark, Speaks m.code found mark ∧ m.Owns found.start place ∧
    mark.sighting? (lineAt m.code found.start) = some s

section

variable {content path : String} {m : Masked} {place : Option Nat} {f : Callable}

/-- The signals that belong to a place tell what is to be told there. -/
theorem mem_sightings_iff (masked : mask content.toList = .ok m) {s : Sighting} :
    s ∈ (ownedBy m.code m.declarations.spans place (signals m.code)).filterMap
        (Signal.sighting? m.code) ↔ m.Tells place s := by
  simp only [List.mem_filterMap, ownedBy, List.mem_filter, beq_iff_eq, mem_signals_iff,
    owner_eq_iff_owns masked]
  constructor
  · rintro ⟨⟨position, mark⟩, ⟨⟨found, speaks, rfl⟩, owned⟩, told⟩
    exact ⟨found, mark, speaks, owned, told⟩
  · rintro ⟨found, mark, speaks, owned, told⟩
    exact ⟨⟨found.start, mark⟩, ⟨⟨found, speaks, rfl⟩, owned⟩, told⟩

/-- What is written at a place accounts for the sightings there. -/
theorem accounts_written (masked : mask content.toList = .ok m)
    (filled : written m.code m.declarations.spans place = some f) : f.Accounts (m.Tells place) := by
  obtain ⟨start, bare, rfl⟩ := exists_untouched_of_written m.untouched filled
  have some_of : (ownedBy m.code m.declarations.spans place (signals m.code)).Sublist
      (signals m.code) := List.filter_sublist
  have told := bare.silent.accounts_noteAll (pairwise_mayFollow some_of)
  exact (told.congr (sameTags_recordAll (.refl start) _).symm).iff_congr fun s =>
    mem_sightings_iff masked

/-- What is told at a place is not on an earlier line than the callable there. -/
theorem line_le_of_tells (filled : written m.code m.declarations.spans place = some f)
    {s : Sighting} (told : m.Tells place s) : f.line ≤ s.line := by
  obtain ⟨found, mark, -, owned, told⟩ := told
  rw [(rank_of_sighting? told).2]
  cases place with
  | none =>
    cases filled
    rw [(recordAll_keeps _ _ _).2, lineAt_eq]
    exact Int.ofNat_le.mpr Text.one_le_lineOf
  | some i =>
    obtain ⟨span, here, rfl⟩ := Option.map_eq_some_iff.mp filled
    obtain ⟨around, inner, -⟩ := owned
    cases Option.some.inj (here.symm.trans inner.here)
    show (recordAll _ _ _).line ≤ _
    rw [(recordAll_keeps _ _ _).2, (m.fresh span (List.mem_of_getElem? here)).line_eq]
    have covers := inner.covers
    simp only [Span.covers, Bool.and_eq_true, decide_eq_true_eq] at covers
    exact lineAt_mono covers.1

/-- Every container of a source that is read accounts for what its place is to be
told, and no line of a tag comes before the line of the container. -/
theorem accounts_container {a : FileAnalysis} (parsed : parse content path = .ok a) :
    ∃ m, mask content.toList = .ok m ∧ ∀ c ∈ Detection.containers a, ∃ place,
      m.declarations.Kept place ∧ written m.code m.declarations.spans place = some c.info ∧
        c.info.Accounts (m.Tells place) ∧
          ∀ tag line, c.info.tagLines.get? tag = some line → c.info.line ≤ line := by
  obtain ⟨m, masked, rfl⟩ := parse_eq_ok_iff.mp parsed
  refine ⟨m, masked, ?_⟩
  intro c mem
  obtain ⟨place, kept, filled, -⟩ := exists_container_iff_kept.mp ⟨c, mem, rfl⟩
  have accounts := accounts_written masked filled
  refine ⟨place, kept, filled, accounts, ?_⟩
  intro tag line at_tag
  obtain ⟨⟨s, told, -, on⟩, -⟩ := accounts.least tag line at_tag
  rw [← on]
  exact line_le_of_tells filled told

end

end RepoSurvey.JavaScript
