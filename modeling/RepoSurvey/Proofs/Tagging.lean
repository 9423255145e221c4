import Mathlib.Order.Bounds.Defs
import RepoSurvey.Analysis.File
import RepoSurvey.Proofs.Tally

/-!
# Tags and the sightings behind them

A `Sighting` is a tag met on a line. A callable is told its sightings one after
another; it takes a tag down when it meets it for the first time, with the line
of that meeting, and ignores every later meeting (`Callable.note`).

`Callable.Accounts` is what one expects of a callable that has been told some
sightings: it lists exactly their tags, once each and under one kind only, and the
line beside a tag is the earliest on which it was met. Telling it one more
sighting keeps that (`Callable.Accounts.note`) as long as tags are met in the
order of their lines, and no tag is met under both kinds. Neither condition can
be left out: of two meetings of one tag the first gives the line, whatever the
line of the second is, and a tag met under both kinds is listed twice.
-/

namespace RepoSurvey

/-! ## Sightings -/

/-- What a tag speaks of. -/
inductive TagKind where
  /-- A change of state. -/
  | state
  /-- An event. -/
  | event
  deriving DecidableEq

/-- A tag met on a line. -/
structure Sighting where
  /-- What the tag speaks of. -/
  kind : TagKind
  /-- The tag. -/
  tag : String
  /-- The line. -/
  line : Int

/-- The second sighting may come after the first: where both are of one tag, they
are of one kind, and the second is not on an earlier line. -/
def Sighting.MayFollow (t s : Sighting) : Prop :=
  t.tag = s.tag → t.kind = s.kind ∧ t.line ≤ s.line

namespace Callable

/-- The tags of one kind. -/
def tags (f : Callable) : TagKind → List String
  | .state => f.stateTags
  | .event => f.eventTags

/-- The callable with a tag of one kind and its line. -/
def addTag (f : Callable) (s : Sighting) : Callable :=
  match s.kind with
  | .state =>
    { f with stateTags := f.stateTags ++ [s.tag], tagLines := f.tagLines.set s.tag s.line }
  | .event =>
    { f with eventTags := f.eventTags ++ [s.tag], tagLines := f.tagLines.set s.tag s.line }

/-- The callable after one more sighting. -/
def note (f : Callable) (s : Sighting) : Callable :=
  if (f.tags s.kind).contains s.tag then f else f.addTag s

/-- The callable has been told nothing. -/
structure Silent (f : Callable) : Prop where
  /-- It has no tag of either kind. -/
  noTag : ∀ kind, f.tags kind = []
  /-- It has no line of a tag. -/
  noLine : f.tagLines = []

/-- The tags of a callable and their lines are those of the sightings it was told. -/
structure Accounts (f : Callable) (told : Sighting → Prop) : Prop where
  /-- No tag is listed twice under one kind. -/
  nodup : ∀ kind, (f.tags kind).Nodup
  /-- No tag is listed under both kinds. -/
  apart : ∀ tag ∈ f.tags .state, tag ∉ f.tags .event
  /-- The tags with a line are the tags listed. -/
  keys : f.tagLines.keys.Perm (f.tags .state ++ f.tags .event)
  /-- The tags listed are those that were met. -/
  mem_tags : ∀ kind tag, tag ∈ f.tags kind ↔ ∃ line, told ⟨kind, tag, line⟩
  /-- The line of a tag is the earliest on which it was met. -/
  least : ∀ tag line, f.tagLines.get? tag = some line →
    IsLeast {l | ∃ s, told s ∧ s.tag = tag ∧ s.line = l} line

variable {f g : Callable} {told : Sighting → Prop} {s : Sighting}

/-! ## One sighting -/

theorem note_of_mem (known : s.tag ∈ f.tags s.kind) : f.note s = f :=
  if_pos (List.contains_iff_mem.mpr known)

theorem note_of_not_mem (new : s.tag ∉ f.tags s.kind) : f.note s = f.addTag s :=
  if_neg fun known => new (List.contains_iff_mem.mp known)

theorem tags_addTag (f : Callable) (s : Sighting) (kind : TagKind) :
    (f.addTag s).tags kind = if kind = s.kind then f.tags kind ++ [s.tag] else f.tags kind := by
  obtain ⟨own, tag, line⟩ := s
  cases own <;> cases kind <;> rfl

theorem tagLines_addTag (f : Callable) (s : Sighting) :
    (f.addTag s).tagLines = f.tagLines.set s.tag s.line := by
  obtain ⟨own, tag, line⟩ := s
  cases own <;> rfl

theorem mem_tags_addTag {kind : TagKind} {tag : String} :
    tag ∈ (f.addTag s).tags kind ↔ tag ∈ f.tags kind ∨ (kind = s.kind ∧ tag = s.tag) := by
  rw [tags_addTag]
  split
  next own => simp [own]
  next other => simp [other]

/-- Two callables list the same tags, with the same lines. -/
structure SameTags (f g : Callable) : Prop where
  /-- The tags of either kind are the same. -/
  tags : f.tags = g.tags
  /-- The lines are the same. -/
  lines : f.tagLines = g.tagLines

theorem SameTags.refl (f : Callable) : f.SameTags f :=
  ⟨rfl, rfl⟩

theorem SameTags.symm (h : f.SameTags g) : g.SameTags f :=
  ⟨h.tags.symm, h.lines.symm⟩

/-- What else is in a callable plays no part in what it takes down. -/
theorem SameTags.note (h : f.SameTags g) (s : Sighting) : (f.note s).SameTags (g.note s) := by
  by_cases known : s.tag ∈ f.tags s.kind
  · rw [note_of_mem known, note_of_mem (h.tags ▸ known)]
    exact h
  · rw [note_of_not_mem known, note_of_not_mem (h.tags ▸ known)]
    constructor
    · funext kind
      rw [tags_addTag, tags_addTag, h.tags]
    · rw [tagLines_addTag, tagLines_addTag, h.lines]

/-- A callable that was told nothing accounts for nothing. -/
theorem Silent.accounts (h : f.Silent) : f.Accounts fun _ => False where
  nodup := by
    intro kind
    rw [h.noTag]
    exact List.nodup_nil
  apart := by
    intro tag mem
    rw [h.noTag] at mem
    cases mem
  keys := by
    rw [h.noTag, h.noTag, h.noLine]
    exact .nil
  mem_tags := by
    intro kind tag
    simp [h.noTag]
  least := by
    intro tag line at_tag
    rw [h.noLine] at at_tag
    cases at_tag

namespace Accounts

/-- A callable with the same tags and lines accounts for the same sightings. -/
theorem congr (h : f.Accounts told) (same : f.SameTags g) : g.Accounts told := by
  obtain ⟨tags, lines⟩ := same
  constructor
  case nodup =>
    rw [← tags]
    exact h.nodup
  case apart =>
    rw [← tags]
    exact h.apart
  case keys =>
    rw [← tags, ← lines]
    exact h.keys
  case mem_tags =>
    rw [← tags]
    exact h.mem_tags
  case least =>
    rw [← lines]
    exact h.least

/-- It does not matter how the sightings are described. -/
theorem iff_congr {told' : Sighting → Prop} (h : f.Accounts told)
    (same : ∀ s, told s ↔ told' s) : f.Accounts told' := by
  have equal : told = told' := funext fun s => propext (same s)
  rwa [← equal]

/-- A tag that is listed is met again on a later line: nothing changes. -/
theorem of_known (h : f.Accounts told) (known : s.tag ∈ f.tags s.kind)
    (later : ∀ t, told t → t.tag = s.tag → t.line ≤ s.line) :
    f.Accounts fun t => told t ∨ t = s := by
  refine ⟨h.nodup, h.apart, h.keys, ?_, ?_⟩
  · intro kind tag
    rw [h.mem_tags]
    constructor
    · rintro ⟨line, met⟩
      exact ⟨line, .inl met⟩
    · rintro ⟨line, met | rfl⟩
      · exact ⟨line, met⟩
      · exact (h.mem_tags kind tag).mp known
  · intro tag line at_tag
    obtain ⟨⟨t, met, named, on⟩, lower⟩ := h.least tag line at_tag
    refine ⟨⟨t, .inl met, named, on⟩, ?_⟩
    rintro l ⟨u, met' | rfl, named', rfl⟩
    · exact lower ⟨u, met', named', rfl⟩
    · have first := later t met (named.trans named'.symm)
      rwa [on] at first

/-- A tag that has not been met is not listed, and no line is taken down for it. -/
theorem not_mem_of_unmet (h : f.Accounts told) {tag : String}
    (unmet : ∀ t, told t → t.tag ≠ tag) : (∀ kind, tag ∉ f.tags kind) ∧ tag ∉ f.tagLines.keys := by
  have absent : ∀ kind, tag ∉ f.tags kind := by
    intro kind mem
    obtain ⟨line, met⟩ := (h.mem_tags kind tag).mp mem
    exact unmet _ met rfl
  refine ⟨absent, fun mem => ?_⟩
  rcases List.mem_append.mp (h.keys.mem_iff.mp mem) with state | event
  · exact absent _ state
  · exact absent _ event

/-- A tag that is not listed is met: it is listed now, with its line. -/
theorem of_new (h : f.Accounts told) (new : s.tag ∉ f.tags s.kind)
    (sole : ∀ t, told t → t.tag = s.tag → t.kind = s.kind) :
    (f.addTag s).Accounts fun t => told t ∨ t = s := by
  have unmet : ∀ t, told t → t.tag ≠ s.tag := by
    intro t met same
    refine new ((h.mem_tags _ _).mpr ⟨t.line, ?_⟩)
    rw [← same, ← sole t met same]
    exact met
  obtain ⟨absent, unlisted⟩ := h.not_mem_of_unmet unmet
  constructor
  case nodup =>
    intro kind
    rw [tags_addTag]
    split
    · exact List.nodup_append_comm.mp (List.nodup_cons.mpr ⟨absent kind, h.nodup kind⟩)
    · exact h.nodup kind
  case apart =>
    intro tag state event
    rw [mem_tags_addTag] at state event
    rcases state with state | ⟨ownState, rfl⟩
    · rcases event with event | ⟨-, rfl⟩
      · exact h.apart tag state event
      · exact absent _ state
    · rcases event with event | ⟨ownEvent, -⟩
      · exact absent _ event
      · cases ownState.trans ownEvent.symm
  case keys =>
    rw [tagLines_addTag, Table.set, Table.keys_update, if_neg unlisted, tags_addTag, tags_addTag]
    have longer := h.keys.append_right [s.tag]
    cases s.kind with
    | state =>
      refine longer.trans ?_
      simp only [if_true, reduceCtorEq, if_false, List.append_assoc]
      exact List.perm_append_comm.append_left _
    | event =>
      simpa only [if_true, reduceCtorEq, if_false, List.append_assoc] using longer
  case mem_tags =>
    intro kind tag
    rw [mem_tags_addTag, h.mem_tags]
    constructor
    · rintro (⟨line, met⟩ | ⟨rfl, rfl⟩)
      · exact ⟨line, .inl met⟩
      · exact ⟨s.line, .inr rfl⟩
    · rintro ⟨line, met | rfl⟩
      · exact .inl ⟨line, met⟩
      · exact .inr ⟨rfl, rfl⟩
  case least =>
    intro tag line at_tag
    rw [tagLines_addTag, Table.set, Table.get?_update] at at_tag
    by_cases own : tag = s.tag
    · rw [if_pos own, Option.some_inj] at at_tag
      subst own at_tag
      refine ⟨⟨s, .inr rfl, rfl, rfl⟩, ?_⟩
      rintro l ⟨t, met | rfl, named, rfl⟩
      · exact absurd named (unmet t met)
      · exact Int.le_refl _
    · rw [if_neg own] at at_tag
      obtain ⟨⟨t, met, named, on⟩, lower⟩ := h.least tag line at_tag
      refine ⟨⟨t, .inl met, named, on⟩, ?_⟩
      rintro l ⟨u, met' | rfl, named', rfl⟩
      · exact lower ⟨u, met', named', rfl⟩
      · exact absurd named'.symm own

/-- One more sighting is accounted for, when no tag has been met on a later line
or under another kind. -/
theorem note (h : f.Accounts told) (later : ∀ t, told t → t.tag = s.tag → t.line ≤ s.line)
    (sole : ∀ t, told t → t.tag = s.tag → t.kind = s.kind) :
    (f.note s).Accounts fun t => told t ∨ t = s := by
  by_cases known : s.tag ∈ f.tags s.kind
  · rw [note_of_mem known]
    exact h.of_known known later
  · rw [note_of_not_mem known]
    exact h.of_new known sole

end Accounts

/-- A line beside a tag is that of a sighting. -/
theorem Accounts.exists_of_mem_values (h : f.Accounts told) {line : Int}
    (mem : line ∈ f.tagLines.values) : ∃ s, told s ∧ s.line = line := by
  have nodup : f.tagLines.keys.Nodup :=
    h.keys.nodup_iff.mpr (List.nodup_append.mpr ⟨h.nodup _, h.nodup _, fun tag state _ event same =>
      h.apart tag state (same ▸ event)⟩)
  obtain ⟨⟨tag, line⟩, entry, rfl⟩ := List.mem_map.mp mem
  obtain ⟨⟨s, met, -, on⟩, -⟩ := h.least tag line ((Table.mem_iff_get? nodup).mp entry)
  exact ⟨s, met, on⟩

/-! ## All sightings -/

/-- The callable after sightings, one after another. -/
def noteAll (f : Callable) (seen : List Sighting) : Callable :=
  seen.foldl note f

/-- Sightings leave the line of the callable alone. -/
theorem line_noteAll (f : Callable) (seen : List Sighting) : (f.noteAll seen).line = f.line := by
  refine List.foldlRecOn (motive := fun g : Callable => g.line = f.line) seen note rfl ?_
  intro g same s _
  unfold note
  split
  · exact same
  · obtain ⟨kind, tag, line⟩ := s
    cases kind <;> exact same

theorem Accounts.noteAll {seen : List Sighting} (h : f.Accounts told)
    (ordered : seen.Pairwise Sighting.MayFollow)
    (after : ∀ t, told t → ∀ s ∈ seen, t.MayFollow s) :
    (f.noteAll seen).Accounts fun t => told t ∨ t ∈ seen := by
  induction seen generalizing f told with
  | nil => exact h.iff_congr (by simp)
  | cons s rest ih =>
    obtain ⟨first, ordered⟩ := List.pairwise_cons.mp ordered
    have step := h.note (fun t met same => (after t met s List.mem_cons_self same).2)
      (fun t met same => (after t met s List.mem_cons_self same).1)
    refine (ih step ordered ?_).iff_congr ?_
    · rintro t (met | rfl) u mem
      · exact after t met u (List.mem_cons_of_mem _ mem)
      · exact first u mem
    · intro t
      rw [List.mem_cons, or_assoc]

/-- A callable that was told nothing accounts for sightings it is told in an order
in which tags come with growing lines and under one kind each. -/
theorem Silent.accounts_noteAll {seen : List Sighting} (h : f.Silent)
    (ordered : seen.Pairwise Sighting.MayFollow) : (f.noteAll seen).Accounts (· ∈ seen) :=
  (h.accounts.noteAll ordered nofun).iff_congr fun _ => or_iff_right id

end Callable

end RepoSurvey
