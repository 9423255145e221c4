import RepoSurvey.JavaScript.Mask
import RepoSurvey.Proofs.JavaScript.Parameters

/-!
# Sources that are their own code

Masking blanks comments in the code and nothing else, so the code of a source without
comments is the source. `Copied` says so of a piece of a source, with the blocks that are
open before it and behind it: characters that mean nothing to the reader, braces that open
and close a block, and strings are copied, and so is what is put together from copied pieces
(`Copied.append`). A source that is copied with no block left open is read, and is its own
code (`exists_mask_of_copied`).
-/

namespace RepoSurvey.JavaScript

open Text (isBlank isWordOrDollar)

/-- A character that the reader keeps and goes on behind, whatever follows it. -/
def isPlain (c : Char) : Bool :=
  !(['/', '\x27', '"', '\x60', '\x7b', '\x7d'].contains c)

/-- So many blocks are open, and the code is what has been read. -/
structure Reader.Copies (r : Reader) (done : List Char) (depth : Nat) : Prop where
  /-- No template is open. -/
  inCode : r.inTemplate = false
  /-- Blocks are open, and nothing else. -/
  blocks : r.braces = List.replicate depth .block
  /-- The code is what has been read. -/
  code : r.cells.reverse.map (·.1) = done

/-- Read at some depth, the text is copied, and the depth is another one. -/
def Copied (text : List Char) (depth depth' : Nat) : Prop :=
  ∀ ⦃r : Reader⦄ ⦃done : List Char⦄, r.Copies done depth → ∀ rest,
    ∃ next : Reader, r.read (text ++ rest) = next.read rest ∧ next.Copies (done ++ text) depth'

theorem Copied.append {first second : List Char} {outer middle inner : Nat}
    (before : Copied first outer middle) (behind : Copied second middle inner) :
    Copied (first ++ second) outer inner := by
  intro r done copies rest
  obtain ⟨next, ran, copies'⟩ := before copies (second ++ rest)
  obtain ⟨last, ran', copies''⟩ := behind copies' rest
  rw [List.append_assoc] at copies'' ⊢
  exact ⟨last, ran.trans ran', copies''⟩

theorem Reader.Copies.emit {r next : Reader} {done chunk : List Char} {cells : List Cell}
    {depth depth' : Nat} (h : r.Copies done depth) (shown : cells.map (·.1) = chunk)
    (made : next.cells = (r.emit cells).cells) (inCode : next.inTemplate = false)
    (blocks : next.braces = List.replicate depth' .block) : next.Copies (done ++ chunk) depth' where
  inCode := inCode
  blocks := blocks
  code := by
    rw [made, Reader.emit, List.reverse_append, List.reverse_reverse, List.map_append, h.code,
      shown]

theorem Reader.read_cons {r next : Reader} {c : Char} {rest : List Char} {taken : Nat}
    (inCode : r.inTemplate = false) (stepped : codeStep r c rest = .go next taken) :
    r.read (c :: rest) = next.read (rest.drop taken) := by
  have step : r.step c rest = .go next taken := by rw [Reader.step, inCode]; exact stepped
  rw [Reader.read, step]

theorem copied_nil (depth : Nat) : Copied [] depth depth := by
  intro r done copies rest
  exact ⟨r, rfl, by rwa [List.append_nil]⟩

theorem copied_singleton {c : Char} (plain : isPlain c = true) (depth : Nat) :
    Copied [c] depth depth := by
  intro r done copies rest
  have other : c ≠ '/' ∧ c ≠ '\x27' ∧ c ≠ '"' ∧ c ≠ '\x60' ∧ c ≠ '\x7b' ∧ c ≠ '\x7d' := by
    simpa [isPlain] using plain
  obtain ⟨slash, single, double, tick, opens, closes⟩ := other
  have stepped : codeStep r c rest =
      .go { r.emit [kept c] with previous := if isBlank c then r.previous else some c } 0 := by
    simp [codeStep, plainStep, slash, single, double, tick, opens, closes]
  exact ⟨_, r.read_cons copies.inCode stepped, copies.emit rfl rfl copies.inCode copies.blocks⟩

theorem copied_plain {text : List Char} (plain : ∀ c ∈ text, isPlain c = true) (depth : Nat) :
    Copied text depth depth := by
  induction text with
  | nil => exact copied_nil depth
  | cons c rest ih =>
    obtain ⟨here, later⟩ := List.forall_mem_cons.mp plain
    exact (copied_singleton here depth).append (ih later)

theorem copied_open (depth : Nat) : Copied ['\x7b'] depth (depth + 1) := by
  intro r done copies rest
  have stepped : codeStep r '\x7b' rest = .go { r.emit [kept '\x7b'] with
      previous := some '\x7b', braces := .block :: r.braces } 0 := rfl
  refine ⟨_, r.read_cons copies.inCode stepped, copies.emit rfl rfl copies.inCode ?_⟩
  rw [copies.blocks]
  rfl

theorem copied_close (depth : Nat) : Copied ['\x7d'] (depth + 1) depth := by
  intro r done copies rest
  have stepped : codeStep r '\x7d' rest = .go { r.emit [kept '\x7d'] with
      previous := some '\x7d', braces := List.replicate depth .block } 0 := by
    have stack := copies.blocks
    rw [List.replicate_succ] at stack
    simp [codeStep, plainStep, stack, isBlank]
  exact ⟨_, r.read_cons copies.inCode stepped, copies.emit rfl rfl copies.inCode rfl⟩

/-- A string ends at its quote. -/
theorem stringLength?_append {quote : Char} {text rest : List Char} (escapes : quote ≠ '\\')
    (free : ∀ c ∈ text, c ≠ quote ∧ c ≠ '\\' ∧ c ≠ '\n') (seen : Nat) :
    stringLength? quote seen (text ++ quote :: rest) = some (seen + text.length) := by
  induction text generalizing seen with
  | nil => simp [stringLength?]
  | cons c text ih =>
    obtain ⟨⟨closes, escape, newline⟩, later⟩ := List.forall_mem_cons.mp free
    rw [List.cons_append, stringLength?, if_neg (mt beq_iff_eq.mp closes),
      if_neg (mt beq_iff_eq.mp newline), ih later, List.length_cons]
    · congr 1
      omega
    · exact escape

theorem copied_string {quote : Char} {text : List Char} (isQuote : quote = '\x27' ∨ quote = '"')
    (free : ∀ c ∈ text, c ≠ quote ∧ c ≠ '\\' ∧ c ≠ '\n') (depth : Nat) :
    Copied (quote :: (text ++ [quote])) depth depth := by
  intro r done copies rest
  have length : stringLength? quote 0 (text ++ quote :: rest) = some text.length := by
    rw [stringLength?_append (by rcases isQuote with rfl | rfl <;> decide) free, Nat.zero_add]
  have stepped : codeStep r quote (text ++ quote :: rest) =
      .go { r.emit (kept quote :: (text.map hidden ++ [kept quote])) with previous := some quote }
        (text.length + 1) := by
    rcases isQuote with rfl | rfl <;> simp [codeStep, length, literalStep]
  have behind : (text ++ quote :: rest).drop (text.length + 1) = rest := by
    rw [← List.drop_drop, List.drop_left]
    rfl
  have ran := r.read_cons copies.inCode stepped
  have shown : (kept quote :: (text.map hidden ++ [kept quote])).map (·.1) =
      quote :: (text ++ [quote]) := by
    simp [kept, hidden, Function.comp_def]
  rw [behind] at ran
  rw [List.cons_append, List.append_assoc, List.singleton_append]
  exact ⟨_, ran, copies.emit shown rfl copies.inCode copies.blocks⟩

/-- A text that is copied with no block left open is its own code. -/
theorem exists_mask_of_copied {text : List Char} (copied : Copied text 0 0) :
    ∃ m, mask text = .ok m ∧ m.code.toList = text := by
  have start : ({} : Reader).Copies [] 0 := ⟨rfl, rfl, rfl⟩
  obtain ⟨r, ran, copies⟩ := copied start []
  rw [List.append_nil, Reader.read] at ran
  have closed : r.braces = [] := copies.blocks
  have masked : mask text =
      .ok ⟨(r.cells.reverse.map (·.1)).toArray, (r.cells.reverse.map (·.2)).toArray⟩ := by
    simp [mask, ran, copies.inCode, closed, bind, Except.bind, pure, Except.pure]
  exact ⟨_, masked, copies.code⟩

theorem isPlain_of_isWordOrDollar {c : Char} (part : isWordOrDollar c = true) :
    isPlain c = true := by
  rw [isPlain, Text.not_contains_of_class (by decide) part]
  rfl

end RepoSurvey.JavaScript
