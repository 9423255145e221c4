import RepoSurvey.Text.Decoding

/-!
# Lines and bytes of texts

Positions further on are not on earlier lines, and every position is on one of
the lines of the text. Writing every line end as one line feed adds a line for each
carriage return that no line feed follows, and keeps a text without them.

The bytes of a text without carriage returns are read as the text. Read leniently, the bytes of
ASCII characters are these characters, so a part of the bytes gives that part of the text.
-/

namespace RepoSurvey.Text

/-! ## Lines of positions -/

section

variable {cs : List Char} {i j : Nat}

theorem lineOf_mono (le : i ≤ j) : lineOf cs i ≤ lineOf cs j :=
  Nat.succ_le_succ ((List.take_sublist_take_left le).count_le '\n')

theorem one_le_lineOf : 1 ≤ lineOf cs i :=
  Nat.succ_le_succ (Nat.zero_le _)

theorem lineOf_le : lineOf cs i ≤ cs.count '\n' + 1 :=
  Nat.succ_le_succ ((List.take_sublist i cs).count_le '\n')

/-- The number of carriage returns that no line feed follows. -/
def loneReturns : List Char → Nat
  | [] => 0
  | '\r' :: '\n' :: rest => loneReturns rest
  | c :: rest => (if c = '\r' then 1 else 0) + loneReturns rest

theorem count_unifyLineEnds (cs : List Char) :
    (unifyLineEnds cs).count '\n' = cs.count '\n' + loneReturns cs := by
  fun_induction loneReturns cs with
  | case1 => rfl
  | case2 rest ih =>
    rw [unifyLineEnds, List.count_cons, ih]
    simp
    omega
  | case3 c rest other ih =>
    rw [unifyLineEnds.eq_3 _ _ other, List.count_cons, List.count_cons, ih]
    by_cases lone : c = '\r'
    · subst lone
      simp
      omega
    · simp only [beq_iff_eq, lone, if_false]
      omega

end

theorem unifyLineEnds_of_fed {cs : List Char} (fed : '\r' ∉ cs) : unifyLineEnds cs = cs := by
  induction cs with
  | nil => rfl
  | cons c rest ih =>
    have other : c ≠ '\r' := fun same => fed (same ▸ List.mem_cons_self)
    have later := ih fun mem => fed (List.mem_cons_of_mem c mem)
    rw [unifyLineEnds]
    · rw [later, if_neg fun same => other (beq_iff_eq.mp same)]
    · exact fun _ same => absurd same other

/-! ## Bytes -/

theorem decode?_toUTF8 {text : String} (fed : '\r' ∉ text.toList) :
    decode? text.toUTF8 = some text := by
  have spelled : String.fromUTF8? text.toUTF8 = some text := by
    rw [String.fromUTF8?, String.toUTF8_eq_toByteArray, dif_pos text.isValidUTF8]
    rfl
  rw [decode?, spelled, Option.map_some, unifyLineEnds_of_fed fed, String.ofList_toList]

/-! ## ASCII -/

theorem toList_loop (bytes : ByteArray) (i : Nat) (before : List UInt8) :
    ByteArray.toList.loop bytes i before = before.reverse ++ bytes.data.toList.drop i := by
  fun_induction ByteArray.toList.loop bytes i before with
  | case1 i before inside ih =>
    have here : bytes.get! i = bytes.data[i] := getElem!_pos bytes.data i inside
    have there : i < bytes.data.toList.length := inside
    rw [ih, here, List.reverse_cons, List.append_assoc, List.drop_eq_getElem_cons there]
    rfl
  | case2 i before outside =>
    have past : bytes.data.toList.length ≤ i := Nat.le_of_not_lt outside
    rw [List.drop_eq_nil_of_le past, List.append_nil]

theorem toList_eq (bytes : ByteArray) : bytes.toList = bytes.data.toList :=
  toList_loop bytes 0 []

theorem toList_toUTF8 (s : String) : s.toUTF8.toList = s.toList.flatMap String.utf8EncodeChar := by
  rw [toList_eq, String.toUTF8_eq_toByteArray, ← String.utf8Encode_toList, List.utf8Encode,
    List.data_toByteArray]

theorem utf8EncodeChar_of_ascii {c : Char} (ascii : c.toNat < 128) :
    String.utf8EncodeChar c = [c.val.toUInt8] := by
  have small : c.val.toNat ≤ 127 := Nat.le_of_lt_succ ascii
  exact String.utf8EncodeChar_eq_singleton (if_pos small)

/-- The bytes of ASCII characters are read as these characters. -/
theorem decodeIgnoring_toUTF8 {s : String} (ascii : ∀ c ∈ s.toList, c.toNat < 128) :
    decodeIgnoring s.toUTF8.toList = s := by
  have read : ∀ cs : List Char, (∀ c ∈ cs, c.toNat < 128) →
      lenientFrom [] 0 0 0 0 (cs.flatMap String.utf8EncodeChar) = cs := by
    intro cs ascii
    induction cs with
    | nil => rfl
    | cons c rest ih =>
      obtain ⟨here, later⟩ := List.forall_mem_cons.mp ascii
      rw [List.flatMap_cons, utf8EncodeChar_of_ascii here, List.singleton_append, lenientFrom]
      have byte : c.val.toUInt8.toNat = c.toNat :=
        (UInt32.toNat_toUInt8 c.val).trans (Nat.mod_eq_of_lt (Nat.lt_trans here (by decide)))
      simp only [byte, here, if_true, bne_self_eq_false, Bool.false_and, Bool.false_eq_true,
        if_false, List.nil_append, ih later, Char.ofNat_toNat, ite_self]
  rw [decodeIgnoring, toList_toUTF8, read _ ascii, String.ofList_toList]

/-- A part of the bytes of a text is read as the part of the text. -/
theorem extract_toUTF8 (before part after : String) :
    (before ++ part ++ after).toUTF8.extract before.utf8ByteSize
      (before.utf8ByteSize + part.utf8ByteSize) = part.toUTF8 := by
  simp only [String.toUTF8_eq_toByteArray, String.toByteArray_append, ByteArray.append_assoc]
  have skipped := @ByteArray.extract_append_size_add before.toByteArray
    (part.toByteArray ++ after.toByteArray) 0 part.utf8ByteSize
  rw [Nat.add_zero] at skipped
  exact skipped.trans (ByteArray.extract_append_eq_left rfl)

end RepoSurvey.Text
