import QueryAssist.Text.Position

/-!
# Places in bytes

Searches give the place of a character in bytes, and a text is cut there.  Each of them is told here in
characters.

* `getElem?_charOffsets` — the offset of a character is the length of what stands before it.
* `firstOffset?_append`, `lastOffset?_append` — the first and the last place of a character.
* `splitAtByte_append` — a text is cut behind the part that has as many bytes.
-/

namespace QueryAssist.Text

/-! ## Lengths -/

/-- The bytes that are counted are those of the text as a string. -/
theorem byteLength_eq_utf8ByteSize (cs : List Char) :
    byteLength cs = (String.ofList cs).utf8ByteSize := by
  induction cs with
  | nil => rfl
  | cons c cs ih =>
    rw [byteLength, ih, String.ofList_cons, String.utf8ByteSize_append,
      String.utf8ByteSize_singleton]

theorem byteLength_append (cs ds : List Char) :
    byteLength (cs ++ ds) = byteLength cs + byteLength ds := by
  rw [byteLength_eq_utf8ByteSize, byteLength_eq_utf8ByteSize, byteLength_eq_utf8ByteSize,
    String.ofList_append, String.utf8ByteSize_append]

theorem byteLength_replicate (n : Nat) (c : Char) :
    byteLength (List.replicate n c) = n * c.utf8Size := by
  induction n with
  | zero => exact (Nat.zero_mul _).symm
  | succ n ih => rw [List.replicate_succ, byteLength, ih, Nat.succ_mul, Nat.add_comm]

theorem eq_nil_of_byteLength_eq_zero {cs : List Char} (h : byteLength cs = 0) : cs = [] := by
  cases cs with
  | nil => rfl
  | cons c cs =>
    have hpos := c.utf8Size_pos
    rw [byteLength] at h
    omega

theorem byteLength_le_of_isPrefix {cs ds : List Char} (h : cs <+: ds) :
    byteLength cs ≤ byteLength ds := by
  obtain ⟨more, rfl⟩ := h
  rw [byteLength_append]
  exact Nat.le_add_right _ _

/-- Two beginnings of a text that have the same number of bytes are the same. -/
theorem eq_of_prefix_of_byteLength_eq {cs first second : List Char} (hfirst : first <+: cs)
    (hsecond : second <+: cs) (h : byteLength first = byteLength second) : first = second := by
  rcases List.prefix_or_prefix_of_prefix hfirst hsecond with ⟨more, rfl⟩ | ⟨more, rfl⟩
  · rw [byteLength_append] at h
    rw [eq_nil_of_byteLength_eq_zero (Nat.left_eq_add.1 h), List.append_nil]
  · rw [byteLength_append] at h
    rw [eq_nil_of_byteLength_eq_zero (Nat.left_eq_add.1 h.symm), List.append_nil]

/-! ## Offsets of characters -/

theorem charOffsets_append (start : Nat) (cs ds : List Char) :
    charOffsets start (cs ++ ds) =
      charOffsets start cs ++ charOffsets (start + byteLength cs) ds := by
  induction cs generalizing start with
  | nil => rfl
  | cons c cs ih =>
    rw [List.cons_append, charOffsets, ih, charOffsets, List.cons_append, byteLength,
      Nat.add_assoc]

/-- **The offset of a character is the length of what stands before it.**  Behind the last one there
is the end of the text. -/
theorem getElem?_charOffsets (start column : Nat) (cs : List Char) :
    ((charOffsets start cs)[column]?.map (·.1)).getD (start + byteLength cs) =
      start + byteLength (cs.take column) := by
  induction cs generalizing start column with
  | nil => simp [charOffsets]
  | cons c cs ih =>
    cases column with
    | zero => rfl
    | succ column =>
      rw [charOffsets, List.getElem?_cons_succ, byteLength, ← Nat.add_assoc, ih,
        List.take_succ_cons, byteLength, Nat.add_assoc]

/-- A column of a line is the length of what stands before it. -/
theorem columnOffset_eq (column : Nat) (line : List Char) :
    columnOffset column line = byteLength (line.take column) := by
  have h := getElem?_charOffsets 0 column line
  rwa [Nat.zero_add, Nat.zero_add] at h

/-- A character is not found among others. -/
theorem ne_of_mem_charOffsets {c : Char} {cs : List Char} (h : c ∉ cs) {start : Nat} :
    ∀ place ∈ charOffsets start cs, ¬ (place.2 == c) = true := by
  induction cs generalizing start with
  | nil => exact fun place hplace => absurd hplace List.not_mem_nil
  | cons d cs ih =>
    obtain ⟨hd, hcs⟩ := List.ne_and_not_mem_of_not_mem_cons h
    rw [charOffsets, List.forall_mem_cons]
    exact ⟨by simpa using hd.symm, ih hcs⟩

theorem find?_cons_own (c : Char) (start : Nat) (places : List (Nat × Char)) :
    ((start, c) :: places).find? (·.2 == c) = some (start, c) :=
  List.find?_cons_of_pos (beq_self_eq_true c)

/-- **The first place of a character**, behind what does not contain it. -/
theorem firstOffset?_append {c : Char} {before : List Char} (h : c ∉ before) (after : List Char) :
    firstOffset? c (before ++ c :: after) = some (byteLength before) := by
  rw [firstOffset?, charOffsets_append, List.find?_append,
    List.find?_eq_none.2 (ne_of_mem_charOffsets h), Option.none_or, charOffsets,
    find?_cons_own, Option.map_some, Nat.zero_add]

theorem firstOffset?_eq_none {c : Char} {cs : List Char} (h : c ∉ cs) :
    firstOffset? c cs = none := by
  rw [firstOffset?, List.find?_eq_none.2 (ne_of_mem_charOffsets h)]
  rfl

/-- **The last place of a character**, before what does not contain it. -/
theorem lastOffset?_append {c : Char} {after : List Char} (before : List Char) (h : c ∉ after) :
    lastOffset? c (before ++ c :: after) = some (byteLength before) := by
  have hafter : ∀ place ∈ (charOffsets (0 + byteLength before + c.utf8Size) after).reverse,
      ¬ (place.2 == c) = true :=
    fun place hplace => ne_of_mem_charOffsets h place (List.mem_reverse.1 hplace)
  rw [lastOffset?, charOffsets_append, charOffsets, List.reverse_append, List.reverse_cons,
    List.find?_append, List.find?_append, List.find?_eq_none.2 hafter, Option.none_or,
    find?_cons_own, Option.some_or, Option.map_some, Nat.zero_add]

theorem lastOffset?_eq_none {c : Char} {cs : List Char} (h : c ∉ cs) : lastOffset? c cs = none := by
  rw [lastOffset?, List.find?_eq_none.2 fun place hplace =>
    ne_of_mem_charOffsets h place (List.mem_reverse.1 hplace)]
  rfl

/-! ## Cuts -/

/-- **A text is cut behind the part that has as many bytes.** -/
theorem splitAtByte_append (before after : List Char) :
    splitAtByte (byteLength before) (before ++ after) = (before, after) := by
  induction before with
  | nil =>
    cases after with
    | nil => rfl
    | cons c cs =>
      have hpos := c.utf8Size_pos
      rw [List.nil_append, splitAtByte, if_neg (by rw [byteLength]; omega)]
  | cons c cs ih =>
    have hrest : byteLength (c :: cs) - c.utf8Size = byteLength cs := by
      rw [byteLength, Nat.add_sub_cancel_left]
    rw [List.cons_append, splitAtByte, if_pos (by rw [byteLength]; omega), hrest, ih]

end QueryAssist.Text
