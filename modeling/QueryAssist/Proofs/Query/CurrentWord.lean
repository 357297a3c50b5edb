import Mathlib.Data.List.TakeWhile
import QueryAssist.Proofs.Query.Context

/-!
# The current word in its text

The word that is being typed is gathered from both sides of the cursor, and its span is counted out
from the position of the cursor.  This file says that the two belong together.

* `WordAround` — a word of a text that lies around a place: it is made of name characters only, and
  none stands next to it.  `wordAround_currentWordAt` says that the current word is of this kind.
* `span_start_eq`, `span_stop_eq` — the ends of its span are the positions before and after it.
* `wordSpan_designates` — **the span stands for the word and for nothing else**, for every place of
  a text whose position has numbers of 32 bits, if the end of the word has such numbers, too;
  `wordSpan_atLastColumn` is a word whose end has not.
-/

namespace QueryAssist

open Text

/-! ## Words around a place -/

/-- A word of a text that stands between `front` and `back` and has the place with a given byte
offset in it or at one of its ends.  It cannot be made longer. -/
structure WordAround (text : String) (offset : Nat) (front : List Char) (word : String)
    (back : List Char) : Prop where
  parts : text.toList = front ++ word.toList ++ back
  start_le : (String.ofList front).utf8ByteSize ≤ offset
  le_stop : offset ≤ (String.ofList front).utf8ByteSize + word.utf8ByteSize
  isNameChar : ∀ c ∈ word.toList, isNameChar c = true
  front_edge : ∀ c, front.getLast? = some c → QueryAssist.isNameChar c = false
  back_edge : ∀ c, back.head? = some c → QueryAssist.isNameChar c = false

/-- What stands in front of the name characters at the end of a text. -/
def nameFront (before : List Char) : List Char :=
  (before.reverse.dropWhile isNameChar).reverse

/-- What stands behind the name characters at the start of a text. -/
def nameBack (after : List Char) : List Char :=
  after.dropWhile isNameChar

section

variable (before after : List Char)

theorem nameFront_append_nameEnd : nameFront before ++ nameEnd before = before := by
  rw [nameFront, nameEnd, ← List.reverse_append, List.takeWhile_append_dropWhile,
    List.reverse_reverse]

theorem nameStart_append_nameBack : nameStart after ++ nameBack after = after :=
  List.takeWhile_append_dropWhile

theorem isNameChar_of_mem_nameEnd {c : Char} (h : c ∈ nameEnd before) : isNameChar c = true :=
  List.all_eq_true.1 List.all_takeWhile c (List.mem_reverse.1 h)

theorem isNameChar_of_mem_nameStart {c : Char} (h : c ∈ nameStart after) : isNameChar c = true :=
  List.all_eq_true.1 List.all_takeWhile c h

/-- A word does not go over the end of a line. -/
theorem feed_not_mem_nameEnd : '\n' ∉ nameEnd before := fun h =>
  absurd (isNameChar_of_mem_nameEnd before h) (by decide)

theorem feed_not_mem_nameStart : '\n' ∉ nameStart after := fun h =>
  absurd (isNameChar_of_mem_nameStart after h) (by decide)

theorem isNameChar_eq_false_of_getLast?_nameFront {c : Char}
    (h : (nameFront before).getLast? = some c) : isNameChar c = false := by
  have hfirst := List.head?_dropWhile_not isNameChar before.reverse
  rw [nameFront, List.getLast?_reverse] at h
  simpa [h] using hfirst

theorem isNameChar_eq_false_of_head?_nameBack {c : Char}
    (h : (nameBack after).head? = some c) : isNameChar c = false := by
  have hfirst := List.head?_dropWhile_not isNameChar after
  rw [nameBack] at h
  simpa [h] using hfirst

end

/-- The word that is gathered around a cursor. -/
theorem toList_currentWordAt (before after : List Char) (cursor : Position) :
    (currentWordAt before after cursor).text.toList = nameEnd before ++ nameStart after :=
  String.toList_ofList

/-- **The current word is the longest one around the cursor.** -/
theorem wordAround_currentWordAt {text : String} {before after : List Char}
    (htext : text.toList = before ++ after) (cursor : Position) :
    WordAround text (String.ofList before).utf8ByteSize (nameFront before)
      (currentWordAt before after cursor).text (nameBack after) := by
  have hbefore := nameFront_append_nameEnd before
  have hafter := nameStart_append_nameBack after
  have hword := toList_currentWordAt before after cursor
  have hsize : (String.ofList before).utf8ByteSize =
      (String.ofList (nameFront before)).utf8ByteSize +
        (String.ofList (nameEnd before)).utf8ByteSize := by
    rw [← String.utf8ByteSize_append, ← String.ofList_append, hbefore]
  have hwordSize : (currentWordAt before after cursor).text.utf8ByteSize =
      (String.ofList (nameEnd before)).utf8ByteSize +
        (String.ofList (nameStart after)).utf8ByteSize := by
    rw [← String.utf8ByteSize_append, ← String.ofList_append]
    rfl
  constructor
  case parts => rw [htext, hword, ← List.append_assoc, hbefore, List.append_assoc, hafter]
  case start_le => omega
  case le_stop => omega
  case isNameChar =>
    intro c hc
    rw [hword] at hc
    rcases List.mem_append.1 hc with hleft | hright
    · exact isNameChar_of_mem_nameEnd before hleft
    · exact isNameChar_of_mem_nameStart after hright
  case front_edge => exact fun c => isNameChar_eq_false_of_getLast?_nameFront before
  case back_edge => exact fun c => isNameChar_eq_false_of_head?_nameBack after

/-! ## The span of the word -/

theorem toNat_line_positionAfter {cs : List Char} (h : EndsInRange cs) :
    (positionAfter cs).line.toNat = cs.count '\n' + 1 :=
  UInt32.toNat_ofNat_of_lt' h.line

theorem toNat_column_positionAfter {cs : List Char} (h : EndsInRange cs) :
    (positionAfter cs).column.toNat = (lastLine cs).length + 1 :=
  UInt32.toNat_ofNat_of_lt' h.column

theorem charCount_of_lt {cs : List Char} (h : cs.length < UInt32.size) : charCount cs = cs.length :=
  UInt32.toNat_ofNat_of_lt' h

theorem charCount_le (cs : List Char) : charCount cs ≤ cs.length := by
  rw [charCount, UInt32.toNat_ofNat']
  exact Nat.mod_le _ _

/-- The part of a word before the cursor is a part of the cursor's line. -/
theorem length_nameEnd_le (before : List Char) :
    (nameEnd before).length ≤ (lastLine before).length := by
  have hline := lastLine_append (nameFront before) (feed_not_mem_nameEnd before)
  rw [nameFront_append_nameEnd] at hline
  rw [hline, List.length_append]
  omega

section

variable {before after : List Char}

/-- Both ends of the span are on the line of the cursor. -/
theorem span_line_eq (h : EndsInRange before) :
    UInt32.ofNat (max (positionAfter before).line.toNat 1) =
      UInt32.ofNat (before.count '\n' + 1) := by
  rw [toNat_line_positionAfter h, Nat.max_eq_left (Nat.le_add_left 1 _)]

/-- **The span begins at the position after what stands in front of the word.** -/
theorem span_start_eq (h : EndsInRange before) :
    (currentWordAt before after (positionAfter before)).span.start =
      positionAfter (nameFront before) := by
  have hfeed := feed_not_mem_nameEnd before
  have hlast := lastLine_append (nameFront before) hfeed
  have hcount := count_feed_append (nameFront before) hfeed
  rw [nameFront_append_nameEnd] at hlast hcount
  have hlength : (lastLine before).length =
      (lastLine (nameFront before)).length + (nameEnd before).length := by
    rw [hlast, List.length_append]
  have hcolumn := h.column
  have hleft : charCount (nameEnd before) = (nameEnd before).length :=
    charCount_of_lt (by omega)
  have hstart : max (max ((lastLine before).length + 1) 1 - (nameEnd before).length) 1 =
      (lastLine (nameFront before)).length + 1 := by omega
  simp only [currentWordAt]
  rw [span_line_eq h, toNat_column_positionAfter h, hleft, hstart, hcount]
  rfl

/-- **The span ends at the position after the word**, if 32 bits hold its numbers. -/
theorem span_stop_eq (h : EndsInRange (before ++ nameStart after)) :
    (currentWordAt before after (positionAfter before)).span.stop =
      positionAfter (before ++ nameStart after) := by
  have hfeed := feed_not_mem_nameStart after
  have hbefore := h.of_append hfeed
  have hcolumn := h.column
  rw [lastLine_append before hfeed, List.length_append] at hcolumn
  have hright : charCount (nameStart after) = (nameStart after).length :=
    charCount_of_lt (by omega)
  have hstop : min (max ((lastLine before).length + 1) 1 + (nameStart after).length) maxIndex =
      (lastLine before).length + (nameStart after).length + 1 := by
    simp only [maxIndex, UInt32.size] at hcolumn ⊢
    omega
  simp only [currentWordAt]
  rw [span_line_eq hbefore, toNat_column_positionAfter hbefore, hright, hstop, positionAfter,
    lastLine_append before hfeed, count_feed_append before hfeed, List.length_append]

/-- In the last column that 32 bits hold, the span ends at the cursor, whatever stands behind it. -/
theorem span_stop_of_lastColumn (h : EndsInRange before)
    (last : (lastLine before).length + 1 = maxIndex) :
    (currentWordAt before after (positionAfter before)).span.stop = positionAfter before := by
  have hstop : min (max ((lastLine before).length + 1) 1 + charCount (nameStart after)) maxIndex =
      (lastLine before).length + 1 := by omega
  simp only [currentWordAt]
  rw [span_line_eq h, toNat_column_positionAfter h, hstop]
  rfl

end

namespace QueryContext

/-- The word of a context whose cursor stands after a part of the text. -/
theorem parse_positionAfter {text : String} {before after : List Char}
    (htext : text.toList = before ++ after) (inRange : EndsInRange before) :
    (parse text (positionAfter before)).currentWord =
        (currentWordAt before after (positionAfter before)).text ∧
      (parse text (positionAfter before)).wordSpan =
        (currentWordAt before after (positionAfter before)).span := by
  have hbefore : preceding text.toList (positionAfter before) = before := by
    rw [htext]
    exact preceding_positionAfter inRange after
  have hafter : text.toList.drop before.length = after := by
    rw [htext, List.drop_left]
  rw [parse_currentWord, parse_wordSpan, hbefore, hafter]
  exact ⟨rfl, rfl⟩

/-- **The span of the current word stands for the word and for nothing else.**  For every place of a
text whose position has numbers of 32 bits, the current word lies around the place, with no name
character next to it; its span begins where the word does, and it ends where the word does exactly
if 32 bits hold the position of that end. -/
theorem wordSpan_designates (text : String) (before after : List Char)
    (htext : text.toList = before ++ after) (inRange : EndsInRange before) :
    let context := parse text (positionAfter before)
    ∃ front back : List Char,
      WordAround text (String.ofList before).utf8ByteSize front context.currentWord back ∧
      offsetAt text context.wordSpan.start = (String.ofList front).utf8ByteSize ∧
      (offsetAt text context.wordSpan.stop =
          (String.ofList front).utf8ByteSize + context.currentWord.utf8ByteSize ↔
        EndsInRange (front ++ context.currentWord.toList)) := by
  intro context
  obtain ⟨hword, hspan⟩ := parse_positionAfter htext inRange
  have hfront : nameFront before ++ context.currentWord.toList = before ++ nameStart after := by
    rw [hword, toList_currentWordAt, ← List.append_assoc, nameFront_append_nameEnd]
  have htextWord : text.toList = (before ++ nameStart after) ++ nameBack after := by
    rw [htext, List.append_assoc, nameStart_append_nameBack]
  have hsize : (String.ofList (nameFront before)).utf8ByteSize + context.currentWord.utf8ByteSize =
      (String.ofList (before ++ nameStart after)).utf8ByteSize := by
    rw [← hfront, String.ofList_append, String.utf8ByteSize_append, String.ofList_toList]
  refine ⟨nameFront before, nameBack after, ?around, ?start, ?stop⟩
  case around =>
    rw [hword]
    exact wordAround_currentWordAt htext _
  case start =>
    have hinRange : EndsInRange (nameFront before ++ nameEnd before) := by
      rwa [nameFront_append_nameEnd]
    have htextFront : text.toList = nameFront before ++ (nameEnd before ++ after) := by
      rw [htext, ← List.append_assoc, nameFront_append_nameEnd]
    refine offsetAt_of_preceding ?_
    rw [hspan, span_start_eq inRange, htextFront]
    exact preceding_positionAfter (hinRange.of_append (feed_not_mem_nameEnd before)) _
  case stop =>
    rw [hsize, hfront, hspan]
    constructor
    · refine endsInRange_of_offsetAt htextWord ?_
      rw [count_feed_append before (feed_not_mem_nameStart after)]
      exact (congrArg UInt32.toNat (span_line_eq inRange)).trans
        (UInt32.toNat_ofNat_of_lt' inRange.line)
    · intro hinRange
      refine offsetAt_of_preceding ?_
      rw [span_stop_eq hinRange, htextWord]
      exact preceding_positionAfter hinRange _

/-- A word on a second line that begins with a letter of two bytes, with the cursor inside it. -/
theorem wordSpan_designates_secondLine :
    let text := "né\n, é.ab b"
    let before := ['n', 'é', '\n', ',', ' ', 'é', '.']
    let context := parse text (positionAfter before)
    text.toList = before ++ ['a', 'b', ' ', 'b'] ∧ EndsInRange before ∧
      context.currentWord = "é.ab" ∧
      (∃ front back : List Char,
        WordAround text (String.ofList before).utf8ByteSize front context.currentWord back ∧
        (String.ofList front).utf8ByteSize = 6 ∧
        EndsInRange (front ++ context.currentWord.toList)) ∧
      offsetAt text context.wordSpan.start = 6 ∧ offsetAt text context.wordSpan.stop = 11 := by
  intro text before context
  have inRange : EndsInRange before := ⟨by decide, by decide⟩
  have hword : context.currentWord = "é.ab" := by decide +kernel
  have hsix : offsetAt text context.wordSpan.start = 6 := by decide +kernel
  obtain ⟨front, back, around, hstart, hstop⟩ :=
    wordSpan_designates text before ['a', 'b', ' ', 'b'] (by decide) inRange
  have hfront : (String.ofList front).utf8ByteSize = 6 := hstart.symm.trans hsix
  have hend : EndsInRange (front ++ context.currentWord.toList) := by
    have hlength : text.toList.length =
        (front ++ context.currentWord.toList).length + back.length :=
      (congrArg List.length around.parts).trans List.length_append
    have htext : text.toList.length = 11 := by decide
    exact endsInRange_of_length_lt (by simp only [UInt32.size]; omega)
  have hbytes : context.currentWord.utf8ByteSize = 5 := by rw [hword]; decide
  refine ⟨by decide, inRange, hword, ⟨front, back, around, hfront, hend⟩, hsix, ?_⟩
  rw [hstop.2 hend, hfront, hbytes]

/-- Behind blanks up to the last column that 32 bits hold, the span of a word stands for nothing. -/
theorem wordSpan_of_blanks {count : Nat} (hcount : count + 1 = maxIndex) :
    let before := List.replicate count ' '
    let text := String.ofList (before ++ "users".toList)
    let context := parse text (positionAfter before)
    text.toList = before ++ "users".toList ∧ EndsInRange before ∧ context.currentWord = "users" ∧
      offsetAt text context.wordSpan.start = count ∧
      offsetAt text context.wordSpan.stop = count := by
  intro before text context
  have htext : text.toList = before ++ "users".toList := String.toList_ofList
  have hfeed : '\n' ∉ before := fun h => absurd (List.eq_of_mem_replicate h) (by decide)
  have hlast : lastLine before = before := lastLine_append [] hfeed
  have hlength : (lastLine before).length + 1 = maxIndex := by
    rw [hlast, List.length_replicate, hcount]
  have inRange : EndsInRange before :=
    ⟨by rw [List.count_eq_zero_of_not_mem hfeed]; decide, by rw [hlength]; decide⟩
  have hnone : nameEnd before = [] := by
    rw [nameEnd, List.reverse_replicate, List.takeWhile_replicate, if_neg (by decide)]
    rfl
  have hfront : nameFront before = before := by
    have hparts := nameFront_append_nameEnd before
    rwa [hnone, List.append_nil] at hparts
  have hplace : offsetAt text (positionAfter before) = count := by
    have hbytes : byteLength before = count := by
      rw [byteLength_replicate]
      exact Nat.mul_one count
    rw [offsetAt_eq, htext, preceding_positionAfter inRange, hbytes]
  obtain ⟨hword, hspan⟩ := parse_positionAfter htext inRange
  refine ⟨htext, inRange, ?_, ?_, ?_⟩
  · rw [← String.toList_inj, hword, toList_currentWordAt, hnone]
    decide
  · rw [hspan, span_start_eq inRange, hfront, hplace]
  · rw [hspan, span_stop_of_lastColumn inRange hlength, hplace]

/-- **A word behind the last column of a line has a span that stands for nothing.**  The place after
the blanks has line 1 and column 4294967295; the end of the word has no column of 32 bits, and the
span ends where it begins. -/
theorem wordSpan_atLastColumn :
    let before := List.replicate 4294967294 ' '
    let text := String.ofList (before ++ "users".toList)
    let context := parse text (positionAfter before)
    text.toList = before ++ "users".toList ∧ EndsInRange before ∧ context.currentWord = "users" ∧
      offsetAt text context.wordSpan.start = 4294967294 ∧
      offsetAt text context.wordSpan.stop = 4294967294 :=
  wordSpan_of_blanks rfl

end QueryContext

end QueryAssist
