/-
**A name keeps as much of a text as fits.**

A name is cut where a byte count and a border between characters meet. Here the cut is also found
from behind, by stepping back from the last byte that fits until a border is met, and both ways
agree.

* `Name.Longest` — the longest part from the front of a text that fits into some number of bytes.
* `Name.longest_kept` — what a name keeps is that part.
* `Name.borderFrom` — the search from behind. `Name.borderFrom_eq`: it comes to the end of what is
  kept, and never to a position in front of the first.
* `Name.text_ofString` — the bytes of a name read back as what was kept.
* `Name.ofString_longest` — **all that a name says about its text**.
-/

import MiniKernel.Checked
import MiniKernel.Process.Name

namespace MiniKernel.Name

variable {ε : Type}

/-! ### The longest part that fits -/

/-- **`kept` is the longest part from the front of `text` with at most `room` bytes.** The part and
what follows it are texts of their own, so no character is cut. -/
structure Longest (room : Nat) (text kept : String) : Prop where
  opens : ∃ rest, text = kept ++ rest
  fits : kept.utf8ByteSize ≤ room
  longest : ∀ start rest, text = start ++ rest → start.utf8ByteSize ≤ room →
    start.utf8ByteSize ≤ kept.utf8ByteSize

section Fitting

variable {room : Nat} {c : Char} {chars start rest : List Char}

theorem utf8ByteSize_ofList_cons (c : Char) (rest : List Char) :
    (String.ofList (c :: rest)).utf8ByteSize =
      c.utf8Size + (String.ofList rest).utf8ByteSize := by
  simp

theorem fitting_cons_fits (fits : c.utf8Size ≤ room) (rest : List Char) :
    fitting room (c :: rest) = c :: fitting (room - c.utf8Size) rest := if_pos fits

theorem fitting_cons_wide (wide : ¬ c.utf8Size ≤ room) (rest : List Char) :
    fitting room (c :: rest) = [] := if_neg wide

theorem utf8ByteSize_fitting (room : Nat) (chars : List Char) :
    (String.ofList (fitting room chars)).utf8ByteSize ≤ room := by
  induction chars generalizing room with
  | nil => exact Nat.zero_le room
  | cons c rest ih =>
    by_cases fits : c.utf8Size ≤ room
    · have further := ih (room - c.utf8Size)
      rw [fitting_cons_fits fits, utf8ByteSize_ofList_cons]
      omega
    · rw [fitting_cons_wide fits]
      exact Nat.zero_le room

theorem fitting_starts (room : Nat) (chars : List Char) : fitting room chars <+: chars := by
  induction chars generalizing room with
  | nil => exact List.nil_prefix
  | cons c rest ih =>
    by_cases fits : c.utf8Size ≤ room
    · rw [fitting_cons_fits fits]
      exact (List.prefix_cons_inj c).mpr (ih _)
    · rw [fitting_cons_wide fits]
      exact List.nil_prefix

/-- Characters from the front that fit are among those that are kept. -/
theorem starts_fitting (fits : (String.ofList start).utf8ByteSize ≤ room) (rest : List Char) :
    start <+: fitting room (start ++ rest) := by
  induction start generalizing room with
  | nil => exact List.nil_prefix
  | cons c later ih =>
    rw [utf8ByteSize_ofList_cons] at fits
    have first : c.utf8Size ≤ room := by omega
    rw [List.cons_append, fitting_cons_fits first]
    exact (List.prefix_cons_inj c).mpr (ih (by omega))

/-- Nothing is cut off what fits. -/
theorem fitting_of_fits (fits : (String.ofList chars).utf8ByteSize ≤ room) :
    fitting room chars = chars := by
  have whole := starts_fitting fits []
  rw [List.append_nil] at whole
  exact (fitting_starts room chars).eq_of_length_le whole.length_le

end Fitting

/-- A text whose characters open another text is a part from its front. -/
theorem exists_append {start text : String} (front : start.toList <+: text.toList) :
    ∃ rest, text = start ++ rest := by
  obtain ⟨more, whole⟩ := front
  refine ⟨String.ofList more, ?_⟩
  rw [← String.ofList_toList (s := text), ← whole, String.ofList_append, String.ofList_toList]

/-- What a name keeps of a text. -/
def kept (text : String) : String := String.ofList (fitting (nameField - 1) text.toList)

theorem toList_kept (text : String) : (kept text).toList = fitting 31 text.toList :=
  String.toList_ofList

/-- **A name keeps the longest part that fits beside one zero byte.** -/
theorem longest_kept (text : String) : Longest 31 text (kept text) := by
  refine ⟨?_, utf8ByteSize_fitting 31 text.toList, fun start rest split fits => ?_⟩
  · refine exists_append ?_
    rw [toList_kept]
    exact fitting_starts 31 text.toList
  · have inside : start.toList <+: (kept text).toList := by
      rw [toList_kept, split, String.toList_append]
      exact starts_fitting (by rwa [String.ofList_toList]) _
    obtain ⟨more, same⟩ := exists_append inside
    rw [same, String.utf8ByteSize_append]
    exact Nat.le_add_right _ _

theorem utf8ByteSize_kept_le (text : String) : (kept text).utf8ByteSize ≤ text.utf8ByteSize := by
  obtain ⟨rest, split⟩ := (longest_kept text).opens
  have size : text.utf8ByteSize = (kept text).utf8ByteSize + rest.utf8ByteSize :=
    (congrArg _ split).trans String.utf8ByteSize_append
  omega

theorem kept_of_fits {text : String} (fits : text.utf8ByteSize ≤ 31) : kept text = text := by
  have all : fitting 31 text.toList = text.toList :=
    fitting_of_fits (by rwa [String.ofList_toList])
  rw [← String.ofList_toList (s := kept text), toList_kept, all, String.ofList_toList]

/-! ### The search from behind -/

/-- The last border between characters of a text that is not behind a byte position. Stepping back
from the first position does not work. -/
def borderFrom (text : String) : Nat → Answer ε Nat
  | 0 => if String.Pos.Raw.isValid text 0 then .ok 0 else .abort (.overflow .subtract)
  | position + 1 =>
    if String.Pos.Raw.isValid text ⟨position + 1⟩ then .ok (position + 1)
    else borderFrom text position

/-- The name with the first `length` bytes of a text. -/
def copied (text : String) (length : Nat) : Name where
  bytes := Vector.ofFn fun i : Fin 32 =>
    if i.val < length then text.toUTF8.data[i.val]?.getD 0 else 0
  length := length % byteLimit

/-- The name made by that search. The field and the text must both hold the bytes that are
copied. -/
def cut (text : String) : Answer ε Name := do
  let length ← borderFrom text (min text.utf8ByteSize (nameField - 1))
  if nameField < length then .abort (.outOfRange length nameField)
  else if text.utf8ByteSize < length then .abort (.outOfRange length text.utf8ByteSize)
  else return copied text length

theorem borderFrom_valid {text : String} {position : Nat}
    (valid : String.Pos.Raw.IsValid text ⟨position⟩) :
    borderFrom text position = (.ok position : Answer ε Nat) := by
  cases position with
  | zero => exact if_pos (String.Pos.Raw.isValid_eq_true_iff.mpr valid)
  | succ position => exact if_pos (String.Pos.Raw.isValid_eq_true_iff.mpr valid)

/-- **The search comes to the last border.** -/
theorem borderFrom_eq {text : String} {border position : Nat}
    (valid : String.Pos.Raw.IsValid text ⟨border⟩) (before : border ≤ position)
    (last : ∀ other, other ≤ position → String.Pos.Raw.IsValid text ⟨other⟩ → other ≤ border) :
    borderFrom text position = (.ok border : Answer ε Nat) := by
  induction position with
  | zero =>
    obtain rfl : border = 0 := by omega
    exact borderFrom_valid valid
  | succ position ih =>
    by_cases here : border = position + 1
    · rw [← here]
      exact borderFrom_valid valid
    · have between : ¬ String.Pos.Raw.IsValid text ⟨position + 1⟩ := fun valid_here => by
        have past := last (position + 1) (Nat.le_refl _) valid_here
        omega
      refine (if_neg ?_).trans (ih (by omega) fun other inside => last other (by omega))
      rwa [String.Pos.Raw.isValid_eq_true_iff]

/-- The search ends where what is kept does. -/
theorem borderFrom_kept (text : String) :
    borderFrom text (min text.utf8ByteSize (nameField - 1)) =
      (.ok (kept text).utf8ByteSize : Answer ε Nat) := by
  obtain ⟨⟨rest, split⟩, fits, longest⟩ := longest_kept text
  have before := Nat.le_min.mpr ⟨utf8ByteSize_kept_le text, fits⟩
  refine borderFrom_eq ?_ before fun other inside valid => ?_
  · exact String.Pos.Raw.isValid_iff_exists_append.mpr ⟨kept text, rest, split, rfl⟩
  · obtain ⟨start, rest, whole, there⟩ := String.Pos.Raw.isValid_iff_exists_append.mp valid
    have size : other = start.utf8ByteSize := congrArg String.Pos.Raw.byteIdx there
    rw [size] at inside ⊢
    exact longest start rest whole (Nat.le_trans inside (Nat.min_le_right _ _))

/-! ### The bytes of a name -/

/-- The name that holds a text. -/
def holding (text : String) : Name :=
  ⟨Vector.ofFn fun i : Fin 32 => text.toUTF8.data[i.val]?.getD 0, text.toUTF8.size⟩

theorem ofString_eq (text : String) : ofString text = holding (kept text) := rfl

/-- The used bytes of a name that holds a text which fits are the bytes of that text. -/
theorem used_holding {text : String} (fits : text.utf8ByteSize ≤ 32) :
    (holding text).bytes.toArray.extract 0 (holding text).length = text.toByteArray.data := by
  have size : text.toByteArray.data.size = text.utf8ByteSize := rfl
  refine Array.ext ?_ fun i inside within => ?_
  · simp only [Array.size_extract, Vector.size_toArray]
    show min text.utf8ByteSize 32 - 0 = _
    omega
  · simp [holding, Array.getElem?_eq_getElem within]

/-- **The bytes of a name are UTF-8 and read back as what was kept.** -/
theorem fromUTF8_used (text : String) :
    String.fromUTF8? ⟨(ofString text).bytes.toArray.extract 0 (ofString text).length⟩ =
      some (kept text) := by
  have fits := (longest_kept text).fits
  rw [ofString_eq, used_holding (by omega)]
  exact dif_pos (kept text).isValidUTF8

theorem text_ofString (text : String) : (ofString text).text = kept text :=
  congrArg (Option.getD · "") (fromUTF8_used text)

/-- The bytes of a text from the front are those of any part from its front. -/
theorem getElem?_toUTF8_append {start rest : String} {i : Nat} (inside : i < start.utf8ByteSize) :
    (start ++ rest).toUTF8.data[i]? = start.toUTF8.data[i]? := by
  rw [String.toUTF8_eq_toByteArray, String.toByteArray_append, ByteArray.data_append]
  exact Array.getElem?_append_left inside

/-- Copying what is kept makes the name. -/
theorem copied_kept (text : String) : copied text (kept text).utf8ByteSize = ofString text := by
  obtain ⟨⟨rest, split⟩, fits, _⟩ := longest_kept text
  have small : (kept text).utf8ByteSize % byteLimit = (kept text).utf8ByteSize :=
    Nat.mod_eq_of_lt (by rw [byteLimit]; omega)
  -- behind the border the field is zero, and so is what is read behind the end of a text
  have bytes : ∀ i : Fin 32,
      (if i.val < (kept text).utf8ByteSize then text.toUTF8.data[i.val]?.getD 0 else 0) =
        (kept text).toUTF8.data[i.val]?.getD 0 := by
    intro i
    by_cases inside : i.val < (kept text).utf8ByteSize
    · have same : (kept text ++ rest).toUTF8.data[i.val]? = (kept text).toUTF8.data[i.val]? :=
        getElem?_toUTF8_append inside
      rw [← split] at same
      rw [if_pos inside, same]
    · have past : (kept text).toUTF8.data[i.val]? = none :=
        Array.getElem?_eq_none (Nat.not_lt.mp inside)
      rw [if_neg inside, past, Option.getD_none]
  rw [ofString_eq, copied, holding, small]
  simp only [bytes]
  rfl

/-- **Cutting from behind makes the same name.** -/
theorem cut_eq (text : String) : cut text = (.ok (ofString text) : Answer ε Name) := by
  have fits := (longest_kept text).fits
  have field : ¬ nameField < (kept text).utf8ByteSize := by
    rw [nameField]
    omega
  have source := Nat.not_lt.mpr (utf8ByteSize_kept_le text)
  rw [cut, borderFrom_kept]
  refine (if_neg field).trans ((if_neg source).trans ?_)
  rw [copied_kept]
  rfl

/-! ### What a name says about its text -/

/-- A text that opens another one and is not shorter is that text. -/
theorem eq_of_starts {start text : String} (front : start.toList <+: text.toList)
    (long : text.utf8ByteSize ≤ start.utf8ByteSize) : start = text := by
  obtain ⟨rest, split⟩ := exists_append front
  rw [split, String.utf8ByteSize_append] at long
  have nothing : rest = "" := String.utf8ByteSize_eq_zero_iff.mp (by omega)
  rw [split, nothing, String.append_empty]

/-- There is one longest part. -/
theorem Longest.eq {room : Nat} {text part other : String} (longest : Longest room text part)
    (also : Longest room text other) : part = other := by
  obtain ⟨rest, split⟩ := longest.opens
  obtain ⟨further, split_too⟩ := also.opens
  have short := longest.longest other further split_too also.fits
  have long := also.longest part rest split longest.fits
  have first : part.toList <+: text.toList := ⟨rest.toList, by rw [split, String.toList_append]⟩
  have second : other.toList <+: text.toList :=
    ⟨further.toList, by rw [split_too, String.toList_append]⟩
  -- both open the text, so one of them opens the other
  rcases List.prefix_or_prefix_of_prefix first second with front | front
  · exact eq_of_starts front short
  · exact (eq_of_starts front long).symm

/-- **A name says as much about its text as fits.** For every text the search from behind comes to
its end and makes the name, without a step in front of the text or a copy out of bounds. What the
name reads back as is the longest part from the front of the text with at most 31 bytes that cuts no
character, and its bytes are always UTF-8. A name made of that part is the same name, and two names
are the same if and only if they read back as the same text; the name without text is one of
them. -/
theorem ofString_longest (text : String) :
    cut text = (.ok (ofString text) : Answer ε Name) ∧
      (∀ part, Longest 31 text part ↔ part = (ofString text).text) ∧
      String.fromUTF8? ⟨(ofString text).bytes.toArray.extract 0 (ofString text).length⟩ =
        some (ofString text).text ∧
      ofString (ofString text).text = ofString text ∧
      (∀ other, ofString text = ofString other ↔ (ofString text).text = (ofString other).text) ∧
      empty = ofString "" := by
  have longest := longest_kept text
  refine ⟨cut_eq text, fun part => ?_, ?_, ?_, fun other => ?_, rfl⟩
  · rw [text_ofString]
    constructor
    · exact fun also => also.eq longest
    · rintro rfl
      exact longest
  · rw [text_ofString]
    exact fromUTF8_used text
  · rw [text_ofString, ofString_eq, ofString_eq, kept_of_fits longest.fits]
  · rw [text_ofString, text_ofString]
    constructor
    · intro same
      rw [← text_ofString, same, text_ofString]
    · intro same
      rw [ofString_eq, ofString_eq, same]

/-- Thirty bytes and a character of two: the character is left out. -/
example : (ofString "012345678901234567890123456789é").text = "012345678901234567890123456789" := by
  decide +kernel

end MiniKernel.Name
