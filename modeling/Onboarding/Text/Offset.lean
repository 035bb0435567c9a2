/-
This file holds changes of a text at a byte offset. A cursor counts characters, a text is
changed at a byte, and a character takes one to four bytes: an offset within a character
or past the end is no place for a change. The offset at which a character with a number
starts is always one.
-/

namespace Onboarding.Text

/-! ### Offsets -/

/-- How many bytes the characters take. -/
def byteCount : List Char → Nat
  | [] => 0
  | c :: rest => c.utf8Size + byteCount rest

/-- The offsets at which the characters start, when the first starts at the given one. -/
def starts (offset : Nat) : List Char → List Nat
  | [] => []
  | c :: rest => offset :: starts (offset + c.utf8Size) rest

/-- The offset at which the character with a number starts; the end of the text, when it has not so
many characters. -/
def offsetOf (text : String) (number : Nat) : String.Pos.Raw :=
  ⟨((starts 0 text.toList)[number]?).getD (byteCount text.toList)⟩

/-! ### Changes -/

/-- The characters before an offset and those behind it; none when the offset is not between two
characters of the text or at one of its ends. -/
def splitAt? : List Char → Nat → Option (List Char × List Char)
  | text, 0 => some ([], text)
  | [], _ + 1 => none
  | c :: rest, offset + 1 =>
    if offset + 1 < c.utf8Size then none
    else (splitAt? rest (offset + 1 - c.utf8Size)).map fun (before, after) => (c :: before, after)

/-- The text with a character put in at an offset; none when the offset is no place for it. -/
def insertAt? (text : String) (offset : String.Pos.Raw) (c : Char) : Option String :=
  (splitAt? text.toList offset.byteIdx).map fun (before, after) =>
    String.ofList (before ++ c :: after)

/-- The text without the character that starts at an offset; none when no character does. -/
def removeAt? (text : String) (offset : String.Pos.Raw) : Option String :=
  match splitAt? text.toList offset.byteIdx with
  | some (before, _ :: after) => some (String.ofList (before ++ after))
  | _ => none

/-! ### Changes where a character starts -/

theorem starts_getElem? (offset : Nat) (text : List Char) (number : Nat) :
    ((starts offset text)[number]?).getD (offset + byteCount text) =
      offset + byteCount (text.take number) := by
  induction text generalizing offset number with
  | nil => rw [List.take_nil]; rfl
  | cons c rest inductionHypothesis =>
    cases number with
    | zero => rfl
    | succ number =>
      rw [starts, List.getElem?_cons_succ, List.take_succ_cons, byteCount, byteCount,
        ← Nat.add_assoc, inductionHypothesis, Nat.add_assoc]

/-- The offset of a character is as far as the characters before it reach. -/
theorem offsetOf_eq (text : String) (number : Nat) :
    offsetOf text number = ⟨byteCount (text.toList.take number)⟩ := by
  have found := starts_getElem? 0 text.toList number
  rw [Nat.zero_add, Nat.zero_add] at found
  rw [offsetOf, found]

theorem splitAt?_byteCount (before after : List Char) :
    splitAt? (before ++ after) (byteCount before) = some (before, after) := by
  induction before with
  | nil => rw [byteCount, List.nil_append, splitAt?]
  | cons c before inductionHypothesis =>
    obtain ⟨size, positive⟩ := Nat.exists_eq_succ_of_ne_zero (Nat.ne_of_gt c.utf8Size_pos)
    have reached : byteCount (c :: before) = size + byteCount before + 1 := by
      rw [byteCount, positive, Nat.succ_add]
    rw [reached, List.cons_append, splitAt?, if_neg (by omega),
      show size + byteCount before + 1 - c.utf8Size = byteCount before by omega,
      inductionHypothesis]
    rfl

theorem splitAt?_offsetOf (text : String) (number : Nat) :
    splitAt? text.toList (offsetOf text number).byteIdx =
      some (text.toList.take number, text.toList.drop number) := by
  have found := splitAt?_byteCount (text.toList.take number) (text.toList.drop number)
  rw [List.take_append_drop] at found
  rw [offsetOf_eq, found]

theorem insertAt?_offsetOf (text : String) (number : Nat) (c : Char) :
    insertAt? text (offsetOf text number) c =
      some (String.ofList (text.toList.take number ++ c :: text.toList.drop number)) := by
  rw [insertAt?, splitAt?_offsetOf]
  rfl

theorem removeAt?_offsetOf (text : String) {number : Nat} (inside : number < text.length) :
    removeAt? text (offsetOf text number) =
      some (String.ofList (text.toList.take number ++ text.toList.drop (number + 1))) := by
  rw [← String.length_toList] at inside
  rw [removeAt?, splitAt?_offsetOf, List.drop_eq_getElem_cons inside]

end Onboarding.Text
