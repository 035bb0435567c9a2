/-
This file proves that an input edits its text as an editor of two lists would: the
characters before the cursor and those after it. The input does not hold these lists. It
holds a number of characters, which may be too large when the text has become shorter
from outside, and it changes the text at byte offsets; the two lists know neither.

One key is compared first, and everything that other files say of keys is read off the
two lists. A run then follows key by key; what happens to the text from outside between
the keys leaves the cursor as it is.
-/

import Onboarding.Proofs.Text.Offsets
import Onboarding.Screen.LineInput

namespace Onboarding.Screen

open Text

/-! ### Two lists -/

/-- A text parted at the cursor. -/
structure Halves where
  before : List Char
  after : List Char
  deriving DecidableEq, Repr

namespace Halves

/-- A text parted at a cursor, or at its end when the cursor is behind it. -/
def ofText (text : String) (cursor : Nat) : Halves :=
  let number := min cursor text.length
  ⟨text.toList.take number, text.toList.drop number⟩

/-- The whole text. -/
def text (halves : Halves) : String :=
  String.ofList (halves.before ++ halves.after)

/-- Parts the text one character further to the left, if there is one. -/
def stepLeft (halves : Halves) : Halves :=
  match halves.before.getLast? with
  | some c => ⟨halves.before.dropLast, c :: halves.after⟩
  | none => halves

/-- Parts the text one character further to the right, if there is one. -/
def stepRight (halves : Halves) : Halves :=
  match halves.after with
  | c :: rest => ⟨halves.before ++ [c], rest⟩
  | [] => halves

/-- What a key does to the two lists, and whether it is a key for a text at all. -/
def press (halves : Halves) : Key → Bool × Halves
  | .char c => (true, ⟨halves.before ++ [c], halves.after⟩)
  | .backspace => (true, ⟨halves.before.dropLast, halves.after⟩)
  | .delete => (true, ⟨halves.before, halves.after.tail⟩)
  | .left => (true, halves.stepLeft)
  | .right => (true, halves.stepRight)
  | .home => (true, ⟨[], halves.before ++ halves.after⟩)
  | .endOfLine => (true, ⟨halves.before ++ halves.after, []⟩)
  | _ => (false, halves)

/-- What several keys do one after the other, with the answer to each. -/
def pressAll (halves : Halves) : List Key → List Bool × Halves
  | [] => ([], halves)
  | key :: rest =>
    let (consumed, next) := halves.press key
    let (answers, last) := next.pressAll rest
    (consumed :: answers, last)

/-! ### A text and its parts -/

section OfText

variable (text : String) (cursor : Nat)

theorem length_before_ofText : (ofText text cursor).before.length = min cursor text.length := by
  rw [ofText, List.length_take, String.length_toList, Nat.min_assoc, Nat.min_self]

theorem length_after_ofText : (ofText text cursor).after.length = text.length - cursor := by
  rw [ofText, List.length_drop, String.length_toList]
  omega

@[simp] theorem text_ofText : (ofText text cursor).text = text := by
  rw [Halves.text, ofText, List.take_append_drop, String.ofList_toList]

/-- The text of two lists, parted where the first ends, gives the lists back. -/
@[simp] theorem ofText_text (halves : Halves) :
    ofText halves.text halves.before.length = halves := by
  have within : min halves.before.length halves.text.length = halves.before.length := by
    rw [Halves.text, String.length_ofList, List.length_append]
    exact Nat.min_eq_left (Nat.le_add_right _ _)
  simp only [ofText, within]
  rw [Halves.text, String.toList_ofList, List.take_left, List.drop_left]

theorem ofText_of_le (behind : text.length ≤ cursor) : ofText text cursor = ⟨text.toList, []⟩ := by
  rw [ofText, Nat.min_eq_right behind, ← String.length_toList, List.take_length, List.drop_length]

end OfText

section Parts

variable (before after : List Char) (c : Char)

theorem length_text : (text ⟨before, after⟩).length = before.length + after.length := by
  rw [Halves.text, String.length_ofList, List.length_append]

/-- A character may stand at the end of the first list or at the start of the second. -/
theorem text_concat : text ⟨before ++ [c], after⟩ = text ⟨before, c :: after⟩ :=
  congrArg String.ofList (List.append_cons before c after).symm

theorem insertAt?_text :
    insertAt? (text ⟨before, after⟩) (offsetOf (text ⟨before, after⟩) before.length) c =
      some (text ⟨before ++ [c], after⟩) := by
  rw [insertAt?_offsetOf, text_concat]
  simp only [Halves.text, String.toList_ofList, List.take_left, List.drop_left]

theorem removeAt?_text :
    removeAt? (text ⟨before, c :: after⟩) (offsetOf (text ⟨before, c :: after⟩) before.length) =
      some (text ⟨before, after⟩) := by
  have inside : before.length < (text ⟨before, c :: after⟩).length := by
    rw [length_text, List.length_cons]
    omega
  rw [removeAt?_offsetOf _ inside]
  have behind : (before ++ c :: after).drop (before.length + 1) = after := by
    rw [List.append_cons]
    exact List.drop_left' List.length_append
  simp only [Halves.text, String.toList_ofList, List.take_left, behind]

theorem stepLeft_concat : stepLeft ⟨before ++ [c], after⟩ = ⟨before, c :: after⟩ := by
  rw [stepLeft, List.getLast?_concat, List.dropLast_concat]

/-- A key that is not one for a text leaves both lists alone. -/
theorem press_of_not_consumed {halves : Halves} {key : Key}
    (passedOn : (halves.press key).1 = false) : (halves.press key).2 = halves := by
  cases key with
  | char | backspace | delete | left | right | home | endOfLine => cases passedOn
  | _ => rfl

end Parts

end Halves

/-! ### One key -/

namespace LineInput

variable (input : LineInput) (key : Key) (text : String)

/-- A key does to an input what it does to its text parted at the cursor. -/
theorem press?_eq :
    input.press? key text =
      let pressed := (Halves.ofText text input.cursor).press key
      some ⟨pressed.1, { input with cursor := pressed.2.before.length }, pressed.2.text⟩ := by
  have number := Halves.length_before_ofText text input.cursor
  have whole := Halves.text_ofText text input.cursor
  unfold press?
  rw [← number]
  -- From here on the text is put together from its two parts.
  generalize Halves.ofText text input.cursor = halves at whole
  subst whole
  obtain ⟨before, after⟩ := halves
  cases key with
  | char c =>
    dsimp only [Halves.press]
    rw [Halves.insertAt?_text, Option.map_some, List.length_append, List.length_singleton]
  | backspace =>
    dsimp only [Halves.press]
    rcases List.eq_nil_or_concat before with rfl | ⟨start, c, rfl⟩
    · rfl
    · rw [List.concat_eq_append, List.length_append, List.length_singleton,
        if_pos (Nat.succ_pos _), Nat.add_sub_cancel, Halves.text_concat, Halves.removeAt?_text,
        Option.map_some, List.dropLast_concat]
  | delete =>
    dsimp only [Halves.press]
    rw [Halves.length_text]
    cases after with
    | nil => exact if_neg (Nat.lt_irrefl _)
    | cons c after =>
      rw [List.length_cons, if_pos (Nat.lt_add_of_pos_right (Nat.succ_pos _)),
        Halves.removeAt?_text, Option.map_some, List.tail_cons]
  | left =>
    dsimp only [Halves.press]
    rcases List.eq_nil_or_concat before with rfl | ⟨start, c, rfl⟩
    · rfl
    · rw [List.concat_eq_append, Halves.stepLeft_concat, List.length_append,
        List.length_singleton, Nat.add_sub_cancel, Halves.text_concat]
  | right =>
    dsimp only [Halves.press]
    rw [Halves.length_text]
    cases after with
    | nil =>
      rw [List.length_nil, Nat.add_zero, if_neg (Nat.lt_irrefl _)]
      rfl
    | cons c after =>
      rw [List.length_cons, if_pos (Nat.lt_add_of_pos_right (Nat.succ_pos _)), Halves.stepRight,
        List.length_append, List.length_singleton, Halves.text_concat]
  | home => rfl
  | endOfLine =>
    dsimp only [Halves.press]
    rw [Halves.length_text, List.length_append, Halves.text, Halves.text, List.append_nil]
  | _ => rfl

theorem press_eq :
    input.press key text =
      let pressed := (Halves.ofText text input.cursor).press key
      ⟨pressed.1, { input with cursor := pressed.2.before.length }, pressed.2.text⟩ :=
  Option.get_of_eq_some _ (input.press?_eq key text)

/-! ### Drawing -/

/-- The characters as they are shown, each as a star when the input is masked. -/
def shown (characters : List Char) : List Char :=
  if input.masked then characters.map fun _ => '*' else characters

/-- With the focus, the bar is drawn where the text is parted. -/
theorem displayed?_eq :
    input.displayed? text true =
      let halves := Halves.ofText text input.cursor
      some (String.ofList (input.shown halves.before ++ '|' :: input.shown halves.after)) := by
  unfold displayed? shown
  rw [if_pos rfl, insertAt?_offsetOf]
  split
  · rw [String.length_ofList, List.length_map, String.toList_ofList, String.length_toList,
      ← List.map_take, ← List.map_drop]
    rfl
  · rfl

/-! ### Several keys -/

/-- What happens to an input: a key is pressed, or its text becomes another from outside. -/
inductive Touch where
  | key (key : Key)
  | changed (text : String)
  deriving DecidableEq, Repr

/-- The answers to the keys, and the input and its text after all that has happened. -/
def follow? (input : LineInput) (text : String) :
    List Touch → Option (List Bool × LineInput × String)
  | [] => some ([], input, text)
  | .changed other :: rest => input.follow? other rest
  | .key key :: rest => do
    let edited ← input.press? key text
    let (answers, last) ← edited.input.follow? edited.text rest
    return (edited.consumed :: answers, last)

/-- The same for two lists, which are parted anew at each key: an outside change leaves the number
of characters at which that is done. -/
def followHalves (cursor : Nat) (text : String) : List Touch → List Bool × Nat × String
  | [] => ([], cursor, text)
  | .changed other :: rest => followHalves cursor other rest
  | .key key :: rest =>
    let (consumed, next) := (Halves.ofText text cursor).press key
    let (answers, last) := followHalves next.before.length next.text rest
    (consumed :: answers, last)

theorem follow?_key (rest : List Touch) :
    input.follow? text (.key key :: rest) =
      let pressed := (Halves.ofText text input.cursor).press key
      ({ input with cursor := pressed.2.before.length }.follow? pressed.2.text rest).map
        fun (answers, last) => (pressed.1 :: answers, last) := by
  rw [follow?, press?_eq]
  show (_ >>= _ : Option _) = _
  rw [Option.map_eq_bind]
  rfl

theorem follow?_eq (touches : List Touch) :
    input.follow? text touches =
      let (answers, cursor, last) := followHalves input.cursor text touches
      some (answers, { input with cursor }, last) := by
  induction touches generalizing input text with
  | nil => rfl
  | cons touch rest inductionHypothesis =>
    cases touch with
    | changed other => exact inductionHypothesis input other
    | key key =>
      rw [follow?_key]
      dsimp only
      rw [inductionHypothesis]
      rfl

/-- Between the keys nothing has to be parted anew: the lists that one key leaves are those that
the next one finds. -/
theorem follow?_keys_of_halves (halves : Halves) (keys : List Key)
    (stands : input.cursor = halves.before.length) :
    input.follow? halves.text (keys.map .key) =
      let (answers, last) := halves.pressAll keys
      some (answers, { input with cursor := last.before.length }, last.text) := by
  induction keys generalizing input halves with
  | nil =>
    show some _ = some _
    rw [← stands]
  | cons key rest inductionHypothesis =>
    rw [List.map_cons, follow?_key, stands, Halves.ofText_text]
    dsimp only
    rw [inductionHypothesis _ _ rfl]
    rfl

/-- With at least one key it does not matter where the cursor stood: the first key brings it into
the text. -/
theorem follow?_keys (keys : List Key) :
    input.follow? text ((key :: keys).map .key) =
      let (answers, last) := (Halves.ofText text input.cursor).pressAll (key :: keys)
      some (answers, { input with cursor := last.before.length }, last.text) := by
  rw [List.map_cons, follow?_key]
  dsimp only
  rw [follow?_keys_of_halves _ _ _ rfl]
  rfl

/-! ### The offsets of the changes -/

theorem isValid_offsetOf (number : Nat) : (offsetOf text number).IsValid text := by
  rw [← isSome_splitAt?_iff, splitAt?_offsetOf, Option.isSome_some]

theorem offsetOf_lt {number : Nat} (inside : number < text.length) :
    offsetOf text number < text.rawEndPos := by
  have removed : (removeAt? text (offsetOf text number)).isSome = true := by
    rw [removeAt?_offsetOf text inside, Option.isSome_some]
  exact ((isSome_removeAt?_iff text _).mp removed).2

/-- An input is an editor of two lists: of the characters before its cursor and of those after it.
Any keys do to its text what they do to the lists, and answer alike; when the text becomes another
between two keys, the new one is parted where the old one was, or at its end. All that is changed
in a text is changed between two characters. With the focus, the input is drawn as the first list,
a bar and the second. -/
theorem edits_two_lists (input : LineInput) (text : String) :
    (∀ key keys,
      input.follow? text ((key :: keys).map .key) =
        let (answers, last) := (Halves.ofText text input.cursor).pressAll (key :: keys)
        some (answers, { input with cursor := last.before.length }, last.text)) ∧
    (∀ touches,
      input.follow? text touches =
        let (answers, cursor, last) := followHalves input.cursor text touches
        some (answers, { input with cursor }, last)) ∧
    (∀ number, (offsetOf text number).IsValid text ∧
      (number < text.length → offsetOf text number < text.rawEndPos)) ∧
    input.displayed? text true =
      let halves := Halves.ofText text input.cursor
      some (String.ofList (input.shown halves.before ++ '|' :: input.shown halves.after)) :=
  ⟨fun key keys => input.follow?_keys key text keys, input.follow?_eq text,
    fun _ => ⟨isValid_offsetOf text _, offsetOf_lt text⟩, input.displayed?_eq text⟩

/-- The characters on both sides of the cursor take two bytes each, and the text changes from
outside after the first key. -/
example :
    let input : LineInput := ⟨"name", "Name", false, 3⟩
    input.follow? "Ådø" [.key .left, .changed "éxø", .key .backspace, .key (.char 'n'),
        .key .enter] =
      some ([true, true, true, false], { input with cursor := 2 }, "énø") := by
  decide +kernel

end LineInput

end Onboarding.Screen
