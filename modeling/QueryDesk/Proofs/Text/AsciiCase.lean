/-
Module: QueryDesk.Proofs.Text.AsciiCase
Purpose: Upper and lower case of texts of ASCII. There the case of a text is that of its characters, one
  by one, and the lower case forgets in which case the letters were written.
Imports: QueryDesk.Text.Case
Main exports: IsAscii, upper_of_ascii, lowerAfter_of_ascii, toList_upperString, toList_lowerString,
  lowerString_upperString, lowerString_lowerString
-/
import Mathlib.Data.String.Basic
import QueryDesk.Text.Case

namespace QueryDesk.Text

/-- A text of ASCII characters. -/
def IsAscii (text : String) : Prop :=
  ∀ c ∈ text.toList, c.toNat < 128

-- Over the characters of the text: the instance for all characters would try every one there is.
instance (text : String) : Decidable (IsAscii text) :=
  List.decidableBAll (Char.toNat · < 128) text.toList

/-- Whatever holds of the first 128 characters holds of those of ASCII. -/
theorem forall_ascii {property : Char → Prop} (each : ∀ n < 128, property (Char.ofNat n)) {c : Char}
    (ascii : c.toNat < 128) : property c := by
  have here := each c.toNat ascii
  rwa [Char.ofNat_toNat] at here

/-- The cases of an ASCII character are ASCII characters, and both have its lower case. -/
theorem cases_of_ascii {c : Char} (ascii : c.toNat < 128) :
    (c.toUpper.toNat < 128 ∧ c.toLower.toNat < 128) ∧
      c.toUpper.toLower = c.toLower ∧ c.toLower.toLower = c.toLower :=
  @forall_ascii (fun c => (c.toUpper.toNat < 128 ∧ c.toLower.toNat < 128) ∧
    c.toUpper.toLower = c.toLower ∧ c.toLower.toLower = c.toLower) (by decide) c ascii

theorem toNat_toUpper_lt {c : Char} (ascii : c.toNat < 128) : c.toUpper.toNat < 128 :=
  (cases_of_ascii ascii).1.1

theorem toNat_toLower_lt {c : Char} (ascii : c.toNat < 128) : c.toLower.toNat < 128 :=
  (cases_of_ascii ascii).1.2

theorem toLower_toUpper {c : Char} (ascii : c.toNat < 128) : c.toUpper.toLower = c.toLower :=
  (cases_of_ascii ascii).2.1

theorem toLower_toLower {c : Char} (ascii : c.toNat < 128) : c.toLower.toLower = c.toLower :=
  (cases_of_ascii ascii).2.2

theorem upper_of_ascii {text : List Char} (ascii : ∀ c ∈ text, c.toNat < 128) :
    upper text = text.map Char.toUpper := by
  induction text with
  | nil => rfl
  | cons c rest ih =>
    have here : upperChar c = [c.toUpper] := if_pos (ascii c List.mem_cons_self)
    have others := ih fun other member => ascii other (List.mem_cons_of_mem c member)
    rw [upper] at others ⊢
    rw [List.flatMap_cons, here, others]
    rfl

/-- No ASCII character looks at its neighbours for its lower case. -/
theorem lowerAfter_of_ascii {text : List Char} (ascii : ∀ c ∈ text, c.toNat < 128)
    (before : List Char) : lowerAfter before text = text.map Char.toLower := by
  induction text generalizing before with
  | nil => rfl
  | cons c rest ih =>
    have low := ascii c List.mem_cons_self
    have here : lowerCharBetween before c rest = [c.toLower] := by
      have no_sigma : (c.toNat == 0x3a3) = false := beq_false_of_ne (by omega)
      rw [lowerCharBetween, no_sigma, if_neg Bool.false_ne_true]
      exact if_pos low
    rw [lowerAfter, here, ih fun other member => ascii other (List.mem_cons_of_mem c member)]
    rfl

section

variable {text : String}

theorem toList_upperString (ascii : IsAscii text) :
    (upperString text).toList = text.toList.map Char.toUpper := by
  rw [upperString, String.toList_ofList, upper_of_ascii ascii]

theorem toList_lowerString (ascii : IsAscii text) :
    (lowerString text).toList = text.toList.map Char.toLower := by
  rw [lowerString, String.toList_ofList, lower, lowerAfter_of_ascii ascii]

theorem isAscii_upperString (ascii : IsAscii text) : IsAscii (upperString text) := by
  intro c member
  rw [toList_upperString ascii] at member
  obtain ⟨letter, inside, rfl⟩ := List.mem_map.1 member
  exact toNat_toUpper_lt (ascii letter inside)

theorem isAscii_lowerString (ascii : IsAscii text) : IsAscii (lowerString text) := by
  intro c member
  rw [toList_lowerString ascii] at member
  obtain ⟨letter, inside, rfl⟩ := List.mem_map.1 member
  exact toNat_toLower_lt (ascii letter inside)

/-- A text and its upper case have the same lower case. -/
theorem lowerString_upperString (ascii : IsAscii text) :
    lowerString (upperString text) = lowerString text := by
  rw [← String.toList_inj, toList_lowerString (isAscii_upperString ascii), toList_upperString ascii,
    toList_lowerString ascii, List.map_map]
  exact List.map_congr_left fun c member => toLower_toUpper (ascii c member)

theorem lowerString_lowerString (ascii : IsAscii text) :
    lowerString (lowerString text) = lowerString text := by
  rw [← String.toList_inj, toList_lowerString (isAscii_lowerString ascii), toList_lowerString ascii,
    List.map_map]
  exact List.map_congr_left fun c member => toLower_toLower (ascii c member)

end

end QueryDesk.Text
