import Footprint.Sql.Value
import Mathlib.Data.List.TakeDrop
import Mathlib.Data.List.TakeWhile

namespace Footprint

namespace Numeral

variable {digits rest : List Char}

theorem span_digits (all : ∀ c ∈ digits, c.isDigit = true) : digits.span Char.isDigit = (digits, []) := by
  rw [List.span_eq_takeWhile_dropWhile]
  rw [List.takeWhile_eq_self_iff.mpr all, List.dropWhile_eq_nil_iff.mpr all]

theorem readPrefix_of_sign {text : List Char} {negative : Bool} (sign : takeSign text = (negative, digits))
    (all : ∀ c ∈ digits, c.isDigit = true) (some' : digits ≠ []) :
    readPrefix text = some
      { negative, digits := digitsValue digits, places := 0, exponent := 0, integral := true, rest := [] } := by
  have nonempty : digits.isEmpty = false := by simpa using some'
  unfold readPrefix
  simp only [sign, span_digits all, nonempty]
  simp [takeExponent]

theorem digitsValue_toDigits (n : Nat) : digitsValue (Nat.toDigits 10 n) = n := by
  rw [digitsValue, ← Nat.ofDigitChars_eq_foldl]
  exact Nat.ofDigitChars_ten_toDigits

theorem takeSign_digits (all : ∀ c ∈ digits, c.isDigit = true) : takeSign digits = (false, digits) := by
  cases digits with
  | nil => rfl
  | cons c digits =>
    have digit := all c (by simp)
    unfold takeSign
    split
    next same => 
      cases same
      cases digit
    next same => 
      cases same
      cases digit
    next => rfl

theorem toList_toString (n : Int) :
    (toString n).toList = if n < 0 then '-' :: Nat.toDigits 10 n.natAbs else Nat.toDigits 10 n.natAbs := by
  cases n with
  | ofNat n =>
    have sign : ¬ Int.ofNat n < 0 := Int.not_lt.mpr (Int.natCast_nonneg n)
    rw [if_neg sign]
    exact Nat.toList_repr
  | negSucc n =>
    rw [if_pos (Int.negSucc_lt_zero n)]
    change ("-" ++ Nat.repr (n + 1)).toList = _
    rw [String.toList_append, Nat.toList_repr]
    rfl

theorem isDigit_toDigits (n : Nat) : ∀ c ∈ Nat.toDigits 10 n, c.isDigit = true :=
  fun _ => Nat.isDigit_of_mem_toDigits (by decide) (by decide)

theorem readPrefix_toString (n : Int) :
    readPrefix (toString n).toList = some
      { negative := decide (n < 0), digits := n.natAbs, places := 0, exponent := 0, integral := true, rest := [] } := by
  have all := isDigit_toDigits n.natAbs
  have sign : takeSign (toString n).toList = (decide (n < 0), Nat.toDigits 10 n.natAbs) := by
    rw [toList_toString]
    split
    next negative => simp [takeSign, negative]
    next other => simp [takeSign_digits all, other]
  rw [readPrefix_of_sign sign all Nat.toDigits_ne_nil, digitsValue_toDigits]

end Numeral

namespace Sql.Value

theorem isBlank_of_isDigit {c : Char} (digit : c.isDigit = true) : isBlank c = false := by
  simp only [Char.isDigit, Bool.and_eq_true, decide_eq_true_eq, UInt32.le_iff_toNat_le] at digit
  change 48 ≤ c.toNat ∧ c.toNat ≤ 57 at digit
  have other : c ≠ ' ' := by
    rintro rfl
    exact absurd digit (by decide)
  have above : ¬ c.toNat ≤ 13 := by omega
  simp [isBlank, other, above]

theorem dropWhile_toString (n : Int) : (toString n).toList.dropWhile isBlank = (toString n).toList := by
  rw [Numeral.toList_toString]
  split
  · rfl
  · cases digits : Nat.toDigits 10 n.natAbs with
    | nil => rfl
    | cons c rest =>
      have digit : c.isDigit = true := Numeral.isDigit_toDigits n.natAbs c (by simp [digits])
      simp [isBlank_of_isDigit digit]

theorem wholeNumber?_toString {n : Int} (fits : Word.holds n = true) : wholeNumber? (toString n) = some (.int n) := by
  have value : (if n < 0 then -(n.natAbs : Int) else n.natAbs) = n := by
    split <;> omega
  rw [wholeNumber?, readPrefix, dropWhile_toString, Numeral.readPrefix_toString]
  simp only [decide_eq_true_eq, ofReading, Numeral.Reading.toInt, value, fits, Bool.and_self, if_true, List.all_nil]

end Sql.Value
end Footprint
