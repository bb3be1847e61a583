import AnalysisDesk.Json.Numeral
import AnalysisDesk.Json.Printer
import Mathlib.Algebra.Ring.Int.Defs
import Mathlib.Data.List.TakeWhile

/-! # Whole numbers, written and read
A whole number that fits in 64 bits is read back from its digits: they have no leading zero, so they
are a number, and none of them overflows while they are collected. -/

namespace AnalysisDesk.Json

open AnalysisDesk.Number (decimalDigits signedDigits)

/-! ## Digits -/

/-- The values of the digits of a natural. -/
def digitValues (n : Nat) : List Nat := (decimalDigits n).map digitValue

theorem isDigit_of_mem_decimalDigits {n : Nat} {c : Char} (h : c ∈ decimalDigits n) :
    c.isDigit = true :=
  Nat.isDigit_of_mem_toDigits (by decide) (by decide) h

theorem digitValues_of_lt {n : Nat} (h : n < 10) : digitValues n = [n] := by
  unfold digitValues decimalDigits
  rw [Nat.toDigits_of_lt_base h, List.map_singleton]
  exact congrArg (fun d => [d]) (Nat.toNat_digitChar_sub_48_of_lt_ten h)

theorem digitValues_of_le {n : Nat} (h : 10 ≤ n) :
    digitValues n = digitValues (n / 10) ++ [n % 10] := by
  have last := digitValues_of_lt (Nat.mod_lt n (by decide : 0 < 10))
  unfold digitValues decimalDigits at last ⊢
  rw [Nat.toDigits_of_lt_base (Nat.mod_lt n (by decide))] at last
  rw [Nat.toDigits_of_base_le (by decide) h, List.map_append, last]

/-- The first digit of a positive number is not zero. -/
theorem digitValues_eq_cons {n : Nat} (h : 0 < n) :
    ∃ digit digits, digitValues n = digit :: digits ∧ digit ≠ 0 := by
  induction n using Nat.strongRecOn with
  | ind n ih =>
    rcases Nat.lt_or_ge n 10 with small | large
    · exact ⟨n, [], digitValues_of_lt small, by omega⟩
    · obtain ⟨digit, digits, first, nonzero⟩ := ih (n / 10) (by omega) (by omega)
      exact ⟨digit, digits ++ [n % 10], by rw [digitValues_of_le large, first]; rfl, nonzero⟩

/-- All of the digits are taken. -/
theorem takeDigits_decimalDigits (n : Nat) :
    takeDigits (decimalDigits n) = (digitValues n, []) := by
  have all : ∀ c ∈ decimalDigits n, c.isDigit = true := fun _ => isDigit_of_mem_decimalDigits
  unfold takeDigits digitValues
  rw [List.takeWhile_eq_self_iff.mpr all, List.dropWhile_eq_nil_iff.mpr all]

/-- **Digits collect to their number** as long as it fits. -/
theorem foldl_addWhole_digitValues {n : Nat} (h : n < word) :
    (digitValues n).foldl Collected.addWhole ⟨0, 0, false⟩ = ⟨n, 0, false⟩ := by
  induction n using Nat.strongRecOn with
  | ind n ih =>
    rcases Nat.lt_or_ge n 10 with small | large
    · have fits : ¬ word ≤ 0 * 10 + n := by omega
      rw [digitValues_of_lt small]
      simp only [List.foldl_cons, List.foldl_nil, Collected.addWhole, Bool.false_or,
        decide_eq_true_eq, if_neg fits]
      congr
      omega
    · -- All digits but the last make up a tenth of the number, and the last one fits too.
      have fits : ¬ word ≤ n / 10 * 10 + n % 10 := by omega
      rw [digitValues_of_le large, List.foldl_append, ih (n / 10) (by omega) (by omega)]
      simp only [List.foldl_cons, List.foldl_nil, Collected.addWhole, Bool.false_or,
        decide_eq_true_eq, if_neg fits]
      congr
      omega

/-! ## Numbers -/

/-- Digits without a sign are a number. -/
theorem readUnsigned?_decimalDigits (negative : Bool) (n : Nat) :
    readUnsigned? negative (decimalDigits n) = some ⟨negative, digitValues n, none, none⟩ := by
  unfold readUnsigned?
  rw [takeDigits_decimalDigits]
  -- Only a first digit of zero could be followed by none.
  rcases Nat.eq_zero_or_pos n with rfl | positive
  · rfl
  · obtain ⟨digit, digits, first, nonzero⟩ := digitValues_eq_cons positive
    rw [first]
    cases digit with
    | zero => exact absurd rfl nonzero
    | succ digit => rfl

/-- A number without a sign does not begin with one. -/
theorem WrittenNumber.read?_decimalDigits (n : Nat) :
    WrittenNumber.read? (decimalDigits n) = readUnsigned? false (decimalDigits n) := by
  unfold WrittenNumber.read?
  split
  · rename_i cs h
    have digit : '-'.isDigit = true :=
      isDigit_of_mem_decimalDigits (n := n) (h ▸ List.mem_cons_self)
    exact absurd digit (by decide)
  · rfl

/-- How a whole number is written. -/
def writtenWhole (n : Int) : WrittenNumber := ⟨decide (n < 0), digitValues n.natAbs, none, none⟩

/-- **A whole number is read** from the way it is written. -/
theorem WrittenNumber.read?_signedDigits (n : Int) :
    WrittenNumber.read? (signedDigits n) = some (writtenWhole n) := by
  cases n with
  | ofNat n =>
    refine (WrittenNumber.read?_decimalDigits n).trans ?_
    rw [readUnsigned?_decimalDigits]
    rfl
  | negSucc n =>
    have sign : decide (Int.negSucc n < 0) = true := decide_eq_true (Int.negSucc_lt_zero n)
    unfold writtenWhole
    rw [sign]
    exact readUnsigned?_decimalDigits true (n + 1)

/-- **The value of a whole number** that fits in 64 bits is that number. -/
theorem value?_writtenWhole {n : Int} (least : -2 ^ 63 ≤ n) (greatest : n < 2 ^ 64) :
    (writtenWhole n).value? = some (.whole n) := by
  have collected : (writtenWhole n).collect = ⟨n.natAbs, 0, false⟩ :=
    foldl_addWhole_digitValues (by simp only [word, Nat.pow_eq]; omega)
  unfold WrittenNumber.value?
  rw [collected, Nat.pow_eq]
  rcases Int.lt_or_le n 0 with negative | nonnegative
  · have sign : decide (n < 0) = true := decide_eq_true negative
    have within : ¬ (n.natAbs = 0 ∨ 2 ^ 63 < n.natAbs) := by omega
    simp only [writtenWhole, sign, Option.isNone_none, Bool.not_false, Bool.and_self, if_true,
      Bool.not_true, Bool.false_eq_true, if_false, Bool.or_eq_true, decide_eq_true_eq, within]
    congr
    omega
  · have sign : decide (n < 0) = false := decide_eq_false (by omega)
    simp only [writtenWhole, sign, Option.isNone_none, Bool.not_false, Bool.and_self, if_true]
    congr
    omega

end AnalysisDesk.Json
