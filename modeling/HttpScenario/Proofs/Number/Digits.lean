import HttpScenario.Number.Decimal
import HttpScenario.Number.Integer
import HttpScenario.Text.Blank
import Mathlib.Algebra.Order.Ring.Nat
import Mathlib.Data.List.TakeWhile

/-! Integers in decimal digits. The text of an integer is read as that integer, and where a double is
read from digits alone it is the one nearest to their value. -/

namespace HttpScenario

namespace Integer

theorem isDigit_of_mem_toDigits {n : Nat} {c : Char} (h : c ∈ Nat.toDigits 10 n) :
    c.isDigit = true :=
  Nat.isDigit_of_mem_toDigits (by decide) (by decide) h

theorem toDigits_ne_cons {c : Char} (hc : c.isDigit = false) (n : Nat) (rest : List Char) :
    Nat.toDigits 10 n ≠ c :: rest := by
  intro heq
  have hdigit := isDigit_of_mem_toDigits (heq ▸ List.mem_cons_self)
  rw [hc] at hdigit
  cases hdigit

theorem isEmpty_toDigits (n : Nat) : (Nat.toDigits 10 n).isEmpty = false := by
  rw [List.isEmpty_eq_false_iff]
  exact Nat.toDigits_ne_nil

theorem foldl_toDigits (n : Nat) :
    (Nat.toDigits 10 n).foldl (fun n c => 10 * n + (c.toNat - 48)) 0 = n := by
  have h := Nat.ofDigitChars_ten_toDigits (n := n)
  rw [Nat.ofDigitChars_eq_foldl] at h
  exact h

theorem digitsValue?_toDigits (n : Nat) : digitsValue? (Nat.toDigits 10 n) = some n := by
  have hdigits : (Nat.toDigits 10 n).any (fun c => !c.isDigit) = false := by
    rw [List.any_eq_false]
    intro c hc
    simp [isDigit_of_mem_toDigits hc]
  rw [digitsValue?, hdigits, isEmpty_toDigits, foldl_toDigits]
  simp

theorem unboundedOfList?_toDigits (n : Nat) : unboundedOfList? (Nat.toDigits 10 n) = some n := by
  unfold unboundedOfList?
  split
  · exact absurd ‹_› (toDigits_ne_cons (by decide) n _)
  · exact digitsValue?_toDigits n

theorem intOfList?_toDigits (n : Nat) :
    intOfList? (Nat.toDigits 10 n) = if n < 2 ^ 63 then some (n : Int) else none := by
  unfold intOfList?
  split
  · exact absurd ‹_› (toDigits_ne_cons (by decide) n _)
  · dsimp only
    split
    · exact absurd ‹_› (toDigits_ne_cons (by decide) n _)
    · rw [digitsValue?_toDigits]
      rfl

theorem intOfList?_minus_toDigits (n : Nat) :
    intOfList? ('-' :: Nat.toDigits 10 n) = if n ≤ 2 ^ 63 then some (-(n : Int)) else none := by
  rw [intOfList?, digitsValue?_toDigits]
  rfl

theorem toList_toString (n : Nat) : (toString n).toList = Nat.toDigits 10 n := by
  rw [Nat.toString_eq_repr, Nat.toList_repr]

theorem toList_toString_neg {n : Nat} (hn : n ≠ 0) :
    (toString (-(n : Int))).toList = '-' :: Nat.toDigits 10 n := by
  obtain ⟨k, rfl⟩ := Nat.exists_eq_add_one_of_ne_zero hn
  show ("-" ++ toString (k + 1)).toList = _
  rw [String.toList_append, toList_toString]
  rfl

end Integer

namespace Double

open Integer

theorem digitsValue_toDigits (n : Nat) : digitsValue (Nat.toDigits 10 n) = n := foldl_toDigits n

theorem takeWhile_toDigits (n : Nat) :
    (Nat.toDigits 10 n).takeWhile Char.isDigit = Nat.toDigits 10 n :=
  List.takeWhile_eq_self_iff.2 fun _ => isDigit_of_mem_toDigits

theorem dropWhile_toDigits (n : Nat) : (Nat.toDigits 10 n).dropWhile Char.isDigit = [] :=
  List.dropWhile_eq_nil_iff.2 fun _ => isDigit_of_mem_toDigits

theorem ofScientific_zero {n : Nat} (hn : n ≠ 0) (negative : Bool) :
    ofScientific negative n 0 = ofRatio negative n 1 := by
  have hsize : ¬(0 : Int) + ((n.log2 / 3 : Nat) + 1) < -330 := by omega
  rw [ofScientific, if_neg hn, if_neg (by decide), if_neg hsize]
  simp

theorem ofText?_toString {n : Nat} (hn : n ≠ 0) : ofText? (toString n) = ofRatio false n 1 := by
  unfold ofText?
  rw [toList_toString]
  dsimp only
  split
  · exact absurd ‹_› (toDigits_ne_cons (by decide) n _)
  · exact absurd ‹_› (toDigits_ne_cons (by decide) n _)
  · rw [takeWhile_toDigits, dropWhile_toDigits, isEmpty_toDigits, List.append_nil,
      digitsValue_toDigits]
    simp [ofScientific_zero hn]

end Double

namespace Text

theorem trimList_eq_self {cs : List Char} (h : ∀ c ∈ cs, isBlank c = false) : trimList cs = cs := by
  have hdrop : ∀ ds : List Char, (∀ c ∈ ds, isBlank c = false) → ds.dropWhile isBlank = ds := by
    intro ds hds
    cases ds with
    | nil => rfl
    | cons d rest => rw [List.dropWhile_cons_of_neg (by simp [hds d])]
  rw [trimList, hdrop cs h, hdrop cs.reverse fun c hc => h c (List.mem_reverse.mp hc),
    List.reverse_reverse]

theorem isBlank_of_isDigit {c : Char} (h : c.isDigit = true) : isBlank c = false := by
  have hc : 48 ≤ c.toNat ∧ c.toNat ≤ 57 := by
    simpa [Char.isDigit, UInt32.le_iff_toNat_le] using h
  simp only [isBlank]
  simp
  omega

end Text

end HttpScenario
