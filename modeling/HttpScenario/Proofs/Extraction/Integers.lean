import HttpScenario.Extraction.Evaluation
import HttpScenario.Proofs.Number.Digits
import HttpScenario.Proofs.Number.Rounding

/-! Integers under the transform to an integer, given as numbers or in digits. Those that fit 64
bits with a sign are kept; larger ones go by way of a double and end at the largest of these. -/

namespace HttpScenario.Extraction

open Double Integer

variable {n : Int} {value : Json}

inductive Spells (n : Int) : Json → Prop
  | number : Spells n (.int n)
  | text : Spells n (.string (toString n))

namespace Transform

theorem clamp_of_le (h : 2 ^ 63 ≤ n) : clamp n = 2 ^ 63 - 1 := by
  simp only [clamp, Nat.pow_eq]
  omega

theorem toInt64?_int (hn : Within64 n) :
    (Number.int n).toInt64? = if n < 2 ^ 63 then some n else none := by
  have hlow : -Nat.pow 2 63 ≤ n := hn.1
  simp only [Number.toInt64?, hlow, true_and]
  rfl

theorem clamp_truncate_ofInt (hn : Within64 n) (hlarge : 2 ^ 63 ≤ n) :
    clamp (ofInt n).truncate = 2 ^ 63 - 1 := by
  have hnearest := nearest_truncate_ofInt hn.natAbs_lt
  exact clamp_of_le (hnearest.le_of_multiple hn.natAbs_lt (by decide) hlarge)

theorem integer_int (hn : Within64 n) :
    integer (.int n) = if n < 2 ^ 63 then n else 2 ^ 63 - 1 := by
  rw [integer, toInt64?_int hn]
  split_ifs with hsmall
  · rfl
  · exact clamp_truncate_ofInt hn (by omega)

theorem isBlank_of_mem_toDigits {c : Char} {m : Nat} (h : c ∈ Nat.toDigits 10 m) :
    Text.isBlank c = false :=
  Text.isBlank_of_isDigit (isDigit_of_mem_toDigits h)

theorem trimList_toDigits (m : Nat) : Text.trimList (Nat.toDigits 10 m) = Nat.toDigits 10 m :=
  Text.trimList_eq_self fun _ => isBlank_of_mem_toDigits

theorem trimList_minus_toDigits (m : Nat) :
    Text.trimList ('-' :: Nat.toDigits 10 m) = '-' :: Nat.toDigits 10 m := by
  apply Text.trimList_eq_self
  intro c hc
  rcases List.mem_cons.1 hc with rfl | hc
  · decide
  · exact isBlank_of_mem_toDigits hc

theorem number_toString_natCast {m : Nat} (hlt : m < 2 ^ 64) :
    number (.string (toString m)) =
      .ok (if m < 2 ^ 63 then .int m else .double (ofInt m)) := by
  simp only [number, toList_toString, trimList_toDigits, intOfList?_toDigits]
  split_ifs with hsmall
  · rfl
  · have hm : m ≠ 0 := by omega
    have htext : String.ofList (Nat.toDigits 10 m) = toString m := by
      rw [← toList_toString, String.ofList_toList]
    have hpos : 0 < (m : Int) := by omega
    have hread : ofText? (toString m) = some (ofInt m) := by
      rw [ofText?_toString hm, ofRatio_one false hm hlt, ofInt_of_ne_zero hpos.ne' hlt]
      simp [hpos.le]
    rw [htext, hread]

theorem number_toString_neg {m : Nat} (hm : m ≠ 0) (hle : m ≤ 2 ^ 63) :
    number (.string (toString (-(m : Int)))) = .ok (.int (-m)) := by
  simp only [number, toList_toString_neg hm, trimList_minus_toDigits, intOfList?_minus_toDigits,
    if_pos hle]

theorem number_toString (hn : Within64 n) :
    number (.string (toString n)) = .ok (if n < 2 ^ 63 then .int n else .double (ofInt n)) := by
  obtain ⟨hlow, hhigh⟩ := hn
  rcases Int.lt_or_le n 0 with hneg | hnonneg
  · obtain ⟨m, rfl⟩ := Int.exists_eq_neg_ofNat hneg.le
    rw [number_toString_neg (by omega) (by omega), if_pos (by omega)]
  · obtain ⟨m, rfl⟩ := Int.eq_ofNat_of_zero_le hnonneg
    have hread := number_toString_natCast (m := m) (by omega)
    by_cases hsmall : m < 2 ^ 63
    · rw [if_pos hsmall] at hread
      rw [if_pos (by omega)]
      exact hread
    · rw [if_neg hsmall] at hread
      rw [if_neg (by omega)]
      exact hread

theorem applyNamed_integer (hn : Within64 n) (h : Spells n value) :
    applyNamed "integer" value = .ok (.int (if n < 2 ^ 63 then n else 2 ^ 63 - 1)) := by
  show (number value).map (fun n => Json.int (integer n)) = _
  cases h with
  | number =>
    show Except.ok (Json.int (integer (.int n))) = _
    rw [integer_int hn]
  | text =>
    rw [number_toString hn]
    split_ifs with hsmall
    · show Except.ok (Json.int (integer (.int n))) = _
      rw [integer_int hn, if_pos hsmall]
    · show Except.ok (Json.int (clamp (ofInt n).truncate)) = _
      rw [clamp_truncate_ofInt hn (by omega)]

end Transform

theorem evaluate_located_of_apply {path : String} {response : Response} {transform : Transform}
    {result : Json} (hfound : Path.resolve? path response = some value)
    (hnull : value.isNull = false) (hresult : transform.apply value response = .ok result)
    (table : Table) (default : Option Json) (key : String) :
    evaluate table (.located ⟨path, some transform, none, default⟩) response key =
      pure (.ok (orDefault default (some result))) := by
  have htransformed : PathRule.transformed ⟨path, some transform, none, default⟩ response =
      .ok (some result) := by
    simp only [PathRule.transformed, hfound, hnull, hresult]
    rfl
  rw [evaluate, PathRule.evaluate, htransformed]
  rfl

/-- The transform to an integer keeps every integer that fits 64 bits with a sign, whether it is
given as a number or in digits. From `2 ^ 63` on the result is the largest of these, and nothing is
reported. -/
theorem integer_of_applyNamed (hn : Within64 n) (hvalue : Spells n value) :
    let result := Json.int (if n < 2 ^ 63 then n else 2 ^ 63 - 1)
    Transform.applyNamed "integer" value = .ok result ∧
    ∀ table path default response key, Path.resolve? path response = some value →
      evaluate table (.located ⟨path, some (.named "integer"), none, default⟩) response key =
        pure (.ok (some result)) := by
  intro result
  have happlied := Transform.applyNamed_integer hn hvalue
  refine ⟨happlied, fun table path default response key hfound => ?_⟩
  have hnull : value.isNull = false := by cases hvalue <;> rfl
  have htransform : (Transform.named "integer").apply value response = .ok result := happlied
  exact evaluate_located_of_apply hfound hnull htransform table default key

namespace Sample

def serial : Int := 2 ^ 63

def serials : Response := (Response.ofStatus 200).withData (.string (toString serial))

def serialRule : Rule := .located ⟨"data", some (.named "integer"), none, none⟩

end Sample

theorem integer_of_sample_applyNamed :
    Within64 Sample.serial ∧ Spells Sample.serial (.string (toString Sample.serial)) ∧
    Path.resolve? "data" Sample.serials = some (.string (toString Sample.serial)) ∧
    evaluate [] Sample.serialRule Sample.serials "serial" = pure (.ok (some (.int (2 ^ 63 - 1)))) ∧
    Transform.applyNamed "integer" (.string (toString (-2 ^ 63 : Int))) = .ok (.int (-2 ^ 63)) := by
  have hserial : Within64 Sample.serial := by decide
  have hfound : Path.resolve? "data" Sample.serials = some (.string (toString Sample.serial)) := by
    rfl
  have hused := (integer_of_applyNamed hserial .text).2
  have hrule := hused [] "data" none Sample.serials "serial" hfound
  have hleast := (integer_of_applyNamed (by decide) (.text (n := -2 ^ 63))).1
  exact ⟨hserial, .text, hfound, hrule, hleast⟩

end HttpScenario.Extraction
