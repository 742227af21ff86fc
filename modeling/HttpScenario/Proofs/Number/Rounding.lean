import HttpScenario.Number.Double
import Mathlib.Algebra.Order.Ring.Nat

/-! Integers as binary64 numbers. An integer becomes the nearest multiple of the distance that the
numbers around it have, which is the integer itself up to `2 ^ 53`. Two integers become one number
exactly if one integer is nearest to both of them. -/

namespace HttpScenario

def Integer.Within64 (n : Int) : Prop := -2 ^ 63 ≤ n ∧ n < 2 ^ 64

instance (n : Int) : Decidable (Integer.Within64 n) := inferInstanceAs (Decidable (_ ∧ _))

theorem Integer.Within64.natAbs_lt {n : Int} (h : Within64 n) : n.natAbs < 2 ^ 64 := by
  obtain ⟨hlow, hhigh⟩ := h
  omega

namespace Double

/-- The distance between neighbouring numbers at a magnitude, where it is not below one. -/
def spacing (m : Nat) : Nat := 2 ^ (m.log2 - 52)

/-- The multiple of the spacing at an integer that lies nearest to it, the even one of two that are
equally near. -/
def Nearest (n r : Int) : Prop :=
  ∃ q : Int, r = q * spacing n.natAbs ∧ 2 * (n - r).natAbs ≤ spacing n.natAbs ∧
    (2 * (n - r).natAbs = spacing n.natAbs → q % 2 = 0)

variable {m k q : Nat} {n r : Int}

theorem spacing_pos (m : Nat) : 0 < spacing m := Nat.two_pow_pos _

theorem Nearest.unique {other : Int} (h : Nearest n r) (hother : Nearest n other) : r = other := by
  obtain ⟨q, hr, hnear, heven⟩ := h
  obtain ⟨p, ho, hnearOther, hevenOther⟩ := hother
  have hpos := spacing_pos n.natAbs
  generalize spacing n.natAbs = s at *
  have hproduct : (q - p).natAbs * s = (r - other).natAbs := by
    rw [hr, ho, ← Int.sub_mul, Int.natAbs_mul, Int.natAbs_natCast]
  have hle : (q - p).natAbs * s ≤ 1 * s := by omega
  have hsteps : (q - p).natAbs ≤ 1 := Nat.le_of_mul_le_mul_right hle hpos
  by_cases hone : (q - p).natAbs = 1
  · -- One step apart, both would be ties.
    rw [hone, Nat.one_mul] at hproduct
    have hq : q % 2 = 0 := heven (by omega)
    have hp : p % 2 = 0 := hevenOther (by omega)
    omega
  · have heq : q = p := by omega
    rw [hr, ho, heq]

theorem Nearest.neg (h : Nearest n r) : Nearest (-n) (-r) := by
  obtain ⟨q, hr, hnear, heven⟩ := h
  refine ⟨-q, ?_, ?_, ?_⟩
  · rw [Int.natAbs_neg, Int.neg_mul, hr]
  · rw [Int.natAbs_neg]
    omega
  · rw [Int.natAbs_neg]
    intro htie
    have hq : q % 2 = 0 := heven (by omega)
    omega

theorem spacing_dvd (hlt : m < 2 ^ 64) : spacing m ∣ 2 ^ 11 := by
  rcases eq_or_ne m 0 with rfl | hm
  · exact Nat.one_dvd _
  · have hlog : m.log2 < 64 := (Nat.log2_lt hm).2 hlt
    exact Nat.pow_dvd_pow 2 (by omega)

theorem spacing_le (hlt : m < 2 ^ 64) : spacing m ≤ 2 ^ 11 :=
  Nat.le_of_dvd (by decide) (spacing_dvd hlt)

theorem spacing_dvd_of_le (hle : m ≤ 2 ^ 53) : spacing m ∣ m := by
  rcases hle.eq_or_lt with rfl | hlt
  · decide +kernel
  · rcases eq_or_ne m 0 with rfl | hm
    · exact Nat.dvd_zero _
    · have hlog : m.log2 < 53 := (Nat.log2_lt hm).2 hlt
      rw [spacing, Nat.sub_eq_zero_of_le (by omega), Nat.pow_zero]
      exact Nat.one_dvd m

theorem Nearest.le_of_dvd {b : Int} (h : Nearest n r) (hdvd : (spacing n.natAbs : Int) ∣ b)
    (hle : b ≤ n) : b ≤ r := by
  obtain ⟨q, hr, hnear, -⟩ := h
  obtain ⟨p, rfl⟩ := hdvd
  have hpos := spacing_pos n.natAbs
  generalize spacing n.natAbs = s at *
  by_contra hlt
  have hstep : q + 1 ≤ p := by
    have hlt : q * s < p * s := by
      rw [← hr, Int.mul_comm p]
      omega
    exact Int.lt_of_mul_lt_mul_right hlt (Int.natCast_nonneg s)
  have hgap : (q + 1) * s ≤ p * s := Int.mul_le_mul_of_nonneg_right hstep (Int.natCast_nonneg s)
  rw [Int.add_mul, Int.one_mul, ← hr, Int.mul_comm p] at hgap
  omega

theorem Nearest.le_of_multiple (h : Nearest n r) (hlt : n.natAbs < 2 ^ 64) {b : Int}
    (hdvd : 2 ^ 11 ∣ b) (hle : b ≤ n) : b ≤ r :=
  h.le_of_dvd ((Int.natCast_dvd_natCast.2 (spacing_dvd hlt)).trans hdvd) hle

theorem nearest_self (hdvd : (spacing n.natAbs : Int) ∣ n) : Nearest n n := by
  obtain ⟨q, hq⟩ := hdvd
  refine ⟨q, by rw [Int.mul_comm]; exact hq, ?_, ?_⟩
  · omega
  · have hpos := spacing_pos n.natAbs
    omega

theorem nearest_self_of_le (hle : n.natAbs ≤ 2 ^ 53) : Nearest n n :=
  nearest_self (Int.natCast_dvd.2 (spacing_dvd_of_le hle))

theorem Nearest.eq_of_lt (h : Nearest n r) (hlt : n.natAbs < 2 ^ 64) (hsmall : r.natAbs < 2 ^ 53) :
    r = n := by
  have hdvd : (2 ^ 11 : Int) ∣ 2 ^ 53 := by decide
  by_cases hn : n.natAbs < 2 ^ 53
  · exact h.unique (nearest_self_of_le hn.le)
  · rcases Int.le_total 0 n with hsign | hsign
    · have hle : 2 ^ 53 ≤ r := h.le_of_multiple hlt hdvd (by omega)
      omega
    · have hle : 2 ^ 53 ≤ -r := by
        apply h.neg.le_of_multiple _ hdvd
        · omega
        · rwa [Int.natAbs_neg]
      omega

theorem Nearest.natAbs_sub_le (h : Nearest n r) (hlt : n.natAbs < 2 ^ 64) :
    2 * (n - r).natAbs ≤ 2 ^ 11 := by
  obtain ⟨-, -, hnear, -⟩ := h
  exact hnear.trans (spacing_le hlt)

theorem nearestQuotient_near (num : Nat) {den : Nat} (hden : 0 < den) :
    2 * ((num : Int) - nearestQuotient num den * den).natAbs ≤ den ∧
    (2 * ((num : Int) - nearestQuotient num den * den).natAbs = den →
      nearestQuotient num den % 2 = 0) := by
  have hnum : (num : Int) = (num / den : Nat) * den + (num % den : Nat) := by
    rw [← Int.natCast_mul, ← Int.natCast_add, Nat.div_add_mod' num den]
  have hlt : num % den < den := Nat.mod_lt num hden
  have hup : ((num / den + 1 : Nat) : Int) * den = (num / den : Nat) * den + den := by
    rw [Int.natCast_add, Int.add_mul, Int.natCast_one, Int.one_mul]
  unfold nearestQuotient
  dsimp only
  generalize hd : ((num / den : Nat) : Int) * den = multiple at *
  split_ifs with hbelow habove
  · omega
  · omega
  · have hparity : num / den % 2 = 0 ∨ num / den % 2 = 1 := by omega
    rcases hparity with heven | hodd
    · rw [heven, Nat.add_zero]
      omega
    · rw [hodd]
      omega

def nearestNat (m : Nat) : Nat := nearestQuotient m (spacing m) * spacing m

theorem nearest_nearestNat (m : Nat) : Nearest m (nearestNat m) := by
  obtain ⟨hnear, heven⟩ := nearestQuotient_near m (spacing_pos m)
  refine ⟨nearestQuotient m (spacing m), ?_, ?_, ?_⟩
  · rw [Int.natAbs_natCast, nearestNat, Int.natCast_mul]
  · rw [Int.natAbs_natCast, nearestNat, Int.natCast_mul]
    exact hnear
  · rw [Int.natAbs_natCast, nearestNat, Int.natCast_mul]
    intro htie
    have hq := heven htie
    omega

theorem nearestQuotient_one (m : Nat) : nearestQuotient m 1 = m := by
  rw [nearestQuotient, Nat.mod_one, if_pos (by decide), Nat.div_one]

theorem nearestQuotient_bounds (num den : Nat) :
    num / den ≤ nearestQuotient num den ∧ nearestQuotient num den ≤ num / den + 1 := by
  unfold nearestQuotient
  dsimp only
  split_ifs <;> omega

def significandOf (m : Nat) : Nat :=
  nearestQuotient (m * 2 ^ (52 - m.log2)) (2 ^ (m.log2 - 52))

theorem significandOf_mul (m : Nat) :
    significandOf m * 2 ^ m.log2 = nearestNat m * 2 ^ 52 := by
  rw [significandOf, nearestNat, spacing]
  rcases Nat.le_total m.log2 52 with hle | hle
  · rw [Nat.sub_eq_zero_of_le hle, Nat.pow_zero, nearestQuotient_one, nearestQuotient_one,
      Nat.mul_one, Nat.mul_assoc, ← Nat.pow_add, Nat.sub_add_cancel hle]
  · rw [Nat.sub_eq_zero_of_le hle, Nat.pow_zero, Nat.mul_one, Nat.mul_assoc, ← Nat.pow_add,
      Nat.sub_add_cancel hle]

theorem significandOf_bounds (hm : m ≠ 0) :
    2 ^ 52 ≤ significandOf m ∧ significandOf m ≤ 2 ^ 53 := by
  have hlow : 2 ^ m.log2 ≤ m := Nat.log2_self_le hm
  have hhigh : m < 2 ^ (m.log2 + 1) := Nat.lt_log2_self
  obtain ⟨hfloor, hceiling⟩ :=
    nearestQuotient_bounds (m * 2 ^ (52 - m.log2)) (2 ^ (m.log2 - 52))
  have hsum : 52 - m.log2 + m.log2 = 52 + (m.log2 - 52) := by omega
  have hleast : 2 ^ 52 ≤ m * 2 ^ (52 - m.log2) / 2 ^ (m.log2 - 52) := by
    rw [Nat.le_div_iff_mul_le (Nat.two_pow_pos _), ← Nat.pow_add, ← hsum, Nat.pow_add, Nat.mul_comm]
    exact Nat.mul_le_mul_right _ hlow
  have hmost : m * 2 ^ (52 - m.log2) / 2 ^ (m.log2 - 52) < 2 ^ 53 := by
    rw [Nat.div_lt_iff_lt_mul (Nat.two_pow_pos _), ← Nat.pow_add,
      show 53 + (m.log2 - 52) = m.log2 + 1 + (52 - m.log2) by omega, Nat.pow_add]
    exact Nat.mul_lt_mul_of_pos_right hhigh (Nat.two_pow_pos _)
  exact ⟨hleast.trans hfloor, hceiling.trans hmost⟩

/-- The place of the number nearest to a positive integer among all magnitudes. -/
def place (m : Nat) : Nat := (m.log2 + 1022) * 2 ^ 52 + significandOf m

/-- Magnitudes at one place have one value, and only these. -/
theorem places_eq_iff {e f p q : Nat} (hp : 2 ^ 52 ≤ p ∧ p ≤ 2 ^ 53)
    (hq : 2 ^ 52 ≤ q ∧ q ≤ 2 ^ 53) :
    e * 2 ^ 52 + p = f * 2 ^ 52 + q ↔ p * 2 ^ e = q * 2 ^ f := by
  wlog hle : e ≤ f generalizing e f p q
  · have h := this hq hp (Nat.le_of_not_le hle)
    exact ⟨fun heq => (h.1 heq.symm).symm, fun heq => (h.2 heq.symm).symm⟩
  obtain ⟨d, rfl⟩ := Nat.exists_eq_add_of_le hle
  rw [Nat.pow_add, ← Nat.mul_assoc, Nat.mul_right_comm, Nat.mul_left_inj (Nat.two_pow_pos e).ne']
  constructor
  · intro hplace
    have hd : d = 0 ∨ d = 1 := by omega
    rcases hd with rfl | rfl <;> omega
  · intro hvalue
    match d with
    | 0 => omega
    | 1 => omega
    | d + 2 =>
      have hlarge : 2 ^ 52 * 4 ≤ q * 2 ^ (d + 2) := by
        apply Nat.mul_le_mul hq.1
        rw [Nat.pow_add]
        have := Nat.two_pow_pos d
        omega
      omega

theorem significandOf_mul_pow (m d : Nat) :
    significandOf m * 2 ^ (m.log2 + d) = nearestNat m * 2 ^ (52 + d) := by
  rw [Nat.pow_add, ← Nat.mul_assoc, significandOf_mul, Nat.mul_assoc, ← Nat.pow_add]

theorem place_eq_iff (hm : m ≠ 0) (hk : k ≠ 0) :
    place m = place k ↔ nearestNat m = nearestNat k := by
  rw [place, place, places_eq_iff (significandOf_bounds hm) (significandOf_bounds hk),
    significandOf_mul_pow, significandOf_mul_pow, Nat.mul_left_inj (Nat.two_pow_pos _).ne']

theorem place_lt (hm : m ≠ 0) (hlt : m < 2 ^ 64) : place m < 2047 * Nat.pow 2 52 := by
  have hlog : m.log2 < 64 := (Nat.log2_lt hm).2 hlt
  have hmost := (significandOf_bounds hm).2
  simp only [place, Nat.pow_eq]
  omega

theorem scale_one (hm : m ≠ 0) : scale m 1 = (m.log2 : Int) - 52 := by
  have hlog : (1 : Nat).log2 = 0 := by decide
  have hsum : (m.log2 : Int) - (0 : Nat) - 53 + 53 = m.log2 := by omega
  have hneg : (-(m.log2 : Int)).toNat = 0 := by omega
  have hfits : 1 * 2 ^ m.log2 ≤ m * 2 ^ 0 := by
    rw [Nat.one_mul, Nat.pow_zero, Nat.mul_one]
    exact Nat.log2_self_le hm
  simp only [scale, hlog, hsum, hneg, Int.toNat_natCast, Nat.pow_eq, if_pos hfits]
  omega

theorem ofRatio_one (negative : Bool) (hm : m ≠ 0) (hlt : m < 2 ^ 64) :
    ofRatio negative m 1 = some ⟨negative, place m, place_lt hm hlt⟩ := by
  have hcode : ((m.log2 : Int) - 52 + 1074).toNat = m.log2 + 1022 := by omega
  have hdown : (-((m.log2 : Int) - 52)).toNat = 52 - m.log2 := by omega
  have hup : ((m.log2 : Int) - 52).toNat = m.log2 - 52 := by omega
  have hplace : (m.log2 + 1022) * Nat.pow 2 52 +
      nearestQuotient (m * Nat.pow 2 (52 - m.log2)) (1 * Nat.pow 2 (m.log2 - 52)) = place m := by
    rw [Nat.one_mul]
    rfl
  simp only [ofRatio, if_neg hm, scale_one hm, hcode, hdown, hup, hplace, dif_pos (place_lt hm hlt)]

theorem numerator_div_denominator {x : Double} (hm : m ≠ 0) (hcode : x.code = place m) :
    x.numerator / x.denominator = nearestNat m := by
  have hleast := (significandOf_bounds hm).1
  have hnormal : ¬x.code < 2 ^ 52 := by
    rw [hcode, place]
    omega
  have hsignificand : x.significand = 2 ^ 52 + x.code % 2 ^ 52 := if_neg hnormal
  have hexponent : x.exponent = (x.code / 2 ^ 52 : Nat) - 1075 := if_neg hnormal
  obtain ⟨c, hc⟩ : ∃ c, x.code / 2 ^ 52 = c + 1 := ⟨x.code / 2 ^ 52 - 1, by omega⟩
  have hbounds : 2 ^ 52 ≤ x.significand ∧ x.significand ≤ 2 ^ 53 := by omega
  have hplace : c * 2 ^ 52 + x.significand = (m.log2 + 1022) * 2 ^ 52 + significandOf m := by
    rw [← place, ← hcode]
    omega
  -- The same in units of the least magnitude, which is 2 ^ -1074.
  obtain ⟨u, hu⟩ : ∃ u, 52 + 1022 = u := ⟨_, rfl⟩
  have hvalue : x.significand * 2 ^ c = nearestNat m * 2 ^ u := by
    rw [(places_eq_iff hbounds (significandOf_bounds hm)).1 hplace, significandOf_mul_pow, hu]
  rw [numerator, denominator, hexponent, hc, Nat.pow_eq, Nat.pow_eq]
  rcases Nat.le_total u c with hle | hle
  · obtain ⟨d, rfl⟩ := Nat.exists_eq_add_of_le' hle
    have hwhole : x.significand * 2 ^ d = nearestNat m := by
      rw [Nat.pow_add, ← Nat.mul_assoc] at hvalue
      exact Nat.eq_of_mul_eq_mul_right (Nat.two_pow_pos _) hvalue
    have hup : (((d + u + 1 : Nat) : Int) - 1075).toNat = d := by omega
    have hdown : (-(((d + u + 1 : Nat) : Int) - 1075)).toNat = 0 := by omega
    rw [hup, hdown, hwhole, Nat.pow_zero, Nat.div_one]
  · obtain ⟨d, rfl⟩ := Nat.exists_eq_add_of_le' hle
    have hwhole : x.significand = nearestNat m * 2 ^ d := by
      rw [Nat.pow_add, ← Nat.mul_assoc] at hvalue
      exact Nat.eq_of_mul_eq_mul_right (Nat.two_pow_pos _) hvalue
    have hup : (((c + 1 : Nat) : Int) - 1075).toNat = 0 := by omega
    have hdown : (-(((c + 1 : Nat) : Int) - 1075)).toNat = d := by omega
    rw [hup, hdown, hwhole, Nat.pow_zero, Nat.mul_one, Nat.mul_div_cancel _ (Nat.two_pow_pos d)]

theorem ofInt_zero : ofInt 0 = zero false := rfl

theorem truncate_zero (negative : Bool) : (zero negative).truncate = 0 := by
  have hnumerator : (zero negative).numerator = 0 := Nat.zero_mul _
  rw [truncate, hnumerator, Nat.zero_div]
  cases negative <;> rfl

theorem ofInt_of_ne_zero (hn : n ≠ 0) (hlt : n.natAbs < 2 ^ 64) :
    ofInt n = ⟨n < 0, place n.natAbs, place_lt (Int.natAbs_ne_zero.2 hn) hlt⟩ := by
  rw [ofInt, ofRatio_one _ (Int.natAbs_ne_zero.2 hn) hlt, Option.getD_some]

theorem truncate_ofInt (hlt : n.natAbs < 2 ^ 64) :
    (ofInt n).truncate = n.sign * nearestNat n.natAbs := by
  rcases lt_trichotomy n 0 with hn | rfl | hn
  · rw [ofInt_of_ne_zero hn.ne hlt, truncate,
      numerator_div_denominator (Int.natAbs_ne_zero.2 hn.ne) rfl, Int.sign_eq_neg_one_of_neg hn]
    simp [hn]
  · rw [ofInt_zero, truncate_zero, Int.sign_zero, Int.zero_mul]
  · rw [ofInt_of_ne_zero hn.ne' hlt, truncate,
      numerator_div_denominator (Int.natAbs_ne_zero.2 hn.ne') rfl, Int.sign_eq_one_of_pos hn]
    simp [hn.le]

theorem nearest_truncate_ofInt (hlt : n.natAbs < 2 ^ 64) : Nearest n (ofInt n).truncate := by
  have hnearest := nearest_nearestNat n.natAbs
  rw [truncate_ofInt hlt]
  rcases lt_trichotomy n 0 with hn | rfl | hn
  · rw [Int.sign_eq_neg_one_of_neg hn, Int.neg_one_mul]
    have hneg := hnearest.neg
    rwa [Int.ofNat_natAbs_of_nonpos hn.le, Int.neg_neg] at hneg
  · exact ⟨0, rfl, Nat.zero_le _, fun _ => rfl⟩
  · rw [Int.sign_eq_one_of_pos hn, Int.one_mul]
    rwa [Int.natAbs_of_nonneg hn.le] at hnearest

theorem rank_ofInt (hlt : n.natAbs < 2 ^ 64) : (ofInt n).rank = n.sign * place n.natAbs := by
  rcases lt_trichotomy n 0 with hn | rfl | hn
  · rw [ofInt_of_ne_zero hn.ne hlt, rank, if_pos (decide_eq_true hn), Int.sign_eq_neg_one_of_neg hn,
      Int.neg_one_mul]
  · rw [Int.sign_zero, Int.zero_mul]
    rfl
  · rw [ofInt_of_ne_zero hn.ne' hlt, rank, if_neg (by simp [hn.le]), Int.sign_eq_one_of_pos hn,
      Int.one_mul]

theorem place_pos (m : Nat) : 0 < place m := by
  rw [place]
  omega

theorem nearestNat_pos (hm : m ≠ 0) : 0 < nearestNat m := by
  have hleast := (significandOf_bounds hm).1
  have hpos : 0 < significandOf m * 2 ^ m.log2 :=
    Nat.mul_pos (Nat.lt_of_lt_of_le (by decide) hleast) (Nat.two_pow_pos _)
  rw [significandOf_mul] at hpos
  exact Nat.pos_of_mul_pos_right hpos

theorem sign_cases (n : Int) :
    n < 0 ∧ n.sign = -1 ∨ n = 0 ∧ n.sign = 0 ∨ 0 < n ∧ n.sign = 1 := by
  rcases lt_trichotomy n 0 with hn | hn | hn
  · exact .inl ⟨hn, Int.sign_eq_neg_one_of_neg hn⟩
  · exact .inr (.inl ⟨hn, hn ▸ Int.sign_zero⟩)
  · exact .inr (.inr ⟨hn, Int.sign_eq_one_of_pos hn⟩)

theorem sign_mul_eq_iff {a b : Int} (hm : a ≠ 0 → 0 < m) (hk : b ≠ 0 → 0 < k) :
    a.sign * m = b.sign * k ↔ a.sign = b.sign ∧ (a ≠ 0 → m = k) := by
  rcases sign_cases a with ⟨ha, hsa⟩ | ⟨ha, hsa⟩ | ⟨ha, hsa⟩ <;>
    rcases sign_cases b with ⟨hb, hsb⟩ | ⟨hb, hsb⟩ | ⟨hb, hsb⟩ <;>
    rw [hsa, hsb] <;> omega

theorem rank_eq_iff_truncate_eq {a b : Int} (ha : a.natAbs < 2 ^ 64) (hb : b.natAbs < 2 ^ 64) :
    (ofInt a).rank = (ofInt b).rank ↔ (ofInt a).truncate = (ofInt b).truncate := by
  have hpos {n : Int} (hn : n ≠ 0) : 0 < nearestNat n.natAbs :=
    nearestNat_pos (Int.natAbs_ne_zero.2 hn)
  rw [rank_ofInt ha, rank_ofInt hb, truncate_ofInt ha, truncate_ofInt hb,
    sign_mul_eq_iff (fun _ => place_pos _) (fun _ => place_pos _), sign_mul_eq_iff hpos hpos]
  apply and_congr_right
  intro hsign
  apply forall_congr'
  intro hne
  have hneOther : b ≠ 0 := by
    rintro rfl
    exact hne (Int.sign_eq_zero_iff_zero.1 hsign)
  exact place_eq_iff (Int.natAbs_ne_zero.2 hne) (Int.natAbs_ne_zero.2 hneOther)

theorem sameValue_ofInt_iff {a b : Int} (ha : a.natAbs < 2 ^ 64) (hb : b.natAbs < 2 ^ 64) :
    (ofInt a).sameValue (ofInt b) = true ↔ ∃ r, Nearest a r ∧ Nearest b r := by
  rw [sameValue, beq_iff_eq, rank_eq_iff_truncate_eq ha hb]
  constructor
  · intro htruncate
    exact ⟨_, nearest_truncate_ofInt ha, htruncate ▸ nearest_truncate_ofInt hb⟩
  · rintro ⟨r, hra, hrb⟩
    rw [(nearest_truncate_ofInt ha).unique hra, (nearest_truncate_ofInt hb).unique hrb]

end Double

end HttpScenario
