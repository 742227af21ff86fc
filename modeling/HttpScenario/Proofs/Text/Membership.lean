import HttpScenario.Text.CharSet

/-! Sets of characters hold what they are said to hold. An operation on two sets does at every
character what it does to membership, and a search in a table of bounds finds the same as following
the bounds. -/

namespace HttpScenario.Text.CharSet

variable {n bound : Nat} {rest : List Nat}

theorem within_cons_of_le (h : bound ≤ n) (inside : Bool) :
    within n inside (bound :: rest) = within n (!inside) rest := if_pos h

theorem within_cons_of_lt (h : n < bound) (inside : Bool) :
    within n inside (bound :: rest) = inside := if_neg (by omega)

theorem within_of_lt (h : ∀ m ∈ rest, n < m) (inside : Bool) : within n inside rest = inside := by
  cases rest with
  | nil => rfl
  | cons bound rest => exact within_cons_of_lt (h bound List.mem_cons_self) inside

theorem within_mark_of_le (h : bound ≤ n) (before after : Bool) :
    within n before (mark before after bound rest) = within n after rest := by
  unfold mark
  split
  · next hsame => rw [hsame]
  · next hdiffer => rw [within_cons_of_le h, Bool.eq_not_of_ne (Ne.symm hdiffer)]

theorem within_mark_of_lt (h : n < bound) (hrest : ∀ m ∈ rest, bound < m) (before after : Bool) :
    within n before (mark before after bound rest) = before := by
  refine within_of_lt (fun m hm => ?_) before
  obtain rfl | hm := mem_of_mem_mark hm
  · exact h
  · exact Nat.lt_trans h (hrest m hm)

/-- What turns with membership can be done before or after the bounds are followed. -/
theorem within_map {f : Bool → Bool} (hf : ∀ b, f (!b) = !f b) (inside : Bool) (bounds : List Nat) :
    within n (f inside) bounds = f (within n inside bounds) := by
  induction bounds generalizing inside with
  | nil => rfl
  | cons bound rest ih =>
    by_cases h : bound ≤ n
    · rw [within_cons_of_le h, within_cons_of_le h, ← hf, ih]
    · have hlt : n < bound := by omega
      rw [within_cons_of_lt hlt, within_cons_of_lt hlt]

theorem eq_of_eq_not {f : Bool → Bool} {b : Bool} (h : f b = f !b) (b' : Bool) : f b' = f b := by
  cases b <;> cases b' <;> simp_all

theorem not_of_ne_not {f : Bool → Bool} {b : Bool} (h : f b ≠ f !b) (b' : Bool) :
    f (!b') = !f b' := by
  refine Bool.eq_not_of_ne fun heq => h ?_
  rw [eq_of_eq_not heq.symm b, eq_of_eq_not heq.symm !b]

/-- The invariant of the sweep: from wherever it has got to, its bounds tell of every later place
what the operation makes of the two sets there. -/
theorem within_sweep (op : Bool → Bool → Bool) (a b : Bool) {ss ts : List Nat}
    (hs : ss.Pairwise (· < ·)) (ht : ts.Pairwise (· < ·)) :
    within n (op a b) (sweep op a b ss ts) = op (within n a ss) (within n b ts) := by
  fun_induction sweep op a b ss ts with
  | case1 a b ts heq => exact (eq_of_eq_not heq (within n b ts)).symm
  | case2 a b ts hne => exact within_map (not_of_ne_not hne) b ts
  | case3 a b s ss heq =>
    exact (eq_of_eq_not (f := fun a => op a b) heq (within n a (s :: ss))).symm
  | case4 a b s ss hne =>
    exact within_map (f := fun a => op a b) (not_of_ne_not (f := fun a => op a b) hne) a (s :: ss)
  | case5 a b s ss t ts hlt ih =>
    obtain ⟨hlater, hss⟩ := List.pairwise_cons.mp hs
    by_cases h : s ≤ n
    · rw [within_mark_of_le h, ih hss ht, within_cons_of_le h]
    · have hn : n < s := Nat.lt_of_not_le h
      have hbehind := lt_of_mem_cons hlt ht
      rw [within_mark_of_lt hn (lt_of_mem_sweep hlater hbehind), within_cons_of_lt hn,
        within_cons_of_lt (Nat.lt_trans hn hlt)]
  | case6 a b s ss t ts _ hlt ih =>
    obtain ⟨hothers, hts⟩ := List.pairwise_cons.mp ht
    by_cases h : t ≤ n
    · rw [within_mark_of_le h, ih hs hts, within_cons_of_le h]
    · have hn : n < t := Nat.lt_of_not_le h
      have hbehind := lt_of_mem_cons hlt hs
      rw [within_mark_of_lt hn (lt_of_mem_sweep hbehind hothers), within_cons_of_lt hn,
        within_cons_of_lt (Nat.lt_trans hn hlt)]
  | case7 a b s ss t ts hle hge ih =>
    have hsame : s = t := Nat.le_antisymm (Nat.not_lt.mp hge) (Nat.not_lt.mp hle)
    subst hsame
    obtain ⟨hlater, hss⟩ := List.pairwise_cons.mp hs
    obtain ⟨hothers, hts⟩ := List.pairwise_cons.mp ht
    by_cases h : s ≤ n
    · rw [within_mark_of_le h, ih hss hts, within_cons_of_le h, within_cons_of_le h]
    · have hn : n < s := Nat.lt_of_not_le h
      rw [within_mark_of_lt hn (lt_of_mem_sweep hlater hothers), within_cons_of_lt hn,
        within_cons_of_lt hn]

section Operations

variable (s t : CharSet) (c : Char)

theorem holds_combine {op : Bool → Bool → Bool} (h : op false false = false) :
    (combine op s t).holds c = op (s.holds c) (t.holds c) := by
  have hsweep := within_sweep (n := place c.toNat) op false false s.rising t.rising
  rwa [h] at hsweep

@[simp]
theorem holds_union : (s ∪ t).holds c = (s.holds c || t.holds c) := holds_combine s t c rfl

@[simp]
theorem holds_inter : (s ∩ t).holds c = (s.holds c && t.holds c) := holds_combine s t c rfl

@[simp]
theorem holds_sdiff : (s \ t).holds c = (s.holds c && !t.holds c) := holds_combine s t c rfl

@[simp]
theorem holds_symmetricDifference :
    (s.symmetricDifference t).holds c = (s.holds c != t.holds c) := holds_combine s t c rfl

@[simp]
theorem holds_all : all.holds c = true := within_cons_of_le (Nat.zero_le _) false

@[simp]
theorem holds_complement : s.complement.holds c = !s.holds c := by
  have hdifference : s.complement = all \ s := rfl
  rw [hdifference, holds_sdiff, holds_all, Bool.true_and]

end Operations

section Ranges

/-- Surrogates are no characters, so that the gap for them does no harm. -/
theorem place_le_place_iff (code : Nat) (c : Char) :
    place code ≤ place c.toNat ↔ code ≤ c.toNat := by
  have hvalid : c.toNat < 0xD800 ∨ 0xDFFF < c.toNat ∧ c.toNat < 0x110000 := c.valid
  unfold place
  grind

theorem holds_range (first last : Nat) (c : Char) :
    (range first last).holds c = decide (first ≤ c.toNat ∧ c.toNat ≤ last) := by
  have hfirst := place_le_place_iff first c
  have hbehind := place_le_place_iff (last + 1) c
  unfold range
  split
  · by_cases h : first ≤ c.toNat
    · by_cases h' : last + 1 ≤ c.toNat
      · simp [holds, within, hfirst.mpr h, hbehind.mpr h', Nat.not_le_of_lt h']
      · have hlast : c.toNat ≤ last := by omega
        simp [holds, within, hfirst.mpr h, mt hbehind.mp h', h, hlast]
    · simp [holds, within, mt hfirst.mp h, h]
  · have hno : ¬ (first ≤ c.toNat ∧ c.toNat ≤ last) := by omega
    simp [holds, within, empty, hno]

theorem holds_ofRanges (ranges : List (Nat × Nat)) (c : Char) :
    (ofRanges ranges).holds c =
      ranges.any fun (first, last) => decide (first ≤ c.toNat ∧ c.toNat ≤ last) := by
  induction ranges with
  | nil => rfl
  | cons range ranges ih =>
    have hunion : ofRanges (range :: ranges) =
        CharSet.range range.1 range.2 ∪ ofRanges ranges := rfl
    rw [hunion, holds_union, holds_range, ih, List.any_cons]

end Ranges

section Search

theorem within_eq_countP {bounds : List Nat} (h : bounds.Pairwise (· < ·)) (inside : Bool) :
    within n inside bounds = (inside != (bounds.countP (· ≤ n) % 2 == 1)) := by
  induction bounds generalizing inside with
  | nil => simp [within]
  | cons bound rest ih =>
    obtain ⟨hlater, hrest⟩ := List.pairwise_cons.mp h
    by_cases hle : bound ≤ n
    · rw [within_cons_of_le hle, ih hrest, List.countP_cons_of_pos (by simpa using hle)]
      obtain heven | hodd := Nat.mod_two_eq_zero_or_one (rest.countP (· ≤ n))
      · have hnext : (rest.countP (· ≤ n) + 1) % 2 = 1 := by omega
        cases inside <;> simp [heven, hnext]
      · have hnext : (rest.countP (· ≤ n) + 1) % 2 = 0 := by omega
        cases inside <;> simp [hodd, hnext]
    · have hnone : (bound :: rest).countP (· ≤ n) = 0 := by
        refine List.countP_eq_zero.mpr fun m hm => ?_
        obtain rfl | hm := List.mem_cons.mp hm
        · simpa using hle
        · have hbehind := hlater m hm
          simp only [decide_eq_true_eq]
          omega
      rw [within_cons_of_lt (by omega), hnone]
      cases inside <;> rfl

theorem countP_eq_of_cut {bounds : List Nat} {k : Nat} (hk : k ≤ bounds.length)
    (hbefore : ∀ i (hi : i < bounds.length), i < k → bounds[i] ≤ n)
    (hbehind : ∀ i (hi : i < bounds.length), k ≤ i → n < bounds[i]) :
    bounds.countP (· ≤ n) = k := by
  have htake : (bounds.take k).countP (· ≤ n) = k := by
    have hall : (bounds.take k).countP (· ≤ n) = (bounds.take k).length := by
      refine List.countP_eq_length.mpr fun m hm => ?_
      obtain ⟨i, hi, rfl⟩ := List.mem_iff_getElem.mp hm
      rw [List.length_take] at hi
      simpa using hbefore i (by omega) (by omega)
    rw [hall, List.length_take, Nat.min_eq_left hk]
  have hdrop : (bounds.drop k).countP (· ≤ n) = 0 := by
    refine List.countP_eq_zero.mpr fun m hm => ?_
    obtain ⟨i, hi, rfl⟩ := List.mem_iff_getElem.mp hm
    rw [List.length_drop] at hi
    simpa using hbehind (k + i) (by omega) (by omega)
  rw [← List.take_append_drop k bounds, List.countP_append, htake, hdrop, Nat.add_zero]

/-- The search keeps that the bounds before its part are at most `n` and those behind it are not. -/
theorem rank_eq_countP {bounds : List Nat} (h : bounds.Pairwise (· < ·)) {low size : Nat}
    (hsize : low + size ≤ bounds.length)
    (hbefore : ∀ i (hi : i < bounds.length), i < low → bounds[i] ≤ n)
    (hbehind : ∀ i (hi : i < bounds.length), low + size ≤ i → n < bounds[i]) :
    Table.rank bounds.toArray n low size = bounds.countP (· ≤ n) := by
  have hrising := List.pairwise_iff_getElem.mp h
  fun_induction Table.rank bounds.toArray n low size with
  | case1 low => exact (countP_eq_of_cut hsize hbefore hbehind).symm
  | case2 low size hpos half hle ih =>
    have hin : low + half < bounds.length := by omega
    have hmiddle : bounds[low + half] ≤ n := by simpa [hin] using hle
    refine ih (by omega) (fun i hi hlow => ?_) fun i hi hhigh => hbehind i hi (by omega)
    -- What stands before a bound that is small enough is smaller still.
    obtain hless | hsame := Nat.lt_or_eq_of_le (Nat.le_of_lt_succ hlow)
    · exact Nat.le_trans (Nat.le_of_lt (hrising i (low + half) hi hin hless)) hmiddle
    · exact hsame ▸ hmiddle
  | case3 low size hpos half hlt ih =>
    have hin : low + half < bounds.length := by omega
    have hmiddle : n < bounds[low + half] := by simpa [hin] using hlt
    refine ih (by omega) hbefore fun i hi hhigh => ?_
    obtain hless | hsame := Nat.lt_or_eq_of_le hhigh
    · exact Nat.lt_trans hmiddle (hrising (low + half) i hin hi hless)
    · exact hsame ▸ hmiddle

theorem holds_table (s : CharSet) (c : Char) : s.table.holds c = s.holds c := by
  have hrank : s.table.rank (place c.toNat) 0 s.bounds.length =
      s.bounds.countP (· ≤ place c.toNat) := by
    refine rank_eq_countP s.rising (Nat.le_of_eq (Nat.zero_add _)) ?_ ?_
    · intro i _ hi
      exact absurd hi (Nat.not_lt_zero i)
    · intro i hi hbehind
      omega
  rw [holds, within_eq_countP s.rising, ← hrank, Bool.false_bne]
  rfl

end Search

end HttpScenario.Text.CharSet
