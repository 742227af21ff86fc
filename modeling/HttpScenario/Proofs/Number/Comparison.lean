import HttpScenario.Proofs.Number.Rounding
import HttpScenario.Proofs.Validation.Condition

/-! Comparing integers. Checks and conditions compare numbers as doubles, so two integers count as
one if they have the same nearest double: below `2 ^ 53` only if they are the same, and beyond that
they may differ in the digits that a double does not hold. -/

namespace HttpScenario

open Double

variable {a b : Int}

theorem looselyEqual_int_iff (ha : Integer.Within64 a) (hb : Integer.Within64 b) :
    (Json.int a).looselyEqual (.int b) = true ↔ ∃ r, Nearest a r ∧ Nearest b r :=
  sameValue_ofInt_iff ha.natAbs_lt hb.natAbs_lt

theorem looselyEqual_int_comm (a b : Int) :
    (Json.int a).looselyEqual (.int b) = (Json.int b).looselyEqual (.int a) := by
  show (ofInt a).sameValue (ofInt b) = (ofInt b).sameValue (ofInt a)
  rw [sameValue, sameValue, Bool.beq_comm]

theorem looselyEqual_int_self (ha : Integer.Within64 a) :
    (Json.int a).looselyEqual (.int a) = true := by
  have hnearest := nearest_truncate_ofInt ha.natAbs_lt
  exact (looselyEqual_int_iff ha ha).2 ⟨_, hnearest, hnearest⟩

theorem eq_of_looselyEqual_int (ha : Integer.Within64 a) (hb : Integer.Within64 b)
    (hsmall : a.natAbs < 2 ^ 53) (h : (Json.int a).looselyEqual (.int b) = true) : a = b := by
  obtain ⟨r, hra, hrb⟩ := (looselyEqual_int_iff ha hb).1 h
  obtain rfl : r = a := hra.unique (nearest_self_of_le hsmall.le)
  exact hrb.eq_of_lt hb.natAbs_lt hsmall

theorem natAbs_sub_le_of_looselyEqual_int (ha : Integer.Within64 a) (hb : Integer.Within64 b)
    (h : (Json.int a).looselyEqual (.int b) = true) : (a - b).natAbs ≤ 2 ^ 11 := by
  obtain ⟨r, hra, hrb⟩ := (looselyEqual_int_iff ha hb).1 h
  have hnearA := hra.natAbs_sub_le ha.natAbs_lt
  have hnearB := hrb.natAbs_sub_le hb.natAbs_lt
  omega

/-- Two integers count as equal exactly if one integer is nearest to both of them among those that
a double can be. So equal integers do, others do not if one of them is less than `2 ^ 53`, and
integers of 64 bits that do lie no further apart than `2 ^ 11`. A check of a field and the two
conditions on a path go by that. -/
theorem equality_of_integers (ha : Integer.Within64 a) (hb : Integer.Within64 b) :
    let equal := (Json.int a).looselyEqual (.int b)
    (equal = true ↔ ∃ r, Nearest a r ∧ Nearest b r) ∧
    (a = b → equal = true) ∧
    (a.natAbs < 2 ^ 53 ∨ b.natAbs < 2 ^ 53 → equal = true → a = b) ∧
    (equal = true → (a - b).natAbs ≤ 2 ^ 11) ∧
    ∀ path response, Path.resolve? path response = some (.int a) →
      ((Validation.Check.fieldEquals path (.int b)).run response = .ok () ↔ equal = true) ∧
      (Condition.equals path (.int b)).evaluate response = .ok equal ∧
      (Condition.notEquals path (.int b)).evaluate response = .ok (!equal) := by
  intro equal
  refine ⟨looselyEqual_int_iff ha hb, ?_, ?_, natAbs_sub_le_of_looselyEqual_int ha hb, ?_⟩
  · rintro rfl
    exact looselyEqual_int_self ha
  · rintro (hsmall | hsmall) hequal
    · exact eq_of_looselyEqual_int ha hb hsmall hequal
    · have hturned : (Json.int b).looselyEqual (.int a) = true := by
        rw [looselyEqual_int_comm]
        exact hequal
      exact (eq_of_looselyEqual_int hb ha hsmall hturned).symm
  · intro path response hfound
    refine ⟨?_, ?_, ?_⟩
    · rw [Validation.Check.run, hfound]
      exact Validation.Check.ensure_eq_ok_iff
    · rw [Condition.evaluate, Condition.resolvesTo, hfound]
      rfl
    · rw [Condition.evaluate, Condition.resolvesTo, hfound]
      rfl

namespace Sample

/-- The first integer beyond which a double does not hold the next one. -/
def identifier : Int := 2 ^ 53

def neighbour : Int := identifier + 1

def identified : Response := (Response.ofStatus 200).withData (.int identifier)

theorem nearest_neighbour : Nearest neighbour identifier :=
  ⟨2 ^ 52, by decide +kernel, by decide +kernel, by decide +kernel⟩

end Sample

theorem equality_of_sample_integers :
    Integer.Within64 Sample.identifier ∧ Integer.Within64 Sample.neighbour ∧
    Path.resolve? "data" Sample.identified = some (.int Sample.identifier) ∧
    (Validation.Check.fieldEquals "data" (.int Sample.neighbour)).run Sample.identified = .ok () ∧
    (Json.int Sample.neighbour).looselyEqual (.int 1) ≠ true := by
  have hidentifier : Integer.Within64 Sample.identifier := by decide
  have hneighbour : Integer.Within64 Sample.neighbour := by decide
  have hone : Integer.Within64 1 := by decide
  have hfound : Path.resolve? "data" Sample.identified = some (.int Sample.identifier) := by rfl
  obtain ⟨hiff, -, -, -, hused⟩ := equality_of_integers hidentifier hneighbour
  obtain ⟨hcheck, -, -⟩ := hused "data" Sample.identified hfound
  have hequal := hiff.2 ⟨_, nearest_self_of_le (by decide), Sample.nearest_neighbour⟩
  refine ⟨hidentifier, hneighbour, hfound, hcheck.2 hequal, fun hsame => ?_⟩
  have hcontrary := (equality_of_integers hneighbour hone).2.2.1 (.inr (by decide)) hsame
  exact absurd hcontrary (by decide)

end HttpScenario
