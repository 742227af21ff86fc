import HttpScenario.Condition
import HttpScenario.Proofs.Success

/-! What data are conditions. Of the keywords in an object the first one in a fixed order decides,
and its argument must have the form that goes with it. -/

namespace HttpScenario

theorem Number.toNat64?_eq_some_iff {m : Number} {n : Nat} :
    m.toNat64? = some n ↔ m = .int n ∧ n < 2 ^ 64 := by
  cases m with
  | int i =>
    rw [toNat64?, Option.ite_none_right_eq_some, Option.some.injEq, int.injEq, Nat.pow_eq]
    omega
  | double x => exact ⟨nofun, nofun⟩

namespace Json

variable {value argument : Json} {n : Nat}

def firstOf? (keywords : List String) (value : Json) : Option (String × Json) :=
  keywords.findSome? fun keyword => (value.field? keyword).map (keyword, ·)

@[simp]
theorem firstOf?_nil (value : Json) : value.firstOf? [] = none := rfl

@[simp]
theorem firstOf?_cons_eq_some_iff {first keyword : String} {keywords : List String} :
    value.firstOf? (first :: keywords) = some (keyword, argument) ↔
      value.field? first = some argument ∧ first = keyword ∨
        value.field? first = none ∧ value.firstOf? keywords = some (keyword, argument) := by
  rw [firstOf?, List.findSome?_cons]
  cases value.field? first with
  | none => simp [firstOf?]
  | some found => simp [and_comm]

@[simp]
theorem firstOf?_cons_eq_none_iff {first : String} {keywords : List String} :
    value.firstOf? (first :: keywords) = none ↔
      value.field? first = none ∧ value.firstOf? keywords = none := by
  rw [firstOf?, List.findSome?_cons]
  cases value.field? first with
  | none => simp [firstOf?]
  | some found => simp

theorem mem_of_firstOf? {keywords : List String} {keyword : String}
    (h : value.firstOf? keywords = some (keyword, argument)) : keyword ∈ keywords := by
  obtain ⟨name, hname, hfield⟩ := List.exists_of_findSome?_eq_some h
  obtain ⟨found, -, heq⟩ := Option.map_eq_some_iff.1 hfield
  cases heq
  exact hname

theorem field?_of_firstOf? {keywords : List String} {keyword : String}
    (h : value.firstOf? keywords = some (keyword, argument)) :
    value.field? keyword = some argument := by
  obtain ⟨name, hname, hfield⟩ := List.exists_of_findSome?_eq_some h
  obtain ⟨found, hfound, heq⟩ := Option.map_eq_some_iff.1 hfield
  cases heq
  exact hfound

theorem asNat64?_eq_some_iff : value.asNat64? = some n ↔ value = .nat n ∧ n < 2 ^ 64 := by
  cases value with
  | number m =>
    rw [asNat64?, Number.toNat64?_eq_some_iff, nat, int, number.injEq]
  | _ => exact ⟨nofun, nofun⟩

end Json

namespace Condition

open Success

inductive IsStatus : Json → Nat → Prop
  | code {n} (h : n < 2 ^ 16) : IsStatus (.nat n) n

def ownKeywords : List String := ["status", "statusRange"]

def pathKeywords : List String := ["equals", "notEquals", "matches", "exists"]

inductive ReadsTest (value : Json) (path : String) : Condition → Prop
  | equals {expected} (h : value.firstOf? pathKeywords = some ("equals", expected)) :
      ReadsTest value path (.equals path expected)
  | notEquals {expected} (h : value.firstOf? pathKeywords = some ("notEquals", expected)) :
      ReadsTest value path (.notEquals path expected)
  | matchesPattern {source} (h : value.firstOf? pathKeywords = some ("matches", .string source)) :
      ReadsTest value path (.matchesPattern path source)
  | hasValue {expected} (h : value.firstOf? pathKeywords = some ("exists", .bool expected)) :
      ReadsTest value path (.hasValue path expected)

inductive Reads (value : Json) : Condition → Prop
  | status {code n} (h : value.firstOf? ownKeywords = some ("status", code))
      (hcode : IsStatus code n) : Reads value (.status n)
  | statusRange {low high least most}
      (h : value.firstOf? ownKeywords = some ("statusRange", .array [low, high]))
      (hlow : IsStatus low least) (hhigh : IsStatus high most) :
      Reads value (.statusRange least most)
  | test {path condition} (h : value.firstOf? ownKeywords = none)
      (hpath : value.field? "path" = some (.string path)) (htest : ReadsTest value path condition) :
      Reads value condition

variable {value : Json} {condition : Condition} {path : String} {n : Nat}

theorem statusCode?_eq_some_iff : statusCode? value = some n ↔ IsStatus value n := by
  rw [statusCode?, Option.bind_eq_some_iff]
  constructor
  · rintro ⟨m, hm, hcode⟩
    obtain ⟨rfl, -⟩ := Json.asNat64?_eq_some_iff.1 hm
    split at hcode
    · obtain rfl := Option.some.inj hcode
      exact .code ‹_›
    · cases hcode
  · rintro ⟨h⟩
    exact ⟨n, Json.asNat64?_eq_some_iff.2 ⟨rfl, Nat.lt_trans h (by decide)⟩, if_pos h⟩

theorem statusCode_eq_ok_iff : statusCode value = .ok n ↔ IsStatus value n := by
  rw [← statusCode?_eq_some_iff, statusCode]
  cases statusCode? value with
  | none => exact ⟨nofun, nofun⟩
  | some m => rw [Except.ok.injEq, Option.some.injEq]

theorem ofPath_eq_ok_iff : ofPath value path = .ok condition ↔ ReadsTest value path condition := by
  constructor
  · intro h
    unfold ofPath at h
    split at h
    · cases h
      exact .equals (by simp [pathKeywords, *])
    · split at h
      · cases h
        exact .notEquals (by simp [pathKeywords, *])
      · split at h
        · cases h
          exact .matchesPattern (by simp [pathKeywords, *])
        · cases h
        · split at h
          · cases h
            exact .hasValue (by simp [pathKeywords, *])
          · cases h
          · cases h
  · rintro (h | h | h | h) <;> simp_all [ofPath, pathKeywords]

theorem range_eq_ok_iff {low high : Json} :
    (do
      let low ← statusCode low
      let high ← statusCode high
      return statusRange low high) = .ok condition ↔
      ∃ least most, IsStatus low least ∧ IsStatus high most ∧
        statusRange least most = condition := by
  simp only [bind_eq_ok_iff, statusCode_eq_ok_iff]
  constructor
  · rintro ⟨least, hlow, most, hhigh, hrange⟩
    exact ⟨least, most, hlow, hhigh, Except.ok.inj hrange⟩
  · rintro ⟨least, most, hlow, hhigh, rfl⟩
    exact ⟨least, hlow, most, hhigh, rfl⟩

theorem ofObject_eq_ok_iff : ofObject value = .ok condition ↔ Reads value condition := by
  constructor
  · intro h
    unfold ofObject at h
    split at h
    · obtain ⟨n, hcode, rfl⟩ := map_eq_ok_iff.1 h
      exact .status (by simp [ownKeywords, *]) (statusCode_eq_ok_iff.1 hcode)
    · split at h
      · obtain ⟨least, most, hlow, hhigh, rfl⟩ := range_eq_ok_iff.1 h
        exact .statusRange (by simp [ownKeywords, *]) hlow hhigh
      · cases h
      · split at h
        · exact .test (by simp [ownKeywords, *]) ‹_› (ofPath_eq_ok_iff.1 h)
        · cases h
  · intro h
    cases h with
    | @status code n h hcode =>
      have hstatus : value.field? "status" = some code := by simpa [ownKeywords] using h
      rw [ofObject, hstatus]
      exact map_eq_ok_iff.2 ⟨_, statusCode_eq_ok_iff.2 hcode, rfl⟩
    | @statusRange low high least most h hlow hhigh =>
      obtain ⟨hstatus, hrange⟩ : value.field? "status" = none ∧
          value.field? "statusRange" = some (.array [low, high]) := by simpa [ownKeywords] using h
      rw [ofObject, hstatus, hrange]
      exact range_eq_ok_iff.2 ⟨_, _, hlow, hhigh, rfl⟩
    | test h hpath htest =>
      obtain ⟨hstatus, hrange⟩ : value.field? "status" = none ∧
          value.field? "statusRange" = none := by simpa [ownKeywords] using h
      rw [ofObject, hstatus, hrange, hpath]
      exact ofPath_eq_ok_iff.2 htest

theorem ofJson_eq_ok_iff : ofJson value = .ok condition ↔ Reads value condition := by
  rw [← ofObject_eq_ok_iff]
  cases value with
  | object fields => rfl
  | _ => exact ⟨nofun, nofun⟩

end Condition

end HttpScenario
