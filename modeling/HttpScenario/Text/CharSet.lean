import HttpScenario.Text.Runs

/-! Sets of characters. A set is told by its bounds, the places at which membership changes, where
characters are counted without the gap that surrogates leave among the code points. -/

namespace HttpScenario.Text

structure CharSet where
  bounds : List Nat
  rising : bounds.Pairwise (· < ·)

namespace CharSet

/-- A surrogate has the place of the next character. -/
def place (code : Nat) : Nat :=
  if code < 0xD800 then code else if code < 0xE000 then 0xD800 else code - 0x800

def codeAt (place : Nat) : Nat := if place < 0xD800 then place else place + 0x800

/-- Membership at a place, which changes at every bound up to there. -/
def within (n : Nat) (inside : Bool) : List Nat → Bool
  | [] => inside
  | bound :: rest => if bound ≤ n then within n (!inside) rest else inside

def holds (s : CharSet) (c : Char) : Bool := within (place c.toNat) false s.bounds

def empty : CharSet := ⟨[], .nil⟩

def all : CharSet := ⟨[0], .cons nofun .nil⟩

def range (first last : Nat) : CharSet :=
  if h : place first < place (last + 1) then
    ⟨[place first, place (last + 1)], .cons (by simpa using h) (.cons nofun .nil)⟩
  else empty

def one (c : Char) : CharSet := range c.toNat c.toNat

/-- A bound is kept where membership changes. -/
def mark (before after : Bool) (bound : Nat) (rest : List Nat) : List Nat :=
  if before = after then rest else bound :: rest

/-- The bounds of what the operation makes of two sets, from a place on where membership in them is
as told. -/
def sweep (op : Bool → Bool → Bool) (a b : Bool) : List Nat → List Nat → List Nat
  | [], ts => if op a b = op a !b then [] else ts
  | s :: ss, [] => if op a b = op (!a) b then [] else s :: ss
  | s :: ss, t :: ts =>
    if s < t then mark (op a b) (op (!a) b) s (sweep op (!a) b ss (t :: ts))
    else if t < s then mark (op a b) (op a !b) t (sweep op a (!b) (s :: ss) ts)
    else mark (op a b) (op (!a) !b) s (sweep op (!a) (!b) ss ts)

theorem mem_of_mem_mark {before after : Bool} {bound n : Nat} {rest : List Nat}
    (h : n ∈ mark before after bound rest) : n = bound ∨ n ∈ rest := by
  unfold mark at h
  split at h
  · exact .inr h
  · exact List.mem_cons.mp h

theorem rising_mark {before after : Bool} {bound : Nat} {rest : List Nat}
    (hbound : ∀ n ∈ rest, bound < n) (hrest : rest.Pairwise (· < ·)) :
    (mark before after bound rest).Pairwise (· < ·) := by
  unfold mark
  split
  · exact hrest
  · exact hrest.cons hbound

theorem mem_of_mem_sweep {op : Bool → Bool → Bool} {a b : Bool} {ss ts : List Nat} {n : Nat}
    (h : n ∈ sweep op a b ss ts) : n ∈ ss ∨ n ∈ ts := by
  fun_induction sweep op a b ss ts with
  | case1 => cases h
  | case2 => exact .inr h
  | case3 => cases h
  | case4 => exact .inl h
  | case5 a b s ss t ts _ ih =>
    obtain rfl | h := mem_of_mem_mark h
    · exact .inl List.mem_cons_self
    · exact (ih h).imp_left (List.mem_cons_of_mem s)
  | case6 a b s ss t ts _ _ ih =>
    obtain rfl | h := mem_of_mem_mark h
    · exact .inr List.mem_cons_self
    · exact (ih h).imp_right (List.mem_cons_of_mem t)
  | case7 a b s ss t ts _ _ ih =>
    obtain rfl | h := mem_of_mem_mark h
    · exact .inl List.mem_cons_self
    · exact (ih h).imp (List.mem_cons_of_mem s) (List.mem_cons_of_mem t)

theorem lt_of_mem_sweep {op : Bool → Bool → Bool} {a b : Bool} {ss ts : List Nat} {bound : Nat}
    (hs : ∀ n ∈ ss, bound < n) (ht : ∀ n ∈ ts, bound < n) : ∀ n ∈ sweep op a b ss ts, bound < n :=
  fun n h => (mem_of_mem_sweep h).elim (hs n) (ht n)

theorem lt_of_mem_cons {bound first : Nat} {rest : List Nat} (h : bound < first)
    (hrising : (first :: rest).Pairwise (· < ·)) : ∀ n ∈ first :: rest, bound < n := by
  have hlater := (List.pairwise_cons.mp hrising).1
  exact List.forall_mem_cons.mpr ⟨h, fun n hn => Nat.lt_trans h (hlater n hn)⟩

theorem rising_sweep (op : Bool → Bool → Bool) (a b : Bool) {ss ts : List Nat}
    (hs : ss.Pairwise (· < ·)) (ht : ts.Pairwise (· < ·)) :
    (sweep op a b ss ts).Pairwise (· < ·) := by
  fun_induction sweep op a b ss ts with
  | case1 => exact .nil
  | case2 => exact ht
  | case3 => exact .nil
  | case4 => exact hs
  | case5 a b s ss t ts hlt ih =>
    obtain ⟨hlater, hss⟩ := List.pairwise_cons.mp hs
    exact rising_mark (lt_of_mem_sweep hlater (lt_of_mem_cons hlt ht)) (ih hss ht)
  | case6 a b s ss t ts _ hlt ih =>
    obtain ⟨hothers, hts⟩ := List.pairwise_cons.mp ht
    exact rising_mark (lt_of_mem_sweep (lt_of_mem_cons hlt hs) hothers) (ih hs hts)
  | case7 a b s ss t ts hle hge ih =>
    have hsame : s = t := Nat.le_antisymm (Nat.not_lt.mp hge) (Nat.not_lt.mp hle)
    subst hsame
    obtain ⟨hlater, hss⟩ := List.pairwise_cons.mp hs
    obtain ⟨hothers, hts⟩ := List.pairwise_cons.mp ht
    exact rising_mark (lt_of_mem_sweep hlater hothers) (ih hss hts)

def combine (op : Bool → Bool → Bool) (s t : CharSet) : CharSet :=
  ⟨sweep op false false s.bounds t.bounds, rising_sweep op false false s.rising t.rising⟩

def union : CharSet → CharSet → CharSet := combine (· || ·)

def intersection : CharSet → CharSet → CharSet := combine (· && ·)

def difference : CharSet → CharSet → CharSet := combine fun a b => a && !b

def symmetricDifference : CharSet → CharSet → CharSet := combine (· != ·)

def complement (s : CharSet) : CharSet := all.difference s

instance : Union CharSet := ⟨union⟩

instance : Inter CharSet := ⟨intersection⟩

instance : SDiff CharSet := ⟨difference⟩

def ofRanges (ranges : List (Nat × Nat)) : CharSet :=
  ranges.foldr (fun (first, last) rest => (range first last).union rest) empty

def ofCodes (codes : List Nat) : CharSet := ofRanges (codes.mergeSort.map fun code => (code, code))

def ofText (text : String) : CharSet := ofRanges (rangesOf text)

def ofLines (lines : List String) : CharSet := ofText (String.join lines)

/-- The code points of the characters at some places; a gap for surrogates splits them. -/
def codeRanges (start stop : Nat) : List (Nat × Nat) :=
  if start < 0xD800 ∧ 0xD800 < stop then [(start, 0xD7FF), (0xE000, codeAt (stop - 1))]
  else [(codeAt start, codeAt (stop - 1))]

def rangesFrom : List Nat → List (Nat × Nat)
  | [] => []
  | [start] => codeRanges start 0x10F800
  | start :: stop :: rest => codeRanges start stop ++ rangesFrom rest

def ranges (s : CharSet) : List (Nat × Nat) := rangesFrom s.bounds

abbrev Table := Array Nat

def table (s : CharSet) : Table := s.bounds.toArray

namespace Table

/-- How many of the bounds are at most `n`, if those before `low` are and those from `low + size` on
are not. -/
def rank (t : Table) (n low size : Nat) : Nat :=
  if size = 0 then low
  else
    let half := size / 2
    if t.getD (low + half) 0 ≤ n then rank t n (low + half + 1) (size - half - 1)
    else rank t n low half
termination_by size

def holds (t : Table) (c : Char) : Bool := t.rank (place c.toNat) 0 t.size % 2 == 1

end Table

end CharSet

end HttpScenario.Text
