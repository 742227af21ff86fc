import HttpScenario.Path
import HttpScenario.Proofs.Number.Digits

/-! The steps of a path and its text. What a dot joins to a path adds the steps that it stands for by
itself, and an index in brackets at the end adds one step. -/

namespace HttpScenario

namespace Path

variable {cs ds inner rest : List Char} {steps more : List Step} {i : Nat}

theorem splitDots_ne_nil (cs : List Char) : splitDots cs ≠ [] := by
  cases cs with
  | nil => simp [splitDots]
  | cons c cs =>
    rw [splitDots]
    split
    · simp
    · split <;> simp

theorem splitDots_append_dot (cs ds : List Char) :
    splitDots (cs ++ '.' :: ds) = splitDots cs ++ splitDots ds := by
  induction cs with
  | nil => simp [splitDots]
  | cons c cs ih =>
    by_cases hc : c = '.'
    · simp only [List.cons_append, splitDots, if_pos hc, ih]
    · obtain ⟨part, parts, hparts⟩ := List.exists_cons_of_ne_nil (splitDots_ne_nil cs)
      simp only [List.cons_append, splitDots, if_neg hc, ih, hparts]

theorem splitDots_eq_singleton (h : '.' ∉ cs) : splitDots cs = [cs] := by
  induction cs with
  | nil => rfl
  | cons c cs ih =>
    obtain ⟨hc, hcs⟩ := List.ne_and_not_mem_of_not_mem_cons h
    rw [splitDots, if_neg (Ne.symm hc), ih hcs]

theorem exists_last_dot (h : '.' ∈ cs) : ∃ before after, cs = before ++ '.' :: after ∧ '.' ∉ after := by
  induction cs with
  | nil => exact absurd h List.not_mem_nil
  | cons c cs ih =>
    by_cases hcs : '.' ∈ cs
    · obtain ⟨before, after, rfl, hafter⟩ := ih hcs
      exact ⟨c :: before, after, rfl, hafter⟩
    · obtain rfl := (List.mem_cons.mp h).resolve_right hcs
      exact ⟨[], cs, rfl, hcs⟩

theorem steps?_of_not_mem (h : '.' ∉ cs) : steps? cs = segment? cs := by
  rw [steps?, splitDots_eq_singleton h]
  cases cs with
  | nil => simp [segment?, indices?]
  | cons c cs =>
    cases hsegment : segment? (c :: cs) with
    | none => simp [hsegment]
    | some steps => simp [hsegment]

theorem steps?_append_dot (cs ds : List Char) :
    steps? (cs ++ '.' :: ds) = (steps? cs).bind fun steps => (steps? ds).map (steps ++ ·) := by
  simp only [steps?, splitDots_append_dot, List.filter_append, List.mapM_append]
  cases ((splitDots cs).filter fun part => !part.isEmpty).mapM segment? with
  | none => simp
  | some before =>
    cases ((splitDots ds).filter fun part => !part.isEmpty).mapM segment? with
    | none => simp
    | some after => simp

theorem steps?_name {name : List Char} (hne : name ≠ []) (hdot : '.' ∉ name)
    (hbracket : '[' ∉ name) : steps? name = some [.named (String.ofList name)] := by
  have hall : ∀ c ∈ name, decide (c ≠ '[') = true := fun c hc =>
    decide_eq_true fun heq => hbracket (heq ▸ hc)
  have htake : name.takeWhile (· ≠ '[') = name := by
    rw [← List.append_nil name, List.takeWhile_append_of_pos hall, List.takeWhile_nil]
  have hdrop : name.dropWhile (· ≠ '[') = [] := by
    rw [← List.append_nil name, List.dropWhile_append_of_pos hall, List.dropWhile_nil]
  rw [steps?_of_not_mem hdot, segment?, htake, hdrop, indices?]
  simp [hne]

def bracketed (i : Nat) : List Char := '[' :: (Nat.toDigits 10 i ++ [']'])

theorem takeWhile_append_bracket (cs ds : List Char) :
    (cs ++ '[' :: ds).takeWhile (· ≠ '[') = cs.takeWhile (· ≠ '[') := by
  induction cs with
  | nil => simp
  | cons c cs ih =>
    by_cases hc : c = '['
    · simp [hc]
    · simp only [List.cons_append]
      rw [List.takeWhile_cons_of_pos (by simp [hc]), List.takeWhile_cons_of_pos (by simp [hc]), ih]

theorem dropWhile_append_bracket (cs ds : List Char) :
    (cs ++ '[' :: ds).dropWhile (· ≠ '[') = cs.dropWhile (· ≠ '[') ++ '[' :: ds := by
  induction cs with
  | nil => simp
  | cons c cs ih =>
    by_cases hc : c = '['
    · simp [hc]
    · rw [List.cons_append, List.dropWhile_cons_of_pos (by simp [hc]),
        List.dropWhile_cons_of_pos (by simp [hc]), ih]

theorem untilClose_append (h : untilClose cs = some (inner, rest)) (ds : List Char) :
    untilClose (cs ++ ds) = some (inner, rest ++ ds) := by
  induction cs generalizing inner with
  | nil => cases h
  | cons c cs ih =>
    rw [untilClose] at h
    rw [List.cons_append, untilClose]
    split at h
    · rename_i hc
      cases h
      rw [if_pos hc]
    · rename_i hc
      obtain ⟨⟨a, b⟩, hab, ⟨⟩⟩ := Option.map_eq_some_iff.mp h
      rw [if_neg hc, ih hab]
      rfl

theorem untilClose_of_not_mem (h : ']' ∉ cs) : untilClose (cs ++ ']' :: ds) = some (cs, ds) := by
  induction cs with
  | nil => rfl
  | cons c cs ih =>
    obtain ⟨hc, hcs⟩ := List.ne_and_not_mem_of_not_mem_cons h
    rw [List.cons_append, untilClose, if_neg (Ne.symm hc), ih hcs]
    rfl

theorem indices?_bracketed (i : Nat) : indices? (bracketed i) = some [.index i] := by
  have hclose : untilClose (Nat.toDigits 10 i ++ [']']) = some (Nat.toDigits 10 i, []) :=
    untilClose_of_not_mem fun h => absurd (Integer.isDigit_of_mem_toDigits h) (by decide)
  have htrim : Text.trimList (Nat.toDigits 10 i) = Nat.toDigits 10 i :=
    Text.trimList_eq_self fun c hc => Text.isBlank_of_isDigit (Integer.isDigit_of_mem_toDigits hc)
  have hnil : indices? [] = some [] := by rw [indices?]
  rw [bracketed, indices?, if_pos rfl]
  split
  · simp_all
  · rename_i inner rest heq
    rw [hclose] at heq
    cases heq
    rw [htrim, Integer.unboundedOfList?_toDigits, hnil]
    rfl

theorem indices?_append (h : indices? cs = some steps) (i : Nat) :
    indices? (cs ++ bracketed i) = some (steps ++ [.index i]) := by
  fun_induction indices? cs generalizing steps with
  | case1 =>
    cases h
    exact indices?_bracketed i
  | case2 cs hnone => cases h
  | case3 cs inner rest hclose ih =>
    simp only [Option.bind_eq_bind, Option.bind_eq_some_iff] at h
    obtain ⟨j, hj, later, hlater, ⟨⟩⟩ := h
    rw [List.cons_append, indices?, if_pos rfl]
    split
    · rename_i hnone
      rw [untilClose_append hclose] at hnone
      cases hnone
    · rename_i inner' rest' hsome
      rw [untilClose_append hclose] at hsome
      cases hsome
      rw [hj, ih hlater]
      rfl
  | case4 c cs hc => cases h

theorem segment?_append (h : segment? cs = some steps) (i : Nat) :
    segment? (cs ++ bracketed i) = some (steps ++ [.index i]) := by
  rw [segment?] at h ⊢
  rw [bracketed, takeWhile_append_bracket, dropWhile_append_bracket]
  split at h
  · rename_i hname
    rw [if_pos hname]
    exact indices?_append h i
  · rename_i hname
    obtain ⟨indices, hindices, rfl⟩ := Option.map_eq_some_iff.mp h
    rw [if_neg hname]
    exact Option.map_eq_some_iff.mpr ⟨_, indices?_append hindices i, rfl⟩

theorem steps?_append_index (h : steps? cs = some steps) (i : Nat) :
    steps? (cs ++ bracketed i) = some (steps ++ [.index i]) := by
  have hbracketed : '.' ∉ bracketed i := by
    intro hdot
    simp only [bracketed, List.mem_cons, List.mem_append, List.not_mem_nil] at hdot
    have hdigit : '.' ∈ Nat.toDigits 10 i → False := fun h =>
      absurd (Integer.isDigit_of_mem_toDigits h) (by decide)
    grind
  have hsegment : ∀ {ds more}, '.' ∉ ds → steps? ds = some more →
      steps? (ds ++ bracketed i) = some (more ++ [.index i]) := by
    intro ds more hds hmore
    rw [steps?_of_not_mem hds] at hmore
    rw [steps?_of_not_mem (by simp [hds, hbracketed])]
    exact segment?_append hmore i
  -- An index changes only how the segment after the last dot is read.
  by_cases hdot : '.' ∈ cs
  · obtain ⟨before, after, rfl, hafter⟩ := exists_last_dot hdot
    rw [steps?_append_dot] at h
    obtain ⟨first, hfirst, h⟩ := Option.bind_eq_some_iff.mp h
    obtain ⟨second, hsecond, rfl⟩ := Option.map_eq_some_iff.mp h
    rw [List.append_assoc, List.cons_append, steps?_append_dot, hfirst, hsegment hafter hsecond]
    simp
  · exact hsegment hdot h

end Path

end HttpScenario
