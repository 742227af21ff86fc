import Mathlib.Data.List.Basic
import Mathlib.Data.List.TakeWhile
import HttpScenario.Placeholder

/-! Substitution in a text that is put together. A name holds no brace, so a placeholder is found
whatever stands around it: what comes before it and what comes after are substituted by themselves,
and what takes its place is not looked at again. -/

namespace HttpScenario.Placeholder

def IsName (name : String) : Prop :=
  name ≠ "" ∧ ∀ c ∈ name.toList,
    'A' ≤ c ∧ c ≤ 'Z' ∨ 'a' ≤ c ∧ c ≤ 'z' ∨ '0' ≤ c ∧ c ≤ '9' ∨ c = '_' ∨ c = '.' ∨ c = '-'

def written (name : String) : String := "\x7b" ++ name ++ "\x7d"

def replacement (context : Context) (name : String) : String :=
  match context.get? name with
  | some (.string s) => s
  | some value => value.compact
  | none => written name

variable {context : Context} {cs name rest : List Char} {c : Char}

theorem isNameChar_iff : isNameChar c = true ↔
    'A' ≤ c ∧ c ≤ 'Z' ∨ 'a' ≤ c ∧ c ≤ 'z' ∨ '0' ≤ c ∧ c ≤ '9' ∨ c = '_' ∨ c = '.' ∨ c = '-' := by
  have halphanum : c.isAlphanum = (c.isUpper || c.isLower || c.isDigit) := rfl
  have hupper : c.isUpper = true ↔ 'A' ≤ c ∧ c ≤ 'Z' := decide_eq_true_iff
  have hlower : c.isLower = true ↔ 'a' ≤ c ∧ c ≤ 'z' :=
    Bool.and_eq_true_iff.trans (and_congr decide_eq_true_iff decide_eq_true_iff)
  have hdigit : c.isDigit = true ↔ '0' ≤ c ∧ c ≤ '9' :=
    Bool.and_eq_true_iff.trans (and_congr decide_eq_true_iff decide_eq_true_iff)
  rw [isNameChar, decide_eq_true_iff, halphanum, Bool.or_eq_true, Bool.or_eq_true, hupper, hlower,
    hdigit, or_assoc, or_assoc]

theorem isName_ofList_iff :
    IsName (String.ofList name) ↔ name ≠ [] ∧ ∀ c ∈ name, isNameChar c = true := by
  simp [IsName, isNameChar_iff]

section Reading

theorem afterBrace?_name (hne : name ≠ []) (hname : ∀ c ∈ name, isNameChar c = true)
    (rest : List Char) : afterBrace? (name ++ '}' :: rest) = some (name, rest) := by
  have hclose : isNameChar '}' = false := by decide
  have htake : (name ++ '}' :: rest).takeWhile isNameChar = name := by
    rw [List.takeWhile_append_of_pos hname, List.takeWhile_cons_of_neg (by simp [hclose]),
      List.append_nil]
  have hdrop : (name ++ '}' :: rest).dropWhile isNameChar = '}' :: rest := by
    rw [List.dropWhile_append_of_pos hname, List.dropWhile_cons_of_neg (by simp [hclose])]
  simp only [afterBrace?, htake, hdrop]
  simp [hne]

theorem eq_of_afterBrace? (h : afterBrace? cs = some (name, rest)) :
    cs = name ++ '}' :: rest ∧ name ≠ [] ∧ ∀ c ∈ name, isNameChar c = true := by
  rw [afterBrace?] at h
  split at h
  · rename_i c tail hdrop
    split at h
    · rename_i hclose
      obtain ⟨rfl, rfl⟩ := Prod.mk.inj (Option.some.inj h)
      refine ⟨?_, hclose.2, fun c hc => List.mem_takeWhile_imp hc⟩
      rw [← hclose.1, ← hdrop, List.takeWhile_append_dropWhile]
    · cases h
  · cases h

/-- A brace that opens ends the search for a name: no placeholder reaches across it. -/
theorem afterBrace?_append (cs rest : List Char) :
    afterBrace? (cs ++ '{' :: rest) =
      (afterBrace? cs).map fun found => (found.1, found.2 ++ '{' :: rest) := by
  have hopen : isNameChar '{' = false := by decide
  cases hdrop : cs.dropWhile isNameChar with
  | nil =>
    have hname : ∀ c ∈ cs, isNameChar c = true := List.dropWhile_eq_nil_iff.1 hdrop
    have hmore : (cs ++ '{' :: rest).dropWhile isNameChar = '{' :: rest := by
      rw [List.dropWhile_append_of_pos hname, List.dropWhile_cons_of_neg (by simp [hopen])]
    simp only [afterBrace?, hdrop, hmore]
    simp
  | cons d tail =>
    have hlength : (cs.takeWhile isNameChar).length ≠ cs.length := by
      have hsplit := congrArg List.length (List.takeWhile_append_dropWhile (p := isNameChar) (l := cs))
      rw [hdrop, List.length_append, List.length_cons] at hsplit
      omega
    have htake : (cs ++ '{' :: rest).takeWhile isNameChar = cs.takeWhile isNameChar := by
      rw [List.takeWhile_append, if_neg hlength]
    have hmore : (cs ++ '{' :: rest).dropWhile isNameChar = d :: (tail ++ '{' :: rest) := by
      rw [List.dropWhile_append, hdrop]
      rfl
    simp only [afterBrace?, hdrop, htake, hmore]
    split <;> rfl

theorem pieces_of_some (h : afterBrace? cs = some (name, rest)) :
    pieces ('{' :: cs) = .name name :: pieces rest := by
  rw [pieces, if_pos rfl]
  split
  · rename_i heq
    cases h.symm.trans heq
    rfl
  · rename_i heq
    cases h.symm.trans heq

theorem pieces_of_none (h : c = '{' → afterBrace? cs = none) :
    pieces (c :: cs) = .char c :: pieces cs := by
  rw [pieces]
  split
  · rename_i hopen
    split
    · rename_i heq
      cases (h hopen).symm.trans heq
    · rw [hopen]
  · rfl

theorem pieces_append (cs rest : List Char) :
    pieces (cs ++ '{' :: rest) = pieces cs ++ pieces ('{' :: rest) := by
  fun_induction pieces cs with
  | case1 => rfl
  | case2 cs name left hfound ih =>
    have hmore : afterBrace? (cs ++ '{' :: rest) = some (name, left ++ '{' :: rest) := by
      rw [afterBrace?_append, hfound]
      rfl
    rw [List.cons_append, pieces_of_some hmore, ih, List.cons_append]
  | case3 cs hnone ih =>
    have hmore : afterBrace? (cs ++ '{' :: rest) = none := by
      rw [afterBrace?_append, hnone]
      rfl
    rw [List.cons_append, pieces_of_none fun _ => hmore, ih, List.cons_append]
  | case4 c cs hopen ih =>
    rw [List.cons_append, pieces_of_none fun h => absurd h hopen, ih, List.cons_append]

end Reading

section Copying

theorem flatMap_source (cs : List Char) : (pieces cs).flatMap Piece.source = cs := by
  fun_induction pieces cs with
  | case1 => rfl
  | case2 cs name left hfound ih =>
    rw [List.flatMap_cons, ih, Piece.source, (eq_of_afterBrace? hfound).1]
    simp
  | case3 cs hnone ih => rw [List.flatMap_cons, ih, Piece.source, List.singleton_append]
  | case4 c cs hopen ih => rw [List.flatMap_cons, ih, Piece.source, List.singleton_append]

theorem isName_of_mem_pieces (h : .name name ∈ pieces cs) :
    name ≠ [] ∧ ∀ c ∈ name, isNameChar c = true := by
  fun_induction pieces cs with
  | case1 => cases h
  | case2 cs found left hfound ih =>
    rcases List.mem_cons.1 h with heq | hleft
    · cases heq
      exact (eq_of_afterBrace? hfound).2
    · exact ih hleft
  | case3 cs hnone ih => exact ih ((List.mem_cons.1 h).resolve_left nofun)
  | case4 c cs hopen ih => exact ih ((List.mem_cons.1 h).resolve_left nofun)

theorem exists_of_mem_pieces (h : .name name ∈ pieces cs) :
    ∃ before after, cs = before ++ ('{' :: name ++ ['}']) ++ after := by
  obtain ⟨before, after, happend⟩ := List.append_of_mem h
  refine ⟨before.flatMap Piece.source, after.flatMap Piece.source, ?_⟩
  rw [← flatMap_source cs, happend, List.flatMap_append, List.flatMap_cons, Piece.source]
  simp

theorem substituteList_of_char (h : ∀ name, .name name ∉ pieces cs) :
    substituteList context cs = cs := by
  have hfill : ∀ piece ∈ pieces cs, Piece.fill context piece = Piece.source piece := by
    intro piece hpiece
    cases piece with
    | char c => rfl
    | name name => exact absurd hpiece (h name)
  calc substituteList context cs
      = (pieces cs).flatMap (Piece.fill context) := rfl
    _ = (pieces cs).flatMap Piece.source := List.flatMap_congr hfill
    _ = cs := flatMap_source cs

end Copying

theorem toList_written (name : String) : (written name).toList = '{' :: name.toList ++ ['}'] := by
  simp [written]

theorem fill_name (context : Context) (name : String) :
    Piece.fill context (.name name.toList) = (replacement context name).toList := by
  rw [Piece.fill, String.ofList_toList, replacement]
  cases context.get? name with
  | none => rw [Piece.source, toList_written]
  | some value =>
    cases value with
    | _ => rfl

theorem substitute_written {name : String} (hname : IsName name) (context : Context)
    (before after : String) :
    substitute context (before ++ written name ++ after) =
      substitute context before ++ replacement context name ++ substitute context after := by
  obtain ⟨hne, hchars⟩ := isName_ofList_iff.1 ((String.ofList_toList (s := name)).symm ▸ hname)
  have hlist : (before ++ written name ++ after).toList =
      before.toList ++ '{' :: (name.toList ++ '}' :: after.toList) := by
    simp [toList_written]
  have hpieces : pieces (before ++ written name ++ after).toList =
      pieces before.toList ++ .name name.toList :: pieces after.toList := by
    rw [hlist, pieces_append, pieces_of_some (afterBrace?_name hne hchars after.toList)]
  rw [substitute, substituteList, hpieces, List.flatMap_append, List.flatMap_cons, fill_name]
  simp [substitute, substituteList, String.ofList_append, String.append_assoc]

/-- A placeholder is replaced whatever stands around it, and the texts on both sides are substituted
as by themselves. A text that holds no placeholder is left as it is. -/
theorem composition_of_substitute (context : Context) :
    (∀ t name u, IsName name →
      substitute context (t ++ written name ++ u) =
        substitute context t ++ replacement context name ++ substitute context u) ∧
    ∀ text, (∀ t name u, IsName name → text ≠ t ++ written name ++ u) →
      substitute context text = text := by
  refine ⟨fun t name u hname => substitute_written hname context t u, ?_⟩
  intro text hfree
  have hchars : ∀ name, .name name ∉ pieces text.toList := by
    intro name hmem
    obtain ⟨before, after, happend⟩ := exists_of_mem_pieces hmem
    have hname : IsName (String.ofList name) := isName_ofList_iff.2 (isName_of_mem_pieces hmem)
    apply hfree (String.ofList before) _ (String.ofList after) hname
    rw [← String.toList_inj, happend]
    simp [toList_written]
  rw [substitute, substituteList_of_char hchars, String.ofList_toList]

namespace Sample

def masked : Context := [("a", .string "\x7bb\x7d"), ("b", .bool true)]

theorem ne_of_no_close {text : String} (h : '}' ∉ text.toList) (t name u : String) :
    text ≠ t ++ written name ++ u := by
  rintro rfl
  apply h
  simp [written]

end Sample

theorem composition_of_sample_substitute :
    IsName "a" ∧ replacement Sample.masked "a" = "\x7bb\x7d" ∧
    substitute Sample.masked ("\x7b" ++ written "a" ++ "\x7bb") = "\x7b\x7bb\x7d\x7bb" := by
  have hname : IsName "a" := by simp [IsName]
  have hvalue : replacement Sample.masked "a" = "\x7bb\x7d" := rfl
  obtain ⟨hplaceholder, hplain⟩ := composition_of_substitute Sample.masked
  have hbefore : substitute Sample.masked "\x7b" = "\x7b" :=
    hplain "\x7b" fun t name u _ => Sample.ne_of_no_close (by decide) t name u
  have hafter : substitute Sample.masked "\x7bb" = "\x7bb" :=
    hplain "\x7bb" fun t name u _ => Sample.ne_of_no_close (by decide) t name u
  refine ⟨hname, hvalue, ?_⟩
  rw [hplaceholder _ "a" _ hname, hbefore, hafter, hvalue]
  rfl

end HttpScenario.Placeholder
