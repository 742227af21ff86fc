import HttpScenario.Proofs.Fields
import HttpScenario.Proofs.Template.Composition

/-! Substitution in stages. Where a closing brace stands between any two that open, and what is
inserted holds no brace, the placeholders of a text that was filled are those that were left in it: a
second stage then does what a single one would do with the variables of both. -/

namespace HttpScenario.Placeholder

variable {earlier later overlaid : Context} {cs front rest more : List Char}

/-- A closing brace stands between any two that open. -/
def Separated (cs : List Char) : Prop :=
  ∀ before between after, cs = before ++ '{' :: between ++ '{' :: after → '}' ∈ between

def Braceless (text : String) : Prop := '{' ∉ text.toList ∧ '}' ∉ text.toList

instance (text : String) : Decidable (Braceless text) := inferInstanceAs (Decidable (_ ∧ _))

def Overlaid (below above both : Context) : Prop :=
  ∀ name, both.get? name = (above.get? name).or (below.get? name)

theorem overlaid_merge {above : Context} (h : above.names.Nodup) (below : Context) :
    Overlaid below above (Fields.merge below above) := by
  intro name
  rw [Fields.get?_merge, Fields.get?_reverse h]

theorem overlaid_self (context : Context) : Overlaid context context context := by
  intro name
  cases context.get? name <;> rfl

section Braces

theorem Separated.of_append (h : Separated (front ++ cs)) : Separated cs := by
  rintro before between after rfl
  have happend : front ++ (before ++ '{' :: between ++ '{' :: after) =
      front ++ before ++ '{' :: between ++ '{' :: after := by simp
  exact h (front ++ before) between after happend

theorem Separated.tail {c : Char} (h : Separated (c :: cs)) : Separated cs := by
  have happend : Separated ([c] ++ cs) := h
  exact happend.of_append

theorem eq_take_append {i : Nat} {c : Char} (h : cs[i]? = some c) :
    cs = cs.take i ++ c :: cs.drop (i + 1) := by
  obtain ⟨hi, rfl⟩ := List.getElem?_eq_some_iff.mp h
  rw [← List.drop_eq_getElem_cons hi, List.take_append_drop]

theorem separated_iff : Separated cs ↔ ∀ i < cs.length, ∀ j < i,
    cs[j]? = some '{' ∧ cs[i]? = some '{' → '}' ∈ (cs.take i).drop (j + 1) := by
  constructor
  · rintro h i - j hj ⟨hfirst, hsecond⟩
    have hbefore : (cs.take i)[j]? = some '{' := by rw [List.getElem?_take_of_lt hj, hfirst]
    apply h ((cs.take i).take j) _ (cs.drop (i + 1))
    rw [← eq_take_append hbefore, ← eq_take_append hsecond]
  · rintro h before between after rfl
    have htake : (before ++ '{' :: between ++ '{' :: after).take (before ++ '{' :: between).length =
        before ++ '{' :: between := List.take_left
    have hbetween := h (before ++ '{' :: between).length (by simp) before.length (by simp)
      ⟨by simp, by simp⟩
    rw [htake] at hbetween
    simpa using hbetween

instance : Decidable (Separated cs) := decidable_of_iff _ separated_iff.symm

theorem Separated.not_mem_open (h : Separated ('{' :: (front ++ rest))) (hclose : '}' ∉ front) :
    '{' ∉ front := by
  intro hopen
  obtain ⟨between, after, rfl⟩ := List.append_of_mem hopen
  have hsplit : '{' :: (between ++ '{' :: after ++ rest) =
      [] ++ '{' :: between ++ '{' :: (after ++ rest) := by simp
  have hbetween : '}' ∈ between := h [] between (after ++ rest) hsplit
  exact hclose (List.mem_append_left _ hbetween)

theorem substituteList_cons (context : Context) {c : Char} (h : c = '{' → afterBrace? cs = none) :
    substituteList context (c :: cs) = c :: substituteList context cs := by
  rw [substituteList, pieces_of_none h]
  rfl

theorem pieces_append_of_not_mem (h : '{' ∉ front) (cs : List Char) :
    pieces (front ++ cs) = front.map .char ++ pieces cs := by
  induction front with
  | nil => rfl
  | cons c front ih =>
    obtain ⟨hc, hfront⟩ := List.ne_and_not_mem_of_not_mem_cons h
    rw [List.cons_append, pieces_of_none fun hopen => absurd hopen.symm hc, ih hfront]
    rfl

theorem flatMap_fill_char (context : Context) (cs : List Char) :
    (cs.map Piece.char).flatMap (Piece.fill context) = cs := by
  rw [List.flatMap_map]
  exact List.flatMap_singleton' cs

theorem substituteList_append_of_not_mem (context : Context) (h : '{' ∉ front) (cs : List Char) :
    substituteList context (front ++ cs) = front ++ substituteList context cs := by
  rw [substituteList, pieces_append_of_not_mem h, List.flatMap_append, flatMap_fill_char]
  rfl

theorem substituteList_of_not_mem (context : Context) (h : '{' ∉ cs) :
    substituteList context cs = cs := by
  have hnil : substituteList context [] = [] := by rw [substituteList, pieces]; rfl
  have happend := substituteList_append_of_not_mem context h []
  rwa [hnil, List.append_nil] at happend

theorem takeWhile_append_close (h : '}' ∉ front) (rest : List Char) :
    (front ++ '}' :: rest).takeWhile (· ≠ '}') = front := by
  have hall : ∀ c ∈ front, decide (c ≠ '}') = true := fun c hc =>
    decide_eq_true fun heq => h (heq ▸ hc)
  rw [List.takeWhile_append_of_pos hall, List.takeWhile_cons_of_neg (by decide), List.append_nil]

/-- Whether a name stands behind a brace is settled by what comes before the first that closes. -/
theorem afterBrace?_close_eq_none (hfront : '}' ∉ front)
    (h : afterBrace? (front ++ '}' :: rest) = none) (more : List Char) :
    afterBrace? (front ++ '}' :: more) = none := by
  rw [Option.eq_none_iff_forall_ne_some]
  rintro ⟨name, left⟩ hsome
  obtain ⟨hsplit, hne, hname⟩ := eq_of_afterBrace? hsome
  have hclose : '}' ∉ name := fun hmem => absurd (hname _ hmem) (by decide)
  have hsame : front = name := by
    rw [← takeWhile_append_close hfront more, hsplit, takeWhile_append_close hclose]
  rw [hsame, afterBrace?_name hne hname] at h
  cases h

theorem afterBrace?_substituteList (hseparated : Separated ('{' :: cs)) (h : afterBrace? cs = none)
    (context : Context) : afterBrace? (substituteList context cs) = none := by
  by_cases hclose : '}' ∈ cs
  · obtain ⟨front, tail, rfl, hfront⟩ := List.eq_append_cons_of_mem hclose
    have hopen : '{' ∉ front := hseparated.not_mem_open hfront
    have hbrace : '}' ≠ '{' := by decide
    rw [substituteList_append_of_not_mem context hopen,
      substituteList_cons context fun h => absurd h hbrace]
    exact afterBrace?_close_eq_none hfront h _
  · have hopen : '{' ∉ cs := by
      rw [← List.append_nil cs] at hseparated
      exact hseparated.not_mem_open hclose
    rw [substituteList_of_not_mem context hopen, h]

end Braces

section Stages

def Piece.staged (context : Context) : Piece → List Piece
  | .char c => [.char c]
  | .name cs =>
    match context.get? (String.ofList cs) with
    | some value => value.plainText.toList.map .char
    | none => [.name cs]

theorem pieces_fill_append {name : List Char}
    (hvalues : ∀ entry ∈ earlier, Braceless entry.2.plainText) (hne : name ≠ [])
    (hname : ∀ c ∈ name, isNameChar c = true) (rest : List Char) :
    pieces (Piece.fill earlier (.name name) ++ rest) =
      Piece.staged earlier (.name name) ++ pieces rest := by
  rw [Piece.fill, Piece.staged]
  cases hvalue : earlier.get? (String.ofList name) with
  | some value =>
    have hbraceless : Braceless value.plainText := hvalues _ (Fields.mem_of_get? hvalue)
    exact pieces_append_of_not_mem hbraceless.1 rest
  | none =>
    have hsource : Piece.source (.name name) ++ rest = '{' :: (name ++ '}' :: rest) := by
      simp [Piece.source]
    show pieces (Piece.source (.name name) ++ rest) = .name name :: pieces rest
    rw [hsource, pieces_of_some (afterBrace?_name hne hname rest)]

/-- The pieces of a text that was filled, by a scan of the text as it was. -/
theorem pieces_substituteList (hvalues : ∀ entry ∈ earlier, Braceless entry.2.plainText)
    (hseparated : Separated cs) :
    pieces (substituteList earlier cs) = (pieces cs).flatMap (Piece.staged earlier) := by
  -- Only a brace that opens no placeholder could open one once what stands behind it is filled.
  fun_induction pieces cs with
  | case1 => rw [substituteList_of_not_mem earlier List.not_mem_nil, pieces]; rfl
  | case2 cs name left hfound ih =>
    obtain ⟨rfl, hne, hname⟩ := eq_of_afterBrace? hfound
    have hleft : Separated left := by
      have happend : '{' :: (name ++ '}' :: left) = '{' :: name ++ ['}'] ++ left := by simp
      rw [happend] at hseparated
      exact hseparated.of_append
    have hfill : substituteList earlier ('{' :: (name ++ '}' :: left)) =
        Piece.fill earlier (.name name) ++ substituteList earlier left := by
      rw [substituteList, pieces_of_some hfound]
      rfl
    rw [hfill, pieces_fill_append hvalues hne hname, ih hleft]
    rfl
  | case3 cs hnone ih =>
    have hleft := afterBrace?_substituteList hseparated hnone earlier
    rw [substituteList_cons earlier fun _ => hnone, pieces_of_none fun _ => hleft,
      ih hseparated.tail]
    rfl
  | case4 c cs hopen ih =>
    rw [substituteList_cons earlier fun h => absurd h hopen,
      pieces_of_none fun h => absurd h hopen, ih hseparated.tail]
    rfl

theorem flatMap_fill_staged (hoverlaid : Overlaid later earlier overlaid) (piece : Piece) :
    (piece.staged earlier).flatMap (Piece.fill later) = piece.fill overlaid := by
  cases piece with
  | char c => rfl
  | name cs =>
    rw [Piece.staged, Piece.fill, hoverlaid]
    cases earlier.get? (String.ofList cs) with
    | some value => exact flatMap_fill_char later value.plainText.toList
    | none => exact List.flatMap_singleton (Piece.fill later) _

theorem substituteList_substituteList (hvalues : ∀ entry ∈ earlier, Braceless entry.2.plainText)
    (hseparated : Separated cs) (hoverlaid : Overlaid later earlier overlaid) :
    substituteList later (substituteList earlier cs) = substituteList overlaid cs := by
  have hfill : ∀ piece ∈ pieces cs,
      (piece.staged earlier).flatMap (Piece.fill later) = piece.fill overlaid :=
    fun piece _ => flatMap_fill_staged hoverlaid piece
  calc substituteList later (substituteList earlier cs)
      = ((pieces cs).flatMap (Piece.staged earlier)).flatMap (Piece.fill later) := by
        rw [substituteList, pieces_substituteList hvalues hseparated]
    _ = (pieces cs).flatMap fun piece => (piece.staged earlier).flatMap (Piece.fill later) :=
        List.flatMap_assoc
    _ = substituteList overlaid cs := List.flatMap_congr hfill

end Stages

/-- Filling a text in two stages fills it with the variables of both, those of the first stage before
those of the second. So a second stage with the same variables changes nothing, and one with others
fills the placeholders that the first one left. -/
theorem staging_of_substitute {text : String} {earlier : Context}
    (hseparated : Separated text.toList)
    (hvalues : ∀ entry ∈ earlier, Braceless entry.2.plainText) :
    (∀ later overlaid, Overlaid later earlier overlaid →
      substitute later (substitute earlier text) = substitute overlaid text) ∧
    substitute earlier (substitute earlier text) = substitute earlier text ∧
    ∀ later before name after, IsName name → earlier.get? name = none →
      text = before ++ written name ++ after →
      substitute later (substitute earlier text) =
        substitute later (substitute earlier before) ++ replacement later name ++
          substitute later (substitute earlier after) := by
  have hstages : ∀ later overlaid, Overlaid later earlier overlaid →
      substitute later (substitute earlier text) = substitute overlaid text := by
    intro later overlaid hoverlaid
    have hlist := substituteList_substituteList hvalues hseparated hoverlaid
    rw [substitute, substitute, String.toList_ofList, hlist]
    rfl
  refine ⟨hstages, hstages earlier earlier (overlaid_self earlier), ?_⟩
  rintro later before name after hname hunknown rfl
  have hleft : replacement earlier name = written name := by rw [replacement, hunknown]
  rw [substitute_written hname, hleft, substitute_written hname]

namespace Sample

def path : String := "\x7ba \x7d/\x7ba\x7d/\x7bb\x7d\x7b"

def given : Context := [("a", .string "1"), ("c", .null)]

def extracted : Context := [("b", .bool true), ("a", .string "0")]

end Sample

theorem staging_of_sample_substitute :
    Separated Sample.path.toList ∧
    (∀ entry ∈ Sample.given, Braceless entry.2.plainText) ∧
    substitute Sample.extracted (substitute Sample.given Sample.path) =
      substitute [("b", .bool true), ("a", .string "1"), ("c", .null)] Sample.path ∧
    substitute Sample.given (substitute Sample.given Sample.path) =
      substitute Sample.given Sample.path := by
  have hseparated : Separated Sample.path.toList := by decide
  have hvalues : ∀ entry ∈ Sample.given, Braceless entry.2.plainText := by decide
  have hnames : (Fields.names Sample.given).Nodup := by decide
  have hmerge : Fields.merge Sample.extracted Sample.given =
      [("b", .bool true), ("a", .string "1"), ("c", .null)] := rfl
  obtain ⟨hstages, honce, -⟩ := staging_of_substitute hseparated hvalues
  have htwice := hstages Sample.extracted _ (overlaid_merge hnames Sample.extracted)
  rw [hmerge] at htwice
  exact ⟨hseparated, hvalues, htwice, honce⟩

end HttpScenario.Placeholder
