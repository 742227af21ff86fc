/-! Whether a text is part of another. -/

namespace HttpScenario.Text

def holdsList (part : List Char) : List Char → Bool
  | [] => part.isEmpty
  | c :: cs => part.isPrefixOf (c :: cs) || holdsList part cs

theorem holdsList_iff {part cs : List Char} : holdsList part cs = true ↔ part <:+: cs := by
  induction cs with
  | nil => simp [holdsList]
  | cons c cs ih => simp [holdsList, ih, List.infix_cons_iff]

def holds (text part : String) : Bool := holdsList part.toList text.toList

end HttpScenario.Text
