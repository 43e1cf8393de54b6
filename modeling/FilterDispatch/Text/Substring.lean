/-! Texts inside other texts. -/

namespace FilterDispatch.Text

/-- Whether the characters stand side by side somewhere in the text. -/
def isInside (part : List Char) : List Char → Bool
  | [] => part.isEmpty
  | c :: rest => part.isPrefixOf (c :: rest) || isInside part rest

def occursIn (part s : String) : Bool :=
  isInside part.toList s.toList

theorem isInside_iff {part s : List Char} : isInside part s = true ↔ part <:+: s := by
  induction s with
  | nil => simp [isInside]
  | cons c rest ih => simp [isInside, ih, List.infix_cons_iff]

end FilterDispatch.Text
