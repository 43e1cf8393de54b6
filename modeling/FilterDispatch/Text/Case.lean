/-! Names that compare without regard to the case of ASCII letters. -/

namespace FilterDispatch.Text

/-- Every ASCII capital becomes its small letter and every other character stays. -/
def foldCase (s : List Char) : List Char :=
  s.map Char.toLower

def sameIgnoringCase (s t : String) : Bool :=
  foldCase s.toList == foldCase t.toList

theorem sameIgnoringCase_iff {s t : String} :
    sameIgnoringCase s t = true ↔ foldCase s.toList = foldCase t.toList := by
  simp [sameIgnoringCase]

end FilterDispatch.Text
