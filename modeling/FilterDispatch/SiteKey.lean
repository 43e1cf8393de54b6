/-! Site keys, which identify a page to the filters. -/

namespace FilterDispatch

structure SiteKey where
  text : String := ""
  deriving DecidableEq, Repr

def SiteKey.isEmpty (k : SiteKey) : Bool :=
  k.text.isEmpty

end FilterDispatch
