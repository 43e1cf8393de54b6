import FilterDispatch.Classification
import FilterDispatch.ContentType
import FilterDispatch.Frame

/-! What observers are told. -/

namespace FilterDispatch

structure AdMatched where
  url : Url
  result : MatchResult
  ancestors : List Url
  contentType : ContentType
  frame : LiveFrame
  subscription : Url
  deriving DecidableEq, Repr

structure PageAllowed where
  url : Url
  frame : LiveFrame
  subscription : Url
  deriving DecidableEq, Repr

structure PopupMatched where
  url : Url
  result : MatchResult
  /-- The page that opened the popup, if its frame has an ancestor. -/
  opener : Option Url
  frame : LiveFrame
  subscription : Url
  deriving DecidableEq, Repr

inductive Notification
  | adMatched (event : AdMatched)
  | pageAllowed (event : PageAllowed)
  | popupMatched (event : PopupMatched)
  deriving DecidableEq, Repr

end FilterDispatch
