import FilterDispatch.Classification
import FilterDispatch.ContentType
import FilterDispatch.Headers
import FilterDispatch.Snapshot

/-! The filter engine: what it is asked, and its answer as a function of the question. -/

namespace FilterDispatch

inductive EngineCall
  | request (snapshot : Snapshot) (url : Url) (ancestors : List Url) (contentType : ContentType)
      (siteKey : SiteKey)
  | response (snapshot : Snapshot) (url : Url) (ancestors : List Url) (contentType : ContentType)
      (headers : Headers)
  | popup (snapshot : Snapshot) (url : Url) (ancestors : List Url) (siteKey : SiteKey)

namespace EngineCall

def snapshot : EngineCall → Snapshot
  | .request s .. | .response s .. | .popup s .. => s

def url : EngineCall → Url
  | .request _ u .. | .response _ u .. | .popup _ u .. => u

end EngineCall

/-- An engine classifies or panics. -/
structure Engine where
  classify : EngineCall → Except Panic Classification

end FilterDispatch
