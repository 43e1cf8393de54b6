/-! The kinds of resource a page loads. -/

namespace FilterDispatch

inductive ContentType
  | other | script | image | stylesheet | object | subdocument | document | websocket | webrtc
  | ping | xmlhttprequest | media | font | popup
  deriving DecidableEq, Repr

namespace ContentType

/-- Position in the order of kinds. -/
def rank : ContentType → Nat
  | .other => 0
  | .script => 1
  | .image => 2
  | .stylesheet => 3
  | .object => 4
  | .subdocument => 5
  | .document => 6
  | .websocket => 7
  | .webrtc => 8
  | .ping => 9
  | .xmlhttprequest => 10
  | .media => 11
  | .font => 12
  | .popup => 13

def text : ContentType → String
  | .other => "other"
  | .script => "script"
  | .image => "image"
  | .stylesheet => "stylesheet"
  | .object => "object"
  | .subdocument => "subdocument"
  | .document => "document"
  | .websocket => "websocket"
  | .webrtc => "webrtc"
  | .ping => "ping"
  | .xmlhttprequest => "xmlhttprequest"
  | .media => "media"
  | .font => "font"
  | .popup => "popup"

/-- Every token names a kind: those without a name of their own are `other`. -/
def ofToken : String → ContentType
  | "main_frame" | "document" => .document
  | "sub_frame" | "subdocument" => .subdocument
  | "stylesheet" | "css" => .stylesheet
  | "script" | "js" => .script
  | "image" | "img" => .image
  | "font" => .font
  | "object" => .object
  | "xmlhttprequest" | "xhr" | "fetch" => .xmlhttprequest
  | "ping" | "beacon" => .ping
  | "media" => .media
  | "websocket" | "ws" => .websocket
  | "webrtc" => .webrtc
  | "popup" => .popup
  | _ => .other

def sorted (kinds : List ContentType) : List ContentType :=
  kinds.mergeSort fun a b => a.rank ≤ b.rank

theorem ofToken_text (c : ContentType) : ofToken c.text = c := by
  cases c <;> rfl

end ContentType

end FilterDispatch
