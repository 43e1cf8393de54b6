import FilterDispatch.Scenario.Basic
import FilterDispatch.Service.Basic

/-! Made-up requests in any number, every fourth of them for an advertisement. -/

namespace FilterDispatch.Stress

open Scenario (File FrameDecl CollectionDecl)

def siteText (r : Nat) : String :=
  "https://site" ++ Text.natText r ++ ".example/"

def frameDecl (r : Nat) : FrameDecl where
  id := "1:" ++ Text.natText r
  url := siteText r ++ "frame.html"
  ancestors := [siteText r]

def collectionDecl : CollectionDecl where
  subscription := "https://easylist.com/list.txt"
  block := ["/ads/"]
  allow := ["/ads/acceptable/"]

def file (frames : Nat) : File where
  frames := (List.range frames).map frameDecl
  collections := [collectionDecl]

/-- So many frames and one collection. -/
def scenario (frames : Nat) : Except Scenario.Fault Scenario :=
  Scenario.ofFile (file frames)

def urlText (n : Nat) : String :=
  let path := if n % 4 = 0 then "ads/banner" else "static/img"
  "https://cdn" ++ Text.natText (n % 16) ++ ".example/" ++ path ++ "/" ++ Text.natText n ++ ".png"

def url (n : Nat) : Except Url.Fault Url :=
  Url.parse (urlText n)

/-- Requests go to the frames in turn. -/
def frameOf (frames n : Nat) : FrameId :=
  ⟨1, Int32.ofNat (n % frames)⟩

def command (s : Snapshot) (frames n : Nat) : Except Url.Fault Sent := do
  return ⟨n, .request s (← url n) .image (frameOf frames n)⟩

def commands (s : Snapshot) (requests frames : Nat) : Except Url.Fault (List Sent) :=
  (List.range requests).mapM (command s frames)

end FilterDispatch.Stress
