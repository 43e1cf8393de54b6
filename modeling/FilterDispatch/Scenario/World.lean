import FilterDispatch.Dispatcher.Host
import FilterDispatch.Scenario.Basic
import FilterDispatch.Stats

/-! The host that a scenario describes, with two observers: one keeps what it is told until that is
collected, the other counts. -/

namespace FilterDispatch.Scenario

structure World where
  frames : FrameTable
  siteKeys : List (Url × SiteKey)
  tables : List DeclaredTable
  notifications : List Notification := []
  stats : SessionStats := {}

/-- The observer that keeps notifications. -/
def keeper : ObserverId := 0

/-- The observer that counts. -/
def counter : ObserverId := 1

namespace World

def ofScenario (s : Scenario) : World where
  frames := s.frameTable
  siteKeys := s.siteKeys
  tables := s.ownTables
  stats := SessionStats.start {}

def resolve (id : FrameId) : Control World (Option LiveFrame) := fun w =>
  let (found, frames) := w.frames.resolve id
  .ok found { w with frames }

def observe (o : ObserverId) (n : Notification) (w : World) : World :=
  if o = keeper then { w with notifications := w.notifications ++ [n] }
  else if o = counter then { w with stats := w.stats.observe n }
  else w

instance : Host World where
  resolve := resolve
  ancestorChain frame := do return (← get).frames.ancestors frame.id
  findSiteKey urls := do return siteKeyIn (← get).siteKeys urls
  classifyInline call := do return classify (← get).tables call.snapshot call.url
  receive _ _ := return ()
  observe o n := modify (observe o n)
  owned _ o := o = keeper || o = counter

end World

end FilterDispatch.Scenario
