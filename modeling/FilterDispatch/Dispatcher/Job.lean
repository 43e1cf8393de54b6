import FilterDispatch.Dispatcher.Host
import FilterDispatch.Queue

/-! Background work of a dispatcher: a job carries all that its evaluation depends on. -/

namespace FilterDispatch

inductive Job
  | classify (call : EngineCall)
  | allowlist (snapshot : Snapshot) (url : Url)
  | rewrite (snapshot : Snapshot) (url : Url) (ancestors : List Url)

inductive JobOutput
  | classified (c : Classification)
  | allowlisted (subscription : Option Url)
  | rewritten (target : Option Url)
  deriving DecidableEq, Repr

/-- A call of the engine or of a collection. -/
inductive BackgroundCall
  | engine (call : EngineCall)
  | collection (asked : Asked)

def Job.evaluate (engine : Engine) : Job → Evaluation BackgroundCall JobOutput
  | .classify call => .call (.engine call) ((engine.classify call).map .classified)
  | .allowlist snapshot url =>
    ((snapshot.documentAllowlistedBy url).mapCalls .collection).map .allowlisted
  | .rewrite snapshot url ancestors =>
    ((snapshot.firstRewriteTarget url ancestors).mapCalls .collection).map .rewritten

def Job.run (engine : Engine) (job : Job) : Except Panic JobOutput :=
  (job.evaluate engine).outcome

/-- What is kept of a call until its job is done. -/
structure Resource where
  url : Url
  ancestors : List Url
  contentType : ContentType
  frame : FrameId
  callback : CallId
  deriving DecidableEq, Repr

inductive Pending
  | resource (r : Resource)
  | document (url : Url) (frame : FrameId)
  | rewrite (url : Url) (callback : CallId)
  deriving DecidableEq, Repr

end FilterDispatch
