import FilterDispatch.Dispatcher.Run
import FilterDispatch.Service.Desk

/-!
A dispatcher that clients reach through a channel.  One loop takes commands and outcomes, in
whatever order they come; a call is answered by its reply, or by the end of the loop.
-/

namespace FilterDispatch

inductive Command
  | popup (snapshot : Snapshot) (url : Url) (frame : FrameId)
  | request (snapshot : Snapshot) (url : Url) (contentType : ContentType) (frame : FrameId)
  | socketUpgrade (snapshot : Snapshot) (url : Url) (frame : FrameId)
  | response (snapshot : Snapshot) (url : Url) (contentType : ContentType) (frame : FrameId)
      (headers : Headers)
  | document (snapshot : Snapshot) (url : Url) (frame : FrameId)
  | rewrite (snapshot : Snapshot) (url : Url) (frame : FrameId)
  | addObserver (o : ObserverId)
  | removeObserver (o : ObserverId)
  | flush
  | shutdown

/-- The caller of any other command is done as soon as the command is in the channel. -/
def Command.wantsReply : Command → Bool
  | .popup .. | .request .. | .socketUpgrade .. | .response .. | .rewrite .. | .flush => true
  | .document .. | .addObserver _ | .removeObserver _ | .shutdown => false

/-- A command and the call that sent it. -/
structure Sent where
  call : CallId
  command : Command

inductive ServiceStatus
  | running
  | stopped
  | panicked (p : Panic)
  deriving DecidableEq, Repr

/-- What a caller knows of its call. -/
inductive CallStatus
  | outstanding
  | answered (r : Reply)
  | closed
  deriving DecidableEq, Repr

def closedMessage : String :=
  "Dispatcher service is closed"

/-- Commands in `arriving` wait for room in the channel. -/
structure Service (σ : Type) where
  dispatcher : Dispatcher (Desk σ)
  capacity : Nat
  handles : Nat := 1
  calls : List CallId := []
  abandoned : List CallId := []
  arriving : List Sent := []
  channel : List Sent := []
  flushWaiters : List CallId := []
  status : ServiceStatus := .running

namespace Service

variable {σ : Type}

/-- The channel takes one command at least; its places are permits too. -/
def spawn (maxConcurrent commandBuffer : Nat) (host : σ) : Except Panic (Service σ) :=
  match Dispatcher.new maxConcurrent { host } with
  | .error p => .error p
  | .ok dispatcher =>
    let capacity := max 1 commandBuffer
    if maxPermits < capacity then .error tooManyPermits else .ok { dispatcher, capacity }

def desk (s : Service σ) : Desk σ :=
  s.dispatcher.stage.host

def host (s : Service σ) : σ :=
  s.desk.host

def isRunning (s : Service σ) : Bool :=
  s.status = .running

def callStatus (s : Service σ) (call : CallId) : CallStatus :=
  match s.desk.reply? call with
  | some r => .answered r
  | none => if s.isRunning then .outstanding else .closed

def changeDesk (change : Desk σ → Desk σ) (s : Service σ) : Service σ :=
  { s with dispatcher := s.dispatcher.changeHost change }

def reply (call : CallId) (r : Reply) (s : Service σ) : Service σ :=
  s.changeDesk (Desk.put call r)

def changeHost (change : σ → σ) (s : Service σ) : Service σ :=
  s.changeDesk fun d => { d with host := change d.host }

/-- A call keeps a handle until it is answered or abandoned. -/
def isOpen (s : Service σ) (call : CallId) : Bool :=
  s.callStatus call = .outstanding && !s.abandoned.contains call

def hungUp (s : Service σ) : Bool :=
  s.handles = 0 && !s.calls.any s.isOpen

def send (call : CallId) (command : Command) (s : Service σ) : Service σ :=
  let s := { s with calls := call :: s.calls }
  if s.isRunning then { s with arriving := s.arriving ++ [⟨call, command⟩] } else s

/-- A command whose caller gave up before there was room for it is never sent. -/
def abandon (call : CallId) (s : Service σ) : Service σ :=
  { s with
    abandoned := call :: s.abandoned
    arriving := s.arriving.filter fun c => c.call ≠ call }

def cloneHandle (s : Service σ) : Service σ :=
  { s with handles := s.handles + 1 }

def dropHandle (s : Service σ) : Service σ :=
  { s with handles := s.handles - 1 }

/-- The first command that waits enters the channel if there is room. -/
def enqueue? (s : Service σ) : Option (Service σ) :=
  match s.arriving with
  | [] => none
  | c :: rest =>
    if s.isRunning && s.channel.length < s.capacity then
      let s := { s with arriving := rest, channel := s.channel ++ [c] }
      some (if c.command.wantsReply then s else s.reply c.call .done)
    else none

variable [Host σ]

/-- A panic on the control sequence ends the loop. -/
def onDispatcher (m : Control (Dispatcher (Desk σ)) Unit) (s : Service σ) : Service σ :=
  match m s.dispatcher with
  | .ok _ dispatcher => { s with dispatcher }
  | .error p dispatcher => { s with dispatcher, status := .panicked p }

def popup (call : CallId) (snapshot : Snapshot) (url : Url) (frame : FrameId)
    (s : Service σ) : Service σ :=
  match Dispatcher.popup snapshot url frame s.dispatcher with
  | .ok r dispatcher => reply call (.answer (.result r)) { s with dispatcher }
  | .error p dispatcher => { s with dispatcher, status := .panicked p }

def handle (c : Sent) (s : Service σ) : Service σ :=
  match c.command with
  | .popup snapshot url frame => s.popup c.call snapshot url frame
  | .request snapshot url contentType frame =>
    s.onDispatcher (Dispatcher.request snapshot url contentType frame c.call)
  | .socketUpgrade snapshot url frame =>
    s.onDispatcher (Dispatcher.socketUpgrade snapshot url frame c.call)
  | .response snapshot url contentType frame headers =>
    s.onDispatcher (Dispatcher.response snapshot url contentType frame headers c.call)
  | .document snapshot url frame => s.onDispatcher (Dispatcher.checkDocument snapshot url frame)
  | .rewrite snapshot url frame => s.onDispatcher (Dispatcher.rewrite snapshot url frame c.call)
  | .addObserver o => { s with dispatcher := s.dispatcher.addObserver o }
  | .removeObserver o => { s with dispatcher := s.dispatcher.removeObserver o }
  | .flush => { s with flushWaiters := s.flushWaiters ++ [c.call] }
  | .shutdown => { s with status := .stopped }

/-- With nothing in flight every flush is answered. -/
def answerFlushes (s : Service σ) : Service σ :=
  if s.isRunning && s.dispatcher.inFlight = 0 then
    { s.flushWaiters.foldl (fun s call => s.reply call .done) s with flushWaiters := [] }
  else s

def takeCommand? (s : Service σ) : Option (Service σ) :=
  match s.channel with
  | [] => none
  | c :: rest =>
    if s.isRunning then some (({ s with channel := rest }).handle c).answerFlushes else none

def takeOutcome? (s : Service σ) : Option (Service σ) :=
  if s.isRunning then
    match s.dispatcher.queue.next with
    | .taken f queue =>
      some
        (({ s with dispatcher := { s.dispatcher with queue } }).onDispatcher
          (Dispatcher.complete f)).answerFlushes
    | _ => none
  else none

/-- The loop ends when the channel is empty and nobody can fill it. -/
def hangUp? (s : Service σ) : Option (Service σ) :=
  if s.isRunning && s.channel.isEmpty && s.arriving.isEmpty && s.hungUp then
    some { s with status := .stopped }
  else none

end Service

end FilterDispatch
