import Stateform.ControlPlane.Loader

/-!
# The snapshot server of the control plane

`server.go`, with the callers of `BroadcastSnapshot` in `admin/server.go` and
`main.go`: any number of `Subscribe` calls and of reload handlers, in any
interleaving. A step is what one goroutine does up to its next lock, channel or
`Send`; a `Send` is one atomic delivery that succeeds or fails. The three kinds
of reload handlers differ only in the reason they give.
-/

namespace Stateform.ControlPlane

open Library

/-! ## Subscribers -/

/-- `ConfigSnapshot`, without the time it was generated at. -/
structure Snapshot : Type where
  version : ℕ
  configYaml : Str
  reason : Str
deriving DecidableEq

/-- Where a `Subscribe` call is. `leaving` has returned but for its deferred
removal. -/
inductive CallStage : Type where
  | registered
  | sendingInitial (snapshot : Snapshot)
  | blocked
  | leaving
  | returned
deriving DecidableEq

/-- A `Subscribe` call with its stream: whether its `done` channel is closed, its
context is done, a `Send` on the stream has failed, and what was sent on it. -/
structure SubscribeCall : Type where
  id : Str
  stage : CallStage
  done : Bool
  disconnected : Bool
  failed : Bool
  sent : List Snapshot
deriving DecidableEq

def SubscribeCall.new (id : Str) : SubscribeCall := ⟨id, .registered, false, false, false, []⟩

/-! ## Reload handlers -/

/-- Where the goroutine of one subscriber is in a broadcast. -/
inductive SenderStage : Type where
  | sending
  | pushing
  | closing
  | sent
  | closed
deriving DecidableEq

structure Sender : Type where
  call : ℕ
  stage : SenderStage
deriving DecidableEq

/-- The goroutine has called `wg.Done`. -/
def Sender.over (sender : Sender) : Bool := sender.stage = .sent || sender.stage = .closed

/-- A broadcast under way, with what is in its `failed` channel. -/
structure Broadcast : Type where
  snapshot : Snapshot
  senders : List Sender
  failed : List Str
deriving DecidableEq

/-- Who triggers a reload. -/
inductive ReloadSource : Type where
  | grpc (initiatedBy : Str)
  | admin
  | k8s (reason : Str)
deriving DecidableEq

def ReloadSource.reason : ReloadSource → Str
  | .grpc initiatedBy => "admin reload by ".toList ++ initiatedBy
  | .admin => "admin api reload".toList
  | .k8s reason => reason

inductive HandlerStage : Type where
  | reloading
  | snapshotRead (snapshot : Snapshot)
  | broadcasting (b : Broadcast)
  | finished (b : Broadcast)
deriving DecidableEq

/-- A reload handler. Its `Reload` call has its number. -/
structure Handler : Type where
  source : ReloadSource
  stage : HandlerStage
deriving DecidableEq

/-- The broadcast a handler has begun. -/
def Handler.broadcast? (h : Handler) : Option Broadcast :=
  match h.stage with
  | .broadcasting b => some b
  | .finished b => some b
  | _ => none

/-- The snapshot a handler has read. -/
def Handler.snapshot? (h : Handler) : Option Snapshot :=
  match h.stage with
  | .reloading => none
  | .snapshotRead snapshot => some snapshot
  | .broadcasting b => some b.snapshot
  | .finished b => some b.snapshot

/-! ## The system -/

structure Server : Type where
  loading : Loading
  subscribers : StrMap ℕ
  calls : List SubscribeCall
  handlers : List Handler
  panicked : Bool

inductive SenderAction : Type where
  | send (ok : Bool)
  | push
  | close
deriving DecidableEq

inductive HandlerAction : Type where
  | current
  | list
  | sender (j : ℕ) (action : SenderAction)
  | finish
deriving DecidableEq

inductive CallAction : Type where
  | current
  | sendInitial (ok : Bool)
  | disconnect
  | wake
  | remove
deriving DecidableEq

/-- `load` is a step of a `Reload` call, or a write of the file by others. -/
inductive Event : Type where
  | load (e : LoadEvent)
  | reload (source : ReloadSource)
  | handler (k : ℕ) (action : HandlerAction)
  | subscribe (id : Str)
  | call (c : ℕ) (action : CallAction)
deriving DecidableEq

namespace Server

def init (file : Option Str) (loader : Loader) : Server where
  loading := .init file loader
  subscribers := ∅
  calls := []
  handlers := []
  panicked := false

/-- `Loader.Current`, made a snapshot of. -/
def currentSnapshot (s : Server) (reason : Str) : Snapshot :=
  ⟨s.loading.loader.version, s.loading.loader.rawYaml, reason⟩

def setCall (s : Server) (c : ℕ) (call : SubscribeCall) : Server :=
  { s with calls := s.calls.set c call }

def setStage (s : Server) (k : ℕ) (h : Handler) (stage : HandlerStage) : Server :=
  { s with handlers := s.handlers.set k { h with stage := stage } }

/-- A goroutine of a broadcast moves on. -/
def setSender (s : Server) (k : ℕ) (h : Handler) (b : Broadcast) (j : ℕ) (sender : Sender) :
    Server :=
  s.setStage k h (.broadcasting { b with senders := b.senders.set j sender })

/-- The broadcast of a snapshot to the subscribers of the moment. -/
def begun (s : Server) (snapshot : Snapshot) : Broadcast :=
  ⟨snapshot, s.subscribers.entries.map fun e => ⟨e.2, .sending⟩, []⟩

/-- What `BroadcastSnapshot` does with the subscribers it lists. -/
def listed (s : Server) (snapshot : Snapshot) : HandlerStage :=
  if (s.begun snapshot).senders = [] then .finished (s.begun snapshot)
  else .broadcasting (s.begun snapshot)

/-- A step of goroutine `j` of a broadcast. -/
def senderStep (s : Server) (k : ℕ) (h : Handler) (b : Broadcast) (j : ℕ) (sender : Sender)
    (call : SubscribeCall) : SenderAction → Option Server
  | .send ok =>
      if sender.stage = .sending then
        if ok then
          some ((s.setSender k h b j { sender with stage := .sent }).setCall sender.call
            { call with sent := call.sent ++ [b.snapshot] })
        else
          some ((s.setSender k h b j { sender with stage := .pushing }).setCall sender.call
            { call with failed := true })
      else none
  | .push =>
      -- the channel has room for one id of each goroutine
      if sender.stage = .pushing ∧ b.failed.length < b.senders.length then
        some (s.setSender k h { b with failed := b.failed ++ [call.id] } j
          { sender with stage := .closing })
      else none
  | .close =>
      if sender.stage = .closing then
        if call.done then some { s with panicked := true }
        else
          some ((s.setSender k h b j { sender with stage := .closed }).setCall sender.call
            { call with done := true })
      else none

/-- A step of handler `k`. -/
def handlerStep (s : Server) (k : ℕ) (h : Handler) : HandlerAction → Option Server
  | .current =>
      match h.stage, s.loading.reloads[k]? with
      | .reloading, some (.installed _) =>
          some (s.setStage k h (.snapshotRead (s.currentSnapshot h.source.reason)))
      | _, _ => none
  | .list =>
      match h.stage with
      | .snapshotRead snapshot => some (s.setStage k h (s.listed snapshot))
      | _ => none
  | .sender j action =>
      match h.stage with
      | .broadcasting b =>
          (b.senders[j]?).bind fun sender =>
            (s.calls[sender.call]?).bind fun call => s.senderStep k h b j sender call action
      | _ => none
  | .finish =>
      match h.stage with
      | .broadcasting b =>
          if b.senders.all Sender.over then
            some { s.setStage k h (.finished b) with
              subscribers := b.failed.foldl (fun m id => m.erase id) s.subscribers }
          else none
      | _ => none

/-- A step of `Subscribe` call `c`. -/
def callStep (s : Server) (c : ℕ) (call : SubscribeCall) : CallAction → Option Server
  | .current =>
      if call.stage = .registered then
        some (s.setCall c
          { call with stage := .sendingInitial (s.currentSnapshot "startup".toList) })
      else none
  | .sendInitial ok =>
      match call.stage with
      | .sendingInitial snapshot =>
          if ok then
            some (s.setCall c { call with stage := .blocked, sent := call.sent ++ [snapshot] })
          else some (s.setCall c { call with stage := .leaving, failed := true })
      | _ => none
  | .disconnect => some (s.setCall c { call with disconnected := true })
  | .wake =>
      if call.stage = .blocked ∧ (call.done = true ∨ call.disconnected = true) then
        some (s.setCall c { call with stage := .leaving })
      else none
  | .remove =>
      if call.stage = .leaving then
        some { s.setCall c { call with stage := .returned } with
          subscribers := s.subscribers.erase call.id }
      else none

section
variable (unmarshal : Str → Option GatewayConfig)

/-- One step of the control plane. A panic ends the process. -/
def step (s : Server) (event : Event) : Option Server :=
  if s.panicked then none
  else match event with
  | .load .start => none
  | .load e => (s.loading.step unmarshal e).map fun loading => { s with loading := loading }
  | .reload source =>
      (s.loading.step unmarshal .start).map fun loading =>
        { s with loading := loading, handlers := s.handlers ++ [⟨source, .reloading⟩] }
  | .handler k action => (s.handlers[k]?).bind fun h => s.handlerStep k h action
  | .subscribe id =>
      some { s with
        subscribers := s.subscribers.insert id s.calls.length
        calls := s.calls ++ [.new id] }
  | .call c action => (s.calls[c]?).bind fun call => s.callStep c call action

/-- The control plane after a list of events, if each could happen. -/
def run (file : Option Str) (loader : Loader) (events : List Event) : Option Server :=
  follow (step unmarshal) (init file loader) events

end

end Server

end Stateform.ControlPlane
