import Mathlib.Logic.Function.Basic
import IotRouter.Runtime.Channel
import IotRouter.Runtime.RwLock
import IotRouter.Https.Telemetry
import IotRouter.Router.Table

/-!
# State of the whole router

The tasks and what they share: the central channel, the three locks of the
routing table, one inbound task and one outbound channel for every gRPC stream,
one handler for every posted alert, and the dispatcher. Streams and requests are
numbered without bound; a number that has not connected yet is `idle`.

A task is represented by the `await` it is suspended at. Between two awaits the
code runs without interference, so one step takes a task from one await to the
next.

Some fields only record history: `Tagged` remembers where a message comes from,
`sent` and `received` what a client sent and its task took, `log` the order of
the table writes, `dispatched` what the dispatcher finished. No step reads them.
-/

namespace IotRouter.Router

open IotRouter.Grpc IotRouter.Https IotRouter.Runtime

/-- Who put a message into the central channel. -/
inductive Source where
  | edge (stream : StreamId)
  | manager (session : StreamId)
  | data (session : StreamId)
  | http (request : Nat)
  deriving DecidableEq, Repr

/-- A message with its provenance: its source and its position among the
messages the source's task took. -/
structure Tagged (α : Type) where
  source : Source
  index : Nat
  value : α
  deriving DecidableEq, Repr

/-- Relabel the message and keep its provenance. -/
def Tagged.as {α β : Type} (message : Tagged α) (value : β) : Tagged β :=
  { message with value }

/-- The tasks that use a lock of the table. -/
inductive Party where
  | dispatcher
  | stream (id : StreamId)
  deriving DecidableEq, Repr

/-- `mpsc::channel::<RouterMessage>(1000)` in `main`. -/
abbrev Central := Channel 1000 (Tagged RouterMessage)

/-- Both directions of one gRPC stream, and the local state of its inbound
task. -/
structure Stream (Task In Out : Type) where
  task : Task
  /-- Messages the client sent and the task has not taken. -/
  inbound : List In
  /-- The client neither closed its direction nor broke the connection. -/
  inboundOpen : Bool
  /-- `mpsc::channel(100)`, whose receiver feeds the response stream. -/
  outbound : Channel 100 (Tagged Out)
  sent : List In
  received : List In

/-- A stream before or right after its connection. -/
def Stream.fresh {Task : Type} (In Out : Type) (task : Task) :
    Stream Task In Out where
  task
  inbound := []
  inboundOpen := true
  outbound := .empty
  sent := []
  received := []

/-- What the client side of a stream can do. `reset` is a transport failure:
what the task has not taken is lost and the next read is an error. -/
inductive ClientAction (In : Type) where
  | send (msg : In)
  | close
  | reset
  | drain
  | dropReceiver
  deriving DecidableEq, Repr

/-- What can happen to a stream: its connection, the cancellation of a handler
that has not returned, a client action, or a step of its task. -/
inductive StreamAction (In : Type) where
  | connect
  | abort
  | client (action : ClientAction In)
  | task
  deriving DecidableEq, Repr

/-- One lock of the routing table together with the streams that write to it.
`log` is the order of the writes. -/
structure Side (Value Task In Out Op : Type) where
  lock : RwLock Party Value
  streams : StreamId → Stream Task In Out
  log : List Op

/-! ## Edge streams -/

/-- The awaits of the inbound task of an edge stream. -/
inductive EdgePc where
  | idle
  /-- `inbound_stream.next().await` -/
  | next
  /-- `edges.write().await` in `ensure_edge_registered` -/
  | registering (index : Nat) (msg : FromEdge)
  /-- `central_tx.send(..).await` in `process_from_edge` -/
  | forwarding (message : Tagged RouterMessage)
  /-- `edges.write().await` in `unregister_edge` -/
  | unregistering (edgeId : String)
  | done
  deriving DecidableEq, Repr

structure EdgeTask where
  pc : EdgePc
  connectedEdgeId : Option String
  deriving DecidableEq, Repr

/-- A write to the map of edges: a message passed `ensure_edge_registered`, or a
stream ran its final `unregister_edge`. -/
inductive EdgeOp where
  | announced (stream : StreamId) (index : Nat) (edgeId : String)
  | unregistered (stream : StreamId) (edgeId : String)
  deriving DecidableEq, Repr

abbrev EdgeStream := Stream EdgeTask FromEdge ToEdge
abbrev EdgeSide := Side EdgeMap EdgeTask FromEdge ToEdge EdgeOp

/-! ## Manager and Data sessions -/

/-- The awaits of `connect_stream` and of the inbound task it spawns. -/
inductive SessionTask where
  | idle
  /-- `slot.write().await` in `register_*`, before the task is spawned -/
  | registering
  | next
  | forwarding (message : Tagged RouterMessage)
  /-- `slot.write().await` in `unregister_*` -/
  | unregistering
  | done
  deriving DecidableEq, Repr

inductive SlotOp where
  | registered (session : StreamId)
  | unregistered (session : StreamId)
  deriving DecidableEq, Repr

abbrev SlotSide (In Out : Type) := Side Slot SessionTask In Out SlotOp

/-- What distinguishes the Manager service from the Data service. -/
structure SlotService (In : Type) where
  source : StreamId → Source
  process : In → Option RouterMessage
  register : StreamId → Slot → Slot
  unregister : Slot → Slot
  register_eq : ∀ tx slot, register tx slot = some tx
  unregister_eq : ∀ slot, unregister slot = none

def managerService : SlotService FromManager where
  source := .manager
  process := processFromManager
  register := registerManager
  unregister := unregisterManager
  register_eq _ _ := rfl
  unregister_eq _ := rfl

def dataService : SlotService FromDataSaver where
  source := .data
  process := processFromData
  register := registerData
  unregister := unregisterData
  register_eq _ _ := rfl
  unregister_eq _ := rfl

/-! ## Posted alerts -/

/-- The awaits and the endings of `handle_telemetry`. -/
inductive HttpTask where
  | idle
  /-- `central_tx.send(..).await` -/
  | sending (message : RouterMessage)
  | replied (reply : Except AppError String)
  /-- cancelled by the timeout layer while it waited -/
  | timedOut

structure HttpRequest where
  task : HttpTask
  /-- The message of this request, once its body has been decoded. -/
  posted : List RouterMessage

inductive HttpAction where
  | post (body : Body)
  | task
  | timeout
  deriving DecidableEq, Repr

/-! ## The dispatcher -/

/-- The awaits of `dispatcher_task`, and the message it is working on. -/
inductive Dispatcher where
  /-- `rx.recv().await` -/
  | receiving
  /-- `lock.read().await` in `send_to_*` or in the broadcast -/
  | lookingUp (message : Tagged RouterMessage)
  /-- `tx.send(..).await` in `send_to_*`, holding the read guard -/
  | sending (message : Tagged RouterMessage) (tx : StreamId)
  /-- `tx.send(..).await` in the broadcast, holding the read guard: the entries
  still to be served and the number of edges served -/
  | broadcasting (message : Tagged RouterMessage) (heartbeat : Heartbeat)
      (rest : List (String × StreamId)) (sentCount : Nat)
  deriving DecidableEq, Repr

/-- What the dispatcher gets back: the result of `send_to_*`, or the number of
edges a broadcast reached. -/
inductive DispatchResult where
  | unicast (result : Except String Unit)
  | broadcast (sentCount : Nat)

structure Dispatch where
  message : Tagged RouterMessage
  result : DispatchResult

/-- The whole router. -/
structure State where
  central : Central
  edges : EdgeSide
  manager : SlotSide FromManager ToManager
  data : SlotSide FromDataSaver ToDataSaver
  http : Nat → HttpRequest
  dispatcher : Dispatcher
  dispatched : List Dispatch

/-- Every stream connects, every task runs and every client acts on its own;
`order` is the iteration order of the map if the dispatcher starts a broadcast
at this step. -/
inductive Action where
  | edge (stream : StreamId) (action : StreamAction FromEdge)
  | manager (session : StreamId) (action : StreamAction FromManager)
  | data (session : StreamId) (action : StreamAction FromDataSaver)
  | http (request : Nat) (action : HttpAction)
  | dispatcher (order : List (String × StreamId))
  deriving DecidableEq, Repr

end IotRouter.Router
