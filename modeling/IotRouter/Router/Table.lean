import Mathlib.Data.List.AList
import IotRouter.Grpc.Logic

/-!
# The routing table

The contents of the three locks of `RoutingTable` and what its methods do to
them once they hold the lock. A sender is named by the stream whose outbound
channel it feeds: every stream makes its own channel.
-/

namespace IotRouter.Router

open IotRouter.Grpc

/-- Names a stream, its outbound channel and every clone of its sender. -/
abbrev StreamId := Nat

/-- `HashMap<String, Sender>`. Its iteration order is arbitrary, so no
definition depends on the order of the entries. -/
abbrev EdgeMap := AList fun _ : String => StreamId

/-- The optional sender of the Manager or of Data. -/
abbrev Slot := Option StreamId

/-- An edge that is already present keeps its channel. -/
def ensureEdgeRegistered (edges : EdgeMap) (edgeId : String) (tx : StreamId) :
    EdgeMap × Bool :=
  if edgeId ∈ edges then (edges, false)
  else (edges.insert edgeId tx, true)

def unregisterEdge (edges : EdgeMap) (edgeId : String) : EdgeMap :=
  edges.erase edgeId

/-- `*slot.write().await = Some(tx)`. -/
def registerSlot (tx : StreamId) (_ : Slot) : Slot := some tx

/-- `*slot.write().await = None`. -/
def unregisterSlot (_ : Slot) : Slot := none

def registerManager (tx : StreamId) (manager : Slot) : Slot :=
  registerSlot tx manager

def unregisterManager (manager : Slot) : Slot :=
  unregisterSlot manager

def registerData (tx : StreamId) (data : Slot) : Slot :=
  registerSlot tx data

def unregisterData (data : Slot) : Slot :=
  unregisterSlot data

/-- The pairs `edges.iter()` goes through, in one of the possible orders. -/
def EdgeMap.pairs (edges : EdgeMap) : List (String × StreamId) :=
  edges.entries.map fun entry => (entry.1, entry.2)

/-- The error of `send_to_*` when nobody is registered. -/
def notConnectedError : RouterMessage → String
  | .toEdge destination _ =>
      "Error: edge con id: " ++ destination ++ " no encontrado"
  | .toManager _ => "Error: manager no conectado"
  | .toData _ => "Error: data no conectado"

/-- The error of `send_to_*` when the receiver of the channel is gone. -/
def closedError : RouterMessage → String
  | .toEdge destination _ =>
      "Error: canal con edge id: " ++ destination ++ " cerrado"
  | .toManager _ => "Error: canal con manager cerrado"
  | .toData _ => "Error: canal con data cerrado"

theorem lookup_ensureEdgeRegistered (edges : EdgeMap) (edgeId : String)
    (tx : StreamId) (key : String) :
    (ensureEdgeRegistered edges edgeId tx).1.lookup key =
      if key = edgeId then some ((edges.lookup edgeId).getD tx)
      else edges.lookup key := by
  simp only [ensureEdgeRegistered]
  by_cases present : edgeId ∈ edges
  · rcases Option.isSome_iff_exists.mp (AList.lookup_isSome.mpr present) with
      ⟨owner, owned⟩
    by_cases same : key = edgeId
    · subst same
      simp [present, owned]
    · simp [present, same]
  · by_cases same : key = edgeId
    · subst same
      simp [present, AList.lookup_eq_none.mpr present]
    · simp [present, same, AList.lookup_insert_ne]

theorem lookup_unregisterEdge (edges : EdgeMap) (edgeId key : String) :
    (unregisterEdge edges edgeId).lookup key =
      if key = edgeId then none else edges.lookup key := by
  simp only [unregisterEdge]
  by_cases same : key = edgeId
  · subst same
    simp
  · simp [same, AList.lookup_erase_ne]

theorem mem_pairs (edges : EdgeMap) (edgeId : String) (tx : StreamId) :
    (edgeId, tx) ∈ edges.pairs ↔ edges.lookup edgeId = some tx := by
  rw [← Option.mem_def, AList.mem_lookup_iff]
  simp [EdgeMap.pairs, Sigma.exists]

end IotRouter.Router
