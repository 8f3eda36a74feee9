import IotRouter.Router.Inversion
import IotRouter.Runtime.Cast

/-!
# From posted alerts to messages for Data

Both conversions of `handle_telemetry` copy every field and cast the timestamp,
which the MessagePack schema has unsigned and the proto schema signed. The cast
keeps the bits: timestamps of `2 ^ 63` and more arrive negative.
-/

namespace IotRouter.Https

open IotRouter.Grpc (RouterMessage)
open IotRouter.Runtime IotRouter.Router

/-- What the decoders of `handle_telemetry` can yield. -/
inductive Alert where
  | air (alert : AlertAir)
  | th (alert : AlertTh)
  deriving DecidableEq, Repr

namespace Alert

def metadata : Alert → Metadata
  | .air alert => alert.metadata
  | .th alert => alert.metadata

def timestamp (alert : Alert) : UInt64 := alert.metadata.timestamp

/-- The message the handler builds. -/
def routed : Alert → RouterMessage
  | .air alert => .toData { payload := some (.alertAir alert.toGrpc) }
  | .th alert => .toData { payload := some (.alertTh alert.toGrpc) }

end Alert

/-- The alert of the first decoder that accepts the body. -/
def Body.decoded (body : Body) : Option Alert :=
  (body.asAlertAir.map .air).or (body.asAlertTh.map .th)

theorem handleTelemetry_eq_ok {body : Body} {message : RouterMessage} :
    handleTelemetry body = .ok message ↔
      ∃ alert, body.decoded = some alert ∧ message = alert.routed := by
  rcases body with ⟨air, th⟩
  cases air with
  | some alert => simp [handleTelemetry, Body.decoded, Alert.routed, eq_comm]
  | none =>
      cases th with
      | some alert => simp [handleTelemetry, Body.decoded, Alert.routed, eq_comm]
      | none => simp [handleTelemetry, Body.decoded]

/-! ## The values of an alert -/

/-- The same metadata, with the timestamp compared as an integer. -/
structure Metadata.CarriedBy (decoded : Metadata)
    (sent : Option Grpc.Metadata) : Prop where
  intro ::
  equal : ∃ metadata, sent = some metadata ∧
    metadata.senderUserId = decoded.senderUserId ∧
    metadata.destinationId = decoded.destinationId ∧
    metadata.timestamp.toInt = decoded.timestamp.toNat

/-- The message has the kind of the alert and its values field for field. -/
inductive Carries : Alert → RouterMessage → Prop where
  | air (alert : AlertAir) (sent : Grpc.AlertAir)
      (metadata : alert.metadata.CarriedBy sent.metadata)
      (network : sent.network = alert.network)
      (initial : sent.initialAirQuality = alert.initialAirQuality)
      (actual : sent.actualAirQuality = alert.actualAirQuality) :
      Carries (.air alert) (.toData { payload := some (.alertAir sent) })
  | th (alert : AlertTh) (sent : Grpc.AlertTh)
      (metadata : alert.metadata.CarriedBy sent.metadata)
      (network : sent.network = alert.network)
      (initial : sent.initialTemp = alert.initialTemp)
      (actual : sent.actualTemp = alert.actualTemp) :
      Carries (.th alert) (.toData { payload := some (.alertTh sent) })

theorem Metadata.carriedBy_toGrpc {metadata : Metadata} :
    metadata.CarriedBy (some metadata.toGrpc) ↔
      metadata.timestamp.toNat < 2 ^ 63 := by
  rw [← toInt_toInt64_eq_iff]
  constructor
  · intro carried
    rcases carried.equal with ⟨_, same, _, _, timestamp⟩
    cases same
    exact timestamp
  · intro timestamp
    exact ⟨_, rfl, rfl, rfl, timestamp⟩

theorem Alert.carries_routed {alert : Alert} :
    Carries alert alert.routed ↔ alert.timestamp.toNat < 2 ^ 63 := by
  cases alert with
  | air alert =>
      constructor
      · intro carries
        cases carries with
        | air _ _ metadata _ _ _ => exact Metadata.carriedBy_toGrpc.mp metadata
      · intro lower
        exact .air alert _ (Metadata.carriedBy_toGrpc.mpr lower) rfl rfl rfl
  | th alert =>
      constructor
      · intro carries
        cases carries with
        | th _ _ metadata _ _ _ => exact Metadata.carriedBy_toGrpc.mp metadata
      · intro lower
        exact .th alert _ (Metadata.carriedBy_toGrpc.mpr lower) rfl rfl rfl

/-! ## The order of two alerts -/

/-- The timestamp of an alert on its way to Data. -/
def sentTimestamp : RouterMessage → Option Int
  | .toData { payload := some (.alertAir alert) } =>
      alert.metadata.map (·.timestamp.toInt)
  | .toData { payload := some (.alertTh alert) } =>
      alert.metadata.map (·.timestamp.toInt)
  | _ => none

/-- Two messages have the order of the alerts they were made of. -/
structure SameOrder (first second : Alert) (sent next : RouterMessage) :
    Prop where
  intro ::
  order : ∃ before after, sentTimestamp sent = some before ∧
    sentTimestamp next = some after ∧
    (before < after ↔ first.timestamp.toNat < second.timestamp.toNat) ∧
    (after < before ↔ second.timestamp.toNat < first.timestamp.toNat)

theorem sentTimestamp_routed (alert : Alert) :
    sentTimestamp alert.routed = some alert.timestamp.toInt64.toInt := by
  cases alert <;> rfl

theorem Alert.sameOrder_routed {first second : Alert} :
    SameOrder first second first.routed second.routed ↔
      (first.timestamp.toNat < 2 ^ 63 ↔ second.timestamp.toNat < 2 ^ 63) := by
  rw [← toInt64_lt_iff]
  constructor
  · intro same
    rcases same.order with ⟨before, after, sent, next, order⟩
    rw [sentTimestamp_routed] at sent next
    cases sent
    cases next
    exact order
  · intro order
    exact ⟨_, _, sentTimestamp_routed first, sentTimestamp_routed second, order⟩

/-! ## Accepted alerts -/

/-- Request `i` posted `body`, and its send, some time later, appended `message`
to the central channel. -/
structure Bridged (i : Nat) (body : Body) (message : RouterMessage) : Prop where
  intro ::
  handled : ∃ (found left waiting sent : Central)
    (request sending answered : HttpRequest),
    request.step found i (.post body) = some (left, sending) ∧
    sending.step waiting i .task = some (sent, answered) ∧
    answered.task = .replied routedReply ∧
    sent.accepted =
      waiting.accepted ++ [{ source := .http i, index := 0, value := message }]

/-- The message is the conversion of what the first decoder to accept yields. -/
theorem Bridged.routed {i : Nat} {body : Body} {message : RouterMessage}
    (bridged : Bridged i body message) :
    ∃ alert, body.decoded = some alert ∧ message = alert.routed := by
  rcases bridged.handled with ⟨found, left, waiting, sent, request, sending,
    answered, posted, stepped, replied, appended⟩
  apply handleTelemetry_eq_ok.mp
  cases HttpRequest.step_cases posted with
  | accept _ handling idle handled =>
      cases HttpRequest.step_cases stepped with
      | send _ _ task accepts =>
          cases task
          rcases Channel.send_eq_sent.mp accepts with ⟨_, _, rfl⟩
          rw [Channel.push_accepted] at appended
          cases List.append_cancel_left appended
          exact handled
      | discard _ task => cases replied
  | reject _ error idle handled =>
      cases HttpRequest.step_cases stepped with
      | send _ _ task => cases task
      | discard _ task => cases task

/-- The values arrive as they were sent exactly if the timestamp is below
`2 ^ 63`, and two alerts keep their order exactly if both timestamps are below
it or neither is. -/
theorem bridge_preserves_iff {i j : Nat} {body other : Body}
    {message next : RouterMessage} (bridged : Bridged i body message)
    (bridged' : Bridged j other next) :
    ∃ first second, body.decoded = some first ∧ other.decoded = some second ∧
      (Carries first message ↔ first.timestamp.toNat < 2 ^ 63) ∧
      (SameOrder first second message next ↔
        (first.timestamp.toNat < 2 ^ 63 ↔
          second.timestamp.toNat < 2 ^ 63)) := by
  rcases bridged.routed with ⟨first, decoded, rfl⟩
  rcases bridged'.routed with ⟨second, decoded', rfl⟩
  exact ⟨first, second, decoded, decoded', Alert.carries_routed,
    Alert.sameOrder_routed⟩

/-- The body of a temperature alert. -/
def thBody (timestamp : UInt64) : Body where
  asAlertAir := none
  asAlertTh := some
    { metadata := { senderUserId := "hub", destinationId := "data", timestamp }
      network := "net", initialTemp := ⟨0⟩, actualTemp := ⟨0⟩ }

/-- It is accepted by an empty channel. -/
theorem bridged_thBody (timestamp : UInt64) :
    ∃ message, Bridged 0 (thBody timestamp) message :=
  ⟨_, ⟨.empty, _, .empty, _, ⟨.idle, []⟩, _, _, rfl, rfl, rfl, rfl⟩⟩

theorem bridge_preserves_thBody :
    ∃ message next, Bridged 0 (thBody 5) message ∧ Bridged 0 (thBody 7) next ∧
      ∃ first second, (thBody 5).decoded = some first ∧
        (thBody 7).decoded = some second ∧
        (Carries first message ↔ first.timestamp.toNat < 2 ^ 63) ∧
        (SameOrder first second message next ↔
          (first.timestamp.toNat < 2 ^ 63 ↔
            second.timestamp.toNat < 2 ^ 63)) := by
  rcases bridged_thBody 5 with ⟨message, bridged⟩
  rcases bridged_thBody 7 with ⟨next, bridged'⟩
  exact ⟨message, next, bridged, bridged', bridge_preserves_iff bridged bridged'⟩

/-- The timestamp `2 ^ 63` arrives as the least integer. -/
theorem not_bridge_preserves :
    ¬∀ {i j : Nat} {body other : Body} {message next : RouterMessage},
      Bridged i body message → Bridged j other next →
      ∃ first second, body.decoded = some first ∧ other.decoded = some second ∧
        Carries first message ∧ SameOrder first second message next := by
  intro preserves
  rcases bridged_thBody (UInt64.ofNat (2 ^ 63)) with ⟨message, bridged⟩
  rcases bridged.routed with ⟨_, decoded, rfl⟩
  rcases preserves bridged bridged with ⟨first, second, same, _, carries, _⟩
  cases decoded.symm.trans same
  rw [Alert.carries_routed] at carries
  cases decoded
  exact absurd carries (by decide)

end IotRouter.Https
