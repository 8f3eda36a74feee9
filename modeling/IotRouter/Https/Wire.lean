import IotRouter.Runtime.MessagePack
import IotRouter.Https.Bridge

/-!
# The two kinds of alert on the wire

An alert is a MessagePack record, sent as a positional array or as a map keyed by
its field names. The handler tells the two kinds apart by whether the air-quality
decoder fails. Both records have the same shape, so only the names keep them
apart: in positional form every temperature alert passes for an air-quality one.
-/

namespace IotRouter.Https

open IotRouter.Grpc (RouterMessage F32)
open IotRouter.Runtime IotRouter.Runtime.MessagePack IotRouter.Router

/-! ## Decoders -/

/-- The decoders of `rmp_serde`, for the types of `message/domain.rs` and those
of their fields. -/
structure Decoders where
  string : Value → Option String
  u64 : Value → Option UInt64
  f32 : Value → Option F32
  metadata : Value → Option Metadata
  alertAir : Value → Option AlertAir
  alertTh : Value → Option AlertTh

namespace Decoders

variable (decoders : Decoders)

def buildMetadata : List Value → Option Metadata
  | [sender, destination, timestamp] => do
      let senderUserId ← decoders.string sender
      let destinationId ← decoders.string destination
      let timestamp ← decoders.u64 timestamp
      return { senderUserId, destinationId, timestamp }
  | _ => none

def buildAlertAir : List Value → Option AlertAir
  | [metadata, network, initial, actual] => do
      let metadata ← decoders.metadata metadata
      let network ← decoders.string network
      let initialAirQuality ← decoders.f32 initial
      let actualAirQuality ← decoders.f32 actual
      return { metadata, network, initialAirQuality, actualAirQuality }
  | _ => none

def buildAlertTh : List Value → Option AlertTh
  | [metadata, network, initial, actual] => do
      let metadata ← decoders.metadata metadata
      let network ← decoders.string network
      let initialTemp ← decoders.f32 initial
      let actualTemp ← decoders.f32 actual
      return { metadata, network, initialTemp, actualTemp }
  | _ => none

end Decoders

/-- The names `#[serde(rename = …)]` gives to the fields. -/
def Metadata.names : List String := ["s", "d", "t"]
def AlertAir.names : List String := ["m", "n", "ia", "aa"]
def AlertTh.names : List String := ["m", "n", "i", "a"]

/-- What the handler relies on: a value is read back as it was written, and the
structs have derived decoders. -/
structure Decoders.Lawful (decoders : Decoders) : Prop where
  string : ∀ value, decoders.string (.str value) = some value
  u64 : ∀ value, decoders.u64 (.uint value) = some value
  f32 : ∀ bits, decoders.f32 (.float32 bits) = some ⟨bits⟩
  metadata : Derived Metadata.names decoders.buildMetadata decoders.metadata
  alertAir : Derived AlertAir.names decoders.buildAlertAir decoders.alertAir
  alertTh : Derived AlertTh.names decoders.buildAlertTh decoders.alertTh

/-- The body as `handle_telemetry` sees it. -/
def Decoders.body (decoders : Decoders) (value : Value) : Body where
  asAlertAir := decoders.alertAir value
  asAlertTh := decoders.alertTh value

/-! ## Encodings -/

def Metadata.EncodedBy (metadata : Metadata) : Value → Prop :=
  Record Metadata.names
    [.str metadata.senderUserId, .str metadata.destinationId,
      .uint metadata.timestamp]

def AlertAir.EncodedBy (alert : AlertAir) (value : Value) : Prop :=
  ∃ metadata, alert.metadata.EncodedBy metadata ∧
    Record AlertAir.names
      [metadata, .str alert.network, .float32 alert.initialAirQuality.bits,
        .float32 alert.actualAirQuality.bits] value

def AlertTh.EncodedBy (alert : AlertTh) (value : Value) : Prop :=
  ∃ metadata, alert.metadata.EncodedBy metadata ∧
    Record AlertTh.names
      [metadata, .str alert.network, .float32 alert.initialTemp.bits,
        .float32 alert.actualTemp.bits] value

namespace Decoders.Lawful

variable {decoders : Decoders} (lawful : decoders.Lawful)

include lawful

theorem decode_metadata {metadata : Metadata} {value : Value}
    (encoded : metadata.EncodedBy value) :
    decoders.metadata value = some metadata := by
  rw [lawful.metadata.decode_record encoded]
  simp [buildMetadata, lawful.string, lawful.u64]

theorem decode_alertAir {alert : AlertAir} {value : Value}
    (encoded : alert.EncodedBy value) :
    decoders.alertAir value = some alert := by
  rcases encoded with ⟨metadata, inner, record⟩
  rw [lawful.alertAir.decode_record record]
  simp [buildAlertAir, lawful.decode_metadata inner, lawful.string, lawful.f32]

theorem decode_alertTh {alert : AlertTh} {value : Value}
    (encoded : alert.EncodedBy value) :
    decoders.alertTh value = some alert := by
  rcases encoded with ⟨metadata, inner, record⟩
  rw [lawful.alertTh.decode_record record]
  simp [buildAlertTh, lawful.decode_metadata inner, lawful.string, lawful.f32]

end Decoders.Lawful

/-! ## What the air-quality decoder makes of a temperature alert -/

/-- An array, or a map that also has the two readings of an air-quality alert,
each once and as a number. -/
def Decoders.PassesForAir (decoders : Decoders) : Value → Prop
  | .array _ => True
  | .map entries => ∃ initial actual,
      valuesOf entries "ia" = [initial] ∧ valuesOf entries "aa" = [actual] ∧
      (decoders.f32 initial).isSome ∧ (decoders.f32 actual).isSome
  | _ => False

/-- With metadata and network in order, only the readings can fail. -/
theorem Decoders.buildAlertAir_isSome {decoders : Decoders}
    {metadata network initial actual : Value}
    (first : (decoders.metadata metadata).isSome)
    (second : (decoders.string network).isSome) :
    (decoders.buildAlertAir [metadata, network, initial, actual]).isSome ↔
      (decoders.f32 initial).isSome ∧ (decoders.f32 actual).isSome := by
  rcases Option.isSome_iff_exists.mp first with ⟨_, first⟩
  rcases Option.isSome_iff_exists.mp second with ⟨_, second⟩
  cases initialReads : decoders.f32 initial with
  | none => simp [buildAlertAir, first, second, initialReads]
  | some _ =>
      cases actualReads : decoders.f32 actual <;>
        simp [buildAlertAir, first, second, initialReads, actualReads]

theorem Decoders.Lawful.alertAir_isSome {decoders : Decoders}
    (lawful : decoders.Lawful) {alert : AlertTh} {value : Value}
    (encoded : alert.EncodedBy value) :
    (decoders.alertAir value).isSome ↔ decoders.PassesForAir value := by
  rcases encoded with ⟨metadata, inner, record⟩
  have first : (decoders.metadata metadata).isSome := by
    rw [lawful.decode_metadata inner]
    rfl
  have second : (decoders.string (.str alert.network)).isSome := by
    rw [lawful.string]
    rfl
  cases record with
  | positional _ =>
      rw [lawful.alertAir.positional _ rfl, buildAlertAir_isSome first second,
        lawful.f32, lawful.f32]
      exact ⟨fun _ => trivial, fun _ => ⟨rfl, rfl⟩⟩
  | named entries keyed holds =>
      rcases holds.of_cons with ⟨_, _, same, metadataOnce, holds⟩
      cases same
      rcases holds.of_cons with ⟨_, _, same, networkOnce, _⟩
      cases same
      rw [lawful.alertAir.decode_map_isSome keyed]
      constructor
      · intro accepted
        rcases accepted with ⟨values, complete, built⟩
        rcases complete.of_cons with ⟨_, _, rfl, here, others⟩
        cases metadataOnce.symm.trans here
        rcases others.of_cons with ⟨_, _, rfl, here, readings⟩
        cases networkOnce.symm.trans here
        rcases readings.of_cons with ⟨initial, _, rfl, initialOnce, last⟩
        rcases last.of_cons with ⟨actual, _, rfl, actualOnce, none⟩
        cases none.of_nil
        rcases (buildAlertAir_isSome first second).mp built with
          ⟨initialReads, actualReads⟩
        exact ⟨initial, actual, initialOnce, actualOnce, initialReads,
          actualReads⟩
      · intro passes
        rcases passes with
          ⟨initial, actual, initialOnce, actualOnce, initialReads, actualReads⟩
        refine ⟨[metadata, .str alert.network, initial, actual], ?_, ?_⟩
        · simp [Holds, AlertAir.names, metadataOnce, networkOnce, initialOnce,
            actualOnce]
        · exact (buildAlertAir_isSome first second).mpr
            ⟨initialReads, actualReads⟩

/-! ## Routing -/

/-- Whatever state the handler finds, it answers 200 and appends exactly
`message` once the central channel is open and has room. -/
def RoutedAs (body : Body) (message : RouterMessage) : Prop :=
  ∀ (i : Nat) (request : HttpRequest) (found waiting : Central),
    request.task = .idle → waiting.isOpen = true →
    ∀ room : waiting.queue.length < 1000, ∃ sending,
      request.step found i (.post body) = some (found, sending) ∧
      sending.step waiting i .task = some
        (waiting.push { source := .http i, index := 0, value := message } room,
          { sending with task := .replied routedReply })

theorem routedAs_iff {body : Body} {message : RouterMessage} :
    RoutedAs body message ↔ handleTelemetry body = .ok message := by
  constructor
  · intro routed
    rcases routed 0 ⟨.idle, []⟩ .empty .empty rfl rfl (Nat.zero_lt_succ _) with
      ⟨sending, posted, stepped⟩
    have bridged : Bridged 0 body message :=
      ⟨_, _, _, _, _, _, _, posted, stepped, rfl, rfl⟩
    exact handleTelemetry_eq_ok.mpr bridged.routed
  · intro handled i request found waiting idle isOpen room
    refine ⟨{ task := .sending message, posted := [message] }, ?_, ?_⟩
    · simp only [HttpRequest.step, idle, handled]
    · have sent : waiting.send
          { source := .http i, index := 0, value := message } = .sent
            (waiting.push _ room) := Channel.send_eq_sent.mpr ⟨isOpen, room, rfl⟩
      simp only [HttpRequest.step, sent]

/-- The alert is routed under its own kind and with its own values. -/
def KeepsKind (alert : Alert) (body : Body) : Prop :=
  ∃ message, Carries alert message ∧ RoutedAs body message

theorem keepsKind_of_decoded {alert : Alert} {body : Body}
    (lower : alert.timestamp.toNat < 2 ^ 63)
    (decoded : body.decoded = some alert) : KeepsKind alert body := by
  refine ⟨alert.routed, Alert.carries_routed.mpr lower, ?_⟩
  exact routedAs_iff.mpr (handleTelemetry_eq_ok.mpr ⟨alert, decoded, rfl⟩)

/-- A body that the air-quality decoder accepts is no temperature alert to the
handler. -/
theorem not_keepsKind_th {alert : AlertTh} {body : Body}
    (air : body.asAlertAir.isSome) : ¬KeepsKind (.th alert) body := by
  intro keeps
  rcases keeps with ⟨message, carries, routed⟩
  rcases Option.isSome_iff_exists.mp air with ⟨_, found⟩
  rcases handleTelemetry_eq_ok.mp (routedAs_iff.mp routed) with
    ⟨other, decoded, rfl⟩
  rw [Body.decoded, found] at decoded
  cases decoded
  cases carries

/-- An air-quality alert keeps its kind in every form; a temperature alert keeps
it exactly if its encoding does not pass for an air-quality alert. -/
theorem keepsKind_iff {decoders : Decoders} (lawful : decoders.Lawful)
    {air : AlertAir} {th : AlertTh} {value other : Value}
    (lower : air.metadata.timestamp.toNat < 2 ^ 63)
    (lower' : th.metadata.timestamp.toNat < 2 ^ 63)
    (encoded : air.EncodedBy value) (encoded' : th.EncodedBy other) :
    KeepsKind (.air air) (decoders.body value) ∧
      (KeepsKind (.th th) (decoders.body other) ↔
        ¬decoders.PassesForAir other) := by
  constructor
  · apply keepsKind_of_decoded
    · exact lower
    · simp [Body.decoded, Decoders.body, lawful.decode_alertAir encoded]
  · rw [← lawful.alertAir_isSome encoded']
    constructor
    · intro keeps accepted
      exact not_keepsKind_th accepted keeps
    · intro rejected
      rw [Option.not_isSome_iff_eq_none] at rejected
      apply keepsKind_of_decoded
      · exact lower'
      · simp [Body.decoded, Decoders.body, rejected,
          lawful.decode_alertTh encoded']

/-! ## A concrete pair of encodings -/

/-- Decoders that read what the encodings contain. -/
def derivedDecoders : Decoders :=
  let string : Value → Option String := fun
    | .str value => some value
    | _ => none
  let u64 : Value → Option UInt64 := fun
    | .uint value => some value
    | _ => none
  let f32 : Value → Option F32 := fun
    | .float32 bits => some ⟨bits⟩
    | _ => none
  let leaves : Decoders :=
    { string, u64, f32, metadata := fun _ => none, alertAir := fun _ => none
      alertTh := fun _ => none }
  let metadata := readRecord Metadata.names leaves.buildMetadata
  { string, u64, f32, metadata
    alertAir :=
      readRecord AlertAir.names { leaves with metadata }.buildAlertAir
    alertTh := readRecord AlertTh.names { leaves with metadata }.buildAlertTh }

theorem derivedDecoders_lawful : derivedDecoders.Lawful where
  string _ := rfl
  u64 _ := rfl
  f32 _ := rfl
  metadata := derived_readRecord _
  alertAir := derived_readRecord _
  alertTh := derived_readRecord _

def sampleMetadata : Metadata where
  senderUserId := "hub"
  destinationId := "data"
  timestamp := 5

def sampleAir : AlertAir where
  metadata := sampleMetadata
  network := "net"
  initialAirQuality := ⟨1⟩
  actualAirQuality := ⟨2⟩

def sampleTh : AlertTh where
  metadata := sampleMetadata
  network := "net"
  initialTemp := ⟨1⟩
  actualTemp := ⟨2⟩

/-- `rmp_serde::to_vec` of `sampleMetadata`, and of either alert. -/
def positionalMetadata : Value := .array [.str "hub", .str "data", .uint 5]
def positionalAlert : Value :=
  .array [positionalMetadata, .str "net", .float32 1, .float32 2]

/-- The fields of a temperature alert out of order, among others. -/
def namedTh : Value :=
  .map [(.str "a", .float32 2), (.str "ia", .float32 1),
    (.str "m", positionalMetadata), (.str "i", .float32 1),
    (.str "n", .str "net")]

theorem positionalMetadata_encodes :
    sampleMetadata.EncodedBy positionalMetadata := .positional rfl

theorem positionalAlert_encodes_air : sampleAir.EncodedBy positionalAlert :=
  ⟨_, positionalMetadata_encodes, .positional rfl⟩

theorem positionalAlert_encodes_th : sampleTh.EncodedBy positionalAlert :=
  ⟨_, positionalMetadata_encodes, .positional rfl⟩

theorem namedTh_encodes : sampleTh.EncodedBy namedTh :=
  ⟨_, positionalMetadata_encodes, .named _ (by simp [Keyed]) rfl⟩

theorem keepsKind_samples :
    KeepsKind (.air sampleAir) (derivedDecoders.body positionalAlert) ∧
      (KeepsKind (.th sampleTh) (derivedDecoders.body namedTh) ↔
        ¬derivedDecoders.PassesForAir namedTh) :=
  keepsKind_iff derivedDecoders_lawful (by decide) (by decide)
    positionalAlert_encodes_air namedTh_encodes

/-- A temperature alert in positional form is stored as an air-quality alert. -/
theorem not_keepsKind :
    ¬∀ {decoders : Decoders}, decoders.Lawful →
      ∀ {air : AlertAir} {th : AlertTh} {value other : Value},
        air.metadata.timestamp.toNat < 2 ^ 63 →
        th.metadata.timestamp.toNat < 2 ^ 63 →
        air.EncodedBy value → th.EncodedBy other →
        KeepsKind (.air air) (decoders.body value) ∧
          KeepsKind (.th th) (decoders.body other) := by
  intro keeps
  have kept := keeps derivedDecoders_lawful (by decide) (by decide)
    positionalAlert_encodes_air positionalAlert_encodes_th
  exact not_keepsKind_th rfl kept.2

end IotRouter.Https
