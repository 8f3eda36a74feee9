import Mathlib.Tactic.Common

/-!
# Wire messages

The messages of `proto/iot.proto` as the generated code presents them: a message
field is an `Option`, a `oneof` is an `Option` of an enumeration of its cases,
and integers keep their width and sign. The router moves the leaf messages
without looking inside them.
-/

namespace IotRouter.Grpc

/-- A proto `float`. The router only carries it, so it is kept as its bits. -/
structure F32 where
  bits : UInt32
  deriving DecidableEq, Repr

structure Metadata where
  senderUserId : String
  destinationId : String
  timestamp : Int64
  deriving DecidableEq, Repr

structure Measurement where
  metadata : Option Metadata
  network : String
  pulseCounter : F32
  temperature : F32
  humidity : F32
  airQuality : F32
  sample : UInt32
  deriving DecidableEq, Repr

structure AlertAir where
  metadata : Option Metadata
  network : String
  initialAirQuality : F32
  actualAirQuality : F32
  deriving DecidableEq, Repr

structure AlertTh where
  metadata : Option Metadata
  network : String
  initialTemp : F32
  actualTemp : F32
  deriving DecidableEq, Repr

structure Monitor where
  metadata : Option Metadata
  network : String
  heapFree : UInt32
  heapMinFree : UInt32
  heapLargestBlock : UInt32
  uptimeSec : UInt64
  deriving DecidableEq, Repr

structure HubState where
  metadata : Option Metadata
  network : String
  state : String
  deriving DecidableEq, Repr

structure MeasurementBatch where
  measurements : List Measurement
  deriving DecidableEq, Repr

structure MonitorBatch where
  monitors : List Monitor
  deriving DecidableEq, Repr

structure AlertAirBatch where
  alerts : List AlertAir
  deriving DecidableEq, Repr

structure AlertThBatch where
  alerts : List AlertTh
  deriving DecidableEq, Repr

structure Settings where
  metadata : Option Metadata
  messageId : UInt64
  network : String
  wifiSsid : String
  wifiPassword : String
  mqttUri : String
  deviceName : String
  sample : UInt32
  energyMode : UInt32
  deriving DecidableEq, Repr

structure SettingOk where
  metadata : Option Metadata
  messageId : UInt64
  network : String
  handshake : Bool
  deriving DecidableEq, Repr

structure Network where
  metadata : Option Metadata
  idNetwork : String
  nameNetwork : String
  active : Bool
  deleteNetwork : Bool
  deriving DecidableEq, Repr

structure NetworkAck where
  metadata : Option Metadata
  idNetwork : String
  codeOfAck : UInt32
  deriving DecidableEq, Repr

structure DeleteHub where
  metadata : Option Metadata
  network : String
  deriving DecidableEq, Repr

structure Heartbeat where
  metadata : Option Metadata
  beat : Bool
  deriving DecidableEq, Repr

structure UpdateFirmware where
  metadata : Option Metadata
  network : String
  deriving DecidableEq, Repr

structure FirmwareOutcome where
  metadata : Option Metadata
  network : String
  percentageOk : F32
  deriving DecidableEq, Repr

structure FirmwareOutcomeError where
  metadata : Option Metadata
  network : String
  error : String
  deriving DecidableEq, Repr

structure HelloWorld where
  metadata : Option Metadata
  hello : Bool
  deriving DecidableEq, Repr

structure SystemMetrics where
  metadata : Option Metadata
  uptimeSeconds : UInt64
  cpuUsagePercent : F32
  cpuTempCelsius : F32
  ramTotalMb : UInt64
  ramUsedByServiceMb : UInt64
  ramUsedMb : UInt64
  sdTotalGb : UInt64
  sdUsedGb : UInt64
  sdUsagePercent : F32
  networkRxBytes : UInt64
  networkTxBytes : UInt64
  wifiRssi : Int32
  wifiSignalDbm : Int32
  deriving DecidableEq, Repr

structure EdgeState where
  metadata : Option Metadata
  state : String
  deriving DecidableEq, Repr

/-! ## Stream messages -/

inductive ToEdge.Payload where
  | settingOk (value : SettingOk)
  | updateFirmware (value : UpdateFirmware)
  | network (value : Network)
  | deleteHub (value : DeleteHub)
  | settings (value : Settings)
  | heartbeat (value : Heartbeat)
  | helloWorld (value : HelloWorld)
  deriving DecidableEq, Repr

structure ToEdge where
  edgeId : String
  payload : Option ToEdge.Payload
  deriving DecidableEq, Repr

inductive FromEdge.Payload where
  | measurement (value : Measurement)
  | monitor (value : Monitor)
  | alertAir (value : AlertAir)
  | alertTh (value : AlertTh)
  | metric (value : SystemMetrics)
  | settings (value : Settings)
  | settingOk (value : SettingOk)
  | firmwareOutcome (value : FirmwareOutcome)
  | helloWorld (value : HelloWorld)
  | measurementBatch (value : MeasurementBatch)
  | monitorBatch (value : MonitorBatch)
  | alertAirBatch (value : AlertAirBatch)
  | alertThBatch (value : AlertThBatch)
  | edgeState (value : EdgeState)
  | networkAck (value : NetworkAck)
  | hubState (value : HubState)
  | outcomeError (value : FirmwareOutcomeError)
  deriving DecidableEq, Repr

structure FromEdge where
  edgeId : String
  payload : Option FromEdge.Payload
  deriving DecidableEq, Repr

inductive ToManager.Payload where
  | settings (value : Settings)
  | settingOk (value : SettingOk)
  | firmwareOutcome (value : FirmwareOutcome)
  | helloWorld (value : HelloWorld)
  | edgeState (value : EdgeState)
  | networkAck (value : NetworkAck)
  | hubState (value : HubState)
  | outcomeError (value : FirmwareOutcomeError)
  deriving DecidableEq, Repr

structure ToManager where
  edgeId : String
  payload : Option ToManager.Payload
  deriving DecidableEq, Repr

inductive FromManager.Payload where
  | settingOk (value : SettingOk)
  | updateFirmware (value : UpdateFirmware)
  | network (value : Network)
  | deleteHub (value : DeleteHub)
  | settings (value : Settings)
  deriving DecidableEq, Repr

structure FromManager where
  edgeId : String
  payload : Option FromManager.Payload
  deriving DecidableEq, Repr

inductive ToDataSaver.Payload where
  | measurement (value : Measurement)
  | monitor (value : Monitor)
  | metric (value : SystemMetrics)
  | alertAir (value : AlertAir)
  | alertTh (value : AlertTh)
  | measurementBatch (value : MeasurementBatch)
  | monitorBatch (value : MonitorBatch)
  | alertAirBatch (value : AlertAirBatch)
  | alertThBatch (value : AlertThBatch)
  deriving DecidableEq, Repr

structure ToDataSaver where
  payload : Option ToDataSaver.Payload
  deriving DecidableEq, Repr

inductive FromDataSaver.Payload where
  | heartbeat (value : Heartbeat)
  deriving DecidableEq, Repr

structure FromDataSaver where
  payload : Option FromDataSaver.Payload
  deriving DecidableEq, Repr

end IotRouter.Grpc
