import IotRouter.Grpc.Logic

/-!
# Alerts posted over HTTP

`POST /alerts` tries the air-quality decoder on the body, then the temperature
decoder, and turns the first alert it gets into a message for Data. The decoders
belong to a third-party package: a request is represented by what they answer on
its body.
-/

namespace IotRouter.Https

open IotRouter.Grpc (RouterMessage F32)

/-- Metadata of the MessagePack schema; its timestamp is unsigned. -/
structure Metadata where
  senderUserId : String
  destinationId : String
  timestamp : UInt64
  deriving DecidableEq, Repr

structure AlertAir where
  metadata : Metadata
  network : String
  initialAirQuality : F32
  actualAirQuality : F32
  deriving DecidableEq, Repr

structure AlertTh where
  metadata : Metadata
  network : String
  initialTemp : F32
  actualTemp : F32
  deriving DecidableEq, Repr

/-- Errors of the HTTP layer. -/
inductive AppError where
  | unauthorized (message : String)
  | invalidClientCert (message : String)
  | notFound (message : String)
  | internal (error : String)
  | rateLimited
  | alertError (message : String)
  deriving DecidableEq, Repr

/-- A request body, as the two decoders see it. -/
structure Body where
  asAlertAir : Option AlertAir
  asAlertTh : Option AlertTh
  deriving DecidableEq, Repr

/-- `timestamp as i64` keeps the bits. -/
def Metadata.toGrpc (metadata : Metadata) : Grpc.Metadata where
  senderUserId := metadata.senderUserId
  destinationId := metadata.destinationId
  timestamp := metadata.timestamp.toInt64

def AlertAir.toGrpc (alert : AlertAir) : Grpc.AlertAir where
  metadata := some alert.metadata.toGrpc
  network := alert.network
  initialAirQuality := alert.initialAirQuality
  actualAirQuality := alert.actualAirQuality

def AlertTh.toGrpc (alert : AlertTh) : Grpc.AlertTh where
  metadata := some alert.metadata.toGrpc
  network := alert.network
  initialTemp := alert.initialTemp
  actualTemp := alert.actualTemp

/-- What `handle_telemetry` sends to the central channel, or the error it
returns without sending. -/
def handleTelemetry (body : Body) : Except AppError RouterMessage :=
  match body.asAlertAir with
  | some alert => .ok (.toData { payload := some (.alertAir alert.toGrpc) })
  | none =>
      match body.asAlertTh with
      | some alert => .ok (.toData { payload := some (.alertTh alert.toGrpc) })
      | none => .error (.alertError
          "Error: payload no coincide con ninguna alerta conocida")

/-- The reply once the send has succeeded. -/
def routedReply : Except AppError String := .ok "recibido y enrutado"

/-- The reply when the send fails. -/
def closedReply : Except AppError String :=
  .error (.alertError "Error interno: canal cerrado")

/-- Every message the handler sends is addressed to Data. -/
theorem handleTelemetry_toData {body : Body} {message : RouterMessage}
    (handled : handleTelemetry body = .ok message) :
    ∃ alert, message = .toData alert := by
  simp only [handleTelemetry] at handled
  split at handled
  · cases handled
    exact ⟨_, rfl⟩
  · split at handled
    · cases handled
      exact ⟨_, rfl⟩
    · cases handled

end IotRouter.Https
