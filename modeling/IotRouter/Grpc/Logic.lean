import IotRouter.Grpc.Message

/-!
# Translation of inbound messages

`processFromEdge`, `processFromManager` and `processFromData` unwrap what a
stream delivers and wrap it into the envelope of the central channel. Each
source function ends in one `central_tx.send` at most; the definitions here
give the message of that send, and the send itself is a step of the task.

`Content` is the specification side: what a payload says, whichever message type
carries it. The translation is right when it keeps the content.
-/

namespace IotRouter.Grpc

/-- The envelope of the central channel. -/
inductive RouterMessage where
  | toEdge (destinationEdgeId : String) (message : ToEdge)
  | toManager (message : ToManager)
  | toData (message : ToDataSaver)
  deriving DecidableEq, Repr

/-- Sensor data goes to Data, control data to the Manager. -/
def processFromEdge (msg : FromEdge) : Option RouterMessage :=
  match msg.payload with
  | none => none
  | some payload =>
      match payload with
      | .measurement measurement =>
          some (.toData { payload := some (.measurement measurement) })
      | .monitor monitor =>
          some (.toData { payload := some (.monitor monitor) })
      | .alertAir alert =>
          some (.toData { payload := some (.alertAir alert) })
      | .alertTh alert =>
          some (.toData { payload := some (.alertTh alert) })
      | .measurementBatch measurement =>
          some (.toData { payload := some (.measurementBatch measurement) })
      | .monitorBatch monitor =>
          some (.toData { payload := some (.monitorBatch monitor) })
      | .alertAirBatch alert =>
          some (.toData { payload := some (.alertAirBatch alert) })
      | .alertThBatch alert =>
          some (.toData { payload := some (.alertThBatch alert) })
      | .metric metric =>
          some (.toData { payload := some (.metric metric) })
      | .settings settings =>
          some (.toManager
            { edgeId := msg.edgeId, payload := some (.settings settings) })
      | .settingOk settingOk =>
          some (.toManager
            { edgeId := msg.edgeId, payload := some (.settingOk settingOk) })
      | .firmwareOutcome outcome =>
          some (.toManager
            { edgeId := msg.edgeId, payload := some (.firmwareOutcome outcome) })
      | .helloWorld hello =>
          some (.toManager
            { edgeId := msg.edgeId, payload := some (.helloWorld hello) })
      | .edgeState state =>
          some (.toManager
            { edgeId := msg.edgeId, payload := some (.edgeState state) })
      | .networkAck networkAck =>
          some (.toManager
            { edgeId := msg.edgeId, payload := some (.networkAck networkAck) })
      | .hubState hubState =>
          some (.toManager
            { edgeId := msg.edgeId, payload := some (.hubState hubState) })
      | .outcomeError outcome =>
          some (.toManager
            { edgeId := msg.edgeId, payload := some (.outcomeError outcome) })

/-- A Manager command goes to the edge it names. -/
def processFromManager (msg : FromManager) : Option RouterMessage :=
  match msg.payload with
  | none => none
  | some payload =>
      let toEdgePayload : Option ToEdge.Payload :=
        match payload with
        | .settingOk s => some (.settingOk s)
        | .updateFirmware u => some (.updateFirmware u)
        | .network n => some (.network n)
        | .deleteHub d => some (.deleteHub d)
        | .settings s => some (.settings s)
      toEdgePayload.map fun payload =>
        .toEdge msg.edgeId { edgeId := msg.edgeId, payload := some payload }

/-- A heartbeat goes to every edge, under the address `"all"`. -/
def processFromData (msg : FromDataSaver) : Option RouterMessage :=
  match msg.payload with
  | none => none
  | some payload =>
      let toEdgePayload : Option ToEdge.Payload :=
        match payload with
        | .heartbeat heartbeat => some (.heartbeat heartbeat)
      toEdgePayload.map fun payload =>
        .toEdge "all" { edgeId := "all", payload := some payload }

/-! ## What a message says -/

/-- The content of a payload, whichever message carries it. -/
inductive Content where
  | measurement (value : Measurement)
  | monitor (value : Monitor)
  | alertAir (value : AlertAir)
  | alertTh (value : AlertTh)
  | metric (value : SystemMetrics)
  | measurementBatch (value : MeasurementBatch)
  | monitorBatch (value : MonitorBatch)
  | alertAirBatch (value : AlertAirBatch)
  | alertThBatch (value : AlertThBatch)
  | settings (value : Settings)
  | settingOk (value : SettingOk)
  | firmwareOutcome (value : FirmwareOutcome)
  | helloWorld (value : HelloWorld)
  | edgeState (value : EdgeState)
  | networkAck (value : NetworkAck)
  | hubState (value : HubState)
  | outcomeError (value : FirmwareOutcomeError)
  | updateFirmware (value : UpdateFirmware)
  | network (value : Network)
  | deleteHub (value : DeleteHub)
  | heartbeat (value : Heartbeat)
  deriving DecidableEq, Repr

def FromEdge.Payload.content : FromEdge.Payload → Content
  | .measurement value => .measurement value
  | .monitor value => .monitor value
  | .alertAir value => .alertAir value
  | .alertTh value => .alertTh value
  | .metric value => .metric value
  | .settings value => .settings value
  | .settingOk value => .settingOk value
  | .firmwareOutcome value => .firmwareOutcome value
  | .helloWorld value => .helloWorld value
  | .measurementBatch value => .measurementBatch value
  | .monitorBatch value => .monitorBatch value
  | .alertAirBatch value => .alertAirBatch value
  | .alertThBatch value => .alertThBatch value
  | .edgeState value => .edgeState value
  | .networkAck value => .networkAck value
  | .hubState value => .hubState value
  | .outcomeError value => .outcomeError value

def ToManager.Payload.content : ToManager.Payload → Content
  | .settings value => .settings value
  | .settingOk value => .settingOk value
  | .firmwareOutcome value => .firmwareOutcome value
  | .helloWorld value => .helloWorld value
  | .edgeState value => .edgeState value
  | .networkAck value => .networkAck value
  | .hubState value => .hubState value
  | .outcomeError value => .outcomeError value

def ToDataSaver.Payload.content : ToDataSaver.Payload → Content
  | .measurement value => .measurement value
  | .monitor value => .monitor value
  | .metric value => .metric value
  | .alertAir value => .alertAir value
  | .alertTh value => .alertTh value
  | .measurementBatch value => .measurementBatch value
  | .monitorBatch value => .monitorBatch value
  | .alertAirBatch value => .alertAirBatch value
  | .alertThBatch value => .alertThBatch value

def FromManager.Payload.content : FromManager.Payload → Content
  | .settingOk value => .settingOk value
  | .updateFirmware value => .updateFirmware value
  | .network value => .network value
  | .deleteHub value => .deleteHub value
  | .settings value => .settings value

def ToEdge.Payload.content : ToEdge.Payload → Content
  | .settingOk value => .settingOk value
  | .updateFirmware value => .updateFirmware value
  | .network value => .network value
  | .deleteHub value => .deleteHub value
  | .settings value => .settings value
  | .heartbeat value => .heartbeat value
  | .helloWorld value => .helloWorld value

/-- The nine kinds of sensor data. -/
def Content.isTelemetry : Content → Bool
  | .measurement _ | .monitor _ | .alertAir _ | .alertTh _ | .metric _
  | .measurementBatch _ | .monitorBatch _ | .alertAirBatch _
  | .alertThBatch _ => true
  | _ => false

/-- The eight kinds of control data an edge reports. -/
def Content.isControl : Content → Bool
  | .settings _ | .settingOk _ | .firmwareOutcome _ | .helloWorld _
  | .edgeState _ | .networkAck _ | .hubState _ | .outcomeError _ => true
  | _ => false

/-- The five kinds of command a Manager sends. -/
def Content.isCommand : Content → Bool
  | .settingOk _ | .updateFirmware _ | .network _ | .deleteHub _
  | .settings _ => true
  | _ => false

/-- The heartbeat inside a message for an edge, which the dispatcher looks for
to turn a unicast into a broadcast. -/
def ToEdge.heartbeat? (message : ToEdge) : Option Heartbeat :=
  match message.payload with
  | some (.heartbeat heartbeat) => some heartbeat
  | _ => none

/-- A translated edge message says the same to Data if it is telemetry, and the
same to the Manager under the same `edge_id` if it is control data; it is one or
the other. -/
theorem processFromEdge_some (edgeId : String) (payload : FromEdge.Payload) :
    (payload.content.isTelemetry = true ∧ payload.content.isControl = false ∧
      ∃ out : ToDataSaver.Payload, out.content = payload.content ∧
        processFromEdge ⟨edgeId, some payload⟩ = some (.toData ⟨some out⟩)) ∨
    (payload.content.isTelemetry = false ∧ payload.content.isControl = true ∧
      ∃ out : ToManager.Payload, out.content = payload.content ∧
        processFromEdge ⟨edgeId, some payload⟩ =
          some (.toManager ⟨edgeId, some out⟩)) := by
  cases payload
  case measurement | monitor | alertAir | alertTh | metric | measurementBatch |
      monitorBatch | alertAirBatch | alertThBatch =>
    exact Or.inl ⟨rfl, rfl, _, rfl, rfl⟩
  case settings | settingOk | firmwareOutcome | helloWorld | edgeState |
      networkAck | hubState | outcomeError =>
    exact Or.inr ⟨rfl, rfl, _, rfl, rfl⟩

/-- A translated Manager command says the same to the edge it names, and is never
a heartbeat. -/
theorem processFromManager_some (edgeId : String)
    (payload : FromManager.Payload) :
    payload.content.isCommand = true ∧
      ∃ out : ToEdge.Payload, out.content = payload.content ∧
        (⟨edgeId, some out⟩ : ToEdge).heartbeat? = none ∧
        processFromManager ⟨edgeId, some payload⟩ =
          some (.toEdge edgeId ⟨edgeId, some out⟩) := by
  cases payload <;> exact ⟨rfl, _, rfl, rfl, rfl⟩

/-- A translated heartbeat is the same heartbeat, addressed to everyone. -/
theorem processFromData_some (heartbeat : Heartbeat) :
    processFromData ⟨some (.heartbeat heartbeat)⟩ =
      some (.toEdge "all" ⟨"all", some (.heartbeat heartbeat)⟩) := rfl

/-! Read backwards: where a translated message comes from. -/

theorem processFromEdge_eq_some {msg : FromEdge} {message : RouterMessage}
    (translated : processFromEdge msg = some message) :
    (∃ out, message = .toData ⟨some out⟩) ∨
      ∃ out, message = .toManager ⟨msg.edgeId, some out⟩ := by
  rcases msg with ⟨edgeId, payload⟩
  cases payload with
  | none => cases translated
  | some payload =>
      rcases processFromEdge_some edgeId payload with
        ⟨_, _, out, _, same⟩ | ⟨_, _, out, _, same⟩
      · exact Or.inl ⟨out, Option.some.inj (translated.symm.trans same)⟩
      · exact Or.inr ⟨out, Option.some.inj (translated.symm.trans same)⟩

theorem processFromManager_eq_some {msg : FromManager}
    {message : RouterMessage}
    (translated : processFromManager msg = some message) :
    ∃ payload out, msg.payload = some payload ∧
      ToEdge.Payload.content out = payload.content ∧
      (⟨msg.edgeId, some out⟩ : ToEdge).heartbeat? = none ∧
      message = .toEdge msg.edgeId ⟨msg.edgeId, some out⟩ := by
  rcases msg with ⟨edgeId, payload⟩
  cases payload with
  | none => cases translated
  | some payload =>
      rcases processFromManager_some edgeId payload with
        ⟨_, out, content, plain, same⟩
      exact ⟨payload, out, rfl, content, plain,
        Option.some.inj (translated.symm.trans same)⟩

theorem processFromData_eq_some {msg : FromDataSaver} {message : RouterMessage}
    (translated : processFromData msg = some message) :
    ∃ heartbeat, msg.payload = some (.heartbeat heartbeat) ∧
      message = .toEdge "all" ⟨"all", some (.heartbeat heartbeat)⟩ := by
  rcases msg with ⟨payload⟩
  cases payload with
  | none => cases translated
  | some payload =>
      cases payload with
      | heartbeat heartbeat =>
          exact ⟨heartbeat, rfl, (Option.some.inj translated).symm⟩

end IotRouter.Grpc
