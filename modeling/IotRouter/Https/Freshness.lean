import IotRouter.Connections.Ticker
import IotRouter.Https.Accounting

/-!
# How old the listed sessions are

The server with the interval that `init_server` passes to `start_reaper`. A
listed session has been seen within the timeout, the second that the rounding
spares and a period of the reaper, and whatever the reaper is late by. Nor does
the reaper sweep more than once a period, after however long a stall.
-/

namespace IotRouter.Https.Server

open IotRouter.Runtime IotRouter.Connections

/-- `start_reaper(Duration::from_secs(10))` -/
def reaperInterval : Duration := .fromSecs 10

theorem reaperInterval_positive : 0 < reaperInterval.length := by decide

/-- The loop of the reaper waits for a tick. -/
def ticks : Action → Bool
  | .reaper .wake => true
  | _ => false

/-- The server with its reaper started. `tokio::time::interval` panics in the
task of the reaper if the period is zero. -/
def ticking (service : MakeService) (idleTimeout : Duration) (clock : Int)
    (interval : Duration) (positive : 0 < interval.length) :
    System (Paced State) Action :=
  Paced.system (system service idleTimeout clock) State.clock ticks
    interval.length positive

/-- The reaper is behind the tick it waits for or attends to by `delay` at
most. -/
def InTime (delay : Int) (paced : Paced State) : Prop :=
  paced.inner.clock ≤ paced.inner.connections.due paced.interval + delay

/-- The sessions that are kept are recent, and as many sweeps have begun as there
were periods. -/
structure KeepsRecent (idleTimeout interval : Duration) (first delay : Int)
    (service : MakeService) (paced : Paced State) : Prop where
  recent : ∀ conn ∈ paced.inner.connections.registry.snapshot,
    paced.inner.clock - conn.lastSeen <
      idleTimeout.spared + interval.length + delay
  /-- What `GET /connections` is answered with. -/
  listed : ∀ i request uuid took next total conns,
    paced.inner.step service (.request i request uuid took) = some next →
    next.exchanges i = .answered request none (.connections total conns) →
    total = conns.length ∧ ∀ conn ∈ conns,
      paced.inner.clock - conn.lastSeen <
        idleTimeout.spared + interval.length + delay
  seldom : (paced.ticked.length - 1) * interval.length ≤
    paced.inner.clock - first
  often : paced.inner.clock - first ≤
    paced.ticked.length * interval.length + delay

section Steps

variable {service : MakeService} {state next : State} {interval : Interval}

/-- A request to `/connect` does not disturb the reaper. -/
theorem swept_connected {connections : Connections.State}
    (swept : Swept connections interval) (addr : SocketAddr) (uuid : String)
    (took : Nat) : Swept (connected connections addr uuid took) interval :=
  ((swept.register uuid ("client@" ++ addr.ip.toString)
    addr.toString).elapse took).touch uuid

/-- A step that does not begin a sweep. -/
theorem swept_step {action : Action} (swept : Swept state.connections interval)
    (stepped : state.step service action = some next)
    (free : ticks action = false) : Swept next.connections interval := by
  cases State.step_cases stepped with
  | elapse nanos => exact swept.elapse nanos
  | reaper action connections own ran =>
      apply swept.step (Connections.State.step_cases ran)
      · intro wakes
        subst wakes
        cases free
      · intro _ _ _ _ registers
        subst registers
        cases own
  | connect i request uuid took => exact swept_connected swept _ _ _
  | _ => exact swept

/-- The step that begins one. -/
theorem swept_tick {action : Action} (swept : Swept state.connections interval)
    (stepped : state.step service action = some next)
    (waits : ticks action = true) (due : interval.deadline ≤ state.clock) :
    Swept next.connections
      { interval with deadline := interval.deadline + interval.period } := by
  cases State.step_cases stepped with
  | reaper action connections own ran =>
      cases Connections.State.step_cases ran with
      | wake waiting => exact swept.wake waiting due
      | _ => cases waits
  | _ => cases waits

/-- The list of connections is the snapshot of the registry. -/
theorem snapshot_of_listed {i : Nat} {request : Request} {uuid : String}
    {took total : Nat} {conns : List ConnectionInfo}
    (stepped : state.step service (.request i request uuid took) = some next)
    (answered : next.exchanges i =
      .answered request none (.connections total conns)) :
    total = conns.length ∧ conns = state.connections.registry.snapshot := by
  simp only [State.step] at stepped
  split at stepped
  case h_2 => cases stepped
  simp only [State.serve] at stepped
  split at stepped
  case h_7 =>
    cases service with
    | plain =>
        cases stepped
        simp [State.setExchange] at answered
    | withConnectInfo =>
        rcases Option.map_eq_some_iff.mp stepped with
          ⟨⟨connections, response⟩, handled, rfl⟩
        rcases handleConnection_eq_some handled with ⟨_, _, rfl⟩
        simp [State.setExchange, State.accept] at answered
  all_goals
    cases stepped
    simp [State.setExchange, handleStatus, handleConnectionsList, metricsHandler]
      at answered
  rcases answered with ⟨rfl, rfl⟩
  exact ⟨rfl, rfl⟩

end Steps

section Reachable

variable {service : MakeService} {idleTimeout interval : Duration} {clock : Int}
  {positive : 0 < interval.length} {paced : Paced State}

theorem reachable_swept
    (reachable : (ticking service idleTimeout clock interval positive).Reachable
      paced) : Swept paced.inner.connections paced.interval := by
  apply System.invariant (fun paced : Paced State =>
    Swept paced.inner.connections paced.interval)
    ?_ ?_ reachable
  · exact Swept.start idleTimeout rfl
  intro state next action _ swept stepped
  cases Paced.step_cases stepped with
  | tick inner waits due ran => exact swept_tick swept ran waits due
  | other inner free ran => exact swept_step swept ran free

/-- Wherever the reaper is in time, the sessions are recent. -/
theorem keepsRecent
    (reachable : (ticking service idleTimeout clock interval positive).Reachable
      paced) {delay : Int} (inTime : InTime delay paced) :
    KeepsRecent idleTimeout interval clock delay service paced := by
  have timeout := reachable_idleTimeout
    (reachable_connections (Paced.reachable_inner reachable))
  have period := Paced.reachable_period reachable
  have schedule := Paced.reachable_onSchedule (fun stepped => clock_le stepped)
    reachable
  have recent : ∀ conn ∈ paced.inner.connections.registry.snapshot,
      paced.inner.clock - conn.lastSeen <
        idleTimeout.spared + interval.length + delay := by
    intro conn listed
    rw [← timeout, ← period]
    exact (reachable_swept reachable).age_lt inTime listed
  constructor
  · exact recent
  · intro i request uuid took next total conns stepped answered
    rcases snapshot_of_listed stepped answered with ⟨all, rfl⟩
    exact ⟨all, recent⟩
  · have passed := schedule.passed
    rw [schedule.deadline, period] at passed
    rw [Int.sub_mul, Int.one_mul]
    simp only [system, State.start, Connections.State.start, State.clock] at *
    omega
  · have due := paced.interval.due_le paced.inner.connections.reaper.sweeps
    have deadline := schedule.deadline
    rw [period] at deadline
    simp only [InTime, Connections.State.due] at inTime
    simp only [system, State.start, Connections.State.start, State.clock] at *
    omega

end Reachable

/-- A client connects, the reaper sweeps, and the next tick is due. -/
def sweptRun : List Action :=
  [.request 0 ⟨.get, "/connect", ⟨.v4 ⟨10, 0, 0, 1⟩, 443⟩⟩ "id" 0, .reaper .wake,
    .reaper (.inspect "id"), .reaper .collect, .reaper .finish,
    .elapse 10000000000]

theorem keepsRecent_sweptRun :
    ∃ last, (ticking .withConnectInfo HttpsService.idleTimeout 0 reaperInterval
        reaperInterval_positive).runFrom
        (Paced.start (system .withConnectInfo HttpsService.idleTimeout 0)
          State.clock reaperInterval.length reaperInterval_positive) sweptRun =
        some last ∧
      last.inner.connections.registry.count = 1 ∧
      KeepsRecent HttpsService.idleTimeout reaperInterval 0 0 .withConnectInfo
        last := by
  obtain ⟨last, ran, one, now, due⟩ : ∃ last,
      (ticking .withConnectInfo HttpsService.idleTimeout 0 reaperInterval
        reaperInterval_positive).runFrom
        (Paced.start (system .withConnectInfo HttpsService.idleTimeout 0)
          State.clock reaperInterval.length reaperInterval_positive) sweptRun =
        some last ∧
      last.inner.connections.registry.count = 1 ∧
      last.inner.clock = 10000000000 ∧
      last.inner.connections.due last.interval = 10000000000 :=
    ⟨_, rfl, rfl, rfl, rfl⟩
  have inTime : InTime 0 last := by
    rw [InTime, now, due]
    decide
  exact ⟨last, ran, one, keepsRecent ⟨sweptRun, ran⟩ inTime⟩

end IotRouter.Https.Server
