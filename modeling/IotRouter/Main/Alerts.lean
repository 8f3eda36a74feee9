import Mathlib.Data.Finset.Card
import IotRouter.Main.Program
import IotRouter.Router.Backlog
import IotRouter.Router.Sending

/-!
# Posted alerts in the whole program

From the request to the Data session: an alert answered with 200 is on its way or
has been dealt with, once, and an alert answered otherwise is nowhere. And a
client that stops draining holds back the alerts too: while the dispatcher waits
for it, no more requests are answered with 200 than there was room in the central
channel.
-/

namespace IotRouter.Main

open IotRouter.Grpc (RouterMessage)
open IotRouter.Runtime IotRouter.Https
open IotRouter.Router (Tagged Source HttpRequest HttpAction HttpTask Client)

/-! ## Answers -/

/-- A request whose handler has posted a message is not answered with an error:
the central channel stays open. -/
theorem posted_of_error {router : Router.State}
    (reachable : Router.system.Reachable router) :
    ∀ i error, (router.http i).task = .replied (.error error) →
      (router.http i).posted = [] := by
  apply System.invariant (fun router : Router.State => ∀ i error,
    (router.http i).task = .replied (.error error) →
      (router.http i).posted = []) ?_ ?_ reachable
  · intro i error replied
    cases replied
  · intro router next action reached before stepped i error replied
    have wf := Router.State.pipeline reached
    cases Router.State.step_cases stepped with
    | edge | manager | data => exact before i error replied
    | dispatcher order next inner =>
        rw [inner.served.2.2.2] at replied ⊢
        exact before i error replied
    | http j act central request inner =>
        dsimp only at replied ⊢
        by_cases own : i = j
        · subst own
          rw [Function.update_self] at replied ⊢
          cases inner with
          | accept | send | timeout => cases replied
          | reject body error idle => exact (wf.http i).idle idle
          | discard message task closed =>
              have isOpen := wf.isOpen
              rw [(Channel.send_eq_closed _).mp closed] at isOpen
              cases isOpen
        · rw [Function.update_of_ne own] at replied ⊢
          exact before i error replied

/-- A request whose body was read is answered with what its handler returned, or
by the timeout layer. -/
def AnswersReplies (server : Server.State) : Prop :=
  ∀ i request body response,
    server.exchanges i = .answered request (some body) response →
    (∃ reply, response = telemetryResponse reply) ∨ response = .rejected 408

theorem AnswersReplies.setExchange {server : Server.State}
    (answers : AnswersReplies server) {base : Server.State}
    (same : base.exchanges = server.exchanges) {i : Nat} {exchange : Exchange}
    (own : ∀ request body response,
      exchange = .answered request (some body) response →
      (∃ reply, response = telemetryResponse reply) ∨ response = .rejected 408) :
    AnswersReplies (base.setExchange i exchange) := by
  intro j request body response answered
  simp only [Server.State.setExchange, same] at answered
  by_cases here : j = i
  · subst here
    rw [Function.update_self] at answered
    exact own request body response answered
  · rw [Function.update_of_ne here] at answered
    exact answers j request body response answered

theorem AnswersReplies.settle {server : Server.State}
    (answers : AnswersReplies server) (i : Nat) (request : Request) (body : Body)
    (central : Router.Central) (alert : HttpRequest) :
    AnswersReplies (server.settle i request body central alert) := by
  simp only [Server.State.settle]
  split
  · rename_i reply task
    apply answers.setExchange
    · split <;> rfl
    · intro _ _ response same
      cases same
      exact Or.inl ⟨reply, rfl⟩
  · apply answers.setExchange rfl
    intro _ _ response same
    cases same
    exact Or.inr rfl
  · apply answers.setExchange rfl
    intro _ _ response same
    cases same

theorem AnswersReplies.telemetry {server next : Server.State}
    (answers : AnswersReplies server) {i : Nat} {action : Server.TelemetryAction}
    (ran : server.telemetry i action = some next) : AnswersReplies next := by
  simp only [Server.State.telemetry] at ran
  split at ran
  · cases ran
    exact answers.setExchange rfl (by simp)
  · cases ran
    exact answers.setExchange rfl (by simp)
  · rcases Option.map_eq_some_iff.mp ran with ⟨⟨central, alert⟩, _, rfl⟩
    exact answers.settle _ _ _ central alert
  · cases ran
  · rcases Option.map_eq_some_iff.mp ran with ⟨⟨central, alert⟩, _, rfl⟩
    exact answers.settle _ _ _ central alert
  · cases ran

theorem reachable_answersReplies {service : MakeService}
    {idleTimeout : Connections.Duration} {clock : Int} {server : Server.State}
    (reachable : (Server.system service idleTimeout clock).Reachable server) :
    AnswersReplies server := by
  apply System.invariant AnswersReplies ?_ ?_ reachable
  · intro i request body response answered
    cases answered
  · intro server next action _ answers stepped
    have ran : server.step service action = some next := stepped
    cases action with
    | telemetry i action => exact answers.telemetry ran
    | elapse | reaper | central =>
        cases Server.State.step_cases ran
        exact answers
    | request i request uuid took =>
        cases Server.State.step_cases ran <;>
          exact answers.setExchange rfl (by simp)

namespace State

variable {state last : State} {clock : Int}

/-- An alert that is answered with 200 or by the timeout layer, if its body is
one: never that the channel is closed. -/
theorem answered_alert (reachable : (system clock).Reachable state) {i : Nat}
    {request : Request} {body : Body} {response : Response}
    {message : RouterMessage}
    (answered : state.exchanges i = .answered request (some body) response)
    (handled : handleTelemetry body = .ok message) :
    response = .alert "recibido y enrutado" ∨ response = .rejected 408 := by
  rcases reachable_parts reachable with ⟨router, server⟩
  rcases reachable_answersReplies server i request body response answered with
    ⟨reply, rfl⟩ | late
  · left
    cases reply with
    | error error =>
        obtain ⟨code, text, isError⟩ : ∃ code text,
            telemetryResponse (.error error) = .error code text := by
          cases error <;> exact ⟨_, _, rfl⟩
        have replied : (state.router.http i).task =
            .replied (.error (.alertError text)) := by
          change (alertOf (state.exchanges i)).task = _
          rw [answered, isError]
          rfl
        have posted := posted_of_error router i _ replied
        change (alertOf (state.exchanges i)).posted = [] at posted
        rw [answered] at posted
        change (handleTelemetry body).toOption.toList = [] at posted
        rw [handled] at posted
        cases posted
    | ok status =>
        have alerts := Server.reachable_alertsWF server i
        rw [show state.server.exchanges i = _ from answered] at alerts
        cases alerts with
        | accepted => rfl
        | failed _ _ _ code => exact absurd rfl code
  · exact Or.inr late

/-! ## From the request to the Data session -/

/-- The message of a request answered with 200. -/
def confirmed (state : State) (i : Nat) : List (Tagged RouterMessage) :=
  match state.exchanges i with
  | .answered _ (some body) (.alert _) =>
      (handleTelemetry body).toOption.toList.map fun value =>
        { source := .http i, index := 0, value }
  | _ => []

/-- What has become of the alert of a request. -/
structure AlertEndToEnd (state : State) (i : Nat) : Prop where
  /-- An alert answered with 200 has been processed, is in hand or is queued,
  once; of any other request there is nothing. -/
  carried : part Tagged.source (state.router.processed ++
      state.dispatcher.inHand ++ state.central.queue) (.http i) =
    state.confirmed i
  /-- Only a Data session is told, and only of an alert answered with 200. -/
  told : ∀ client, ∀ message ∈ state.router.outbox client,
    message.source = .http i → (∃ session, client = .data session) ∧
      message ∈ state.confirmed i ∧ message ∈ state.router.processed
  once : ∀ message : Tagged RouterMessage, message.source = .http i →
    Router.State.ToldOnce message state.router
  /-- A body that is an alert is not answered with an error. -/
  answered : ∀ request body response message,
    state.exchanges i = .answered request (some body) response →
    handleTelemetry body = .ok message →
    response = .alert "recibido y enrutado" ∨ response = .rejected 408

/-- What the channel took of a request is what the request was answered for. -/
theorem appended_eq_confirmed (reachable : (system clock).Reachable state)
    (i : Nat) : Server.appended state.central i = state.confirmed i := by
  have wf := Server.reachable_alertsWF (reachable_parts reachable).2 i
  change Server.AlertWF (Server.appended state.central i) i
    (state.exchanges i) at wf
  rw [confirmed]
  generalize state.exchanges i = exchange at wf ⊢
  cases wf with
  | unused nothing | reading _ _ nothing | handling _ _ _ _ _ nothing
  | elsewhere _ _ _ nothing => exact nothing
  | accepted request body message routed handled one =>
      rw [one]
      change _ = (handleTelemetry body).toOption.toList.map _
      rw [handled]
      rfl
  | failed request body response code nothing =>
      rw [nothing]
      split
      · rename_i same
        cases same
        exact absurd rfl code
      · rfl

/-- A message of no request the channel took is told once too: to nobody. -/
theorem toldOnce_http {router : Router.State}
    (reachable : Router.system.Reachable router)
    {message : Tagged RouterMessage} {i : Nat}
    (source : message.source = .http i) :
    Router.State.ToldOnce message router := by
  by_cases told : ∃ client, message ∈ router.outbox client
  · rcases told with ⟨client, member⟩
    exact Router.State.toldOnce reachable
      (Router.State.told_http reachable member source).2.1
  · refine ⟨none, fun client => ?_⟩
    rw [List.count_eq_zero.mpr fun member => told ⟨client, member⟩]
    rfl

/-- In every reachable state of the program, for every request. -/
theorem alertsEndToEnd (reachable : (system clock).Reachable state) (i : Nat) :
    AlertEndToEnd state i := by
  have router := (reachable_parts reachable).1
  have wf := Router.State.pipeline router
  have taken := appended_eq_confirmed reachable i
  constructor
  · rw [← taken]
    exact congrArg (part Tagged.source · (.http i)) wf.accepted.symm
  · intro client message member source
    rcases Router.State.told_http router member source with
      ⟨session, _, done⟩
    refine ⟨session, ?_, done⟩
    rw [← taken]
    apply List.mem_filter.mpr
    exact ⟨wf.processed_prefix_accepted.subset done, by simp [source]⟩
  · intro message source
    exact toldOnce_http router source
  · intro request body response message answered handled
    exact answered_alert reachable answered handled

/-- Two alerts are posted and one body that is none; the first goes to a Data
session. -/
def postedRun : List Action :=
  [.router (.data 0 .connect), .router (.data 0 .task),
    .https (.request 0 Server.alertRequest "" 0),
    .https (.request 1 Server.alertRequest "" 0),
    .https (.request 2 Server.alertRequest "" 0),
    .https (.telemetry 0 (.handler (.post (thBody 5)))),
    .https (.telemetry 1 (.handler (.post ⟨none, none⟩))),
    .https (.telemetry 2 (.handler (.post (thBody 7)))),
    .https (.telemetry 0 (.handler .task)), .router (.dispatcher []),
    .router (.dispatcher []), .router (.dispatcher []),
    .https (.telemetry 2 (.handler .task))]

theorem alertsEndToEnd_postedRun :
    ∃ last, (system 0).runFrom (start 0) postedRun = some last ∧
      (last.router.outbox (.data 0)).length = 1 ∧
      (last.confirmed 0).length = 1 ∧ last.confirmed 1 = [] ∧
      (last.confirmed 2).length = 1 ∧ ∀ i, AlertEndToEnd last i := by
  obtain ⟨last, ran, told, first, second, third⟩ : ∃ last,
      (system 0).runFrom (start 0) postedRun = some last ∧
      (last.router.outbox (.data 0)).length = 1 ∧
      (last.confirmed 0).length = 1 ∧ last.confirmed 1 = [] ∧
      (last.confirmed 2).length = 1 := ⟨_, rfl, rfl, rfl, rfl, rfl⟩
  exact ⟨last, ran, told, first, second, third,
    alertsEndToEnd ⟨postedRun, ran⟩⟩

/-! ## Alerts behind a client that stops draining -/

/-- What can still happen while the dispatcher waits for a client that does not
drain. -/
structure HeldBack (state last : State) : Prop where
  outbox : last.router.outbox = state.router.outbox
  dispatched : last.dispatched = state.dispatched
  /-- The central channel takes no more than it has room for. -/
  accepted : state.central.accepted <+: last.central.accepted
  room : last.central.accepted.length + state.central.queue.length ≤
    state.central.accepted.length + 1000
  /-- No more requests are answered with 200 than that. -/
  alerts : ∀ requests : Finset Nat,
    (∀ i ∈ requests, ¬Server.Accepted state.server i ∧
      Server.Accepted last.server i) →
    requests.card + state.central.queue.length ≤ 1000

/-- A request answered with 200 since then has its message in what the channel
took since then. -/
theorem mem_of_newly_accepted (reachable : (system clock).Reachable state)
    (reachableLast : (system clock).Reachable last)
    {taken : List (Tagged RouterMessage)}
    (grown : last.central.accepted = state.central.accepted ++ taken) {i : Nat}
    (before : ¬Server.Accepted state.server i)
    (after : Server.Accepted last.server i) :
    Source.http i ∈ taken.map Tagged.source := by
  have once := (Server.reachable_alertsWF (reachable_parts reachable).2
    i).acceptedOnce rfl
  have onceLast := (Server.reachable_alertsWF (reachable_parts reachableLast).2
    i).acceptedOnce rfl
  have nothing : Server.appended state.central i = [] := once.orNot before
  rcases onceLast.once.mp after with ⟨alert, one⟩
  have one : Server.appended last.central i = _ := one
  rw [Server.appended, grown, List.filter_append] at one
  rw [Server.appended] at nothing
  rw [nothing, List.nil_append] at one
  have member : _ ∈ List.filter _ taken := one ▸ List.mem_singleton_self _
  exact List.mem_map.mpr ⟨_, (List.mem_filter.mp member).1, rfl⟩

/-- While the dispatcher waits for a client and the client neither drains nor
goes, whatever the other clients and the HTTP server do. -/
theorem heldBack {client : Client} {schedule : List Action}
    (reachable : (system clock).Reachable state)
    (suspended : state.router.SuspendedOn client)
    (ran : (system clock).runFrom state schedule = some last)
    (leaves : ∀ action, Action.router action ∈ schedule →
      Router.State.LeavesFull client action) :
    HeldBack state last := by
  have router := (reachable_parts reachable).1
  have reachableLast := reachable.run ran
  have free : ∀ i act, Router.State.LeavesFull client (.http i act) := by
    intro i act
    cases client <;> exact ⟨Router.Action.noConfusion, Router.Action.noConfusion⟩
  have stalled := Router.State.suspended_run router suspended
    (leads_router free reachable ran leaves)
  have before : state.central.accepted = _ :=
    (Router.State.pipeline router).accepted
  have after : last.central.accepted = _ :=
    (Router.State.pipeline (reachable_parts reachableLast).1).accepted
  rcases stalled.queue with ⟨taken, queue⟩
  have queue : state.central.queue ++ taken = last.central.queue := queue
  have grown : last.central.accepted = state.central.accepted ++ taken := by
    rw [after, before, Router.State.processed, Router.State.processed,
      stalled.dispatched, stalled.dispatcher]
    change _ ++ last.central.queue = _ ++ state.central.queue ++ taken
    rw [← queue, List.append_assoc _ state.central.queue]
  have bounded := last.central.bounded
  rw [← queue, List.length_append] at bounded
  refine ⟨stalled.outbox, stalled.dispatched, ⟨taken, grown.symm⟩, ?_, ?_⟩
  · rw [grown, List.length_append]
    omega
  · intro requests newly
    have inside : requests.image Source.http ⊆
        (taken.map Tagged.source).toFinset := by
      intro source member
      rcases Finset.mem_image.mp member with ⟨i, listed, rfl⟩
      exact List.mem_toFinset.mpr (mem_of_newly_accepted reachable reachableLast
        grown (newly i listed).1 (newly i listed).2)
    have card : (requests.image Source.http).card = requests.card :=
      Finset.card_image_of_injective requests fun _ _ => Source.http.inj
    have fits := (Finset.card_le_card inside).trans
      (List.toFinset_card_le _)
    rw [List.length_map] at fits
    omega

/-- The steps of an alert that is read, decoded and sent. -/
def posting (i : Nat) : List Action :=
  [.https (.request i Server.alertRequest "" 0),
    .https (.telemetry i (.handler (.post (thBody 5)))),
    .https (.telemetry i (.handler .task))]

/-- As long as there is room in the central channel, they get the alert
accepted. -/
theorem accepted_of_posting {i : Nat} (unused : state.exchanges i = .unused)
    (isOpen : state.central.isOpen = true)
    (room : state.central.queue.length < 1000) :
    ∃ last, (system clock).runFrom state (posting i) = some last ∧
      Server.Accepted last.server i := by
  rcases arrives unused with ⟨arrived, step, same, exchanges⟩
  have central : arrived.central = state.central :=
    congrArg Router.State.central same
  have reading : arrived.server.exchanges i = .reading Server.alertRequest := by
    change arrived.exchanges i = _
    rw [exchanges, Function.update_self]
  obtain ⟨decoded, decodes, kept, handling⟩ : ∃ next,
      arrived.step (.https (.telemetry i (.handler (.post (thBody 5))))) =
        some next ∧ next.central = arrived.central ∧
      ∃ message posted, next.server.exchanges i = .handling Server.alertRequest
        (thBody 5) { task := .sending message, posted } := by
    simp only [State.step, ofServer, Server.State.step, Server.State.telemetry,
      reading, if_true]
    exact ⟨_, rfl, rfl, _, _, Function.update_self i _ _⟩
  rcases handling with ⟨message, posted, handling⟩
  obtain ⟨filled, sent⟩ : ∃ filled, decoded.server.central.send
      { source := .http i, index := 0, value := message } = .sent filled := by
    refine ⟨_, Channel.send_eq_sent.mpr ⟨?_, ?_, rfl⟩⟩
    · change decoded.central.isOpen = true
      rw [kept, central, isOpen]
    · change decoded.central.queue.length < 1000
      rw [kept, central]
      exact room
  obtain ⟨last, sends, answered⟩ : ∃ next,
      decoded.step (.https (.telemetry i (.handler .task))) = some next ∧
      ∃ body response, next.server.exchanges i =
        .answered Server.alertRequest body response ∧ response.code = 200 := by
    simp only [State.step, ofServer, Server.State.step, Server.State.telemetry,
      handling, HttpRequest.step, sent, if_true]
    exact ⟨_, rfl, _, _, Function.update_self i _ _, rfl⟩
  rcases answered with ⟨body, response, answered, code⟩
  refine ⟨last, ?_, _, body, response, answered, rfl, code⟩
  simp only [posting, System.runFrom_cons, System.runFrom_nil, system, step,
    decodes, sends, Option.bind_some]

/-- One more alert is accepted while the dispatcher waits. -/
theorem heldBack_suspended : ∃ state last client schedule i,
    (system 0).Reachable state ∧ state.router.SuspendedOn client ∧
    (system 0).runFrom state schedule = some last ∧
    ¬Server.Accepted state.server i ∧ Server.Accepted last.server i ∧
    HeldBack state last := by
  rcases Router.State.exists_suspended with ⟨router, full, _, suspended⟩
  rcases realizes 0 full.reachable with ⟨state, reachable, rfl, unseen⟩
  have unused : state.exchanges 101 = .unused :=
    unseen 101 (full.http 101 (Nat.le_refl _))
  have isOpen : state.central.isOpen = true :=
    (Router.State.pipeline full.reachable).isOpen
  have empty : state.central.queue = [] := full.empty
  obtain ⟨last, ran, accepted⟩ : ∃ last,
      (system 0).runFrom state (posting 101) = some last ∧
      Server.Accepted last.server 101 :=
    accepted_of_posting unused isOpen (by simp [empty])
  have before : ¬Server.Accepted state.server 101 := by
    rintro ⟨request, body, response, answered, _⟩
    cases unused.symm.trans answered
  exact ⟨state, last, .data 0, posting 101, 101, reachable, suspended, ran,
    before, accepted, heldBack reachable suspended ran (by simp [posting])⟩

end State

end IotRouter.Main
