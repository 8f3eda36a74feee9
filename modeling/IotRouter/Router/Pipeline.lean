import IotRouter.Runtime.Interleaving
import IotRouter.Router.EdgeStreams

/-!
# From the sources to the dispatcher

Every message in the central channel is the translation of one message its
source sent, and every source's messages pass in the order they were sent: what
the channel took from a source, together with what its task still holds, is the
image of what the task received. On the other end, what the dispatcher finished,
what it works on and what is queued is everything the channel ever took.
-/

namespace IotRouter.Router

open IotRouter.Grpc IotRouter.Https IotRouter.Runtime

/-! ## The image of a source -/

/-- What the inbound task makes of one message of an edge. -/
def edgeImage (msg : FromEdge) : Option RouterMessage :=
  if msg.edgeId = "" then none else processFromEdge msg

/-- The messages of an image, with their provenance. -/
def tagged (source : Source) (image : List (Option RouterMessage)) :
    List (Tagged RouterMessage) :=
  (present image).map fun entry =>
    { source, index := entry.1, value := entry.2 }

theorem mem_tagged {source : Source} {image : List (Option RouterMessage)}
    {message : Tagged RouterMessage} :
    message ∈ tagged source image ↔
      message.source = source ∧
        image[message.index]? = some (some message.value) := by
  simp only [tagged, List.mem_map, Prod.exists]
  constructor
  · intro member
    rcases member with ⟨index, value, member, rfl⟩
    exact ⟨rfl, mem_present.mp member⟩
  · intro genuine
    rcases genuine with ⟨rfl, found⟩
    exact ⟨message.index, message.value, mem_present.mpr found, rfl⟩

theorem tagged_append_singleton (source : Source)
    (image : List (Option RouterMessage)) (entry : Option RouterMessage) :
    tagged source (image ++ [entry]) = tagged source image ++
      (entry.map fun value => { source, index := image.length, value }).toList := by
  rw [tagged, present_append_singleton, List.map_append]
  cases entry <;> rfl

theorem tagged_mono {before after : List (Option RouterMessage)}
    (grows : before <+: after) (source : Source) :
    tagged source before <+: tagged source after :=
  (present_mono grows).map _

theorem map_value_tagged (source : Source)
    (image : List (Option RouterMessage)) :
    (tagged source image).map Tagged.value = image.filterMap id := by
  rw [← map_snd_present]
  simp [tagged]

theorem nodup_tagged (source : Source) (image : List (Option RouterMessage)) :
    (tagged source image).Nodup := by
  apply List.Pairwise.map _ ?_ (pairwise_present image)
  intro left right earlier same
  have equal := congrArg Tagged.index same
  exact absurd equal (Nat.ne_of_lt earlier)

/-- What the task of an edge stream took and has not sent on. -/
def EdgeTask.unforwarded (i : StreamId) (task : EdgeTask) :
    List (Tagged RouterMessage) :=
  match task.pc with
  | .registering index msg =>
      ((processFromEdge msg).map fun value =>
        { source := .edge i, index, value }).toList
  | .forwarding message => [message]
  | _ => []

def SessionTask.unforwarded : SessionTask → List (Tagged RouterMessage)
  | .forwarding message => [message]
  | _ => []

/-- A posted alert that has not been sent on, and never will be if the request
timed out. -/
def HttpRequest.unforwarded (i : Nat) (request : HttpRequest) :
    List (Tagged RouterMessage) :=
  match request.task with
  | .sending _ | .timedOut => tagged (.http i) (request.posted.map some)
  | _ => []

/-- The message of a request is there once the request has been decoded, and it
is an alert for Data. -/
structure HttpRequestWF (request : HttpRequest) : Prop where
  idle : request.task = .idle → request.posted = []
  sending : ∀ message, request.task = .sending message →
    request.posted = [message]
  toData : ∀ message ∈ request.posted, ∃ alert, message = .toData alert

theorem HttpRequestWF.step {central central' : Central}
    {request request' : HttpRequest} {i : Nat} {action : HttpAction}
    (wf : HttpRequestWF request)
    (stepped : HttpStep central request i action central' request') :
    HttpRequestWF request' := by
  cases stepped with
  | accept body message idle handled =>
      refine ⟨by simp, by simp, ?_⟩
      intro other member
      rw [List.mem_singleton] at member
      rw [member]
      exact handleTelemetry_toData handled
  | reject | send | discard | timeout => exact ⟨by simp, by simp, wf.toData⟩

/-! ## One step of a source -/

/-- The task of `source` put messages into the central channel and took others:
what it held and took is what it put and still holds. -/
def Advances (source : Source) (central central' : Central)
    (unforwarded unforwarded' : List (Tagged RouterMessage))
    (image image' : List (Option RouterMessage)) : Prop :=
  ∃ forwarded taken,
    central'.queue = central.queue ++ forwarded ∧
    central'.accepted = central.accepted ++ forwarded ∧
    central'.isOpen = central.isOpen ∧
    (∀ message ∈ forwarded, message.source = source) ∧
    tagged source image' = tagged source image ++ taken ∧
    unforwarded ++ taken = forwarded ++ unforwarded'

namespace Advances

variable {source : Source} {central central' : Central}
variable {unforwarded : List (Tagged RouterMessage)}
variable {image : List (Option RouterMessage)}

theorem still (source : Source) (central : Central)
    (unforwarded : List (Tagged RouterMessage))
    (image : List (Option RouterMessage)) :
    Advances source central central unforwarded unforwarded image image :=
  ⟨[], [], by simp⟩

/-- The task takes one message. -/
theorem take (source : Source) (central : Central)
    (image : List (Option RouterMessage)) (entry : Option RouterMessage) :
    Advances source central central []
      (entry.map fun value => { source, index := image.length, value }).toList
      image (image ++ [entry]) :=
  ⟨[], _, by simp, by simp, rfl, by simp, tagged_append_singleton _ _ _, rfl⟩

/-- The task puts the message it holds into the central channel. -/
theorem forward {message : Tagged RouterMessage}
    (sent : central.send message = .sent central')
    (own : message.source = source) (image : List (Option RouterMessage)) :
    Advances source central central' [message] [] image image := by
  rcases Channel.send_eq_sent.mp sent with ⟨_, room, rfl⟩
  exact ⟨[message], [], by simp, by simp, rfl, by simpa using own, by simp, rfl⟩

end Advances

theorem EdgeStep.advances {central central' : Central} {side side' : EdgeSide}
    {i : StreamId} {action : StreamAction FromEdge}
    (stepped : EdgeStep central side i action central' side')
    (wf : EdgeStreamWF i (side.streams i)) (isOpen : central.isOpen = true) :
    Advances (.edge i) central central'
      ((side.streams i).task.unforwarded i)
      ((side'.streams i).task.unforwarded i)
      ((side.streams i).received.map edgeImage)
      ((side'.streams i).received.map edgeImage) := by
  cases stepped with
  | connect idle =>
      rw [Side.setStream_self, wf.idle idle]
      have nothing : (side.streams i).task.unforwarded i = [] := by
        simp [EdgeTask.unforwarded, idle]
      rw [nothing]
      exact .still _ _ _ _
  | client act stream live acted =>
      rcases Stream.client_frame acted with ⟨task, received, _⟩
      rw [Side.setStream_self, task, received]
      exact .still _ _ _ _
  | skip msg rest pc inbound anonymous =>
      rw [Side.setStream_self, List.map_append]
      have taken := Advances.take (.edge i) central
        ((side.streams i).received.map edgeImage) (edgeImage msg)
      simpa [EdgeTask.unforwarded, pc, edgeImage, anonymous] using taken
  | read msg rest pc inbound named =>
      rw [Side.requestWrite_streams, Side.setStream_self, List.map_append]
      have taken := Advances.take (.edge i) central
        ((side.streams i).received.map edgeImage) (edgeImage msg)
      simpa [EdgeTask.unforwarded, pc, edgeImage, named] using taken
  | register index msg lock pc written =>
      rw [Side.setStream_self]
      have same : (side.streams i).task.unforwarded i =
          ((processFromEdge msg).map fun value =>
            { source := .edge i, index, value }).toList := by
        simp [EdgeTask.unforwarded, pc]
      rw [same]
      cases translated : processFromEdge msg <;>
        simp only [EdgeTask.unforwarded, Option.map_none, Option.map_some,
          Option.toList_none, Option.toList_some]
      · exact .still _ _ _ _
      · exact .still _ _ _ _
  | forward message central' pc sent =>
      rw [Side.setStream_self]
      have own := (wf.forwarding message pc).1
      simpa [EdgeTask.unforwarded, pc] using
        Advances.forward sent own ((side.streams i).received.map edgeImage)
  | discard message pc closed =>
      rw [(Channel.send_eq_closed message).mp closed] at isOpen
      cases isOpen
  | leave edgeId pc =>
      simpa [EdgeTask.unforwarded, pc] using
        Advances.still (.edge i) central []
          ((side.streams i).received.map edgeImage)
  | vanish pc =>
      simpa [EdgeTask.unforwarded, pc] using
        Advances.still (.edge i) central []
          ((side.streams i).received.map edgeImage)
  | unregister edgeId lock pc written =>
      simpa [EdgeTask.unforwarded, pc] using
        Advances.still (.edge i) central []
          ((side.streams i).received.map edgeImage)

theorem SessionStep.advances {In Out : Type} {service : SlotService In}
    {central central' : Central} {side side' : SlotSide In Out} {i : StreamId}
    {action : StreamAction In}
    (stepped : SessionStep service central side i action central' side')
    (wf : SessionStreamWF service i (side.streams i))
    (isOpen : central.isOpen = true) :
    Advances (service.source i) central central'
      (side.streams i).task.unforwarded (side'.streams i).task.unforwarded
      ((side.streams i).received.map service.process)
      ((side'.streams i).received.map service.process) := by
  have still : Advances (service.source i) central central [] []
      ((side.streams i).received.map service.process)
      ((side.streams i).received.map service.process) := .still _ _ _ _
  cases stepped with
  | connect idle =>
      simpa [SessionTask.unforwarded, idle, wf.idle idle, Stream.fresh] using
        still
  | abort waiting =>
      simpa [SessionTask.unforwarded, waiting, Side.setStream] using still
  | client act stream live acted =>
      rcases Stream.client_frame acted with ⟨task, received, _⟩
      rw [Side.setStream_self, task, received]
      exact .still _ _ _ _
  | read msg rest task inbound =>
      rw [Side.setStream_self, List.map_append, task]
      have taken := Advances.take (service.source i) central
        ((side.streams i).received.map service.process) (service.process msg)
      cases translated : service.process msg <;>
        simpa [SessionTask.unforwarded, translated] using taken
  | forward message central' task sent =>
      rw [Side.setStream_self, task]
      exact .forward sent (wf.forwarding message task).1 _
  | discard message task closed =>
      rw [(Channel.send_eq_closed message).mp closed] at isOpen
      cases isOpen
  | register lock task written =>
      simpa [SessionTask.unforwarded, task] using still
  | leave task inbound ended =>
      simpa [SessionTask.unforwarded, task] using still
  | unregister lock task written =>
      simpa [SessionTask.unforwarded, task] using still

theorem HttpStep.advances {central central' : Central}
    {request request' : HttpRequest} {i : Nat} {action : HttpAction}
    (stepped : HttpStep central request i action central' request')
    (wf : HttpRequestWF request) (isOpen : central.isOpen = true) :
    Advances (.http i) central central' (request.unforwarded i)
      (request'.unforwarded i) (request.posted.map some)
      (request'.posted.map some) := by
  cases stepped with
  | accept body message idle handled =>
      have taken := Advances.take (.http i) central [] (some message)
      simpa [HttpRequest.unforwarded, idle, wf.idle idle, tagged, present]
        using taken
  | reject body error idle handled =>
      simpa [HttpRequest.unforwarded, idle] using
        Advances.still (.http i) central [] (request.posted.map some)
  | send message central' task sent =>
      have own : Advances (.http i) central central'
          [{ source := .http i, index := 0, value := message }] []
          (request.posted.map some) (request.posted.map some) :=
        .forward sent rfl _
      simpa [HttpRequest.unforwarded, task, wf.sending message task, tagged,
        present] using own
  | discard message task closed =>
      rw [(Channel.send_eq_closed _).mp closed] at isOpen
      cases isOpen
  | timeout message task =>
      simpa [HttpRequest.unforwarded, task] using
        Advances.still (.http i) central
          (tagged (.http i) (request.posted.map some))
          (request.posted.map some)

/-! ## The whole router -/

/-- The message the dispatcher works on. -/
def Dispatcher.inHand : Dispatcher → List (Tagged RouterMessage)
  | .receiving => []
  | .lookingUp message | .sending message _ | .broadcasting message _ _ _ =>
      [message]

namespace State

/-- What the task of a source makes of the messages it received. -/
def image (state : State) : Source → List (Option RouterMessage)
  | .edge i => (state.edges.streams i).received.map edgeImage
  | .manager i => (state.manager.streams i).received.map processFromManager
  | .data i => (state.data.streams i).received.map processFromData
  | .http i => (state.http i).posted.map some

/-- What the task of a source makes of everything the source sent. -/
def sentImage (state : State) : Source → List (Option RouterMessage)
  | .edge i => (state.edges.streams i).sent.map edgeImage
  | .manager i => (state.manager.streams i).sent.map processFromManager
  | .data i => (state.data.streams i).sent.map processFromData
  | .http i => (state.http i).posted.map some

def unforwarded (state : State) : Source → List (Tagged RouterMessage)
  | .edge i => (state.edges.streams i).task.unforwarded i
  | .manager i => (state.manager.streams i).task.unforwarded
  | .data i => (state.data.streams i).task.unforwarded
  | .http i => (state.http i).unforwarded i

/-- The messages the dispatcher is done with. -/
def processed (state : State) : List (Tagged RouterMessage) :=
  state.dispatched.map Dispatch.message

/-- Where the messages are. -/
structure Pipeline (state : State) : Prop where
  isOpen : state.central.isOpen = true
  http : ∀ i, HttpRequestWF (state.http i)
  accepted : state.central.accepted =
    state.processed ++ state.dispatcher.inHand ++ state.central.queue
  forwarded : ∀ source, part Tagged.source state.central.accepted source ++
    state.unforwarded source = tagged source (state.image source)

theorem pipeline_start : Pipeline start where
  isOpen := rfl
  http i := ⟨fun _ => rfl, by simp [start], by simp [start]⟩
  accepted := rfl
  forwarded source := by
    cases source <;> rfl

/-- The dispatcher takes messages off the central channel one by one and keeps
each of them until it is done with it. -/
theorem DispatchStep.carries {state next : State}
    {order : List (String × StreamId)}
    (stepped : DispatchStep state order next) :
    next.central.accepted = state.central.accepted ∧
      next.central.isOpen = state.central.isOpen ∧
      next.processed ++ next.dispatcher.inHand ++ next.central.queue =
        state.processed ++ state.dispatcher.inHand ++ state.central.queue := by
  cases stepped with
  | receive message central idle received =>
      rcases Channel.receive_eq_some.mp received with ⟨queue, accepted, isOpen⟩
      rw [queue, idle]
      simp only [route]
      split <;> exact ⟨accepted, isOpen, by simp [processed, Dispatcher.inHand]⟩
  | lookUpEdge message destination toEdge edges found at_ value plain looked =>
      cases found <;> exact ⟨rfl, rfl, by
        simp [finishLookUp, finish, processed, Dispatcher.inHand, at_]⟩
  | lookUpManager message toManager manager found at_ value looked =>
      cases found <;> exact ⟨rfl, rfl, by
        simp [finishLookUp, finish, processed, Dispatcher.inHand, at_]⟩
  | lookUpData message toData data found at_ value looked =>
      cases found <;> exact ⟨rfl, rfl, by
        simp [finishLookUp, finish, processed, Dispatcher.inHand, at_]⟩
  | startBroadcast message destination toEdge heartbeat lock at_ =>
      exact ⟨rfl, rfl, by simp [processed, Dispatcher.inHand, at_]⟩
  | sendEdge message destination toEdge tx edges delivered at_ =>
      exact ⟨rfl, rfl, by
        simp [finishSend, finish, processed, Dispatcher.inHand, at_]⟩
  | sendManager message toManager tx manager delivered at_ =>
      exact ⟨rfl, rfl, by
        simp [finishSend, finish, processed, Dispatcher.inHand, at_]⟩
  | sendData message toData tx data delivered at_ =>
      exact ⟨rfl, rfl, by
        simp [finishSend, finish, processed, Dispatcher.inHand, at_]⟩
  | broadcastSent message heartbeat edgeId tx rest sentCount edges at_ =>
      exact ⟨rfl, rfl, by simp [processed, Dispatcher.inHand, at_]⟩
  | broadcastClosed message heartbeat edgeId tx rest sentCount at_ =>
      exact ⟨rfl, rfl, by simp [processed, Dispatcher.inHand, at_]⟩
  | finishBroadcast message heartbeat sentCount at_ =>
      exact ⟨rfl, rfl, by simp [finish, processed, Dispatcher.inHand, at_]⟩

/-- The dispatcher takes nothing from the sources. -/
theorem DispatchStep.sources {state next : State}
    {order : List (String × StreamId)}
    (stepped : DispatchStep state order next) (source : Source) :
    next.image source = state.image source ∧
      next.unforwarded source = state.unforwarded source := by
  rcases stepped.served with ⟨edges, manager, data, http⟩
  cases source <;>
    simp [image, unforwarded, edges.received, edges.task, manager.received,
      manager.task, data.received, data.task, http]

/-- A step of one source keeps the pipeline in order. -/
theorem Pipeline.advance {state next : State} (before : Pipeline state)
    (source : Source)
    (advances : Advances source state.central next.central
      (state.unforwarded source) (next.unforwarded source) (state.image source)
      (next.image source))
    (others : ∀ other, other ≠ source → next.image other = state.image other ∧
      next.unforwarded other = state.unforwarded other)
    (http : ∀ i, HttpRequestWF (next.http i))
    (processed : next.processed = state.processed)
    (dispatcher : next.dispatcher = state.dispatcher) : Pipeline next := by
  rcases advances with
    ⟨forwarded, taken, queue, accepted, isOpen, own, image, balance⟩
  refine ⟨isOpen.trans before.isOpen, http, ?_, fun other => ?_⟩
  · rw [accepted, before.accepted, processed, dispatcher, queue]
    simp
  · rw [accepted, part_append]
    by_cases same : other = source
    · subst same
      rw [part_of_all _ own, image, ← before.forwarded other]
      rw [List.append_assoc, List.append_assoc, balance]
    · rcases others other same with ⟨sameImage, sameUnforwarded⟩
      rw [part_of_none _ own same, sameImage, sameUnforwarded, List.append_nil]
      exact before.forwarded other

theorem pipeline {state : State} (reachable : system.Reachable state) :
    Pipeline state := by
  apply System.invariant Pipeline pipeline_start ?_ reachable
  intro state next action reached before stepped
  cases step_cases stepped with
  | edge i act central edges inner =>
      refine before.advance (.edge i)
        (inner.advances ((edgeSideWF reached).streams i) before.isOpen) ?_
        before.http rfl rfl
      intro other different
      cases other with
      | edge j =>
          have apart : j ≠ i := fun same => different (same ▸ rfl)
          simp [image, unforwarded, inner.streams_of_ne apart]
      | manager | data | http => exact ⟨rfl, rfl⟩
  | manager i act central manager inner =>
      refine before.advance (.manager i)
        (inner.advances ((slotSidesWF reached).1.streams i) before.isOpen) ?_
        before.http rfl rfl
      intro other different
      cases other with
      | manager j =>
          have apart : j ≠ i := fun same => different (same ▸ rfl)
          simp [image, unforwarded, inner.streams_of_ne apart]
      | edge | data | http => exact ⟨rfl, rfl⟩
  | data i act central data inner =>
      refine before.advance (.data i)
        (inner.advances ((slotSidesWF reached).2.streams i) before.isOpen) ?_
        before.http rfl rfl
      intro other different
      cases other with
      | data j =>
          have apart : j ≠ i := fun same => different (same ▸ rfl)
          simp [image, unforwarded, inner.streams_of_ne apart]
      | edge | manager | http => exact ⟨rfl, rfl⟩
  | http i act central request inner =>
      refine before.advance (.http i) ?_ ?_ ?_ rfl rfl
      · simpa [image, unforwarded] using
          inner.advances (before.http i) before.isOpen
      · intro other different
        cases other with
        | http j =>
            have apart : j ≠ i := fun same => different (same ▸ rfl)
            simp [image, unforwarded, apart]
        | edge | manager | data => exact ⟨rfl, rfl⟩
      · intro j
        by_cases own : j = i
        · subst own
          simpa using (before.http j).step inner
        · simpa [own] using before.http j
  | dispatcher order next inner =>
      rcases inner.carries with ⟨accepted, isOpen, balance⟩
      refine ⟨isOpen.trans before.isOpen, ?_, ?_, fun source => ?_⟩
      · rw [inner.served.2.2.2]
        exact before.http
      · rw [accepted, before.accepted, balance]
      · rcases inner.sources source with ⟨sameImage, sameUnforwarded⟩
        rw [accepted, sameImage, sameUnforwarded]
        exact before.forwarded source

/-! ## Consequences -/

section Consequences

variable {state : State}

/-- What a task received is the beginning of what its client sent. -/
theorem image_prefix_sent (reachable : system.Reachable state) (source : Source) :
    state.image source <+: state.sentImage source := by
  cases source with
  | edge i =>
      exact ((edgeSideWF reachable).streams i).inbound.received_prefix_sent.map _
  | manager i =>
      exact ((slotSidesWF reachable).1.streams i).inbound.received_prefix_sent.map _
  | data i =>
      exact ((slotSidesWF reachable).2.streams i).inbound.received_prefix_sent.map _
  | http i => exact List.prefix_rfl

theorem Pipeline.part_mono (wf : Pipeline state) (source : Source) :
    part Tagged.source state.central.accepted source <+:
      tagged source (state.image source) := by
  rw [← wf.forwarded source]
  exact List.prefix_append _ _

/-- A message in the central channel is the translation of what its source sent
at its position. -/
theorem Pipeline.genuine (wf : Pipeline state) {message : Tagged RouterMessage}
    (member : message ∈ state.central.accepted) :
    (state.image message.source)[message.index]? = some (some message.value) :=
  (mem_tagged.mp ((wf.part_mono _).subset
    ((mem_part Tagged.source).mpr member))).2

/-- No message goes through the central channel twice. -/
theorem Pipeline.nodup (wf : Pipeline state) :
    state.central.accepted.Nodup :=
  nodup_of_parts Tagged.source fun source =>
    (nodup_tagged source _).sublist (wf.part_mono source).sublist

theorem Pipeline.processed_prefix_accepted (wf : Pipeline state) :
    state.processed <+: state.central.accepted := by
  rw [wf.accepted, List.append_assoc]
  exact List.prefix_append _ _

/-- The message in hand has been taken by the channel. -/
theorem Pipeline.inHand_accepted (wf : Pipeline state)
    {message : Tagged RouterMessage}
    (member : message ∈ state.dispatcher.inHand) :
    message ∈ state.central.accepted := by
  rw [wf.accepted]
  simp [member]

/-- The message in hand has not been processed before. -/
theorem Pipeline.inHand_fresh (wf : Pipeline state)
    {message : Tagged RouterMessage}
    (member : message ∈ state.dispatcher.inHand) :
    message ∉ state.processed := by
  intro earlier
  have nodup := wf.nodup
  rw [wf.accepted, List.append_assoc, List.nodup_append] at nodup
  exact nodup.2.2 message earlier message (List.mem_append_left _ member) rfl

/-- The processed messages of one source are, in order, the translation of the
first messages it sent. -/
theorem processed_prefix_sent (reachable : system.Reachable state)
    (source : Source) :
    (part Tagged.source state.processed source).map Tagged.value <+:
      (state.sentImage source).filterMap id := by
  have wf := pipeline reachable
  have taken : part Tagged.source state.processed source <+:
      tagged source (state.sentImage source) :=
    ((part_mono _ wf.processed_prefix_accepted source).trans
      (wf.part_mono source)).trans
        (tagged_mono (image_prefix_sent reachable source) source)
  rw [← map_value_tagged source]
  exact taken.map _

end Consequences

end State

end IotRouter.Router
