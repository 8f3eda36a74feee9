import IotRouter.Router.Step
import IotRouter.Router.Inversion
import IotRouter.Router.Backlog
import IotRouter.Router.Backpressure
import IotRouter.Router.EdgeTraffic
import IotRouter.Router.Ownership
import IotRouter.Router.Replies
import IotRouter.Router.Slots
import IotRouter.Router.Takeover
import IotRouter.Connections.Reaper
import IotRouter.Https.Acceptance
import IotRouter.Https.Accounting
import IotRouter.Https.Clients
import IotRouter.Https.Freshness
import IotRouter.Https.Middleware
import IotRouter.Https.Observation
import IotRouter.Https.Sessions
import IotRouter.Https.Wire
import IotRouter.Router.Broadcast
import IotRouter.Router.Healing
import IotRouter.Router.Noninterference
import IotRouter.Router.Quiescence
import IotRouter.Router.Order
import IotRouter.Router.Readers
import IotRouter.Main.Alerts
import IotRouter.Startup.Launch
