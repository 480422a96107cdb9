import RptAdvanced.Controller.Suspension
import RptAdvanced.Runtime.Reclamation
import RptAdvanced.Controller.Handshake
import RptAdvanced.Controller.Parrot
import RptAdvanced.Controller.Deadline
import RptAdvanced.Runtime.Release
import RptAdvanced.Runtime.Rejection
import RptAdvanced.Link.Dispatcher
import RptAdvanced.Audio.LocalHandoff
import RptAdvanced.Runtime.EventIdentity
import RptAdvanced.Site.RadioHandoff
import RptAdvanced.Site.Demand
import RptAdvanced.Site.WorkerFence
import RptAdvanced.Dtmf.Destination
import RptAdvanced.Runtime.Grace
import RptAdvanced.Link.Signals
import RptAdvanced.Link.Alias
import RptAdvanced.Link.SourceClock
import RptAdvanced.Controller.IdentifierDeadline
import RptAdvanced.Link.Wake
import RptAdvanced.Control.Executor
