import ResilientChannel.Channel
import ResilientChannel.Options.Form
import ResilientChannel.Proofs.Channel.Construction
import ResilientChannel.Proofs.Endpoints.BaseUrl
import ResilientChannel.Proofs.Endpoints.Origin
import ResilientChannel.Proofs.Frame.Ambiguity
import ResilientChannel.Proofs.Options.Documents
import ResilientChannel.Proofs.Polling.Count
import ResilientChannel.Proofs.Polling.Sessions
import ResilientChannel.Proofs.Polling.Silence
import ResilientChannel.Proofs.Registry.Dispatch
import ResilientChannel.Proofs.Retry.Backoff
import ResilientChannel.Proofs.Session.BeforeStart
import ResilientChannel.Proofs.Session.Frames
import ResilientChannel.Proofs.Session.FreshAttempts
import ResilientChannel.Proofs.Session.Messages
import ResilientChannel.Proofs.Session.Notices
import ResilientChannel.Proofs.Session.Observation
import ResilientChannel.Proofs.Session.Outage
import ResilientChannel.Proofs.Session.Returns
import ResilientChannel.Proofs.Session.Shutdown
import ResilientChannel.Proofs.Session.Snapshots
import ResilientChannel.Proofs.Session.Staleness
import ResilientChannel.Proofs.Session.Watchers
import ResilientChannel.Proofs.Socket.Abandonment
import ResilientChannel.Proofs.Socket.Frames
import ResilientChannel.Proofs.TaskPool.Conservation
import ResilientChannel.Proofs.Transport.Firing
import ResilientChannel.Session.Run
import ResilientChannel.Transport.Dial
