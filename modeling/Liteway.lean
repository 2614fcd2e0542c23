import Liteway.Core.Authenticity
import Liteway.Core.FragAccounting
import Liteway.Core.FragReassembly
import Liteway.Core.FragRefusal
import Liteway.Core.HandshakeAuth
import Liteway.Core.HeaderPath
import Liteway.Core.SignatureCoverage
import Liteway.Daemon.AntiSpoofing
import Liteway.Daemon.Bookkeeping
import Liteway.Daemon.CacheRetention
import Liteway.Daemon.CachedAnswers
import Liteway.Daemon.DirectPath
import Liteway.Daemon.Enrolment
import Liteway.Daemon.Farewells
import Liteway.Daemon.FragmentedDelivery
import Liteway.Daemon.HandshakeReuse
import Liteway.Daemon.Introductions
import Liteway.Daemon.Keepalives
import Liteway.Daemon.LighthouseAnswers
import Liteway.Daemon.Lighthouses
import Liteway.Daemon.Membership
import Liteway.Daemon.PendingHandshakes
import Liteway.Daemon.ProbeBackoff
import Liteway.Daemon.ReceiveBounds
import Liteway.Daemon.ReceiveLoop
import Liteway.Daemon.Rejection
import Liteway.Daemon.RelayFallback
import Liteway.Daemon.RouteGrants
import Liteway.Daemon.RouteHistory
import Liteway.Daemon.SessionPaths
import Liteway.Daemon.SessionRoundTrip
import Liteway.Daemon.SimultaneousOpen
import Liteway.Daemon.TunnelCopies
