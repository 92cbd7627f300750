import ReadThrough.Proofs.Coalescer.OneOutcome
import ReadThrough.Proofs.Coalescer.SingleFlight
import ReadThrough.Proofs.Proxy.AtRest
import ReadThrough.Proofs.Proxy.Drain
import ReadThrough.Proofs.Proxy.NoWriteLost
import ReadThrough.Redis.Session
import ReadThrough.Simulation.Construction
import ReadThrough.Simulation.FlightSession
import ReadThrough.Simulation.OriginSession
import ReadThrough.Simulation.PoolSession
import ReadThrough.Proofs.Proxy.Orders
import ReadThrough.Proofs.Proxy.Desk
import ReadThrough.Proofs.Codec.RoundTrip
import ReadThrough.Proofs.Proxy.Namespaces
import ReadThrough.Proofs.Proxy.Without
import ReadThrough.Proofs.Proxy.WrittenFirst
import ReadThrough.Proofs.Proxy.GivingUp
import ReadThrough.Proofs.Proxy.Termination
import ReadThrough.Proofs.Proxy.Plain
import ReadThrough.Proofs.Proxy.Carrying
import ReadThrough.Proofs.Proxy.OneCall
import ReadThrough.Proofs.Proxy.Sequential
import ReadThrough.Proofs.Proxy.Lasting
import ReadThrough.Proofs.Proxy.Journeys
import ReadThrough.Proofs.Proxy.Answers
import ReadThrough.Proofs.Proxy.Failures
import ReadThrough.Proofs.Proxy.Counting
import ReadThrough.Proofs.Proxy.Confluence
import ReadThrough.Proofs.Store.LastWord
import ReadThrough.Proofs.Redis.Twins
import ReadThrough.Proofs.Pool.Bounded
import ReadThrough.Proofs.Pool.Idle
import ReadThrough.Proofs.Proxy.Outliving
import ReadThrough.Proofs.Staleness
import ReadThrough.Proofs.Codec.Versions
import ReadThrough.Proofs.Proxy.Building
import ReadThrough.Proofs.Proxy.Overruns
import ReadThrough.Proofs.Codec.Truncation
import ReadThrough.Proofs.Store.Reclaim
import ReadThrough.Proofs.Redis.Credentials
