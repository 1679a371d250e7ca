import Reactor.Apply
import Reactor.Event.Catalogue
import Reactor.EventLoop.Custody
import Reactor.EventLoop.Handover
import Reactor.EventLoop.Shutdown
import Reactor.Journal
import Reactor.Scenario.Run
import Reactor.Sync.Script
import Reactor.Sync.Signalling
import Reactor.Thread.Lifecycle
import Reactor.Thread.Session
import Reactor.Proofs.Timer.Roster
import Reactor.Proofs.Timer.Clamp
import Reactor.Proofs.Loop.Frame
import Reactor.Proofs.Loop.Consistent
import Reactor.Proofs.Loop.Armed
import Reactor.Proofs.Loop.Share
import Reactor.Proofs.Traffic.Step
import Reactor.Proofs.Traffic.Sound
import Reactor.Proofs.Traffic.Sleep
import Reactor.Proofs.Traffic.Waiting
import Reactor.Proofs.Traffic.Removal
import Reactor.Proofs.Traffic.Conservation
import Reactor.Proofs.Traffic.Life
import Reactor.Proofs.Traffic.Failure
import Reactor.Proofs.Shutdown.Report
import Reactor.Proofs.Traffic.Stopping
import Reactor.Proofs.Traffic.Firing
import Reactor.Proofs.Traffic.Isolation
import Reactor.Proofs.Traffic.Sifting
import Reactor.Proofs.Traffic.Building
import Reactor.Proofs.Custody.Parting
import Reactor.Proofs.Handover.Delivery
import Reactor.Proofs.Sync.Signals
import Reactor.Proofs.Timer.Rank
import Reactor.Proofs.Timer.Drain
import Reactor.Proofs.Timer.Halving
import Reactor.Loop.Call
import Reactor.Proofs.Loop.Choice
import Reactor.Proofs.Loop.Starving
import Reactor.Proofs.Loop.Looks
import Reactor.Proofs.Event.Routing
import Reactor.Proofs.Thread.Joining
import Reactor.Proofs.Traffic.Rounds
