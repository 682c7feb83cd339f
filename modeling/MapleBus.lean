import MapleBus.Bench.Expect
import MapleBus.Bench.PlayerRig
import MapleBus.Bench.SchedulerRig
import MapleBus.Json.Record
import MapleBus.Proofs.Device.Cancelling
import MapleBus.Proofs.Device.Defining
import MapleBus.Proofs.Device.Identifying
import MapleBus.Proofs.Device.Opening
import MapleBus.Proofs.Device.Owing
import MapleBus.Proofs.Device.Pressing
import MapleBus.Proofs.Device.Reading
import MapleBus.Proofs.Device.Serving
import MapleBus.Proofs.Device.Wording
import MapleBus.Proofs.Packet.Damage
import MapleBus.Proofs.Packet.Ranking
import MapleBus.Proofs.Packet.Traversal
import MapleBus.Proofs.PlayerBus.Outgoing
import MapleBus.Proofs.PlayerBus.Streak
import MapleBus.Proofs.Scheduler.Balance
import MapleBus.Proofs.Scheduler.Clearing
import MapleBus.Proofs.Scheduler.EventOrder
import MapleBus.Proofs.Scheduler.Handles
import MapleBus.Proofs.Scheduler.Lifespan
import MapleBus.Proofs.Scheduler.Locking
import MapleBus.Proofs.Scheduler.Outcome
import MapleBus.Proofs.Scheduler.Refusal
import MapleBus.Proofs.Scheduler.SingleFlight
import MapleBus.Proofs.Settings.Overriding
import MapleBus.Proofs.Timing.Deadlines
import MapleBus.Proofs.Timing.Estimates
