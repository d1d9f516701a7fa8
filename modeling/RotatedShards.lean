import RotatedShards.Client
import RotatedShards.Config.Engine
import RotatedShards.Store.Memory
import RotatedShards.Store.Scripted
import RotatedShards.Value.Wire
import RotatedShards.Proofs.Execution.Dispatch
import RotatedShards.Proofs.Execution.Failures
import RotatedShards.Proofs.Execution.Counters
import RotatedShards.Proofs.Execution.Settlement
import RotatedShards.Proofs.Execution.Agreement
import RotatedShards.Proofs.Store.Tables
import RotatedShards.Proofs.Execution.Composition
import RotatedShards.Proofs.Execution.Growth
import RotatedShards.Proofs.Execution.Ledger
import RotatedShards.Proofs.Config.Wire
import RotatedShards.Proofs.Execution.Foresight
import RotatedShards.Proofs.Execution.Dispatched
import RotatedShards.Proofs.Execution.Accounts
import RotatedShards.Proofs.Store.Events
import RotatedShards.Proofs.Store.ReadAfterWrite
import RotatedShards.Proofs.Rotation.Exactness
import RotatedShards.Proofs.Rotation.Orders
import RotatedShards.Proofs.Execution.Refusals
import RotatedShards.Proofs.Store.Retries
import RotatedShards.Proofs.Execution.SingleShard
import RotatedShards.Proofs.Execution.LastChanges
import RotatedShards.Proofs.Query.NamedBinding
import RotatedShards.Proofs.Rotation.Ageing
import RotatedShards.Proofs.Value.Wire
import RotatedShards.Proofs.Execution.Preview
import RotatedShards.Proofs.Store.Selection
import RotatedShards.Proofs.Value.Timestamps
import RotatedShards.Proofs.Store.Decoding
import RotatedShards.Proofs.Execution.Log
import RotatedShards.Proofs.Execution.Concurrency
