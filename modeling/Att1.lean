import Att1.Lib.Runs
import Att1.Lib.Ring
import Att1.Lib.Buffer
import Att1.Lib.Word
import Att1.Lib.Table
import Att1.Lib.Rendezvous
import Att1.Lib.Lockstep
import Att1.Lib.Relay
import Att1.Lib.Ledger
import Att1.Lib.Bytes
import Att1.Lib.Digits
import Att1.Lib.Split
import Att1.Lib.Checked
import Att1.Lib.Heap
import Att1.Lib.Extents
import Att1.Lib.Cover
import Att1.Lib.Partition
import Att1.Lib.Fallible
import Att1.Lib.Paired
import Att1.Lib.Pipe
import Att1.Lib.Overwrite
import Att1.Lib.Loops
import Att1.Lib.Rotation
import Att1.Lib.Json
import Att1.Lib.Returns
import Att1.Lib.Order
import Att1.Lib.Flow
import Att1.Lib.PyObj
import Att1.Lib.Cycle
import Att1.Lib.Crc
import Att1.Lib.Slots
import Att1.Lib.Rounding
import Att1.Base
import Att1.Fabric.Model
import Att1.Fabric.Queue
import Att1.Fabric.Fifo
import Att1.Fabric.Barrier
import Att1.Fabric.Rejected
import Att1.Fabric.Broadcast
import Att1.Fabric.Timeout
import Att1.Runtime.Model
import Att1.Runtime.Barrier
import Att1.Runtime.Threads
import Att1.Runtime.Queue
import Att1.Cmdq.Crc
import Att1.Cmdq.Model
import Att1.Cmdq.Rings
import Att1.Cmdq.Fifo
import Att1.Cmdq.Occupancy
import Att1.Cmdq.Service
import Att1.Cmdq.Checksum
import Att1.Cmdq.Counters
import Att1.Cmdq.Idle
import Att1.Conformance.Exec
import Att1.Conformance.Registry
import Att1.Conformance.Ops
import Att1.Pcie.Model
import Att1.Pcie.Submit
import Att1.Pcie.Weights
import Att1.Pcie.Dims
import Att1.Aimu.Device
import Att1.Aimu.Dma
import Att1.Aimu.DmaRules
import Att1.Pcie.Resident
import Att1.Aimu.Trace
import Att1.Aimu.Mmio
import Att1.Aimu.Control
import Att1.Aimu.Host
import Att1.Aimu.HostRuns
import Att1.Aimu.Replay
import Att1.Aimu.ReplayLoads
import Att1.Aimu.Userspace
import Att1.Aimu.MmioAccess
import Att1.Aimu.Mem
import Att1.Aimu.MemSafe
import Att1.Aimu.MemFit
import Att1.Aimu.MemFrag
import Att1.KvMmu.Model
import Att1.KvMmu.Flat
import Att1.KvMmu.Calls
import Att1.KvMmu.Append
import Att1.KvMmu.Refine
import Att1.KvMmu.Range
import Att1.KvMmu.Account
import Att1.KvMmu.Checks
import Att1.Endpoint.Protocol
import Att1.Endpoint.Client
import Att1.Endpoint.FabricOps
import Att1.Endpoint.KvWire
import Att1.Endpoint.KvOps
import Att1.Endpoint.Transfer
import Att1.Endpoint.Buffers
import Att1.Endpoint.Remote
import Att1.Endpoint.Tiles
import Att1.Endpoint.Bounds
import Att1.Endpoint.Socket
import Att1.Bridge.Model
import Att1.Bridge.Relay
import Att1.Bridge.Conserve
import Att1.Bridge.Barrier
import Att1.ModelFile.Types
import Att1.ModelFile.Size
import Att1.ModelFile.ShardMeta
import Att1.ModelFile.ShardValidate
import Att1.ModelFile.TokMeta
import Att1.ModelFile.Loader
import Att1.ModelFile.View
import Att1.ModelFile.Sound
import Att1.ModelFile.Quant
import Att1.Shard.Model
import Att1.Shard.Plan
import Att1.Shard.Balance
import Att1.Shard.FromMeta
import Att1.Shard.Summary
import Att1.Cluster.Model
import Att1.Cluster.Residue
import Att1.Cluster.Single
import Att1.Cluster.Visits
import Att1.Cluster.Simulation
import Att1.Cluster.Sessions
import Att1.Reader.Model
import Att1.Reader.Weights
import Att1.Reader.Agree
import Att1.Converter.Tensors
import Att1.Converter.Model
import Att1.Converter.Layout
import Att1.Converter.Names
import Att1.Converter.Load
import Att1.Converter.RoundTrip
import Att1.Reader.Emitted
import Att1.Converter.Formats
import Att1.Converter.Runnable
import Att1.Shard.Agree
import Att1.Shard.Validated
import Att1.Decoder.Kernels
import Att1.Decoder.Attention
import Att1.KvMmu.Contiguous
import Att1.Cluster.Pace
import Att1.Decoder.Quantized
import Att1.Decoder.Quantize
import Att1.Decoder.Nibbles
import Att1.Conformance.Access
import Att1.Decoder.QuantError
import Att1.Converter.Exact
import Att1.Decoder.Infer
import Att1.Decoder.Prepare
import Att1.Converter.Prepared
import Att1.Converter.Resolve
import Att1.Converter.Gqa
import Att1.Safetensors.Scan
import Att1.Safetensors.Load
import Att1.Decoder.Rope
import Att1.Planner.Plan
import Att1.Planner.Validate
import Att1.Planner.Returns
import Att1.Planner.Commands
import Att1.Planner.Resident
import Att1.Planner.Accepts
import Att1.Planner.Passes
import Att1.Planner.ExecMap
import Att1.TokExt.Model
import Att1.TokExt.Ids
import Att1.TokExt.Lines
import Att1.Routes.Mapper
import Att1.Routes.Validate
import Att1.Routes.Ledger
import Att1.Routes.Build
import Att1.Routes.Sizes
import Att1.Routes.Report
import Att1.Routes.Replay
import Att1.Routes.Agree
import Att1.Planner.Mapped
import Att1.Planner.Routed
import Att1.Routes.Summary
import Att1.Routes.Traffic
import Att1.Routes.Accepted
import Att1.Routes.Returns
import Att1.Routes.Carried
import Att1.Routes.Simulate
import Att1.Routes.Bandwidth
import Att1.Routes.Consumers
import Att1.LoadPlan.Build
import Att1.LoadPlan.Collect
import Att1.LoadPlan.Complete
import Att1.LoadPlan.Order
import Att1.Placement.Validate
import Att1.Placement.Clean
import Att1.Placement.Returns
import Att1.Placement.Real
import Att1.Validators
import Att1.Compare.Source
import Att1.Compare.Forward
import Att1.Compare.Decoded
import Att1.Compare.Static
