import TripPipeline.Common.Dlq
import TripPipeline.Common.Uuid
import TripPipeline.Common.Retry
import TripPipeline.Streaming.Sink
import TripPipeline.Streaming.Balance
import TripPipeline.Lib.Sql
import TripPipeline.Streaming.Batch
import TripPipeline.Streaming.Routing
import TripPipeline.Streaming.Recompute
import TripPipeline.Streaming.Watermark
import TripPipeline.Replay.Drain
import TripPipeline.Replay.Reading
import TripPipeline.Replay.Once
import TripPipeline.Streaming.Envelopes
import TripPipeline.Replay.Cycle
import TripPipeline.Replay.DirectWrite
import TripPipeline.Lib.LastWrite
import TripPipeline.Serving.Tables
import TripPipeline.Bench.Reconcile
import TripPipeline.Lib.InFlight
import TripPipeline.Producer.Run
import TripPipeline.Producer.Shutdown
import TripPipeline.Streaming.Restart
import TripPipeline.Replay.Permanent
import TripPipeline.Replay.Blocking
import TripPipeline.Replay.Leftover
import TripPipeline.Lib.KeyedTable
import TripPipeline.Rollup.Stage
import TripPipeline.Rollup.Converge
import TripPipeline.Rollup.Accept
import TripPipeline.Rollup.Backfill
import TripPipeline.Rollup.Complete
import TripPipeline.Common.PyJson
import TripPipeline.Replay.Verbatim
import TripPipeline.Lib.Calendar
import TripPipeline.Bench.Corpus
import TripPipeline.Lib.Relational
import TripPipeline.Bench.Star
import TripPipeline.Bench.Queries
import TripPipeline.Replay.Accounting
import TripPipeline.Common.Contract
import TripPipeline.Common.Pause
import TripPipeline.Lib.Trace
import TripPipeline.Replay.Silence
import TripPipeline.Streaming.Timeline
import TripPipeline.Streaming.Survive
import TripPipeline.Streaming.Budget
import TripPipeline.Streaming.Schedule
import TripPipeline.Streaming.RetryCount
import TripPipeline.Streaming.Timeless
import TripPipeline.Streaming.Stats
import TripPipeline.Streaming.Knobs
import TripPipeline.Streaming.StatsText
import TripPipeline.Streaming.Merge
import TripPipeline.Producer.GiveUp
import TripPipeline.Lib.Interpolate
import TripPipeline.Bench.Latency
import TripPipeline.Bench.Partitioner
import TripPipeline.Replay.Preview
import TripPipeline.Common.Envelope
import TripPipeline.Bench.Launch
import TripPipeline.Bench.Sweep
import TripPipeline.Bench.Chaos
import TripPipeline.Lib.PrefixScan
import TripPipeline.Rollup.Verify
import TripPipeline.Lib.Offsets
import TripPipeline.Bench.Drained
import TripPipeline.Lib.Streak
import TripPipeline.Bench.Growth
import TripPipeline.Lib.Transition
import TripPipeline.Lib.Custody
import TripPipeline.Lib.WriteOnce
import TripPipeline.Streaming.Effects
import TripPipeline.Flow.Run
import TripPipeline.Flow.Custody
import TripPipeline.Flow.Provenance
import TripPipeline.Flow.Tables
import TripPipeline.Flow.Recovery
import TripPipeline.Producer.Generated
import TripPipeline.Flow.Generated
import TripPipeline.Flow.Warehouse
import TripPipeline.Flow.Schedule
import TripPipeline.Flow.Verdict
import TripPipeline.Lib.Lines
import TripPipeline.Lib.JsonLines
import TripPipeline.Streaming.Progress
import TripPipeline.Bench.Progress
import TripPipeline.Streaming.Summary
import TripPipeline.Lib.CatchUp
import TripPipeline.Producer.Ledger
import TripPipeline.Producer.Pacing
