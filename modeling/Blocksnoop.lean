import Blocksnoop.Support.Json
import Blocksnoop.Support.Libc
import Blocksnoop.Support.Python
import Blocksnoop.Core
import Blocksnoop.Native.Sidecar
import Blocksnoop.CoreBackend.Protocol
import Blocksnoop.CoreBackend.Identity
import Blocksnoop.CoreBackend.RoundTrip
import Blocksnoop.CoreBackend.Reading
import Blocksnoop.Diagnostics
import Blocksnoop.Diagnostics.Namespace
import Blocksnoop.Support.Transducer
import Blocksnoop.Bpf.Program
import Blocksnoop.Bpf.Gap
import Blocksnoop.Bpf.Attach
import Blocksnoop.Bcc.Program
import Blocksnoop.Bcc.Agreement
import Blocksnoop.Profiler
import Blocksnoop.Correlator
import Blocksnoop.Reporter
import Blocksnoop.Correlator.Sites
import Blocksnoop.Reporter.CallSite
import Blocksnoop.Reporter.Reports
import Blocksnoop.Support.FirstOccurrence
import Blocksnoop.Support.FanOut
import Blocksnoop.Support.Ranking
import Blocksnoop.Support.ExactArithmetic
import Blocksnoop.Correlator.Informative
import Blocksnoop.Sinks
import Blocksnoop.Reporter.FanOut
import Blocksnoop.Reporter.Summary
import Blocksnoop.Support.Interrupt
import Blocksnoop.Cli.RunLoop
import Blocksnoop.Cli.Teardown
import Blocksnoop.Cli.Signals
import Blocksnoop.Cli.Reasons
import Blocksnoop.Cli.Main
import Blocksnoop.Cli.Reaping
import Blocksnoop.Cli.Pipeline
import Blocksnoop.Cli.Detector
import Blocksnoop.Cli.Deadlock
import Blocksnoop.Cli.Handshake
import Blocksnoop.Cli.Health
import Blocksnoop.Cli.Stream
import Blocksnoop.Support.Bisection
import Blocksnoop.Support.BoundedQueue
import Blocksnoop.Profiler.RingBuffer
import Blocksnoop.Profiler.Nearest
import Blocksnoop.Correlator.Coverage
import Blocksnoop.Stats
import Blocksnoop.Stats.Order
import Blocksnoop.Support.OrderStatistics
import Blocksnoop.Stats.Percentiles
import Blocksnoop.Stats.Lifecycle
import Blocksnoop.Native.Arguments
import Blocksnoop.Support.Delimited
import Blocksnoop.Reporter.CallPath
import Blocksnoop.Support.Faults
import Blocksnoop.Profiler.Sampler
import Blocksnoop.Profiler.Cleanup
import Blocksnoop.Cli.Sessions
import Blocksnoop.Cli.Restart
import Blocksnoop.Cli.Renewal
import Blocksnoop.Native.PollLoop
import Blocksnoop.Support.Components
import Blocksnoop.Sinks.Console
import Blocksnoop.Sinks.Internals
import Blocksnoop.Profiler.Samples
import Blocksnoop.Sinks.EmptyStacks
import Blocksnoop.Cli.Target
import Blocksnoop.Support.Terminal
import Blocksnoop.Stats.Redraw
import Blocksnoop.Support.FileSystem
import Blocksnoop.Support.Paths
import Blocksnoop.CoreBackend.FindSidecar
import Blocksnoop.Native.Probes
import Blocksnoop.Diagnostics.Doctor
import Blocksnoop.Diagnostics.Readiness
import Blocksnoop.Diagnostics.PlainHost
import Blocksnoop.Native.Loader
import Blocksnoop.Cli.Conversation
import Blocksnoop.Bcc.Detector
import Blocksnoop.Bcc.Health
import Blocksnoop.Bcc.Identity
import Blocksnoop.Support.JsonDumps
import Blocksnoop.Sinks.JsonLines
import Blocksnoop.Sinks.ReadBack
import Blocksnoop.Correlator.Attribution
import Blocksnoop.Support.Shell
import Blocksnoop.Profiler.Wrapper
import Blocksnoop.Cli.Preflight
import Blocksnoop.Reporter.Policy
