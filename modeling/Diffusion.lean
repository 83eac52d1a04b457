import Diffusion.Arithmetic
import Diffusion.Arithmetic.Machine
import Diffusion.Artifact
import Diffusion.Artifact.Load
import Diffusion.Backend
import Diffusion.Backend.Eager
import Diffusion.Backend.Tracer
import Diffusion.Bytes.Hexadecimal
import Diffusion.Bytes.LittleEndian
import Diffusion.Bytes.Sha256
import Diffusion.CommandLine
import Diffusion.CommandLine.Setting
import Diffusion.Comparison
import Diffusion.Container
import Diffusion.Container.Fault
import Diffusion.Error
import Diffusion.Event
import Diffusion.Export
import Diffusion.Files.Host
import Diffusion.Files.Path
import Diffusion.Files.Tree
import Diffusion.Invocation
import Diffusion.Json
import Diffusion.Json.Decode
import Diffusion.Json.Read
import Diffusion.Main
import Diffusion.Model
import Diffusion.ModelFiles
import Diffusion.Network
import Diffusion.Network.StandIn
import Diffusion.Numeral.Binary
import Diffusion.Numeral.Layout
import Diffusion.Numeral.Read
import Diffusion.Numeral.Shortest
import Diffusion.Numeral.Token
import Diffusion.Parameters
import Diffusion.Parameters.Store
import Diffusion.Program
import Diffusion.Program.Encoding
import Diffusion.Program.Execution
import Diffusion.Program.Footprint
import Diffusion.Program.Inputs
import Diffusion.Program.Listing
import Diffusion.Program.Lowering
import Diffusion.Program.Validity
import Diffusion.Proofs.Action
import Diffusion.Proofs.Action.Keeping
import Diffusion.Proofs.Action.Notes
import Diffusion.Proofs.Arithmetic.Exact
import Diffusion.Proofs.Arithmetic.Ordered
import Diffusion.Proofs.Arithmetic.Unrounded
import Diffusion.Proofs.Arithmetic.Whole
import Diffusion.Proofs.Artifact.Ceiling
import Diffusion.Proofs.Artifact.Interchange
import Diffusion.Proofs.Artifact.Loading
import Diffusion.Proofs.Artifact.Parsing
import Diffusion.Proofs.Artifact.Provenance
import Diffusion.Proofs.Artifact.RoundTrip
import Diffusion.Proofs.Backend.Calls
import Diffusion.Proofs.Backend.Contract
import Diffusion.Proofs.Backend.Coupling
import Diffusion.Proofs.Backend.Eager
import Diffusion.Proofs.Backend.Elementwise
import Diffusion.Proofs.Backend.Functional
import Diffusion.Proofs.Backend.Orderly
import Diffusion.Proofs.Comparison
import Diffusion.Proofs.Container
import Diffusion.Proofs.Container.Tensors
import Diffusion.Proofs.Container.Texts
import Diffusion.Proofs.Distinct
import Diffusion.Proofs.Export.Parity
import Diffusion.Proofs.Export.Steps
import Diffusion.Proofs.Files.Becoming
import Diffusion.Proofs.Files.Host
import Diffusion.Proofs.Files.ModelDirectories
import Diffusion.Proofs.Files.Places
import Diffusion.Proofs.Files.Tree
import Diffusion.Proofs.Json.Length
import Diffusion.Proofs.Json.Numerals
import Diffusion.Proofs.Json.Reading
import Diffusion.Proofs.Json.Words
import Diffusion.Proofs.Numeral.Digits
import Diffusion.Proofs.Parameters.Archive
import Diffusion.Proofs.Parameters.Stored
import Diffusion.Proofs.Parameters.Unpacked
import Diffusion.Proofs.Parameters.Verified
import Diffusion.Proofs.Program.Counting
import Diffusion.Proofs.Program.Decoding
import Diffusion.Proofs.Program.Encoding
import Diffusion.Proofs.Program.Footprint
import Diffusion.Proofs.Program.Indexing
import Diffusion.Proofs.Program.Listing
import Diffusion.Proofs.Program.Liveness
import Diffusion.Proofs.Program.LoweredPeak
import Diffusion.Proofs.Program.Lowering
import Diffusion.Proofs.Program.NormalForm
import Diffusion.Proofs.Program.Observation
import Diffusion.Proofs.Program.Placement
import Diffusion.Proofs.Program.Pruning
import Diffusion.Proofs.Program.Renumbering
import Diffusion.Proofs.Program.Retention
import Diffusion.Proofs.Program.Soundness
import Diffusion.Proofs.Program.Typing
import Diffusion.Proofs.Sampling.Coupled
import Diffusion.Proofs.Sampling.Halves
import Diffusion.Proofs.Sampling.Mirrored
import Diffusion.Proofs.Sampling.Overheard
import Diffusion.Proofs.Sampling.Passes
import Diffusion.Proofs.Sampling.Rounds
import Diffusion.Proofs.Schedule.Acceptance
import Diffusion.Proofs.Schedule.Alphas
import Diffusion.Proofs.Schedule.Exactness
import Diffusion.Proofs.Schedule.Leading
import Diffusion.Proofs.Scheduler.Calls
import Diffusion.Proofs.Scheduler.ChangeOfVariables
import Diffusion.Proofs.Scheduler.Coupled
import Diffusion.Proofs.Scheduler.ExactPass
import Diffusion.Proofs.Scheduler.Failing
import Diffusion.Proofs.Scheduler.History
import Diffusion.Proofs.Scheduler.LastStep
import Diffusion.Proofs.Scheduler.Lookups
import Diffusion.Proofs.Scheduler.Moves
import Diffusion.Proofs.Scheduler.Planned
import Diffusion.Proofs.Scheduler.Plans
import Diffusion.Proofs.Scheduler.PseudoNumerical
import Diffusion.Proofs.Scheduler.Quadrature
import Diffusion.Proofs.Scheduler.Ready
import Diffusion.Proofs.Scheduler.Replanning
import Diffusion.Proofs.Scheduler.Reseeded
import Diffusion.Proofs.Scheduler.Sound
import Diffusion.Proofs.Scheduler.Steps
import Diffusion.Proofs.Trace.Abreast
import Diffusion.Proofs.Trace.Draft
import Diffusion.Proofs.Trace.Draws
import Diffusion.Proofs.Trace.Faithful
import Diffusion.Proofs.Trace.FreshNoise
import Diffusion.Proofs.Trace.Guidance
import Diffusion.Proofs.Trace.Lockstep
import Diffusion.Proofs.Trace.Oblivious
import Diffusion.Proofs.Trace.Reached
import Diffusion.Proofs.Trace.Replay
import Diffusion.Proofs.Trace.Retraced
import Diffusion.Proofs.Trace.Shadow
import Diffusion.Proofs.Trace.Unrolled
import Diffusion.Random.Generator
import Diffusion.Random.Normal
import Diffusion.Random.Ziggurat
import Diffusion.Run
import Diffusion.Sampling
import Diffusion.Schedule
import Diffusion.Schedule.Encoding
import Diffusion.Scheduler
import Diffusion.Scheduler.Denoising
import Diffusion.Scheduler.Euler
import Diffusion.Scheduler.Id
import Diffusion.Scheduler.LinearMultistep
import Diffusion.Scheduler.Pndm
import Diffusion.Scheduler.SigmaTrack
import Diffusion.Scheduler.Timeline
import Diffusion.Settings
import Diffusion.Settings.Tool
import Diffusion.Shape
import Diffusion.Target
import Diffusion.Tensor
import Diffusion.Tensor.Display
import Diffusion.Text.Caseless
import Diffusion.Text.Composed
import Diffusion.Text.Compositions
import Diffusion.Text.MarkClasses
import Diffusion.Text.Marks
import Diffusion.Text.Quoted
import Diffusion.Text.Ranges
import Diffusion.Text.Unassigned
import Diffusion.Trace
import Diffusion.Upload
import Diffusion.Url
import Diffusion.Url.Address
import Diffusion.Url.Domain
import Diffusion.Url.Domain.Direction
import Diffusion.Url.Domain.Expansions
import Diffusion.Url.Domain.Joining
import Diffusion.Url.Domain.Shifts
import Diffusion.Url.Path
import Diffusion.Url.Percent
import Diffusion.Url.Pieces
import Diffusion.Url.Punycode
import Diffusion.Url.Request
