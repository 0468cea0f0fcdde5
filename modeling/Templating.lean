import Templating.Config.Document
import Templating.Destination.BlockingSink
import Templating.Destination.Recorder
import Templating.Destination.StagedSink
import Templating.EscapedText
import Templating.Json.Reader
import Templating.Template
import Templating.Value.Conversion
import Templating.Proofs.Coupling
import Templating.Proofs.CallOutput
import Templating.Proofs.Parametricity
import Templating.Proofs.Independence
import Templating.Proofs.InterruptedDrain
import Templating.Proofs.IssuedTexts
import Templating.Proofs.PassBooks
import Templating.Proofs.PassHistory
import Templating.Proofs.BodyHistory
import Templating.Proofs.LayoutChain
import Templating.Proofs.Composition
import Templating.Proofs.ComposedText
import Templating.Proofs.Polls
import Templating.Proofs.NestedTemplates
import Templating.Proofs.CancelledRenders
import Templating.Proofs.Completion
import Templating.Proofs.Erasure
import Templating.Proofs.WillingWriters
import Templating.Proofs.ErasedRenders
import Templating.Proofs.ParallelRuns
import Templating.Proofs.AlikePasses
import Templating.Proofs.MarkupSafety
import Templating.Proofs.ChosenLayouts
import Templating.Proofs.Postconditions
import Templating.Proofs.SinkCalls
import Templating.Proofs.FirstFailure
import Templating.Proofs.UnfailingSinks
import Templating.Proofs.FailStop
import Templating.Proofs.HeardFlushes
import Templating.Proofs.OwnBuffer
import Templating.Proofs.Retention
import Templating.Proofs.PlacedTexts
import Templating.Proofs.PageBody
import Templating.Proofs.AttributeCalls
import Templating.Proofs.SilentRuns
import Templating.Proofs.CaughtErrors
import Templating.Proofs.AttributeValues
import Templating.Proofs.RawValues
import Templating.Proofs.FirstPolls
import Templating.Proofs.Contexts
import Templating.Proofs.PairedRuns
import Templating.Proofs.VeiledPasses
import Templating.Proofs.CoveredPages
import Templating.Proofs.MisfitCalls
import Templating.Proofs.EscapedPortions
import Templating.Proofs.EntityCode
import Templating.Proofs.References
import Templating.Proofs.Conclusions
import Templating.Proofs.Termination
import Templating.Proofs.PlainScalars
import Templating.Proofs.FlatDocuments
import Templating.Proofs.ScalarWords
import Templating.Proofs.ConfigDocuments
import Templating.Proofs.ConfigRoundTrip
