import TransportConverter.Main
import TransportConverter.Registry.Sharded
import TransportConverter.Storage.Tree
import TransportConverter.Proofs.Message.Grammar
import TransportConverter.Proofs.Message.RoundTrip
import TransportConverter.Proofs.Client.Run
import TransportConverter.Proofs.Registry.Frame
import TransportConverter.Proofs.Client.Transition
import TransportConverter.Proofs.Client.Standing
import TransportConverter.Proofs.Client.Tracking
import TransportConverter.Proofs.Client.Delivery
import TransportConverter.Proofs.Client.Exclusion
import TransportConverter.Proofs.Registry.View
import TransportConverter.Proofs.Registry.Cells
import TransportConverter.Proofs.Registry.Shards
import TransportConverter.Proofs.Client.Reuse
import TransportConverter.Proofs.Message.Framing
import TransportConverter.Proofs.Pipe
import TransportConverter.Proofs.Registry.Elsewhere
import TransportConverter.Proofs.Converter.Run
import TransportConverter.Proofs.Converter.Standing
import TransportConverter.Proofs.Converter.Advance
import TransportConverter.Proofs.Converter.Transparency
import TransportConverter.Proofs.Converter.Moving
import TransportConverter.Proofs.Converter.Checks
import TransportConverter.Proofs.Converter.Learning
import TransportConverter.Proofs.Converter.Patience
import TransportConverter.Proofs.Converter.Precedence
import TransportConverter.Proofs.Exchange.Run
import TransportConverter.Proofs.Exchange.Answering
import TransportConverter.Proofs.Exchange.Asking
import TransportConverter.Proofs.Exchange.Joint
import TransportConverter.Proofs.Exchange.Ending
import TransportConverter.Proofs.Exchange.Agreement
import TransportConverter.Proofs.Reading.Run
import TransportConverter.Proofs.Reading.Verdict
import TransportConverter.Proofs.Reading.Closing
import TransportConverter.Proofs.Registry.Swap
import TransportConverter.Proofs.Server.Run
import TransportConverter.Proofs.Server.Entries
import TransportConverter.Proofs.Server.Shutdown
import TransportConverter.Proofs.Server.Stages
import TransportConverter.Proofs.Server.Arrival
import TransportConverter.Proofs.Server.Leaving
import TransportConverter.Proofs.Message.Truncation
import TransportConverter.Proofs.Registry.Pairs
import TransportConverter.Proofs.Client.Failing
import TransportConverter.Proofs.Client.Phases
import TransportConverter.Proofs.Client.Locality
import TransportConverter.Proofs.Client.Isolation
import TransportConverter.Proofs.Server.Writing
import TransportConverter.Proofs.Server.Reports
import TransportConverter.Proofs.Server.Mirror
import TransportConverter.Proofs.Server.Declining
import TransportConverter.Proofs.Server.Permits
import TransportConverter.Proofs.Server.Progression
import TransportConverter.Proofs.Message.Buffer
import TransportConverter.Proofs.Message.Canonical
import TransportConverter.Proofs.Message.Offence
import TransportConverter.Proofs.Converter.Blocking
import TransportConverter.Proofs.Reading.Request
import TransportConverter.Proofs.Connecting.Restoring
import TransportConverter.Proofs.CommandLine.GivenConverter
import TransportConverter.Proofs.Settings.Saving
import TransportConverter.Proofs.Client.ShortWrites
import TransportConverter.Proofs.CommandLine.Overriding
