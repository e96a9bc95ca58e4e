import RemoteInterpreter.Text.Utf8
import RemoteInterpreter.Wire.Json
import RemoteInterpreter.Decode.Shape
import RemoteInterpreter.Scripted
import RemoteInterpreter.Session.Construction
import RemoteInterpreter.Launch
import RemoteInterpreter.Proofs.Moment
import RemoteInterpreter.Proofs.View
import RemoteInterpreter.Proofs.Sound
import RemoteInterpreter.Proofs.Composition
import RemoteInterpreter.Proofs.Event
import RemoteInterpreter.Proofs.Queue
import RemoteInterpreter.Proofs.Caller
import RemoteInterpreter.Proofs.Growth
import RemoteInterpreter.Proofs.History
import RemoteInterpreter.Proofs.Naming
import RemoteInterpreter.Proofs.Dependency
import RemoteInterpreter.Proofs.Failure
import RemoteInterpreter.Proofs.Progress
import RemoteInterpreter.Proofs.Encoding
import RemoteInterpreter.Proofs.Framing
import RemoteInterpreter.Proofs.Stream
import RemoteInterpreter.Proofs.Reader
import RemoteInterpreter.Proofs.Reply
import RemoteInterpreter.Proofs.Delivery
import RemoteInterpreter.Proofs.Correlation
import RemoteInterpreter.Proofs.Waiting
import RemoteInterpreter.Proofs.Custody
import RemoteInterpreter.Proofs.Record
import RemoteInterpreter.Proofs.Lifecycle
import RemoteInterpreter.Proofs.Assignment
import RemoteInterpreter.Proofs.Transmission
import RemoteInterpreter.Proofs.Insertion
import RemoteInterpreter.Proofs.Teardown
import RemoteInterpreter.Proofs.Construction
import RemoteInterpreter.Proofs.Usage
import RemoteInterpreter.Proofs.Arrival
import RemoteInterpreter.Proofs.Truncation
import RemoteInterpreter.Proofs.Contention
import RemoteInterpreter.Proofs.Joining
import RemoteInterpreter.Proofs.Inheritance
import RemoteInterpreter.Proofs.Refusal
import RemoteInterpreter.Proofs.Derivation
import RemoteInterpreter.Proofs.Conversion
import RemoteInterpreter.Proofs.LineGrammar
import RemoteInterpreter.Proofs.TemplateGrammar
import RemoteInterpreter.Proofs.Registration
import RemoteInterpreter.Proofs.Filling
import RemoteInterpreter.Proofs.Collection
import RemoteInterpreter.Proofs.Item
import RemoteInterpreter.Proofs.Calling
import RemoteInterpreter.Proofs.SingleLine
import RemoteInterpreter.Proofs.Independence
import RemoteInterpreter.Proofs.PlainValues
import RemoteInterpreter.Proofs.Installation
import RemoteInterpreter.Proofs.Reordering
import RemoteInterpreter.Proofs.Confinement
import RemoteInterpreter.Proofs.Launching
