import RemoteStack.Main
import RemoteStack.Reader.Collection
import RemoteStack.Reader.Number
import RemoteStack.Proofs.Layout.Selection
import RemoteStack.Proofs.Layout.Declared
import RemoteStack.Proofs.Probe.Ensures
import RemoteStack.Proofs.Reader.Failure
import RemoteStack.Proofs.Probe.Sequence
import RemoteStack.Proofs.Stack.Trace
import RemoteStack.Proofs.Probe.Strict
import RemoteStack.Proofs.Reader.Strict
import RemoteStack.Proofs.Stack.Failure
import RemoteStack.Proofs.Stack.Fault
import RemoteStack.Proofs.Encoding.LittleEndian
import RemoteStack.Proofs.Encoding.Object
import RemoteStack.Proofs.Encoding.StoredFrame
import RemoteStack.Proofs.Stack.RoundTrip
import RemoteStack.Proofs.Probe.Bounded
import RemoteStack.Proofs.Reader.Bounded
import RemoteStack.Proofs.Stack.ThreadList
import RemoteStack.Proofs.Stack.Kept
import RemoteStack.Proofs.Stack.ThreadsOfImage
import RemoteStack.Proofs.Stack.Cost
import RemoteStack.Proofs.Stack.ThreadsFault
import RemoteStack.Proofs.Stack.Shape
import RemoteStack.Proofs.Memory.Separate
import RemoteStack.Proofs.Memory.ByteMap
import RemoteStack.Proofs.Memory.Coherence
import RemoteStack.Proofs.Probe.Growth
import RemoteStack.Proofs.Stack.Growth
import RemoteStack.Proofs.Encoding.Field
import RemoteStack.Proofs.Probe.Logged
import RemoteStack.Proofs.Reader.Characters
import RemoteStack.Proofs.Encoding.Array
import RemoteStack.Proofs.Encoding.Digits
import RemoteStack.Proofs.Stack.Line
import RemoteStack.Proofs.Probe.Given
import RemoteStack.Proofs.Reader.Given
import RemoteStack.Proofs.Reader.Lengths
import RemoteStack.Proofs.Encoding.Cut
import RemoteStack.Proofs.Reader.PartialText
import RemoteStack.Proofs.Stack.Cutoff
import RemoteStack.Proofs.Stack.CodeRule
import RemoteStack.Proofs.Stack.LineRule
import RemoteStack.Proofs.Stack.NameFree
import RemoteStack.Proofs.Stack.LineProgram
import RemoteStack.Proofs.Encoding.ThreadState
import RemoteStack.Proofs.Probe.InStep
import RemoteStack.Proofs.Stack.TableFree
import RemoteStack.Proofs.Layout.Struct
import RemoteStack.Proofs.Text.Numeral
import RemoteStack.Proofs.Text.Address
