import RegisterFile.Main
import RegisterFile.CommandLine.Run
import RegisterFile.Yaml.Reader
import RegisterFile.Yaml.Lexer
import RegisterFile.Yaml.Property
import RegisterFile.Yaml.Block
import RegisterFile.Yaml.Plain
import RegisterFile.Yaml.Quoted
import RegisterFile.Yaml.Fold
import RegisterFile.Yaml.Token
import RegisterFile.Yaml.Cursor
import RegisterFile.Generate
import RegisterFile.Header.File
import RegisterFile.RegisterMap
import RegisterFile.Hardware.Module
import RegisterFile.Prepare
import RegisterFile.Model
import RegisterFile.Graph
import RegisterFile.Validate
import RegisterFile.Bus.Select
import RegisterFile.AddressPlan
import RegisterFile.Document.Resolve
import RegisterFile.Document.Reader
import RegisterFile.Document.Writer
import RegisterFile.Config.Reader
import RegisterFile.Config.Writer
import RegisterFile.Digest
import RegisterFile.Layout
import RegisterFile.Text.Identifier
import RegisterFile.Verilog.Printer
import RegisterFile.Proofs.Graph.Elimination
import RegisterFile.Proofs.Validate.Structure
import RegisterFile.Proofs.Validate.References
import RegisterFile.Proofs.Validate.Cycles
import RegisterFile.Proofs.Validate.CycleReport
import RegisterFile.Proofs.Validate.Accepts
import RegisterFile.Proofs.Validate.Kinds
import RegisterFile.Proofs.AddressPlan.Alignment
import RegisterFile.Proofs.Hardware.NameForms
import RegisterFile.Proofs.Hardware.Names
import RegisterFile.Proofs.Model.Bits
import RegisterFile.Proofs.Model.Reachable
import RegisterFile.Proofs.Model.Write
import RegisterFile.Proofs.Hardware.Apart
import RegisterFile.Proofs.Hardware.BusWrite
import RegisterFile.Proofs.Hardware.ReadMux
import RegisterFile.Proofs.Hardware.Refines
import RegisterFile.Proofs.Bus.Run
import RegisterFile.Proofs.Bus.AxiLite
import RegisterFile.Proofs.Bus.AxiWrites
import RegisterFile.Proofs.Bus.AxiReads
import RegisterFile.Proofs.Hardware.Collision
import RegisterFile.Proofs.Arithmetic.Accepted
import RegisterFile.Proofs.Hardware.Arbitration
import RegisterFile.Proofs.Bus.Transfers
import RegisterFile.Proofs.Model.Lanes
import RegisterFile.Proofs.Header.Accessors
import RegisterFile.Proofs.Header.Names
import RegisterFile.Proofs.Text.Numeral
import RegisterFile.Proofs.Text.Identifier
import RegisterFile.Proofs.Text.Digits
import RegisterFile.Proofs.Text.Trim
import RegisterFile.Proofs.Accessors.Names
import RegisterFile.Proofs.Json.Text
import RegisterFile.Proofs.Json.RoundTrip
import RegisterFile.Proofs.Json.Record
import RegisterFile.Proofs.Config.Texts
import RegisterFile.Proofs.Config.RoundTrip
import RegisterFile.Proofs.Generate
import RegisterFile.Proofs.Document.Expression
import RegisterFile.Proofs.Document.Evaluation
import RegisterFile.Proofs.Document.Parameters
import RegisterFile.Proofs.Model.Operations
import RegisterFile.Proofs.Reorder.Declarations
import RegisterFile.Proofs.Reorder.Layout
import RegisterFile.Proofs.Lockstep.Matches
import RegisterFile.Proofs.Lockstep.Run
import RegisterFile.Proofs.Reorder.Run
import RegisterFile.Proofs.Numbers.Reading
import RegisterFile.Proofs.Numbers.Hardware
import RegisterFile.Proofs.Numbers.Header
import RegisterFile.Proofs.Numbers.RegisterMap
import RegisterFile.Proofs.Numbers.Accessors
import RegisterFile.Proofs.Numbers.Agreement
import RegisterFile.Proofs.Model.Invariant
import RegisterFile.Proofs.Model.Unreadable
import RegisterFile.Proofs.Model.Pulses
import RegisterFile.Proofs.Model.WriteOnce
import RegisterFile.Proofs.AddressPlan.Slots
import RegisterFile.Proofs.Prepare
import RegisterFile.Proofs.Document.RoundTrip
import RegisterFile.Proofs.Document.Inlined
import RegisterFile.Proofs.Document.Literal
import RegisterFile.Proofs.Config.Locks
import RegisterFile.Proofs.Slicing.Policy
import RegisterFile.Proofs.Slicing.Layout
import RegisterFile.Proofs.Slicing.Run
import RegisterFile.Proofs.Model.Independent
import RegisterFile.Proofs.Arithmetic.Validation
import RegisterFile.Proofs.Verilog.Literal
import RegisterFile.Proofs.Verilog.References
import RegisterFile.Proofs.Verilog.Exact
import RegisterFile.Proofs.Hardware.Mentions
import RegisterFile.Proofs.Hardware.Exact
import RegisterFile.Proofs.Resets
import RegisterFile.Proofs.BitRange.Mask
import RegisterFile.Proofs.BitRange.Text
import RegisterFile.Proofs.Accessors.Lens
import RegisterFile.Proofs.Hardware.Banner
import RegisterFile.Proofs.Header.Comments
import RegisterFile.Proofs.FreeText
import RegisterFile.Proofs.FileTree
import RegisterFile.Proofs.CommandLine.Generate
