import DeclGen.Command
import DeclGen.FileTree
import DeclGen.Main
import DeclGen.Native.Printer
import DeclGen.Settings.Json
import DeclGen.Proofs.Native.Path
import DeclGen.Proofs.Native.Complete
import DeclGen.Proofs.Native.Sound
import DeclGen.Proofs.Native.Regular
import DeclGen.Proofs.Emission.Written
import DeclGen.Proofs.Emission.Calls
import DeclGen.Proofs.Native.Printed
import DeclGen.Proofs.Native.RoundTrip
import DeclGen.Proofs.Failure
import DeclGen.Proofs.Text.Parts
import DeclGen.Proofs.Text.Delimited
import DeclGen.Proofs.Model.Translation
import DeclGen.Proofs.Model.Overrides
import DeclGen.Proofs.TypeName.Flat
import DeclGen.Proofs.TypeName.Unambiguous
import DeclGen.Proofs.Resolver.Plain
import DeclGen.Proofs.Emission.Unambiguous
import DeclGen.Proofs.Slot.Session
import DeclGen.Proofs.Generation.Append
import DeclGen.Proofs.Generation.Account
import DeclGen.Proofs.FileTree.Frame
import DeclGen.Proofs.Command.Files
import DeclGen.Proofs.Command.Arguments
import DeclGen.Proofs.Command.Stages
import DeclGen.Proofs.Command.Output
import DeclGen.Proofs.Emission.ContextFree
import DeclGen.Proofs.Native.Viable
import DeclGen.Proofs.Native.Spacing
import DeclGen.Proofs.Pattern.Blind
import DeclGen.Proofs.Pattern.Matching
import DeclGen.Proofs.Pattern.Class
import DeclGen.Proofs.Pattern.Parts
import DeclGen.Proofs.Pattern.Sound
import DeclGen.Proofs.Pattern.Whole
import DeclGen.Proofs.Model.Targets
import DeclGen.Proofs.Model.Namespaces
import DeclGen.Proofs.Text.Brackets
import DeclGen.Proofs.TypeName.Elements
import DeclGen.Proofs.Resolver.Elements
import DeclGen.Proofs.Resolver.Keys
import DeclGen.Proofs.Resolver.Optionals
import DeclGen.Proofs.Resolver.Namespaces
import DeclGen.Proofs.Native.Ticks
import DeclGen.Proofs.Settings.Valid
import DeclGen.Proofs.Resolver.Names
import DeclGen.Proofs.Resolver.Written
import DeclGen.Proofs.Resolver.Nodes
import DeclGen.Proofs.Resolver.Configured
import DeclGen.Proofs.Text.Uppercase
import DeclGen.Proofs.Text.Lines
import DeclGen.Proofs.Emission.CamelCase
import DeclGen.Proofs.Emission.MemberNames
import DeclGen.Proofs.Emission.Namespace
import DeclGen.Proofs.Native.Position
import DeclGen.Proofs.Native.Bytewise
import DeclGen.Proofs.Native.Bytewise.Steps
import DeclGen.Proofs.Native.Bytewise.Sound
