import ContractScaffold.CommandLine.Run
import ContractScaffold.Main
import ContractScaffold.Spec.Markdown
import ContractScaffold.Tree
import ContractScaffold.Proofs.Text.Lines
import ContractScaffold.Proofs.Document
import ContractScaffold.Proofs.Spec.Append
import ContractScaffold.Proofs.Spec.Normal
import ContractScaffold.Proofs.Spec.Written
import ContractScaffold.Proofs.Spec.RoundTrip
import ContractScaffold.Proofs.Template
import ContractScaffold.Proofs.Scaffold.Lines
import ContractScaffold.Proofs.Text.Occurs
import ContractScaffold.Proofs.Scaffold.Capability
import ContractScaffold.Proofs.Json.RoundTrip
import ContractScaffold.Proofs.Spec.Record
import ContractScaffold.Proofs.Path
import ContractScaffold.Proofs.Tree
import ContractScaffold.Proofs.FileSystem
import ContractScaffold.Proofs.Output
import ContractScaffold.Proofs.CommandLine.Batch
import ContractScaffold.Proofs.Tree.Directory
import ContractScaffold.Proofs.Template.Source
import ContractScaffold.Proofs.Scaffold.Comment
import ContractScaffold.Proofs.Scaffold.Members
import ContractScaffold.Proofs.Template.Literals
import ContractScaffold.Proofs.Template.Bundled
import ContractScaffold.Proofs.Scaffold.Tokens
import ContractScaffold.Proofs.Generation
import ContractScaffold.Proofs.Config
import ContractScaffold.Proofs.Tree.Documents
import ContractScaffold.Proofs.Tree.Removal
import ContractScaffold.Proofs.CommandLine.Isolation
import ContractScaffold.Proofs.CommandLine.Agreement
import ContractScaffold.Proofs.Spec.Edit
import ContractScaffold.Proofs.Identifier
import ContractScaffold.Proofs.Tree.Frame
import ContractScaffold.Proofs.CommandLine.Frame
import ContractScaffold.Proofs.CommandLine.Naming
import ContractScaffold.Proofs.Spec.LabelStyle
import ContractScaffold.Proofs.Scaffold.Declaration
import ContractScaffold.Proofs.Document.Partition
import ContractScaffold.Proofs.Identifier.Initial
import ContractScaffold.Proofs.Scaffold.Constructor
import ContractScaffold.Proofs.CommandLine.Precedence
import ContractScaffold.Proofs.Scaffold.Extension
import ContractScaffold.Proofs.Scaffold.Signature
import ContractScaffold.Proofs.CommandLine.Report
import ContractScaffold.Proofs.Spec.LineByLine
