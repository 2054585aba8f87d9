import ModuleReadme.Main
import ModuleReadme.Proofs.CommandLine.Items
import ModuleReadme.Proofs.CommandLine.Spelling
import ModuleReadme.Proofs.Controller.Annotations
import ModuleReadme.Proofs.Controller.Arguments
import ModuleReadme.Proofs.Controller.BelowHeader
import ModuleReadme.Proofs.Controller.CommentText
import ModuleReadme.Proofs.Controller.Declarations
import ModuleReadme.Proofs.Controller.LineEnding
import ModuleReadme.Proofs.Controller.LineIndex
import ModuleReadme.Proofs.Controller.Pairing
import ModuleReadme.Proofs.Controller.Positions
import ModuleReadme.Proofs.Controller.Signature
import ModuleReadme.Proofs.Controller.SummaryLines
import ModuleReadme.Proofs.Controller.TrailingReturn
import ModuleReadme.Proofs.Controller.WellFormed
import ModuleReadme.Proofs.Files.FileName
import ModuleReadme.Proofs.Files.Finding
import ModuleReadme.Proofs.Files.Growth
import ModuleReadme.Proofs.Files.Lookup
import ModuleReadme.Proofs.Files.Path
import ModuleReadme.Proofs.Files.Reading
import ModuleReadme.Proofs.Files.Tree
import ModuleReadme.Proofs.Files.Visible
import ModuleReadme.Proofs.Files.Walk
import ModuleReadme.Proofs.Files.Writing
import ModuleReadme.Proofs.Files.Written
import ModuleReadme.Proofs.Json.Decoding
import ModuleReadme.Proofs.Json.Grammar
import ModuleReadme.Proofs.Json.Reader
import ModuleReadme.Proofs.Log.Filtering
import ModuleReadme.Proofs.Manifest.Appending
import ModuleReadme.Proofs.Manifest.Dependencies
import ModuleReadme.Proofs.Module.Analysis
import ModuleReadme.Proofs.Module.Contents
import ModuleReadme.Proofs.Module.Frame
import ModuleReadme.Proofs.Module.Inventory
import ModuleReadme.Proofs.Module.NearestManifest
import ModuleReadme.Proofs.Module.Rerun
import ModuleReadme.Proofs.Module.Scan
import ModuleReadme.Proofs.Pattern.Matching
import ModuleReadme.Proofs.Pattern.Reading
import ModuleReadme.Proofs.Pattern.Simplification
import ModuleReadme.Proofs.Readme.Dependence
import ModuleReadme.Proofs.Readme.Outline
import ModuleReadme.Proofs.Readme.Rereading
import ModuleReadme.Proofs.Readme.Synthesis
import ModuleReadme.Proofs.Text.Display
import ModuleReadme.Proofs.Text.LineEnding
import ModuleReadme.Proofs.Text.Lines
import ModuleReadme.Proofs.Text.Occurrences
import ModuleReadme.Proofs.Text.Passing
import ModuleReadme.Proofs.Text.Ranges
import ModuleReadme.Proofs.Text.Tables
import ModuleReadme.Proofs.Text.TitleCase
import ModuleReadme.Proofs.Text.Trimming
