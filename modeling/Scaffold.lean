import Scaffold.CommandLine.Run
import Scaffold.Disk.Changes
import Scaffold.Expansion.Fields
import Scaffold.Field.Literal
import Scaffold.Generation.Run
import Scaffold.Library.Catalog
import Scaffold.Main
import Scaffold.Manifest.Basic
import Scaffold.Proofs.CommandLine.Preferred
import Scaffold.Proofs.Expansion.Labels
import Scaffold.Proofs.Expansion.Prepending
import Scaffold.Proofs.Expansion.Registered
import Scaffold.Proofs.Expansion.Resolving
import Scaffold.Proofs.Expansion.Rounds
import Scaffold.Proofs.Field.Literal
import Scaffold.Proofs.Generation.Again
import Scaffold.Proofs.Generation.Copied
import Scaffold.Proofs.Generation.CppClass.Placed
import Scaffold.Proofs.Generation.Licensed
import Scaffold.Proofs.Generation.Limited
import Scaffold.Proofs.Generation.Placed
import Scaffold.Proofs.Generation.Skipped
import Scaffold.Proofs.Header.Included
import Scaffold.Proofs.Header.Scopes
import Scaffold.Proofs.Library.Unpacked
import Scaffold.Proofs.Manifest.Tagged
import Scaffold.Template.Render
import Scaffold.Text.Words
import Scaffold.Toml.Document
import Scaffold.Yaml.Block
