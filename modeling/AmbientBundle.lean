import AmbientBundle.Main
import AmbientBundle.Proofs.Declarations
import AmbientBundle.Proofs.FileTree.Listing
import AmbientBundle.Proofs.FileTree.Names
import AmbientBundle.Proofs.FileTree.Shape
import AmbientBundle.Proofs.Report
import AmbientBundle.Proofs.Reachability
import AmbientBundle.Proofs.DepthFirst
import AmbientBundle.Proofs.Shake.Mentions
import AmbientBundle.Proofs.Shake.Policies
import AmbientBundle.Proofs.Shake.Stability
import AmbientBundle.Proofs.Text
import AmbientBundle.Proofs.Text.Endings
import AmbientBundle.Proofs.Path
import AmbientBundle.Proofs.Import.Site
import AmbientBundle.Proofs.Import.Grammar
import AmbientBundle.Proofs.Import.Redirection
import AmbientBundle.Proofs.Import.Target
import AmbientBundle.Proofs.Import.Resolved
import AmbientBundle.Proofs.ModuleName
import AmbientBundle.Proofs.Loading
import AmbientBundle.Proofs.Import.Agreement
import AmbientBundle.Proofs.Import.WorkingDirectory
import AmbientBundle.Proofs.Bundle.Blocks
import AmbientBundle.Proofs.FileTree.Places
import AmbientBundle.Proofs.FileTree.Settled
import AmbientBundle.Proofs.FileTree.Making
import AmbientBundle.Proofs.Effects
import AmbientBundle.Proofs.Generate.Ground
import AmbientBundle.Proofs.Generate.Phases
import AmbientBundle.Proofs.Settings.Project
import AmbientBundle.Proofs.Settings.Precedence
import AmbientBundle.Proofs.Settings.Usable
import AmbientBundle.Proofs.Scratch
import AmbientBundle.Proofs.Generate.Frame
import AmbientBundle.Proofs.Scratch.Calls
import AmbientBundle.Proofs.Scratch.LifeCycle
import AmbientBundle.Proofs.Generate.Ending
import AmbientBundle.Proofs.FileTree.Mirror
import AmbientBundle.Proofs.FileTree.MirrorListing
import AmbientBundle.Proofs.FileTree.Order
import AmbientBundle.Proofs.Bundle.Listing
import AmbientBundle.Proofs.Bundle.Reading
import AmbientBundle.Proofs.Bundle.Entry
import AmbientBundle.Proofs.Bundle.Clearing
import AmbientBundle.Proofs.Lockstep
import AmbientBundle.Proofs.Generate.Twins
import AmbientBundle.Proofs.Generate.Recall
import AmbientBundle.Proofs.Generate.Abreast
import AmbientBundle.Proofs.Generate.Course
import AmbientBundle.Proofs.Generate.History
import AmbientBundle.Proofs.Words
import AmbientBundle.Proofs.Generate.Command
import AmbientBundle.Proofs.Import.Replacement
import AmbientBundle.Proofs.Bundle.Marks
import AmbientBundle.Proofs.Journal
import AmbientBundle.Proofs.Utf8
import AmbientBundle.Proofs.Json
import AmbientBundle.Proofs.Manifest
import AmbientBundle.Proofs.Program
