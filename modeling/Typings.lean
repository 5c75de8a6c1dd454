import Typings.CommandLine.Run
import Typings.Configuration
import Typings.Conversion.Module
import Typings.Export
import Typings.Files.Save
import Typings.Javap.Client
import Typings.Main
import Typings.Source.Client
import Typings.Toml.Document
import Typings.Traversal
import Typings.Proofs.Recursion
import Typings.Proofs.ConvertedTypes
import Typings.Proofs.ResolvedClasses
import Typings.Proofs.WalkLoop
import Typings.Proofs.Reachability
import Typings.Proofs.ReferenceOrder
import Typings.Proofs.FileTrees
import Typings.Proofs.ModulePaths
import Typings.Proofs.SavedModules
import Typings.Proofs.SavedInOrder
import Typings.Proofs.ExportRun
import Typings.Proofs.PendingFrames
import Typings.Proofs.OpeningOrder
import Typings.Proofs.SharedContext
import Typings.Proofs.EmittedTypes
import Typings.Proofs.MappedTypes
import Typings.Proofs.ModuleImports
import Typings.Proofs.UnresolvedClasses
import Typings.Proofs.FirstReferences
import Typings.Proofs.TypePositions
import Typings.Proofs.Hierarchies
import Typings.Proofs.KeptClasses
import Typings.Proofs.ListedHierarchy
import Typings.Proofs.ListedOnce
import Typings.Proofs.FirstMethods
import Typings.Proofs.Lineages
import Typings.Proofs.Overrides
import Typings.Proofs.SourceNames
import Typings.Proofs.SourceLoads
import Typings.Proofs.TopLevelNames
import Typings.Proofs.TextParts
import Typings.Proofs.Generics
import Typings.Proofs.ModifierWords
import Typings.Proofs.WordRuns
import Typings.Proofs.ListedHeaders
import Typings.Proofs.RecoveredHeaders
import Typings.Proofs.DeclaredTypes
import Typings.Proofs.Descriptors
import Typings.Proofs.ListedMembers
import Typings.Proofs.RecoveredMembers
import Typings.Proofs.PrintedTypes
import Typings.Proofs.DescriptorGrammar
import Typings.Proofs.DeclaredMembers
import Typings.Proofs.RefusedTypes
import Typings.Proofs.CanonicalNames
import Typings.Proofs.ScopedVariables
import Typings.Proofs.NearbyTypes
import Typings.Proofs.SettingsFiles
