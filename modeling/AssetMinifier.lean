import AssetMinifier.Build.Setup
import AssetMinifier.Command.Run
import AssetMinifier.Config.Load
import AssetMinifier.Main
import AssetMinifier.Proofs.Build.Discover
import AssetMinifier.Proofs.Build.DryRun
import AssetMinifier.Proofs.Build.Listing
import AssetMinifier.Proofs.Build.Relocate
import AssetMinifier.Proofs.Config.Items
import AssetMinifier.Proofs.Config.Load
import AssetMinifier.Proofs.Config.Setting
import AssetMinifier.Proofs.Engine.Settle
import AssetMinifier.Proofs.FileSystem.Descend
import AssetMinifier.Proofs.FileSystem.Name
import AssetMinifier.Proofs.Minify.Character
import AssetMinifier.Proofs.Minify.LineComment
import AssetMinifier.Proofs.Minify.Overlap
import AssetMinifier.Proofs.Minify.Quoted
import AssetMinifier.Proofs.Minify.Script
import AssetMinifier.Proofs.Minify.Seam
import AssetMinifier.Proofs.Minify.Sequence
import AssetMinifier.Proofs.Minify.Stylesheet
import AssetMinifier.Proofs.Path.Chunk
import AssetMinifier.Proofs.Path.Exclude
import AssetMinifier.Proofs.Path.Glob
import AssetMinifier.Proofs.Watch.Trigger
import AssetMinifier.Proofs.Watch.Update
import AssetMinifier.Proofs.Yaml.Table
import AssetMinifier.Watch.Session
