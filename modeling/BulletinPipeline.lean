import BulletinPipeline.Text.Blank
import BulletinPipeline.Text.Quoted
import BulletinPipeline.Number.Decimal
import BulletinPipeline.Number.Numeral
import BulletinPipeline.PropertyName
import BulletinPipeline.Descriptor
import BulletinPipeline.Value.Text
import BulletinPipeline.Schema.Materializer
import BulletinPipeline.Bulletin.Reader
import BulletinPipeline.Regex.Basic
import BulletinPipeline.Storage.FileTree
import BulletinPipeline.Catalog
import BulletinPipeline.Settings
import BulletinPipeline.Factory.Registry
import BulletinPipeline.Factory.Object
import BulletinPipeline.Factory.Config
import BulletinPipeline.Digest
import BulletinPipeline.Value.Data
import BulletinPipeline.Json.Read
import BulletinPipeline.Json.Write
import BulletinPipeline.Command.Basic
import BulletinPipeline.Main
import BulletinPipeline.Proofs.Schema.NameReuse
import BulletinPipeline.Proofs.Schema.Assembly
import BulletinPipeline.Proofs.Schema.Outcome
import BulletinPipeline.Proofs.Value.Erasure
import BulletinPipeline.Proofs.Value.Serialization
import BulletinPipeline.Proofs.Conversion.Basic
import BulletinPipeline.Proofs.Conversion.ReadBack
import BulletinPipeline.Proofs.Conversion.Typing
import BulletinPipeline.Proofs.Conversion.Idempotence
import BulletinPipeline.Proofs.Conversion.Extraction
import BulletinPipeline.Proofs.Schema.Agreement
import BulletinPipeline.Proofs.Schema.Collision
import BulletinPipeline.Proofs.Schema.FirstFault
import BulletinPipeline.Proofs.Schema.Extension
import BulletinPipeline.Proofs.Conversion.NestedMaps
import BulletinPipeline.Proofs.Conversion.SchemaFaults
import BulletinPipeline.Proofs.Factory.Registration
import BulletinPipeline.Proofs.Factory.Creation
import BulletinPipeline.Proofs.Factory.Typing
import BulletinPipeline.Proofs.Factory.Building
import BulletinPipeline.Proofs.Factory.Renaming
import BulletinPipeline.Proofs.Factory.Layers
import BulletinPipeline.Proofs.Factory.Options
import BulletinPipeline.Proofs.Factory.Substitution
import BulletinPipeline.Proofs.Factory.ReportedOptions
import BulletinPipeline.Proofs.Catalog
import BulletinPipeline.Proofs.Settings
import BulletinPipeline.Proofs.Component.Archive
import BulletinPipeline.Proofs.Pipeline.Assembly
import BulletinPipeline.Proofs.Pipeline.Transform
import BulletinPipeline.Proofs.Pipeline.Run
import BulletinPipeline.Proofs.Pipeline.Delivery
import BulletinPipeline.Proofs.Pipeline.Gates
import BulletinPipeline.Proofs.Pipeline.WholeLines
import BulletinPipeline.Proofs.Conversion.Legibility
import BulletinPipeline.Proofs.Conversion.Blame
import BulletinPipeline.Proofs.Conversion.Numbers
import BulletinPipeline.Proofs.Conversion.Numerals
import BulletinPipeline.Proofs.Recursion.Termination
