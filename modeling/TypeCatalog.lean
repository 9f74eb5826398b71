import TypeCatalog.Catalog
import TypeCatalog.Command.Run
import TypeCatalog.Main
import TypeCatalog.Proofs.Catalog.Addition
import TypeCatalog.Proofs.Catalog.Aliases
import TypeCatalog.Proofs.Catalog.Declared
import TypeCatalog.Proofs.Catalog.Documentation
import TypeCatalog.Proofs.Catalog.Engine
import TypeCatalog.Proofs.Catalog.KeyOrder
import TypeCatalog.Proofs.Definition.Normal
import TypeCatalog.Proofs.Definition.Repeats
import TypeCatalog.Proofs.Definition.Systems
import TypeCatalog.Proofs.Schema.Domain
import TypeCatalog.Proofs.Schema.Records
import TypeCatalog.Proofs.Schema.Rewriting
import TypeCatalog.Proofs.Settings.Saved
import TypeCatalog.Proofs.TypeMap.Built
import TypeCatalog.Proofs.TypeMap.Paths
import TypeCatalog.Proofs.TypeMap.Policies
