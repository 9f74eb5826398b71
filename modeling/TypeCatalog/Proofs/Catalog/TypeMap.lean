import TypeCatalog.Proofs.Catalog.Names
import TypeCatalog.Proofs.Schema.Reference

/-!
# The two ways to a type map

A batch keeps the documents that it wrote in a table by the names of their definitions, and makes
its type map of what it finds there, under the domain as it was configured. The map of some
definitions is made without a batch: their documents are written while it is made, under the domain
without the slashes at its end.

`typeMap_eq_ofDefinitions` says that both are the same map. Names of definitions differ, so what the
table has at the name of a definition is what is written for it; and the builder asks for its domain
only when it reads a reference, where the slashes at the end are of no account
(`Name.resolve_domain`).

The first way is `Catalog.typeMap`, a fold over `emitted`; the second is `TypeMap.ofDefinitions`,
which calls `Emitter.emit` for each definition.
-/

set_option autoImplicit false

namespace TypeCatalog

/-! ## What a builder is asked -/

namespace Builder

variable {b b' : Builder} (henums : b.enums = b'.enums)
  (hresolve : ∀ system reference, Name.resolve (some b.domain) system reference
    = Name.resolve (some b'.domain) system reference)

include henums hresolve

/-- A builder is asked for the enums and for what references mean. -/
theorem refOf?_congr (e : Entry) (schema : Json) : b.refOf? e schema = b'.refOf? e schema := by
  unfold refOf?
  simp only [henums, hresolve]

/-- The nodes of a schema, however deep, depend on no more than that. -/
theorem nodes_congr (e : Entry) (schema : Json) : b.nodes e schema = b'.nodes e schema := by
  have hsame := refOf?_congr henums hresolve
  induction e, schema using induction_of_shapes b with
  | reference e schema n href =>
      rw [nodes_of_refOf? href, nodes_of_refOf? ((hsame e schema).symm.trans href)]
  | list e schema items href hitems ih =>
      have href' := (hsame e schema).symm.trans href
      rw [nodes_of_itemSchema? href hitems, nodes_of_itemSchema? href' hitems, ih]
  | closed e schema ps href hitems hclosed ih =>
      have href' := (hsame e schema).symm.trans href
      rw [nodes_eq_of_closedProperties? href hitems hclosed,
        nodes_eq_of_closedProperties? href' hitems hclosed, List.map_congr_left ih]
  | other e schema href hitems hclosed =>
      have href' := (hsame e schema).symm.trans href
      rw [nodes_of_other href hitems hclosed, nodes_of_other href' hitems hclosed]

/-- Builders whose domains differ by slashes make the same nodes of a document. -/
theorem documentNodes_congr (examples : List Json) (document : Document) :
    b.documentNodes examples document = b'.documentNodes examples document := by
  unfold documentNodes
  simp only [nodes_congr henums hresolve]

/-- And of a definition. -/
theorem definitionNodes_congr (d : Definition) (emitted : Emitted) :
    b.definitionNodes d emitted = b'.definitionNodes d emitted := by
  have hdocuments := fun examples => funext (documentNodes_congr henums hresolve examples)
  unfold definitionNodes
  rw [hdocuments, hdocuments]

end Builder

namespace Catalog

variable {settings : Settings} {formats : List Format} {store : Store}

/-- What the table of a batch has for a definition is what is written for it. -/
theorem lookup_emitted {d : Definition}
    (hd : d ∈ (ofStore settings formats store).definitions) :
    (ofStore settings formats store).emitted.lookup d.typeName
      = ((Emitter.ofDomain settings.domain).emit
          (.ofDefinitions (ofStore settings formats store).definitions) d).toOption := by
  rw [emitted_ofStore, lookup_emittedOf typeNames_nodup hd, Emitter.emit_toOption]
  rfl

/-- The type map of a batch is that of its definitions, for every store and every configuration,
with any number of slashes at the end of the domain and whatever is wrong with the definitions. -/
theorem typeMap_eq_ofDefinitions (settings : Settings) (formats : List Format) (store : Store) :
    (ofStore settings formats store).typeMap
      = .ofDefinitions settings.domain (ofStore settings formats store).definitions := by
  refine List.foldl_ext _ _ TypeMap.empty fun m d hd => ?_
  rw [lookup_emitted hd]
  cases (Emitter.ofDomain settings.domain).emit
      (.ofDefinitions (ofStore settings formats store).definitions) d with
  | error vs => rfl
  | ok emitted =>
      refine congrArg (m ++ ·)
        (Builder.definitionNodes_congr ?_ (fun system reference => ?_) d emitted)
      · rfl
      · exact (Name.resolve_domain settings.domain system reference).symm

end Catalog

end TypeCatalog
