import TypeCatalog.Definition.Basic

/-!
# Defaults of a definition

`Definition.withDefaults` fills the optional fields that have a default: lists become empty, flags
become false, a title is made of the name. A field that is declared keeps its value.

`orDefault` is the one step; `Header.withDefaults`, `Property.withDefaults` and `Body.withDefaults`
apply it field by field. `deprecated`, `symbol`, `regex` and `dataType` have no default, and the
fields of variants and enum items are left as they are.
-/

set_option autoImplicit false

namespace TypeCatalog

/-- The value of a field, which is the default where it is not declared. -/
def orDefault {α : Type} (default : α) (field : Option α) : Option α := some (field.getD default)

def Header.withDefaults (h : Header) : Header :=
  { h with
    title := orDefault (Name.title h.name) h.title
    summary := orDefault "" h.summary
    tags := orDefault [] h.tags
    labels := orDefault [] h.labels
    examples := orDefault [] h.examples }

def TestCases.withDefaults (c : TestCases) : TestCases :=
  ⟨orDefault [] c.valid, orDefault [] c.invalid⟩

def Property.withDefaults (p : Property) : Property :=
  { p with
    isArray := orDefault false p.isArray
    isRequired := orDefault false p.isRequired }

def Body.withDefaults : Body → Body
  | bool c => bool c.withDefaults
  | enum b => enum b
  | int b => int { b with cases := b.cases.withDefaults }
  | float b =>
    float { b with
      isMinimumExclusive := orDefault false b.isMinimumExclusive
      isMaximumExclusive := orDefault false b.isMaximumExclusive
      cases := b.cases.withDefaults }
  | string b =>
    string { b with
      minimumLength := orDefault 0 b.minimumLength
      cases := b.cases.withDefaults }
  | object b => object { b with cases := b.cases.withDefaults }
  | record r =>
    record { r with
      properties := r.properties.map Property.withDefaults
      required := orDefault [] r.required
      variants := orDefault [] r.variants
      invalidCases := orDefault [] r.invalidCases }

/-- The definition with every default made explicit. -/
def Definition.withDefaults (d : Definition) : Definition :=
  ⟨d.header.withDefaults, d.body.withDefaults⟩

end TypeCatalog
