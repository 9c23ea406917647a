import QuadClient.Iri.Basic

/-!
# Datatypes with a meaning of their own
-/

namespace QuadClient.Iri

/-- The namespace of the schema datatypes. -/
def schemaNamespace : String :=
  "http://www.w3.org/2001/XMLSchema#"

/-- The datatype of plain literals. -/
def xsdString : Iri := ⟨"http://www.w3.org/2001/XMLSchema#string", by decide +kernel⟩

/-- Whole numbers. -/
def xsdInteger : Iri := ⟨"http://www.w3.org/2001/XMLSchema#integer", by decide +kernel⟩

/-- Fixed-point numbers. -/
def xsdDecimal : Iri := ⟨"http://www.w3.org/2001/XMLSchema#decimal", by decide +kernel⟩

/-- Binary numbers of 32 bits. -/
def xsdFloat : Iri := ⟨"http://www.w3.org/2001/XMLSchema#float", by decide +kernel⟩

/-- Binary numbers of 64 bits. -/
def xsdDouble : Iri := ⟨"http://www.w3.org/2001/XMLSchema#double", by decide +kernel⟩

/-- Truth values. -/
def xsdBoolean : Iri := ⟨"http://www.w3.org/2001/XMLSchema#boolean", by decide +kernel⟩

/-- Dates. -/
def xsdDate : Iri := ⟨"http://www.w3.org/2001/XMLSchema#date", by decide +kernel⟩

/-- Times of day. -/
def xsdTime : Iri := ⟨"http://www.w3.org/2001/XMLSchema#time", by decide +kernel⟩

/-- A date with a time of day. -/
def xsdDateTime : Iri := ⟨"http://www.w3.org/2001/XMLSchema#dateTime", by decide +kernel⟩

/-- Bytes in hexadecimal. -/
def xsdHexBinary : Iri := ⟨"http://www.w3.org/2001/XMLSchema#hexBinary", by decide +kernel⟩

/-- The datatype of language-tagged literals. -/
def langString : Iri := ⟨"http://www.w3.org/1999/02/22-rdf-syntax-ns#langString", by decide +kernel⟩

/-- The predicate written `a` in a query. -/
def rdfType : Iri := ⟨"http://www.w3.org/1999/02/22-rdf-syntax-ns#type", by decide +kernel⟩

end QuadClient.Iri
