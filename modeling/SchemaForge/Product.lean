/-!
# The product

What the program says about itself.
-/

namespace SchemaForge.Product

/-- The version of the program and of its parts. -/
def version : String := "0.1.0"

/-- The name of the part that holds the vocabulary. -/
def vocabularyName : String := "stubsmith_core"

end SchemaForge.Product
