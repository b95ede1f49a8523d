/-!
# Aliases of a key

One logical field may be written under several keys. `selectKey?` picks the first accepted key
that is present.
-/

set_option autoImplicit false

namespace SchemaPhrase

/-- The first of `aliases` among `candidates`. -/
def selectKey? (candidates aliases : List String) : Option String :=
  aliases.find? candidates.contains

/-- As `selectKey?`, and the first alias of all when none is present. -/
def selectKeyOrFirst? (candidates aliases : List String) : Option String :=
  (selectKey? candidates aliases).or aliases.head?

end SchemaPhrase
