/-!
# Migration keys

A migration is known by its key, a text that is not empty.  Keys are ordered by their characters,
so numbers in keys have to be padded to a common width for the order of the numbers.
-/

namespace SchemaMigration

/-- The key of a migration. -/
structure MigrationKey where
  text : String
  text_ne_empty : text ≠ ""
  deriving DecidableEq, Repr

namespace MigrationKey

/-- The key with a text, unless the text is empty. -/
def ofText? (text : String) : Option MigrationKey :=
  if h : text ≠ "" then some ⟨text, h⟩ else none

/-- The order of keys: the first character that differs decides. -/
def compare (a b : MigrationKey) : Ordering :=
  if a.text < b.text then .lt else if a.text = b.text then .eq else .gt

end MigrationKey
end SchemaMigration
