import SqlTables.Catalog.Table
import SqlTables.Text.Blank

/-!
# Catalogs

A catalog lists known tables under keys, in order.  A name is looked up under its own key first;
failing that, the first table counts whose name is the last part of the given name or whose
qualified name is the given name.

A catalog either resolves names to qualified names, or is flat: a list of names that only says
which are known.
-/

set_option autoImplicit false

namespace SqlTables

open Document (Value)

/-- Known tables by key, each key once. -/
structure Catalog where
  entries : List (String × Table)
  /-- Whether names resolve to qualified names. -/
  qualifies : Bool
deriving Repr, Inhabited

namespace Catalog

/-- Entries with a key set to a table: in its place if the key is there, else at the end. -/
def insert (key : String) (table : Table) :
    List (String × Table) → List (String × Table)
  | [] => [(key, table)]
  | (k, t) :: rest => if k = key then (k, table) :: rest else (k, t) :: insert key table rest

/-- Whether an entry answers to a name that is nobody's key. -/
def answersTo (name : String) (entry : String × Table) : Bool :=
  entry.1 = name || entry.2.name = Sql.bareName name || entry.2.qualifiedName = name

/-- The table that a name refers to. -/
def lookup (c : Catalog) (name : String) : Option Table :=
  match c.entries.lookup name with
  | some t => some t
  | none => (c.entries.find? (answersTo name)).map (·.2)

/-- The name under which a reference is reported. -/
def resolve (c : Catalog) (name : String) : String :=
  if c.qualifies then ((c.lookup name).map (·.qualifiedName)).getD name else name

/-- Whether a name refers to a known table. -/
def isKnown (c : Catalog) (name : String) : Bool := (c.lookup name).isSome

/-- The flat catalog of a list of names: trimmed, without blanks and repeats. -/
def ofNames (names : List String) : Catalog where
  entries := ((names.map Text.trimmed).filter (· ≠ "")).eraseDups.map fun n =>
    (n, ⟨n, n, .null, .null⟩)
  qualifies := false

/-- The flat catalog of names separated by commas. -/
def ofCommaSeparated (s : String) : Catalog := ofNames (s.splitOn ",")

/-- The document that lists a catalog's tables by key. -/
def toDocument (c : Catalog) : Value :=
  .map (c.entries.map fun (k, t) => (.text k, .map t.entries))

/-- The keys of a catalog, in order. -/
def keys (c : Catalog) : List String := c.entries.map (·.1)

/-- The number of tables. -/
def size (c : Catalog) : Nat := c.entries.length

/-- A catalog in a few words. -/
def summary (c : Catalog) : String :=
  let kind := if c.qualifies then "mapping" else "names"
  s!"KnownTables({kind}, {c.size} entries)"

end Catalog

end SqlTables
