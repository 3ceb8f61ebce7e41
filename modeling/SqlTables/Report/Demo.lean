import SqlTables.Report.Basic

/-!
# Demonstration

A few queries on a small catalog.
-/

set_option autoImplicit false

namespace SqlTables.Report

open Document (Value)

/-- The queries of the demonstration, with what each shows. -/
def demoQueries : List (String × String) := [
  ("Simple SELECT", "SELECT * FROM users"),
  ("JOIN with aliases",
    "SELECT u.name, p.title FROM users u INNER JOIN posts p ON u.id = p.user_id"),
  ("Schema notation",
    "SELECT * FROM public.users JOIN blog.posts ON users.id = posts.user_id"),
  ("CTE example",
    "WITH active_users AS (SELECT * FROM users WHERE active = true) "
      ++ "SELECT * FROM active_users JOIN orders ON active_users.id = orders.user_id"),
  ("Quoted identifiers",
    "SELECT * FROM \"user table\" JOIN [order table] ON \"user table\".id = [order table].user_id")]

/-- The catalog of the demonstration. -/
def demoCatalog : Catalog :=
  let table (name qualified schema : String) (database : Value) : Description :=
    .table ⟨name, qualified, .text schema, database⟩
  (Catalog.ofMapping [
    (.text "users", table "users" "public.users" "public" (.text "myapp")),
    (.text "posts", table "posts" "blog.posts" "blog" (.text "myapp")),
    (.text "orders", table "orders" "sales.orders" "sales" (.text "myapp")),
    (.text "public.users", table "users" "public.users" "public" (.text "myapp")),
    (.text "blog.posts", table "posts" "blog.posts" "blog" (.text "myapp")),
    (.text "user table", table "user table" "public.user_table" "public" .null),
    (.text "order table", table "order table" "sales.order_table" "sales" .null)]).1

/-- What a query of the demonstration names. -/
structure DemoRow where
  name : String
  sql : String
  all : String
  real : String
  ctes : String
deriving DecidableEq, Repr

/-- Extracts the tables of a query of the demonstration. -/
def demoRow (x : Extractor) (q : String × String) : Noted DemoRow := do
  let e ← x.extractNoted q.2
  let joined (names : List String) : String := ", ".intercalate names
  return ⟨q.1, q.2, joined e.allTables, joined e.realTables, joined e.ctes⟩

/-- The demonstration. -/
def demo : Noted (List DemoRow) := do
  let x ← ExtractionOptions.build { catalog := some demoCatalog, filtersCtes := true }
  demoQueries.mapM (demoRow x)

/-- The columns of the demonstration. -/
def demoColumns : List String := ["name", "all", "real", "ctes"]

/-- The document of a row. -/
def DemoRow.toDocument (r : DemoRow) : Value :=
  .map [(.text "name", .text r.name), (.text "sql", .text r.sql), (.text "all", .text r.all),
    (.text "real", .text r.real), (.text "ctes", .text r.ctes)]

/-- The document of the demonstration. -/
def demoDocument (rows : List DemoRow) : Value :=
  .map [(.text "columns", Value.ofTexts demoColumns),
    (.text "rows", .list (rows.map (·.toDocument)))]

end SqlTables.Report
