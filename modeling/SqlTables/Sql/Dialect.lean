import SqlTables.Sql.Keyword

/-!
# Dialects

The SQL dialects that can be named, the spellings under which they go, and the keywords that some
of them add to the standard ones.
-/

set_option autoImplicit false

namespace SqlTables.Sql

/-- A dialect of SQL. -/
inductive Dialect where
  | athena | bigquery | clickhouse | databricks | dax | doris | dremio | drill | druid | duckdb
  | dune | exasol | fabric | hive | materialize | mysql | oracle | postgres | presto | prql
  | redshift | risingwave | snowflake | solr | spark | spark2 | sqlite | starrocks | tableau
  | teradata | trino | tsql
deriving DecidableEq, Repr

namespace Dialect

/-- The canonical name of a dialect. -/
def name : Dialect → String
  | athena => "athena" | bigquery => "bigquery" | clickhouse => "clickhouse"
  | databricks => "databricks" | dax => "dax" | doris => "doris" | dremio => "dremio"
  | drill => "drill" | druid => "druid" | duckdb => "duckdb" | dune => "dune"
  | exasol => "exasol" | fabric => "fabric" | hive => "hive" | materialize => "materialize"
  | mysql => "mysql" | oracle => "oracle" | postgres => "postgres" | presto => "presto"
  | prql => "prql" | redshift => "redshift" | risingwave => "risingwave"
  | snowflake => "snowflake" | solr => "solr" | spark => "spark" | spark2 => "spark2"
  | sqlite => "sqlite" | starrocks => "starrocks" | tableau => "tableau"
  | teradata => "teradata" | trino => "trino" | tsql => "tsql"

/-- Every dialect. -/
def all : List Dialect := [
  athena, bigquery, clickhouse, databricks, dax, doris, dremio, drill, druid, duckdb, dune, exasol,
  fabric, hive, materialize, mysql, oracle, postgres, presto, prql, redshift, risingwave, snowflake,
  solr, spark, spark2, sqlite, starrocks, tableau, teradata, trino, tsql]

/-- Common spellings besides the canonical names. -/
def aliases : List (String × Dialect) := [
  ("mssql", tsql), ("sqlserver", tsql), ("sql_server", tsql), ("postgresql", postgres),
  ("pg", postgres), ("mariadb", mysql), ("bq", bigquery), ("sqlite3", sqlite)]

/-- The dialect with exactly this lower-case name or alias. -/
def ofName? (key : String) : Option Dialect :=
  match aliases.lookup key with
  | some d => some d
  | none => all.find? (·.name = key)

/-- The dialect of a spelling, in letters of any case. -/
def ofSpelling? (s : String) : Option Dialect := ofName? (Text.lowered s)

/-- The dialect of a spelling, in letters of any case and with blanks around it. -/
def parse? (s : String) : Option Dialect := ofSpelling? (Text.trimmed s)

/-- The dialects that add keywords of their own, in the order in which they are listed. -/
def withPresets : List Dialect := [postgres, mysql, tsql, oracle, bigquery, snowflake, sqlite]

/-- The keywords a dialect adds to the standard ones. -/
def keywords : Dialect → List String
  | postgres => ["LATERAL JOIN", "RETURNING", "CREATE TABLE", "CREATE TEMPORARY TABLE"]
  | mysql => ["STRAIGHT_JOIN", "INSERT IGNORE INTO", "CREATE TABLE", "CREATE TEMPORARY TABLE"]
  | tsql => ["CROSS APPLY", "OUTER APPLY", "OUTPUT", "CREATE TABLE"]
  | oracle => ["CONNECT BY", "MODEL", "INSERT ALL INTO", "CREATE TABLE"]
  | bigquery => ["CREATE TABLE", "CREATE OR REPLACE TABLE", "CREATE TEMPORARY TABLE"]
  | snowflake => ["LATERAL FLATTEN", "COPY INTO", "CREATE TABLE", "CREATE OR REPLACE TABLE",
      "CREATE TRANSIENT TABLE", "CREATE TEMPORARY TABLE"]
  | sqlite => ["INSERT OR REPLACE INTO", "CREATE TABLE", "CREATE TEMPORARY TABLE"]
  | _ => []

theorem mem_all (d : Dialect) : d ∈ all := by cases d <;> decide

theorem ofName?_name (d : Dialect) : ofName? d.name = some d := by cases d <;> decide

end Dialect

/-- Two lists of keywords: those looked for when nothing else is asked, and all that are known. -/
structure KeywordSets where
  standard : List String
  all : List String
deriving DecidableEq, Repr

namespace KeywordSets

/-- The standard keywords, and with them all that any dialect adds. -/
def builtin : KeywordSets where
  standard := Keyword.standard
  all := Keyword.normalize
    (Keyword.standard ++ Dialect.withPresets.flatMap Dialect.keywords
      ++ ["INSERT ALL INTO", "SELECT * FROM"])

/-- Both lists with further phrases at their ends. -/
def extend (sets : KeywordSets) (phrases : List String) : KeywordSets where
  standard := Keyword.normalize (sets.standard ++ phrases)
  all := Keyword.normalize (sets.all ++ phrases)

end KeywordSets

end SqlTables.Sql
