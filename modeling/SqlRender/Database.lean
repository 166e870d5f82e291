import SqlRender.Text.AsciiCase
import SqlRender.Text.Blank

/-!
# Database products

The database products for which statements can be written, with the name of each.  A
product is found by its name with letter case, hyphens, underscores and blanks ignored,
and some products by further names.
-/

namespace SqlRender

/-- A database product. -/
inductive Database where
  | mysql
  | mariadb
  | h2
  | gbase
  | oscar
  | xugu
  | oceanbase
  | cubrid
  | goldilocks
  | csiidb
  | hive
  | doris
  | goldendb
  | sundb
  | yasdb
  | clickhouse
  | gbase8s
  | dm
  | oracle
  | oracle12c
  | gauss
  | postgreSql
  | sqlite
  | hsql
  | kingbasees
  | phoenix
  | sapHana
  | impala
  | highgo
  | vertica
  | redshift
  | opengauss
  | uxdb
  | lealone
  | duckdb
  | gbase8c
  | gbase8sPg
  | vastbase
  | trino
  | presto
  | tdengine
  | firebird
  | db2
  | db2V1005
  | sqlServer
  | sqlServer2005
  | informix
  | sinodb
  | sybase
  | derby
  | other
  deriving DecidableEq

namespace Database

/-- All products, in their listing order. -/
def all : List Database :=
  [.mysql, .mariadb, .h2, .gbase, .oscar, .xugu, .oceanbase, .cubrid, .goldilocks,
   .csiidb, .hive, .doris, .goldendb, .sundb, .yasdb, .clickhouse, .gbase8s, .dm,
   .oracle, .oracle12c, .gauss, .postgreSql, .sqlite, .hsql, .kingbasees, .phoenix,
   .sapHana, .impala, .highgo, .vertica, .redshift, .opengauss, .uxdb, .lealone,
   .duckdb, .gbase8c, .gbase8sPg, .vastbase, .trino, .presto, .tdengine, .firebird,
   .db2, .db2V1005, .sqlServer, .sqlServer2005, .informix, .sinodb, .sybase, .derby,
   .other]

/-- The name of a product. -/
def name : Database → String
  | .mysql => "mysql"
  | .mariadb => "mariadb"
  | .h2 => "h2"
  | .gbase => "gbase"
  | .oscar => "oscar"
  | .xugu => "xugu"
  | .oceanbase => "oceanbase"
  | .cubrid => "cubrid"
  | .goldilocks => "goldilocks"
  | .csiidb => "csiidb"
  | .hive => "hive"
  | .doris => "doris"
  | .goldendb => "goldendb"
  | .sundb => "sundb"
  | .yasdb => "yasdb"
  | .clickhouse => "clickhouse"
  | .gbase8s => "gbase_8s"
  | .dm => "dm"
  | .oracle => "oracle"
  | .oracle12c => "oracle_12c"
  | .gauss => "gauss"
  | .postgreSql => "postgresql"
  | .sqlite => "sqlite"
  | .hsql => "hsql"
  | .kingbasees => "kingbasees"
  | .phoenix => "phoenix"
  | .sapHana => "sap_hana"
  | .impala => "impala"
  | .highgo => "highgo"
  | .vertica => "vertica"
  | .redshift => "redshift"
  | .opengauss => "opengauss"
  | .uxdb => "uxdb"
  | .lealone => "lealone"
  | .duckdb => "duckdb"
  | .gbase8c => "gbase_8c"
  | .gbase8sPg => "gbase_8s_pg"
  | .vastbase => "vastbase"
  | .trino => "trino"
  | .presto => "presto"
  | .tdengine => "tdengine"
  | .firebird => "firebird"
  | .db2 => "db2"
  | .db2V1005 => "db2_1005"
  | .sqlServer => "sqlserver"
  | .sqlServer2005 => "sqlserver_2005"
  | .informix => "informix"
  | .sinodb => "sinodb"
  | .sybase => "sybase"
  | .derby => "derby"
  | .other => "other"

/-- The label of a product in a description of a registry. -/
def label : Database → String
  | .mysql => "MySql"
  | .mariadb => "MariaDb"
  | .h2 => "H2"
  | .gbase => "GBase"
  | .oscar => "Oscar"
  | .xugu => "Xugu"
  | .oceanbase => "OceanBase"
  | .cubrid => "Cubrid"
  | .goldilocks => "Goldilocks"
  | .csiidb => "CsiiDb"
  | .hive => "Hive"
  | .doris => "Doris"
  | .goldendb => "GoldenDb"
  | .sundb => "SunDb"
  | .yasdb => "YasDb"
  | .clickhouse => "ClickHouse"
  | .gbase8s => "GBase8s"
  | .dm => "Dm"
  | .oracle => "Oracle"
  | .oracle12c => "Oracle12c"
  | .gauss => "Gauss"
  | .postgreSql => "PostgreSql"
  | .sqlite => "Sqlite"
  | .hsql => "Hsql"
  | .kingbasees => "KingbaseEs"
  | .phoenix => "Phoenix"
  | .sapHana => "SapHana"
  | .impala => "Impala"
  | .highgo => "HighGo"
  | .vertica => "Vertica"
  | .redshift => "Redshift"
  | .opengauss => "OpenGauss"
  | .uxdb => "UxDb"
  | .lealone => "Lealone"
  | .duckdb => "DuckDb"
  | .gbase8c => "GBase8c"
  | .gbase8sPg => "GBase8sPg"
  | .vastbase => "Vastbase"
  | .trino => "Trino"
  | .presto => "Presto"
  | .tdengine => "TDengine"
  | .firebird => "Firebird"
  | .db2 => "Db2"
  | .db2V1005 => "Db2V1005"
  | .sqlServer => "SqlServer"
  | .sqlServer2005 => "SqlServer2005"
  | .informix => "Informix"
  | .sinodb => "SinoDb"
  | .sybase => "Sybase"
  | .derby => "Derby"
  | .other => "Other"

/-- Further names, as they are left by `simplified`. -/
def furtherNames : List (String × Database) :=
  [("postgres", .postgreSql), ("pg", .postgreSql), ("mssql", .sqlServer),
   ("mssql2005", .sqlServer2005), ("kingbase", .kingbasees), ("hana", .sapHana),
   ("hsqldb", .hsql), ("dameng", .dm)]

/-- A name in lower case without hyphens, underscores and blanks. -/
def simplified (name : String) : String :=
  Text.lower (String.ofList (name.toList.filter fun c => c ≠ '_' && c ≠ '-' && !Text.isBlank c))

/-- The product with the given name. -/
def ofName? (name : String) : Option Database :=
  let wanted := simplified name
  let names := furtherNames ++ all.map fun db => (simplified db.name, db)
  (names.find? fun entry => entry.1 == wanted).map Prod.snd

end Database

/-- A name that no database product has. -/
structure UnknownDatabase where
  name : String
  deriving DecidableEq

namespace UnknownDatabase

/-- The text of the error. -/
def message (e : UnknownDatabase) : String :=
  "Unknown database type: " ++ e.name

end UnknownDatabase

namespace Database

/-- The product with the given name, or the error that there is none. -/
def find (name : String) : Except UnknownDatabase Database :=
  match ofName? name with
  | some db => .ok db
  | none => .error ⟨name⟩

end Database

end SqlRender
