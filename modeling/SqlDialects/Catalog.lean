import SqlDialects.Sql

/-! The queries that ask a database about itself: its name, its tables and their columns. The
answers have the columns `name` and, for columns, `type`. -/

namespace SqlDialects.Catalog

/-- The name of the present database. -/
def database : Dialect → Sql
  | .mysql => Sql.text "SELECT DATABASE() AS name"
  | .postgres => Sql.text "SELECT current_database()::text AS name"
  | .sqlite => Sql.text "SELECT name FROM pragma_database_list WHERE seq = 0"
  | .sqlServer => Sql.text "SELECT DB_NAME() AS name"

/-- The names of the tables in order. Where a session sees the tables of its own database only, the
name of the database is not asked for. -/
def tables (dialect : Dialect) (database : String) : Sql :=
  match dialect with
  | .mysql => [
      .text "SELECT table_name AS name FROM information_schema.tables WHERE table_schema = ",
      .bind (.string database),
      .text " AND table_type = 'BASE TABLE' ORDER BY table_name"]
  | .postgres => Sql.text <|
      "SELECT c.relname::text AS name FROM pg_catalog.pg_class c " ++
      "JOIN pg_catalog.pg_namespace n ON n.oid = c.relnamespace " ++
      "WHERE c.relkind IN ('r', 'p') AND n.nspname = ANY(current_schemas(false)) " ++
      "ORDER BY c.relname"
  | .sqlite => Sql.text <|
      "SELECT name FROM sqlite_master " ++
      "WHERE type = 'table' AND name NOT LIKE 'sqlite_%' ORDER BY name"
  | .sqlServer => [
      .text "SELECT table_name AS name FROM information_schema.tables WHERE table_catalog = ",
      .bind (.string database),
      .text " AND table_type = 'BASE TABLE' ORDER BY table_name"]

/-- The names and native types of the columns of a table, in the order of the table. -/
def columns (dialect : Dialect) (database table : String) : Sql :=
  match dialect with
  | .mysql => [
      .text ("SELECT column_name AS name, column_type AS type " ++
        "FROM information_schema.columns WHERE table_schema = "),
      .bind (.string database),
      .text " AND table_name = ",
      .bind (.string table),
      .text " ORDER BY ordinal_position"]
  | .postgres => [
      .text ("SELECT a.attname::text AS name, format_type(a.atttypid, a.atttypmod) AS type " ++
        "FROM pg_catalog.pg_attribute a WHERE a.attrelid = to_regclass("),
      .bind (.string table),
      .text ") AND a.attnum > 0 AND NOT a.attisdropped ORDER BY a.attnum"]
  | .sqlite => [
      .text "SELECT name, type FROM pragma_table_info(",
      .bind (.string table),
      .text ") ORDER BY cid"]
  | .sqlServer => [
      .text ("SELECT column_name AS name, data_type AS type " ++
        "FROM information_schema.columns WHERE table_catalog = "),
      .bind (.string database),
      .text " AND table_name = ",
      .bind (.string table),
      .text " ORDER BY ordinal_position"]

end SqlDialects.Catalog
