import SqlDialects.Change.Render
import SqlDialects.Statement.Basic
import SqlDialects.Table.Plan

/-! Compiling a statement for a dialect. A change of the schema may take several statements, which
are run in order. -/

namespace SqlDialects.Statement

def compile (dialect : Dialect) : Statement → Except Error (List Compiled)
  | select query => return [← query.compile dialect]
  | insert statement => return [← statement.compile dialect]
  | update statement => return [← statement.compile dialect]
  | delete statement => return [← statement.compile dialect]
  | createTable table => table.compile dialect
  | alterTable table types => table.compile dialect types
  | dropTable table => .ok [(Definition.dropTable table).compile dialect]
  | truncateTable table => .ok [(Definition.ofTruncate dialect table).compile dialect]
  | renameTable source target => .ok [(Definition.ofRename dialect source target).compile dialect]

end SqlDialects.Statement
