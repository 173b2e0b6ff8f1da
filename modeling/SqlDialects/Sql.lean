import SqlDialects.Dialect
import SqlDialects.Value.Basic

/-! SQL with bound values in it. A statement is put together as a list of fragments in which every
bound value stands at its own place; numbering the placeholders and collecting the parameters are
two readings of that list. -/

namespace SqlDialects

inductive Fragment where
  | text (text : String)
  | bind (value : Value)
deriving DecidableEq, Repr

abbrev Sql := List Fragment

/-- SQL text with placeholders, and the values bound to them in order. -/
structure Compiled where
  sql : String
  params : List Value
deriving DecidableEq, Repr

namespace Sql

def text (s : String) : Sql := [.text s]

/-- The bound values from left to right. -/
def values : Sql → List Value
  | [] => []
  | .text _ :: rest => values rest
  | .bind v :: rest => v :: values rest

/-- The text with placeholders numbered from `next` on. -/
def write (dialect : Dialect) (next : Nat) : Sql → String
  | [] => ""
  | .text s :: rest => s ++ write dialect next rest
  | .bind _ :: rest => dialect.placeholder next ++ write dialect (next + 1) rest

/-- The parts in order, with `separator` between neighbours. -/
def join (separator : String) : List Sql → Sql
  | [] => []
  | [part] => part
  | part :: next :: rest => part ++ .text separator :: join separator (next :: rest)

/-- The SQL in parentheses. -/
def parens (sql : Sql) : Sql := .text "(" :: sql ++ [.text ")"]

def compile (dialect : Dialect) (sql : Sql) : Compiled := ⟨write dialect 1 sql, values sql⟩

@[simp] theorem values_append (first second : Sql) :
    values (first ++ second) = values first ++ values second := by
  induction first with
  | nil => rfl
  | cons fragment rest ih => cases fragment <;> simp [values, ih]

theorem write_append (dialect : Dialect) (next : Nat) (first second : Sql) :
    write dialect next (first ++ second) =
      write dialect next first ++ write dialect (next + (values first).length) second := by
  induction first generalizing next with
  | nil => simp [write, values]
  | cons fragment rest ih =>
    cases fragment with
    | text s => simp [write, values, ih, String.append_assoc]
    | bind v => simp [write, values, ih, String.append_assoc, Nat.add_assoc, Nat.add_comm 1]

end Sql

namespace Compiled

/-- A statement without parameters. -/
def plain (sql : String) : Compiled := ⟨sql, []⟩

end Compiled

end SqlDialects
