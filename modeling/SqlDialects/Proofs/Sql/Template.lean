import SqlDialects.Sql
import SqlDialects.Text.Separated

/-! SQL text as a template with gaps for its values. The text with numbered placeholders and the
text with the values themselves fill the same gaps. -/

namespace SqlDialects

inductive Piece where
  | literal (text : String)
  | gap
deriving DecidableEq, Repr

/-- Text with gaps in it. -/
abbrev Template := List Piece

namespace Template

def gaps : Template → Nat
  | [] => 0
  | .literal _ :: rest => gaps rest
  | .gap :: rest => gaps rest + 1

/-- The text with its gaps filled from left to right, by one entry of `texts` each. -/
def fill : Template → List String → String
  | [], _ => ""
  | .literal s :: rest, texts => s ++ fill rest texts
  | .gap :: rest, [] => fill rest []
  | .gap :: rest, text :: texts => text ++ fill rest texts

end Template

/-- The placeholders of `count` parameters, the first of which has the number `next`. -/
def Dialect.placeholders (dialect : Dialect) (next count : Nat) : List String :=
  (List.range' next count).map dialect.placeholder

namespace Sql

/-- What is left of the SQL without its values. -/
def template : Sql → Template
  | [] => []
  | .text s :: rest => .literal s :: template rest
  | .bind _ :: rest => .gap :: template rest

/-- The text with every value spelled in its own place. -/
def spell (ofValue : Value → String) : Sql → String
  | [] => ""
  | .text s :: rest => s ++ spell ofValue rest
  | .bind v :: rest => ofValue v ++ spell ofValue rest

theorem gaps_template (sql : Sql) : sql.template.gaps = sql.values.length := by
  induction sql with
  | nil => rfl
  | cons fragment rest ih => cases fragment <;> simp [template, Template.gaps, values, ih]

/-- Placeholders in the gaps give the text that is compiled. -/
theorem fill_placeholders (dialect : Dialect) (sql : Sql) (next : Nat) :
    sql.template.fill (dialect.placeholders next sql.values.length) = sql.write dialect next := by
  induction sql generalizing next with
  | nil => rfl
  | cons fragment rest ih =>
    cases fragment with
    | text s => simp [template, Template.fill, values, write, ih]
    | bind v =>
      have hnext : dialect.placeholders next ((values rest).length + 1) =
          dialect.placeholder next :: dialect.placeholders (next + 1) (values rest).length := rfl
      simp [template, Template.fill, values, write, hnext, ih]

/-- Values in the gaps give the text in which they are spelled. -/
theorem fill_values (ofValue : Value → String) (sql : Sql) :
    sql.template.fill (sql.values.map ofValue) = sql.spell ofValue := by
  induction sql with
  | nil => rfl
  | cons fragment rest ih => cases fragment <;> simp [template, Template.fill, values, spell, ih]

theorem write_text (dialect : Dialect) (next : Nat) (s : String) :
    write dialect next (text s) = s := by
  simp [text, write]

@[simp] theorem values_nil : values [] = [] := rfl

@[simp] theorem values_text_cons (s : String) (sql : Sql) :
    values (.text s :: sql) = values sql := rfl

@[simp] theorem values_bind_cons (v : Value) (sql : Sql) :
    values (.bind v :: sql) = v :: values sql := rfl

@[simp] theorem values_text (s : String) : values (text s) = [] := rfl

@[simp] theorem spell_nil (ofValue : Value → String) : spell ofValue [] = "" := rfl

@[simp] theorem spell_text_cons (ofValue : Value → String) (s : String) (sql : Sql) :
    spell ofValue (.text s :: sql) = s ++ spell ofValue sql := rfl

@[simp] theorem spell_bind_cons (ofValue : Value → String) (v : Value) (sql : Sql) :
    spell ofValue (.bind v :: sql) = ofValue v ++ spell ofValue sql := rfl

@[simp] theorem spell_text (ofValue : Value → String) (s : String) :
    spell ofValue (text s) = s := by
  simp [text]

@[simp] theorem spell_append (ofValue : Value → String) (first second : Sql) :
    spell ofValue (first ++ second) = spell ofValue first ++ spell ofValue second := by
  induction first with
  | nil => simp
  | cons fragment rest ih => cases fragment <;> simp [ih, String.append_assoc]

@[simp] theorem values_parens (sql : Sql) : values (parens sql) = values sql := by
  simp [parens]

@[simp] theorem spell_parens (ofValue : Value → String) (sql : Sql) :
    spell ofValue (parens sql) = "(" ++ spell ofValue sql ++ ")" := by
  simp [parens, String.append_assoc]

@[simp] theorem values_join (separator : String) (parts : List Sql) :
    values (join separator parts) = parts.flatMap values := by
  fun_induction join separator parts with
  | case1 => rfl
  | case2 part => simp
  | case3 part next rest ih => simp [ih]

@[simp] theorem spell_join (ofValue : Value → String) (separator : String) (parts : List Sql) :
    spell ofValue (join separator parts) = Text.join separator (parts.map (spell ofValue)) := by
  fun_induction join separator parts with
  | case1 => rfl
  | case2 part => simp [Text.join]
  | case3 part next rest ih => simpa [Text.join, String.append_assoc] using ih

end Sql

end SqlDialects
