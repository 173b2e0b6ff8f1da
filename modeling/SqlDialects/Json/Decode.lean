import SqlDialects.Json.Basic

/-! Decoding JSON values: scalars, lists, records and variants. A record is an object of named
fields or an array of its fields in order; a variant is a name, or an object with the name as its
only key. -/

namespace SqlDialects.Json

def string? : Json → Option String
  | .string s => some s
  | _ => none

def bool? : Json → Option Bool
  | .bool b => some b
  | _ => none

/-- An integer from `low` to `high`. -/
def intWithin? (low high : Int) : Json → Option Int
  | .int n => if low ≤ n ∧ n ≤ high then some n else none
  | _ => none

/-- A natural below `2^bits`. -/
def nat? (bits : Nat) : Json → Option Nat
  | .int n => if 0 ≤ n ∧ n.toNat < Nat.pow 2 bits then some n.toNat else none
  | _ => none

/-- Any number, an integer rounded to the nearest double. -/
def double? : Json → Option Double
  | .int n => Double.ofInt? n
  | .double x => some x
  | _ => none

def list? (decode : Json → Option α) : Json → Option (List α)
  | .array elements => elements.mapM decode
  | _ => none

/-- An array of exactly two elements. -/
def pair? {α β : Type} (first : Json → Option α) (second : Json → Option β) : Json → Option (α × β)
  | .array [a, b] => do return (← first a, ← second b)
  | _ => none

/-- `null` stands for no value. -/
def nullable? (decode : Json → Option α) : Json → Option (Option α)
  | .null => some none
  | j => (decode j).map some

/-- The fields of a record that are present. -/
structure Record where
  /-- Whether the record was written as an array. -/
  positional : Bool
  fields : List (String × Json)

/-- The record with the named fields. Other keys of an object are ignored; a named key given twice
is refused, and so is an array with too many elements. -/
def record? (names : List String) : Json → Option Record
  | .object entries =>
    let known := entries.filter fun entry => names.contains entry.1
    if (known.map Prod.fst).Nodup then some ⟨false, known⟩ else none
  | .array elements =>
    if elements.length ≤ names.length then some ⟨true, names.zip elements⟩ else none
  | _ => none

namespace Record

def find? (record : Record) (name : String) : Option Json :=
  (record.fields.find? fun field => field.1 == name).map Prod.snd

/-- A field that must be present. -/
def required (record : Record) (name : String) (decode : Json → Option α) : Option α :=
  (record.find? name).bind decode

/-- A field with a value to use when it is missing. -/
def withDefault (record : Record) (name : String) (default : α) (decode : Json → Option α) :
    Option α :=
  match record.find? name with
  | some j => decode j
  | none => some default

/-- A field without a value when it is missing from an object; an array must have it. -/
def optional (record : Record) (name : String) (decode : Json → Option α) : Option (Option α) :=
  match record.find? name with
  | some j => nullable? decode j
  | none => if record.positional then none else some none

end Record

/-- The name of a variant, and its payload if it was written as an object. -/
def variant? : Json → Option (String × Option Json)
  | .string name => some (name, none)
  | .object [(name, payload)] => some (name, some payload)
  | _ => none

/-- The payload of a variant without contents: none at all, `null` or an empty object. -/
def isUnit : Option Json → Bool
  | none => true
  | some .null => true
  | some (.object []) => true
  | some _ => false

/-- One of several variants without contents. -/
def choice? (table : List (String × α)) (j : Json) : Option α := do
  let (name, payload) ← j.variant?
  let (_, value) ← table.find? fun entry => entry.1 == name
  if isUnit payload then some value else none

/-- The object of a variant with contents. -/
def variant (name : String) (payload : Json) : Json := .object [(name, payload)]

/-- The value, or `null`. -/
def orNull (encode : α → Json) : Option α → Json
  | none => .null
  | some a => encode a

def list (encode : α → Json) (elements : List α) : Json := .array (elements.map encode)

def nat (n : Nat) : Json := .int n

end SqlDialects.Json
