import SqlDialects.Number.Double

/-! JSON values. Object entries keep their order and may repeat a key. -/

namespace SqlDialects

inductive Json where
  | null
  | bool (value : Bool)
  /-- An integer; the reader gives those from `-2^63` to `2^64 - 1`. -/
  | int (value : Int)
  | double (value : Double)
  | string (value : String)
  | array (elements : List Json)
  | object (entries : List (String × Json))

namespace Json

mutual

/-- The number of nested containers. -/
def depth : Json → Nat
  | .array elements => depthList elements + 1
  | .object entries => depthEntries entries + 1
  | _ => 0

def depthList : List Json → Nat
  | [] => 0
  | j :: rest => max j.depth (depthList rest)

def depthEntries : List (String × Json) → Nat
  | [] => 0
  | (_, j) :: rest => max j.depth (depthEntries rest)

end

/-- The entries ordered by key, with `entry` put in its place; an entry of the same key is
replaced. -/
def insertSorted (entry : String × Json) : List (String × Json) → List (String × Json)
  | [] => [entry]
  | other :: rest =>
    if entry.1 < other.1 then entry :: other :: rest
    else if entry.1 = other.1 then entry :: rest
    else other :: insertSorted entry rest

mutual

/-- All objects ordered by key, each key once with its last value. -/
def canonical : Json → Json
  | .array elements => .array (canonicalList elements)
  | .object entries =>
    .object ((canonicalEntries entries).foldl (fun sorted entry => insertSorted entry sorted) [])
  | j => j

def canonicalList : List Json → List Json
  | [] => []
  | j :: rest => j.canonical :: canonicalList rest

def canonicalEntries : List (String × Json) → List (String × Json)
  | [] => []
  | (key, j) :: rest => (key, j.canonical) :: canonicalEntries rest

end

end Json

end SqlDialects
