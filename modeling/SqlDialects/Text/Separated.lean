/-! Texts made of parts: joining parts with a separator, cutting a text at a character and finding
a text within another. -/

namespace SqlDialects.Text

/-- The parts in order, with `separator` between neighbours. -/
def join (separator : String) : List String → String
  | [] => ""
  | [part] => part
  | part :: next :: rest => part ++ separator ++ join separator (next :: rest)

/-- The runs between the occurrences of `separator`: one more than there are occurrences. -/
def split (separator : Char) : List Char → List (List Char)
  | [] => [[]]
  | c :: rest =>
    if c = separator then
      [] :: split separator rest
    else
      match split separator rest with
      | [] => [[c]]
      | run :: runs => (c :: run) :: runs

theorem split_ne_nil (separator : Char) (text : List Char) : split separator text ≠ [] := by
  cases text with
  | nil => simp [split]
  | cons c rest =>
    simp only [split]
    split
    · simp
    · split <;> simp

/-- Every occurrence of `c` written twice. -/
def double (c : Char) : List Char → List Char
  | [] => []
  | d :: rest => if d = c then d :: d :: double c rest else d :: double c rest

@[simp] theorem double_nil (c : Char) : double c [] = [] := rfl

theorem double_append (c : Char) (first second : List Char) :
    double c (first ++ second) = double c first ++ double c second := by
  induction first with
  | nil => rfl
  | cons d rest ih => by_cases h : d = c <;> simp [double, h, ih]

/-- Whether `needle` is a run of characters in a text. -/
def occurs (needle : List Char) : List Char → Bool
  | [] => needle.isEmpty
  | c :: rest => needle.isPrefixOf (c :: rest) || occurs needle rest

/-- A text of at most `width` characters, filled up with blanks on the right. -/
def padRight (width : Nat) (text : String) : String :=
  text ++ String.ofList (List.replicate (width - text.length) ' ')

end SqlDialects.Text
