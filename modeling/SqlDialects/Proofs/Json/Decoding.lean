import SqlDialects.Json.Decode
import SqlDialects.Proofs.Json.Reading

/-! Decoding what was encoded: lists, records and variants come back as they were if their parts
do. Beside that stands what the reader asks of an encoding, integers of 64 bits. -/

namespace SqlDialects.Json

theorem mapM_map_of_eq {encode : α → Json} {decode : Json → Option α} {items : List α}
    (h : ∀ a ∈ items, decode (encode a) = some a) :
    (items.map encode).mapM decode = some items := by
  induction items with
  | nil => rfl
  | cons a rest ih =>
    rw [List.map_cons, List.mapM_cons, h a List.mem_cons_self,
      ih fun b hb => h b (List.mem_cons_of_mem a hb)]
    rfl

theorem list?_list {encode : α → Json} {decode : Json → Option α} {items : List α}
    (h : ∀ a ∈ items, decode (encode a) = some a) :
    list? decode (list encode items) = some items :=
  mapM_map_of_eq h

theorem list?_array {decode : Json → Option α} (elements : List Json) :
    list? decode (.array elements) = elements.mapM decode := rfl

@[simp] theorem list?_list_string (items : List String) :
    list? string? (list .string items) = some items :=
  list?_list fun _ _ => rfl

theorem depth_lt_of_mem_list {encode : α → Json} {items : List α} {a : α} (h : a ∈ items) :
    (encode a).depth < (list encode items).depth :=
  depth_lt_of_mem_array (List.mem_map_of_mem h)

theorem pair?_array {first : Json → Option α} {second : Json → Option β} {i j : Json} {a : α}
    {b : β} (hfirst : first i = some a) (hsecond : second j = some b) :
    pair? first second (.array [i, j]) = some (a, b) := by
  rw [pair?, hfirst, hsecond]
  rfl

/-- A value that may be missing comes back if the encoding of one that is there is never `null`. -/
theorem nullable?_orNull {encode : α → Json} {decode : Json → Option α} {value : Option α}
    (hnull : ∀ a, encode a ≠ .null) (h : ∀ a ∈ value, decode (encode a) = some a) :
    nullable? decode (orNull encode value) = some value := by
  cases value with
  | none => rfl
  | some a =>
    have hcases : nullable? decode (encode a) = (decode (encode a)).map some := by
      unfold nullable?
      split
      · next hj => exact absurd hj (hnull a)
      · rfl
    rw [orNull, hcases, h a rfl, Option.map_some]

@[simp] theorem nullable?_orNull_string (value : Option String) :
    nullable? string? (orNull .string value) = some value :=
  nullable?_orNull (fun _ h => by cases h) fun _ _ => rfl

@[simp] theorem string?_string (s : String) : string? (.string s) = some s := rfl

@[simp] theorem bool?_bool (b : Bool) : bool? (.bool b) = some b := rfl

@[simp] theorem variant?_variant (name : String) (payload : Json) :
    (variant name payload).variant? = some (name, some payload) := rfl

@[simp] theorem variant?_string (name : String) : variant? (.string name) = some (name, none) := rfl

theorem nat?_nat {bits n : Nat} (h : n < 2 ^ bits) : nat? bits (nat n) = some n := by
  have hn : (0 : Int) ≤ n ∧ (n : Int).toNat < Nat.pow 2 bits := ⟨Int.natCast_nonneg n, h⟩
  rw [nat, nat?, if_pos hn, Int.toNat_natCast]

/-! Records. -/

/-- An object with exactly the named fields is a record of them. -/
@[simp] theorem record?_object {names : List String} {entries : List (String × Json)}
    (hnames : entries.map Prod.fst = names) (h : names.Nodup) :
    record? names (.object entries) = some ⟨false, entries⟩ := by
  subst hnames
  have hknown : (entries.filter fun entry => (entries.map Prod.fst).contains entry.1) =
      entries := by
    rw [List.filter_eq_self]
    intro entry hentry
    exact List.contains_iff_mem.2 (List.mem_map_of_mem hentry)
  rw [record?, hknown, if_pos h]

namespace Record

variable {positional : Bool} {name other : String} {j : Json} {fields : List (String × Json)}
  {decode : Json → Option α}

theorem find?_cons_self : find? ⟨positional, (name, j) :: fields⟩ name = some j := by
  simp [find?]

theorem find?_cons_of_ne (h : other ≠ name) :
    find? ⟨positional, (other, j) :: fields⟩ name = find? ⟨positional, fields⟩ name := by
  simp [find?, h]

@[simp] theorem required_cons_self :
    required ⟨positional, (name, j) :: fields⟩ name decode = decode j := by
  rw [required, find?_cons_self, Option.bind_some]

@[simp] theorem required_cons_of_ne (h : other ≠ name) :
    required ⟨positional, (other, j) :: fields⟩ name decode =
      required ⟨positional, fields⟩ name decode := by
  rw [required, find?_cons_of_ne h, required]

@[simp] theorem withDefault_cons_self {default : α} :
    withDefault ⟨positional, (name, j) :: fields⟩ name default decode = decode j := by
  rw [withDefault, find?_cons_self]

@[simp] theorem withDefault_cons_of_ne {default : α} (h : other ≠ name) :
    withDefault ⟨positional, (other, j) :: fields⟩ name default decode =
      withDefault ⟨positional, fields⟩ name default decode := by
  rw [withDefault, find?_cons_of_ne h, withDefault]

@[simp] theorem optional_cons_self :
    optional ⟨positional, (name, j) :: fields⟩ name decode = nullable? decode j := by
  rw [optional, find?_cons_self]

@[simp] theorem optional_cons_of_ne (h : other ≠ name) :
    optional ⟨positional, (other, j) :: fields⟩ name decode =
      optional ⟨positional, fields⟩ name decode := by
  rw [optional, find?_cons_of_ne h, optional]

end Record

/-! Integers. -/

/-- Whether all integers of a value have 64 bits. -/
def IntsInRange (j : Json) : Prop := ∀ n, .int n ∈ j.scalars → Token.IntInRange n

@[simp] theorem intsInRange_null : IntsInRange .null :=
  fun _ h => nomatch List.mem_singleton.mp h

@[simp] theorem intsInRange_bool (b : Bool) : IntsInRange (.bool b) :=
  fun _ h => nomatch List.mem_singleton.mp h

@[simp] theorem intsInRange_double (x : Double) : IntsInRange (.double x) :=
  fun _ h => nomatch List.mem_singleton.mp h

@[simp] theorem intsInRange_string (s : String) : IntsInRange (.string s) :=
  fun _ h => nomatch List.mem_singleton.mp h

theorem intsInRange_int {n : Int} (h : Token.IntInRange n) : IntsInRange (.int n) := by
  intro m hm
  rwa [Json.int.inj (List.mem_singleton.mp hm)]

theorem intsInRange_nat {n : Nat} (h : n < 2 ^ 64) : IntsInRange (nat n) :=
  intsInRange_int ⟨by omega, by exact_mod_cast h⟩

@[simp] theorem intsInRange_array (elements : List Json) :
    IntsInRange (.array elements) ↔ ∀ j ∈ elements, j.IntsInRange := by
  unfold IntsInRange
  simp only [mem_scalars_array]
  exact ⟨fun h j hj n hn => h n ⟨j, hj, hn⟩, fun h n ⟨j, hj, hn⟩ => h j hj n hn⟩

@[simp] theorem intsInRange_object (entries : List (String × Json)) :
    IntsInRange (.object entries) ↔ ∀ entry ∈ entries, entry.2.IntsInRange := by
  unfold IntsInRange
  simp only [mem_scalars_object]
  exact ⟨fun h entry he n hn => h n ⟨entry, he, hn⟩, fun h n ⟨entry, he, hn⟩ => h entry he n hn⟩

@[simp] theorem intsInRange_list (encode : α → Json) (items : List α) :
    IntsInRange (list encode items) ↔ ∀ a ∈ items, (encode a).IntsInRange := by
  simp [list]

@[simp] theorem intsInRange_variant (name : String) (payload : Json) :
    IntsInRange (variant name payload) ↔ payload.IntsInRange := by
  simp [variant]

@[simp] theorem intsInRange_orNull (encode : α → Json) (value : Option α) :
    IntsInRange (orNull encode value) ↔ ∀ a ∈ value, (encode a).IntsInRange := by
  cases value <;> simp [orNull]

end SqlDialects.Json
