import SqlDialects.Proofs.Json.Decoding
import SqlDialects.Proofs.Value.TimestampText
import SqlDialects.Value.Json

/-! Values come back from their JSON. A missing value and the value `null` stay apart. -/

namespace SqlDialects.Value

open Json

theorem toJson_ne_null (v : Value) : v.toJson ≠ .null := by
  cases v <;> exact fun h => by cases h

theorem int64?_int (n : Int64) : int64? (.int n.toInt) = some n := by
  have hbounds : Int64.minValue.toInt ≤ n.toInt ∧ n.toInt ≤ Int64.maxValue.toInt :=
    ⟨n.minValue_le_toInt, n.toInt_le⟩
  rw [int64?, intWithin?, if_pos hbounds, Option.map_some, Int64.ofInt_toInt]

theorem byte?_nat (b : UInt8) : byte? (.nat b.toNat) = some b := by
  rw [byte?, nat?_nat b.toNat_lt, Option.map_some, UInt8.ofNat_toNat]

@[simp] theorem ofJson?_toJson (v : Value) : ofJson? v.toJson = some v := by
  cases v with
  | null => rfl
  | bool b => rfl
  | int n =>
    show (int64? (.int n.toInt)).map Value.int = some (.int n)
    rw [int64?_int, Option.map_some]
  | float x => rfl
  | string s => rfl
  | bytes content =>
    show (list? byte? (.list (fun b => .nat b.toNat) content)).map bytes = some (.bytes content)
    rw [list?_list fun b _ => byte?_nat b, Option.map_some]
  | timestamp t =>
    have ht := Timestamp.ofText?_isoText t
    simp [toJson, ofJson?, ht]

theorem intInRange_toInt (n : Int64) : Token.IntInRange n.toInt :=
  ⟨n.le_toInt, by have := n.toInt_lt; omega⟩

@[simp] theorem intsInRange_toJson (v : Value) : v.toJson.IntsInRange := by
  cases v with
  | null => exact intsInRange_string "Null"
  | bool b => simp [toJson]
  | int n => simpa [toJson] using intsInRange_int (intInRange_toInt n)
  | float x => simp [toJson]
  | string s => simp [toJson]
  | bytes content =>
    have hbyte (b : UInt8) : (Json.nat b.toNat).IntsInRange :=
      intsInRange_nat (Nat.lt_trans b.toNat_lt (by decide))
    simp [toJson, hbyte]
  | timestamp t => simp [toJson]

end SqlDialects.Value
