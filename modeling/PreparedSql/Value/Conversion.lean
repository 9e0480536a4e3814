import PreparedSql.Value.Basic

/-!
# Conversions into values

What a program holds and can bind as it is. An absent value is bound as NULL, and a list of bindable
things as the list of their values.
-/
namespace PreparedSql

open PreparedSql.Ieee PreparedSql.Time

class Bindable (α : Type) where
  toValue : α → Value

export Bindable (toValue)

instance : Bindable Bool := ⟨Value.bool⟩
instance : Bindable Int16 := ⟨fun n => .int n.toInt64⟩
instance : Bindable Int32 := ⟨fun n => .int n.toInt64⟩
instance : Bindable Int64 := ⟨Value.int⟩
instance : Bindable UInt32 := ⟨fun n => .int (Int64.ofNat n.toNat)⟩
instance : Bindable Binary32 := ⟨fun x => .float (Binary64.ofBinary32 x)⟩
instance : Bindable Binary64 := ⟨Value.float⟩
instance : Bindable String := ⟨Value.text⟩
instance : Bindable Instant := ⟨Value.timestamp⟩
instance : Bindable Uuid := ⟨Value.uuid⟩
instance : Bindable Json := ⟨Value.json⟩

instance {α : Type} [Bindable α] : Bindable (Option α) where
  toValue
    | none => .null
    | some a => toValue a

instance {α : Type} [Bindable α] : Bindable (List α) where
  toValue items := .list (items.map toValue)

end PreparedSql
