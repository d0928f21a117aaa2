import Std.Data.ExtTreeMap
import PathRouting.Value

/-!
# Data bags

The values that fill a template, by token name.  A bag holds one value per name, the one given
last, and lists its names in byte order.
-/

namespace PathRouting

abbrev Bag := Std.ExtTreeMap String Value

namespace Bag

/-- The value that can fill this token, if the bag holds one. -/
def present? (bag : Bag) (name : String) : Option Value :=
  bag[name]?.filter Value.isPresent

theorem present?_eq_some_iff {bag : Bag} {name : String} {value : Value} :
    bag.present? name = some value ↔ bag[name]? = some value ∧ value.isPresent = true := by
  simp [present?, Option.filter_eq_some_iff]

end Bag

end PathRouting
