/-
Sets of characters given by their boundaries.

The Unicode properties this library needs are sets of a few hundred stretches of code points. Such a
set is written as the ascending list of the points where membership changes: the first stretch begins
at the first point, ends just before the second, and so on in pairs.
-/

set_option autoImplicit false

namespace MysqlDesk.Text

/-- Membership of the code point `n` in the set with the given boundaries. A last boundary without a
partner begins a stretch that never ends. -/
def inStretches : List Nat → Nat → Bool
  | [], _ => false
  | [first], n => first ≤ n
  | first :: after :: rest, n => first ≤ n && (n < after || inStretches rest n)

end MysqlDesk.Text
