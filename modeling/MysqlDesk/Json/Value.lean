/-
JSON values.

A number that the text gives as an integer, and that fits a word of 64 bits, signed or unsigned, stays
an integer; every other number is a floating-point number. The members of an object form a
dictionary: ascending keys, and the last of several members with one name. They are kept as an entry
list, because a type that contains itself cannot also carry the order of that list.
-/
import MysqlDesk.Binary64.Basic
import MysqlDesk.Dictionary

set_option autoImplicit false

namespace MysqlDesk.Json

/-- A JSON number. -/
inductive Number where
  | integer (value : Int)
  | real (value : Binary64)
  deriving DecidableEq, Inhabited

/-- A JSON value. -/
inductive Value where
  | null
  | bool (value : Bool)
  | number (value : Number)
  | text (value : String)
  | array (items : List Value)
  | object (members : List (String × Value))
  deriving Inhabited

/-- The object with the given members, of which the last with a name counts. -/
def Value.ofMembers (members : List (String × Value)) : Value :=
  .object (members.foldl (fun es m => Entries.insert m.1 m.2 es) [])

end MysqlDesk.Json
