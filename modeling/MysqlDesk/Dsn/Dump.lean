/-
A data source name with its fields apart, for a reader who looks for a mistake. Every text is quoted
so that blanks and controls show, and the password is never shown.
-/
import MysqlDesk.Dsn.Mask
import MysqlDesk.Text.Visible

set_option autoImplicit false

namespace MysqlDesk.Dsn

open MysqlDesk.Text (visible)

/-- The parameters as a list of keys and values. -/
def dumpParams (params : Dictionary String) : String :=
  let entries := params.entries.map fun (key, value) => visible key ++ ": " ++ visible value
  "\x7b" ++ ", ".intercalate entries ++ "\x7d"

/-- All fields with their names. -/
def dump (d : Dsn) : String :=
  let fields :=
    [ "user: " ++ visible d.user,
      "password: " ++ visible passwordMask,
      "net: " ++ visible d.net,
      "addr: " ++ visible d.address,
      "db_name: " ++ visible d.database,
      "params: " ++ dumpParams d.params ]
  "Dsn \x7b " ++ ", ".intercalate fields ++ " \x7d"

end MysqlDesk.Dsn
