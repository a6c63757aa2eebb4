/-
Editing a data source name as text.

An edit reads the name, changes one thing and writes it again, with everything that was left out
put in.
-/
import MysqlDesk.Dsn.Reader

set_option autoImplicit false

namespace MysqlDesk.Dsn

/-- The name with everything put in that was left out. -/
def canonical (s : String) : Except Fault String :=
  (parse s).map text

/-- The name with another database. -/
def replaceDatabase (s : String) (database : String) : Except Fault String :=
  (parse s).map fun d => { d with database }.text

/-- The parameters with `changes` put in, and with `parseTime` set unless it has a value by then. -/
def mergeParams (params : Dictionary String) (changes : List (String × String)) :
    Dictionary String :=
  (params.insertAll changes).insertIfNew "parseTime" "true"

/-- The name with the parameters changed. -/
def setParams (s : String) (changes : List (String × String)) : Except Fault String :=
  (parse s).map fun d => { d with params := mergeParams d.params changes }.text

end MysqlDesk.Dsn
