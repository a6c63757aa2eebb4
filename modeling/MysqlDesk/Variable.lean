/-
Global variables of the server.
-/
import MysqlDesk.Program

set_option autoImplicit false

namespace MysqlDesk.Variable

/-- The look-up of a variable. -/
def query : String :=
  "SELECT VARIABLE_VALUE FROM performance_schema.global_variables WHERE VARIABLE_NAME = ?"

/-- The value of a global variable. A variable that does not exist gives no rows, which is an
error. -/
def get (name : String) : Call String :=
  Call.lookUpText query [.text name]

end MysqlDesk.Variable
