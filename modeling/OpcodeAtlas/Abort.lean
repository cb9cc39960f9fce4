import OpcodeAtlas.Failure
import OpcodeAtlas.Files.Tree
import OpcodeAtlas.Yaml.Fault

/-!
# Aborts

Most of what goes wrong is a verdict on a page, a directory or a settings file, and is reported as
a failure. What remains ends any work in which it arises (`Abort`), because no part of the library
answers for it. `WorkError` is what work that can end in both ways ends with.
-/

set_option autoImplicit false

namespace OpcodeAtlas

/-- What ends any work in which it arises. -/
inductive Abort where
  /-- A path that cannot be used. -/
  | path (f : PathFault)
  /-- A path of which it cannot be told whether there is a file. -/
  | file (e : FileError)
  /-- A scalar without a value of its kind, in a header or in a settings file. -/
  | scalar (f : Yaml.ScalarFault)
  deriving DecidableEq, Repr

/-- The wording of an abort. -/
def Abort.message : Abort → String
  | .path f => f.message
  | .file e => e.message
  | .scalar f => f.message

/-- Why some work has no result. -/
inductive WorkError where
  | failure (f : Failure)
  | abort (a : Abort)
  deriving DecidableEq, Repr

end OpcodeAtlas
