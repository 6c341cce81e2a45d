/-!
# Paths on a share

A path on a share has backslashes between its parts and is relative to the root of the share.
-/

namespace Depository

namespace SmbPath

/-- The separator of the parts. -/
def separator : Char := '\\'

/-- The path of a path with slashes or backslashes: backslashes between the parts and none at the
ends. -/
def ofPath (path : String) : String :=
  let cs := path.toList.map fun c => if c = '/' then separator else c
  String.ofList ((cs.dropWhile (· == separator)).reverse.dropWhile (· == separator)).reverse

end SmbPath

end Depository
