/-! Texts of paths: the names between the slashes, and the directories on the way to the last name. -/
namespace Telemetry.Path

def isAbsolute (path : String) : Bool :=
  path.toList.head? = some '/'

/-- A path with a slash at its end can only be a directory. -/
def endsInSlash (path : String) : Bool :=
  path.toList.getLast? = some '/'

/-- The names between the slashes of a path, dots included. -/
def names (path : String) : List String :=
  (path.splitOn "/").filter (· ≠ "")

/-- Names that stand for a directory which is there anyway. -/
def isDots (name : String) : Bool :=
  name == "." || name == ".."

/-- A segment that leads nowhere: nothing between two slashes, or a single dot. -/
def isIdle (segment : String) : Bool :=
  segment == "" || segment == "."

/-- The path up to each segment that leads somewhere; segments and results with the last one first. -/
def stagesOf : List String → List String
  | [] => []
  | segment :: above =>
    if isIdle segment then stagesOf above
    else "/".intercalate (segment :: above).reverse :: stagesOf above

/-- A path and the directories on the way to it, innermost first, without what leads nowhere at the
end of each. -/
def stages (path : String) : List String :=
  stagesOf (path.splitOn "/").reverse

/-- The directories on the way to what a path names. -/
def directories (path : String) : List String :=
  (stages path).drop 1

end Telemetry.Path
