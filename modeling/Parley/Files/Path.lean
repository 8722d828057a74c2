namespace Parley.Path

def isAbsolute (path : String) : Bool := path.toList.head? == some '/'

def parts (path : String) : List String :=
  ((path.toList.splitOn '/').map String.ofList).filter (fun name => name != "" && name != ".")

def absolute (place path : String) : String :=
  if isAbsolute path then path
  else if place.toList.getLast? == some '/' then place ++ path
  else place ++ "/" ++ path

def fileName? (path : String) : Option String :=
  (parts path).getLast?.filter (· != "..")

/-- What stands behind the last point of the file name. A point at its front does not count. -/
def extension? (path : String) : Option String := do
  let name ← fileName? path
  let (back, front) := name.toList.reverse.span (· != '.')
  if front.length ≤ 1 then none else some (String.ofList back.reverse)

def withExtension? (path extension : String) : Option String :=
  (fileName? path).map (fun _ =>
    (if isAbsolute path then "/" else "") ++ "/".intercalate (parts path) ++ "." ++ extension)

def relative : List String → List String → List String
  | b :: place, p :: path =>
    if b = p then relative place path
    else List.replicate (place.length + 1) ".." ++ p :: path
  | place, path => List.replicate place.length ".." ++ path

def seenFrom (place path : String) : String :=
  "/".intercalate (relative (parts place) (parts (absolute place path)))

end Parley.Path
