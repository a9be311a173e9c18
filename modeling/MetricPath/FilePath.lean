import MetricPath.Text.Split

/-!
# File paths

Paths are texts with slashes between their parts.  Slashes at the end and repeated ones do not
count, and neither do parts that are a single dot, unless such a part is the first.
-/

namespace MetricPath.FilePath

/-- A path, latest character first, without slashes and single dots at its end. -/
def dropEnding : List Char → List Char
  | '/' :: cs =>
    match dropEnding cs with
    | [] => ['/']
    | cs => cs
  | '.' :: '/' :: cs =>
    match dropEnding cs with
    | [] => ['/']
    | cs => cs
  | cs => cs

/-- The directory of a path; that of a single part is empty. -/
def directory (path : String) : String :=
  let trimmed := dropEnding path.toList.reverse
  let rest := trimmed.dropWhile (· ≠ '/')
  String.ofList (dropEnding rest).reverse

/-- A path seen from a directory. -/
def join (base path : String) : String :=
  if path.toList.head? = some '/' || base = "" then path
  else if base.toList.getLast? = some '/' then base ++ path
  else base ++ "/" ++ path

end MetricPath.FilePath
