/-! Path texts: the pieces between their separators, and paths that are put together from names. -/

namespace DirectoryRoutes.Text

/-- The texts between the separators of a path, empty ones included. -/
def components (path : String) : List String :=
  (path.toList.splitOn '/').map String.ofList

/-- The components of a path that are not empty: leading, trailing and doubled separators leave
nothing.
-/
def names (path : String) : List String :=
  (components path).filter (· ≠ "")

/-- The path that leads from the root through names. -/
def rooted (list : List String) : String :=
  if list.isEmpty then "/" else String.join (list.map fun name => "/" ++ name)

end DirectoryRoutes.Text
