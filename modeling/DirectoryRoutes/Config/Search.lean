import DirectoryRoutes.Config.Load

/-! The search for the nearest document, one directory after another. It ends at a directory with a
document in it, or else at the one directory that has no other above it, unless the path of a
document is too long to look for it.
-/

namespace DirectoryRoutes

/-- The directory above a place; the root is above itself. -/
def Place.parent (place : Place) : Place :=
  place.tail

namespace Config

/-- How far a search has come. -/
inductive Search where
  /-- A directory is next. -/
  | goesOn (directory : Place)
  | ended (result : Except LoadError (Option Place))

/-- Looks into the next directory, unless the search has ended. -/
def Search.step (fs : FileSystem) : Search → Search
  | goesOn directory =>
      let document : Place := configName :: directory
      if document.isOverlong then ended (.error (.overlongName document.text))
      else if fs.isPresent document then ended (.ok (some document))
      else if directory.parent = directory then ended (.ok none)
      else goesOn directory.parent
  | ended result => ended result

end Config

end DirectoryRoutes
