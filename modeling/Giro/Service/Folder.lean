/-!
# Folders

The files below a folder by the parts of their paths. A path is looked up part
by part, and everything but its last part has to be a folder that is there.
-/

namespace Giro

/-- The texts of the files below a folder. -/
abbrev Folder := List (List String × String)

namespace Folder

/-- A folder without files. -/
def empty : Folder := []

/-- The parts of a path. -/
def parts (path : String) : List String :=
  path.splitOn "/"

/-- The path made of parts. -/
def join (parts : List String) : String :=
  "/".intercalate parts

/-- The folder that holds files with given paths. -/
def ofFiles (files : List (String × String)) : Folder :=
  files.map (fun file => (parts file.1, file.2))

/-- Whether there is a folder at a place. -/
def hasFolder (folder : Folder) (place : List String) : Bool :=
  place.isEmpty ||
    folder.any (fun file => place.isPrefixOf file.1 && place.length < file.1.length)

/-- The place to which the parts of a path lead from another one. -/
def walk (folder : Folder) : List String -> List String -> Option (List String)
  | place, [] => some place
  | place, part :: rest =>
      if !folder.hasFolder place then none
      else if part = "" || part = "." then walk folder place rest
      else if part = ".." then
        if place.isEmpty then none else walk folder place.dropLast rest
      else walk folder (place ++ [part]) rest

/-- The place to which a path leads; one from the root of all folders leads nowhere. -/
def place? (folder : Folder) (path : String) : Option (List String) :=
  if path.startsWith "/" || path.isEmpty then none else folder.walk [] (parts path)

/-- The text of the file at the end of a path. -/
def find? (folder : Folder) (path : String) : Option String :=
  (folder.place? path).bind (fun place => List.lookup place folder)

/-- The place to which a path leads when all folders on the way are made. -/
def settle : List String -> List String -> Option (List String)
  | place, [] => some place
  | place, part :: rest =>
      if part = "" || part = "." then settle place rest
      else if part = ".." then
        if place.isEmpty then none else settle place.dropLast rest
      else settle (place ++ [part]) rest

end Folder
end Giro
