import PushDelivery.Json.Basic

/-!
# Files of settings

Settings lie in files of one directory. A file is asked for by a name, which may leave out the
ending and may go through other directories. It is known by its path from the directory of the
service.

## Main definitions

* `Files.find?`: the file that a name stands for.
-/

namespace PushDelivery.Settings

/-- The values of files by their names, without the ending that each file has. -/
abbrev Files := List (String × Json)

namespace Files

/-- The names of directories and of a file, one inside the other. -/
abbrev Path := List (List Char)

/-- The ending of files. -/
def ending : List Char := ".json".toList

/-- The parts of a path; those that stay in the same directory are left out. -/
def parts (path : List Char) : Path := (path.splitOn '/').filter fun p => p ≠ [] ∧ p ≠ ['.']

/-- Where the file of a name lies. -/
def pathOf (name : String) : Path := parts ("config/".toList ++ name.toList ++ ending)

/-- Whether something lies in a directory. -/
def isDirectory (files : Files) (path : Path) : Bool :=
  files.any fun f => path.isPrefixOf (pathOf f.1) && path ≠ pathOf f.1

/-- The path without steps up, if all directories on the way are there. `above` is where it has led
so far, the last part first. -/
def resolve? (files : Files) (above : Path) : Path → Option Path
  | [] => some above.reverse
  | part :: rest =>
    if part = "..".toList then
      match above with
      | [] => none
      | _ :: above => resolve? files above rest
    else if rest = [] ∨ isDirectory files (part :: above).reverse then
      resolve? files (part :: above) rest
    else none

/-- The value of the file at a path, with the path as a text. -/
def read? (files : Files) (path : Path) : Option (String × Json) := do
  let target ← resolve? files [] path
  let file ← files.find? fun f => pathOf f.1 = target
  some ("/".intercalate (path.map String.ofList), file.2)

/-- Whether a path ends with the name of a file. -/
def namesFile (path : List Char) : Bool :=
  match (path.splitOn '/').getLast? with
  | some last => last ≠ [] && last ≠ ['.'] && last ≠ "..".toList
  | none => false

/-- The file that a name stands for, and its path. It has exactly that name if there is one, which
then needs the ending behind other characters, or else the name with the ending added. -/
def find? (files : Files) (name : String) : Option (String × Json) :=
  let text := "config/".toList ++ name.toList
  let path := parts text
  match path.getLast? with
  | none => none
  | some last =>
    if last = "..".toList then none
    else
      match (if namesFile text then read? files path else none) with
      | some file => if last = ending then none else some file
      | none => read? files (path.dropLast ++ [last ++ ending])

end Files

end PushDelivery.Settings
