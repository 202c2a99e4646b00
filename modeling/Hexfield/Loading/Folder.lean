namespace Hexfield

/-!
Files held in memory, which are found by their paths as those of a folder on a disk are.

A path is followed step by step from the folder itself.  Each step but the last has to lead to a
folder, also when the next step goes back up; no path leads out of the folder.
-/

/-- Texts with the steps that lead to them. -/
structure Folder where
  files : List (List String × String)

namespace Folder

/-- The steps of a path.  Empty ones and single dots stay where they are. -/
def steps (path : String) : List String :=
  (path.splitOn "/").filter fun step => step != "" && step != "."

/-- The folder of some texts with their paths. -/
def ofFiles (files : List (String × String)) : Folder :=
  ⟨files.map fun (path, content) => (steps path, content)⟩

/-- Some file lies below a place. -/
def isFolder (folder : Folder) (place : List String) : Bool :=
  folder.files.any fun file => place.isPrefixOf file.1 && place.length < file.1.length

/-- Where steps lead from a place. -/
def follow (folder : Folder) : (place steps : List String) → Option (List String)
  | place, [] => some place
  | place, step :: steps =>
      if !folder.isFolder place then none
      else if step != ".." then folder.follow (place ++ [step]) steps
      else if place.isEmpty then none
      else folder.follow place.dropLast steps

def read? (folder : Folder) (path : String) : Option String :=
  if path.startsWith "/" then none
  else do
    let place ← folder.follow [] (steps path)
    folder.files.lookup place

end Folder

end Hexfield
