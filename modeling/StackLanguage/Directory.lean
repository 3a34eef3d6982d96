namespace StackLanguage

/-! Text files by their paths relative to one directory, and paths in the form in which
they are looked up and shown. -/

namespace FilePath

def parts (path : List Char) : List (List Char) :=
  (go [] path).filter fun part => part ≠ [] ∧ part ≠ ['.']
where
  go (read : List Char) : List Char → List (List Char)
    | [] => [read.reverse]
    | '/' :: rest => read.reverse :: go [] rest
    | character :: rest => go (character :: read) rest

def root : List Char → List Char
  | '/' :: '/' :: '/' :: _ => ['/']
  | '/' :: '/' :: _ => ['/', '/']
  | '/' :: _ => ['/']
  | _ => []

def isAbsolute (path : List Char) : Bool := path.head? = some '/'

def normal (path : String) : String :=
  let characters := path.toList
  let text := root characters ++ ['/'].intercalate (parts characters)
  if text = [] then "." else String.ofList text

def inside (directory path : String) : String :=
  if isAbsolute path.toList then normal path else normal (directory ++ "/" ++ path)

end FilePath

structure Directory where
  files : List (String × String)

namespace Directory

def fileParts (directory : Directory) : List (List (List Char)) :=
  directory.files.map fun file => FilePath.parts file.1.toList

def hasDirectory (directory : Directory) (place : List (List Char)) : Bool :=
  place = [] || directory.fileParts.any fun file =>
    place.isPrefixOf file && decide (place.length < file.length)

/-- The place that further parts lead to from a directory; two points lead to the
directory outside, of which nothing is known above the first one. -/
def walk? (directory : Directory) : (place : List (List Char)) → List (List Char) →
    Option (List (List Char))
  | place, [] => some place
  | place, part :: rest =>
      if directory.hasDirectory place then
        if part = ['.', '.'] then
          if place = [] then none else walk? directory place.dropLast rest
        else walk? directory (place ++ [part]) rest
      else none

/-- The text of the file that a path leads to. A path under which a file is kept leads to
that file, any other one is followed from the directory. -/
def read? (directory : Directory) (path : String) : Option String :=
  directory.files.lookup path <|> do
    let characters := path.toList
    if FilePath.isAbsolute characters then none
    else
      let place ← directory.walk? [] (FilePath.parts characters)
      let file ← directory.files.find? fun file =>
        decide (FilePath.parts file.1.toList = place)
      pure file.2

end Directory

end StackLanguage
