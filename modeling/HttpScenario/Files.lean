/-! What is done with files, in the monad in which it takes place, and the parts of paths. -/

namespace HttpScenario

inductive FileError
  | notFound
  | notDirectory
  | isDirectory
  | notText
  | other (message : String)
deriving DecidableEq

def FileError.message : FileError → String
  | notFound => "No such file or directory"
  | notDirectory => "Not a directory"
  | isDirectory => "Is a directory"
  | notText => "stream did not contain valid UTF-8"
  | other message => message

inductive FileKind
  | file
  | directory
deriving DecidableEq

structure Files (m : Type → Type) where
  kind? : String → m (Option FileKind)
  read : String → m (Except FileError String)
  list : String → m (Except FileError (List String))
  makeDirectory : String → m (Except FileError Unit)
  write : String → String → m (Except FileError Unit)

namespace FilePath

def join (directory name : String) : String :=
  if directory = "" ∨ directory.endsWith "/" then directory ++ name else directory ++ "/" ++ name

def parts (path : String) : List String :=
  ((path.toList.splitOn '/').map String.ofList).filter fun part => part ≠ "" ∧ part ≠ "."

def extensionOf? (name : List Char) : Option (List Char) :=
  let behind := name.reverse.takeWhile (· ≠ '.')
  if name.length ≤ behind.length + 1 then none else some behind.reverse

def extension? (path : String) : Option String :=
  match (parts path).getLast? with
  | none | some ".." => none
  | some name => (extensionOf? name.toList).map String.ofList

end FilePath

end HttpScenario
