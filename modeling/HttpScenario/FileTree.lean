import HttpScenario.Files

/-! Files kept in memory. A directory is there if it was made, or if something lies in it. -/

namespace HttpScenario

structure FileTree where
  /-- The texts of files by the names that lead to them; none for bytes that are no text. -/
  files : List (List String × Option String)
  directories : List (List String)

namespace FileTree

def empty : FileTree := ⟨[], []⟩

def follow (place : List String) : List String → List String
  | [] => place
  | part :: rest => follow (if part = ".." then place.dropLast else place ++ [part]) rest

def place (path : String) : List String := follow [] (FilePath.parts path)

def isFile (tree : FileTree) (place : List String) : Bool :=
  tree.files.any fun entry => entry.1 == place

def known (tree : FileTree) : List (List String) := tree.files.map Prod.fst ++ tree.directories

def isDirectory (tree : FileTree) (place : List String) : Bool :=
  place.isEmpty || tree.directories.contains place ||
    tree.known.any fun other => place.isPrefixOf other && place.length < other.length

def reach (tree : FileTree) (place : List String) : List String → Except FileError (List String)
  | [] => .ok place
  | part :: rest =>
    if tree.isDirectory place then reach tree (follow place [part]) rest
    else .error (if tree.isFile place then .notDirectory else .notFound)

/-- What stands at a path from the top of the tree, or why nothing does. A path that ends in a slash
is one of a directory. -/
def find (tree : FileTree) (path : String) : Except FileError FileKind :=
  if path = "" ∨ path.startsWith "/" then .error .notFound
  else do
    let place ← tree.reach [] (FilePath.parts path)
    if tree.isFile place then
      if path.endsWith "/" ∨ path.endsWith "/." then throw .notDirectory else return .file
    else if tree.isDirectory place then return .directory
    else throw .notFound

def kind? (tree : FileTree) (path : String) : Option FileKind := (tree.find path).toOption

def read (tree : FileTree) (path : String) : Except FileError String := do
  match ← tree.find path with
  | .directory => throw .isDirectory
  | .file => ((tree.files.lookup (place path)).join).elim (.error .notText) .ok

def names (tree : FileTree) (place : List String) : List String :=
  (tree.known.filterMap fun other =>
    if place.isPrefixOf other then other[place.length]? else none).eraseDups

def list (tree : FileTree) (path : String) : Except FileError (List String) := do
  match ← tree.find path with
  | .file => throw .notDirectory
  | .directory => return tree.names (place path)

def makeDirectory (tree : FileTree) (path : String) : Except FileError FileTree :=
  match tree.find path with
  | .ok .directory => .ok tree
  | .ok .file => .error (.other "File exists")
  | .error .notFound =>
    if path = "" then .ok tree
    else .ok { tree with directories := tree.directories ++ [place path] }
  | .error cause => .error cause

def write (tree : FileTree) (path text : String) : Except FileError FileTree :=
  match tree.kind? path with
  | some .directory => .error .isDirectory
  | some .file | none =>
    let others := tree.files.filter fun entry => !(entry.1 == place path)
    if tree.isDirectory (place path).dropLast then
      .ok { tree with files := others ++ [(place path, some text)] }
    else .error .notFound

/-- The tree with a file, or with an empty directory if the path ends in a slash. -/
def add (tree : FileTree) (path : String) (content : Option String) : FileTree :=
  if path.endsWith "/" then { tree with directories := tree.directories ++ [place path] }
  else { tree with files := tree.files ++ [(place path, content)] }

def step (change : FileTree → Except FileError FileTree) (tree : FileTree) :
    Except FileError Unit × FileTree :=
  match change tree with
  | .ok changed => (.ok (), changed)
  | .error error => (.error error, tree)

def access {m : Type → Type} (run : {α : Type} → (FileTree → α × FileTree) → m α) : Files m :=
  { kind? := fun path => run fun tree => (tree.kind? path, tree)
    read := fun path => run fun tree => (tree.read path, tree)
    list := fun path => run fun tree => (tree.list path, tree)
    makeDirectory := fun path => run (step fun tree => tree.makeDirectory path)
    write := fun path text => run (step fun tree => tree.write path text) }

end FileTree

end HttpScenario
