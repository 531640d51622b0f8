import CatalogIntake.Path

namespace CatalogIntake

inductive FileError
  | missing
  | notDirectory
  | isDirectory
  | nameTooLong
  | nulInName
  deriving DecidableEq, Repr

def FileError.text : FileError → String
  | .missing => "No such file or directory (os error 2)"
  | .notDirectory => "Not a directory (os error 20)"
  | .isDirectory => "Is a directory (os error 21)"
  | .nameTooLong => "File name too long (os error 36)"
  | .nulInName => "file name contained an unexpected NUL byte"

structure Folder where
  files : List (List String × List UInt8)
  directories : List (List String)

namespace Folder

inductive Node
  | file (octets : List UInt8)
  | directory
  deriving DecidableEq, Repr

def components (path : String) : List String :=
  (path.toList.splitOn '/').map String.ofList

def names (path : String) : List String := (components path).filter (· != "")

def root : String := "/"

def isAbsolute (path : String) : Bool := path.toList.head? = some '/'

def placeOf (path : String) : List String :=
  if isAbsolute path then root :: names path else names path

def pathOf : List String → String
  | [] => "."
  | name :: rest =>
    if name = root then root ++ "/".intercalate rest else "/".intercalate (name :: rest)

def ofFiles (files : List (String × List UInt8)) : Folder :=
  ⟨files.map fun (path, octets) => (placeOf path, octets), []⟩

def isDirectory (folder : Folder) (place : List String) : Bool :=
  folder.files.any (fun f => place.isPrefixOf f.1 && place.length < f.1.length)
    || folder.directories.any (place.isPrefixOf ·) || place.isEmpty || place == [root]

def node? (folder : Folder) (place : List String) : Option Node :=
  match folder.files.find? (·.1 == place) with
  | some (_, octets) => some (.file octets)
  | none => if folder.isDirectory place then some .directory else none

def longestName : Nat := 255

/-- Where the walk stands: at a place in the directory, or `depth` levels above it. -/
inductive Standing
  | inside (place : List String)
  | above (depth : Nat)

def Standing.up : Standing → Standing
  | inside [] => above 1
  | inside place => inside (if place = [root] then place else place.dropLast)
  | above depth => above (depth + 1)

def walk (folder : Folder) (standing : Standing) : List String → Except FileError Node
  | [] =>
    match standing with
    | .above _ => .ok .directory
    | .inside place =>
      match folder.node? place with
      | some node => .ok node
      | none => .error .missing
  | name :: rest =>
    if name.utf8ByteSize > longestName then .error .nameTooLong
    else if name = "" || name = "." then folder.walk standing rest
    else if name = ".." then folder.walk standing.up rest
    else match standing with
      | .above _ => .error .missing
      | .inside place =>
        match folder.node? (place ++ [name]) with
        | none => .error .missing
        | some .directory => folder.walk (.inside (place ++ [name])) rest
        | some (.file octets) => if rest.isEmpty then .ok (.file octets) else .error .notDirectory

def origin (path : String) : Standing :=
  if isAbsolute path then .inside [root] else .inside []

def lookup (folder : Folder) (path : String) : Except FileError Node :=
  if path.toList.any (·.toNat == 0) then .error .nulInName
  else if path.isEmpty then .error .missing
  else folder.walk (origin path) (components path)

/-- No path leads on that is not a text. -/
def find (folder : Folder) (path : Path) : Except FileError Node :=
  match path.text? with
  | some text => folder.lookup text
  | none => .error .missing

def hasDirectory (folder : Folder) (path : String) : Bool :=
  match folder.lookup path with
  | .ok .directory => true
  | _ => false

def join (base path : String) : String :=
  if isAbsolute path || base.isEmpty then path
  else if base.toList.getLast? = some '/' then base ++ path
  else base ++ "/" ++ path

def createAlong (folder : Folder) (standing : Standing) :
    List String → Except FileError (Folder × Standing)
  | [] => .ok (folder, standing)
  | name :: rest =>
    if name.utf8ByteSize > longestName then .error .nameTooLong
    else if name = "" || name = "." then createAlong folder standing rest
    else if name = ".." then createAlong folder standing.up rest
    else match standing with
      | .above _ => .error .missing
      | .inside place =>
        let place := place ++ [name]
        match folder.node? place with
        | some (.file _) => .error .notDirectory
        | some .directory => createAlong folder (.inside place) rest
        | none =>
          let directories := folder.directories ++ [place]
          createAlong { folder with directories } (.inside place) rest

def createDirectory (folder : Folder) (path : String) : Except FileError (Folder × Standing) :=
  if path.toList.any (·.toNat == 0) then .error .nulInName
  else folder.createAlong (origin path) (components path)

def write (folder : Folder) (directory : Standing) (name : String) (octets : List UInt8) :
    Except FileError Folder :=
  match directory with
  | .above _ => .ok folder
  | .inside place =>
    let place := place ++ [name]
    if folder.isDirectory place then .error .isDirectory
    else .ok { folder with files := folder.files.filter (·.1 != place) ++ [(place, octets)] }

def list (folder : Folder) (directory : Standing) : List String :=
  match directory with
  | .above _ => []
  | .inside place =>
    (folder.files.filterMap fun (p, _) =>
      if p.dropLast = place then p.getLast? else none).mergeSort fun a b => decide (a ≤ b)

end Folder

end CatalogIntake
