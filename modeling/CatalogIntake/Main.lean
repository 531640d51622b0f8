import CatalogIntake.CommandLine.Program
import CatalogIntake.CommandLine.Reference
import Std.Time.DateTime.Timestamp

/-!
The executable: it looks at what surrounds it, carries out its arguments, and puts what comes of
that onto its outputs and into its directory. It makes no connection to a database; a command that
needs one ends with the error that there is none. Under the name of the documenter it writes the
reference of the commands instead.
-/

namespace CatalogIntake

open CommandLine

namespace Main

def assignment (octets : List UInt8) : Option (String × List UInt8) :=
  let name := octets.takeWhile (· != 0x3d)
  (Text.Utf8.decode name).toOption.map fun text => (text, octets.drop (name.length + 1))

def readEnvironment : IO Environment := do
  let octets ← IO.FS.readBinFile "/proc/self/environ"
  return (octets.toList.splitOn 0).filterMap assignment

def nodeAt (path : String) : IO (Except FileError Folder.Node) := do
  let place := (← IO.currentDir) / path
  if ← place.isDir then return .ok .directory
  try
    return .ok (.file (← IO.FS.readBinFile place).toList)
  catch
    | .inappropriateType .. => return .error .notDirectory
    | _ => return .error .missing

def nearestEnvFile (above : String) : Nat → IO (Option (List UInt8))
  | 0 => return none
  | depth + 1 => do
    match ← nodeAt (above ++ ".env") with
    | .ok (.file octets) => return some octets
    | _ => nearestEnvFile (above ++ "../") depth

def currentInstant : IO Instant := do
  let n := (← Std.Time.Timestamp.now).toNanosecondsSinceUnixEpoch.val
  return ⟨n / 1000000000, (n % 1000000000).toNat⟩

def randomJobId : IO JobId := do
  let n := (← IO.getRandomBytes 16).toList.foldl (fun n b => n * 256 + b.toNat) 0
  let bits := BitVec.ofNat 128 n &&& ~~~(0xf000c000000000000000#128)
  return ⟨bits ||| 0x40008000000000000000#128⟩

def filesOnTheWay (directory : String) : IO Folder := do
  let parts := Folder.components directory
  let paths := (List.range parts.length).map fun i => "/".intercalate (parts.take (i + 1))
  let files ← paths.filterM fun path => do
    match ← nodeAt path with
    | .ok (.file _) => return true
    | _ => return false
  return .ofFiles (files.map fun path => (path, []))

/-- Creates the directories of a folder and writes its files that are not among `old`. -/
def store (mode : IO.FS.Mode) (old folder : Folder) : IO Unit := do
  for place in folder.directories do
    IO.FS.createDirAll (Folder.pathOf place)
  for (place, octets) in folder.files do
    unless old.files.any (·.1 == place) do
      IO.FS.withFile (Folder.pathOf place) mode fun handle => handle.write ⟨octets.toArray⟩

def runImporter (args : List String) : IO UInt32 := do
  let environment ← readEnvironment
  let envFile ← nearestEnvFile "" (← IO.currentDir).components.length
  let node ← match (sourcePath? args environment envFile).bind Path.text? with
    | some path => nodeAt path
    | none => pure (.error .missing)
  let now ← currentInstant
  let around : Surroundings :=
    { environment, envFile, lookup := fun _ => node, peer := none, jobId := ← randomJobId, now }
  let folder ← filesOnTheWay (mergedLogSettings false environment).1.dir
  let finished := carryOut args around folder now.day
  store .append folder finished.folder
  IO.print finished.output
  finished.complaints.forM IO.eprintln
  return finished.exitCode.toUInt32

def runDocumenter (args : List String) : IO UInt32 := do
  let folder ← match documenter.read false args with
    | .ok call => filesOnTheWay (call.own.text "output-dir" "docs")
    | .error _ => pure (.ofFiles [])
  let finish := document args folder (← currentInstant).day
  store .write folder finish.folder
  IO.print finish.output
  return finish.exitCode.toUInt32

def run (args : List String) : IO UInt32 := do
  if (← IO.appPath).fileName == some documenter.name then runDocumenter args else runImporter args

end Main

end CatalogIntake

def main (args : List String) : IO UInt32 := CatalogIntake.Main.run args
