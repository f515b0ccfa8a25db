import FlowTemplate.Command.Run
import FlowTemplate.Log.Line
import FlowTemplate.Log.Logger
import Std.Time.DateTime.Timestamp
/-!
# The program

Gathers what a run finds, runs it, and does what came of it: prints the log, prints what the run
shows, and writes its files. Nothing is decided here.
-/

namespace FlowTemplate.Main

/-- The variables that settings are taken from. -/
def settingNames : List String :=
  let names := (Settings.texts {}).map (·.1)
  names ++ names.map Text.upper

/-- The words of a text, any of which may name a variable. -/
def words (text : String) : List String :=
  (((text.toList.splitBy fun a b => isWordChar a == isWordChar b).map String.ofList).filter
    fun word => word.any isWordChar).eraseDups
where
  isWordChar (c : Char) : Bool := c.isAlphanum || c == '_'

/-- The variables of the environment that have one of these names. -/
def readEnvironment (names : List String) : IO (List (String × String)) :=
  names.filterMapM fun name => return (← IO.getEnv name).map fun text => (name, Text.ofPlain text)

/-- The text of the file of variables; without a readable one there are none. -/
def readEnvFile : IO String := do
  match ← (IO.FS.readBinFile ".env").toBaseIO with
  | .ok data => return (Text.ofBytes? data.toList).getD ""
  | .error _ => return ""

/-- A text as characters; halves of surrogate pairs, which have no bytes, keep their marks. -/
def characters (text : String) : String := (Text.plain? text).getD text

/-- The paths that an argument may hold: all of it, a value behind an equals sign, or one behind the
letter of an option. -/
def pathsIn (argument : String) : List String :=
  let cs := argument.toList
  [argument, String.ofList ((cs.dropWhile (· != '=')).drop 1), String.ofList (cs.drop 2)]

/-- Adds to a folder what lies at each of the places that lead to a path. -/
def look : Folder → List String → IO Folder
  | folder, [] => return folder
  | folder, place :: rest => do
    match ← (IO.FS.readBinFile (characters place)).toBaseIO with
    | .ok data =>
      return { folder with files := folder.files ++ [(Path.names place, data.toList)] }
    | .error (.inappropriateType ..) =>
      look { folder with folders := folder.folders ++ [Path.names place] } rest
    | .error _ => return folder

/-- What lies at the paths that arguments may hold. -/
def readFolder (arguments : List String) : IO Folder :=
  ((arguments.flatMap pathsIn).eraseDups.map Path.onTheWay).foldlM look
    { files := [], folders := [] }

/-- Prints the entries of a log that the settings let through. -/
def printLog (settings : Settings) (entries : List Log.Entry) : IO Unit := do
  for entry in entries do
    let level := (Log.placeOf? entry.level.name).getD 0
    if Log.defaultLevel settings ≤ level then
      let now ← Std.Time.Timestamp.now
      let record : Log.Record := {
        name := "smc", level, message := entry.message, arguments := [],
        created := .int now.toSecondsSinceUnixEpoch.val }
      match record.line Log.lineFormat with
      | .ok line => IO.eprintln (characters line)
      | .error _ => IO.eprintln (characters entry.message)

/-- Does what came of a run. -/
def perform (settings : Settings) (outcome : Command.Outcome) : IO UInt32 := do
  printLog settings outcome.log
  IO.print (characters outcome.stdout)
  IO.eprint (characters outcome.stderr)
  for (path, text) in outcome.written do
    IO.FS.writeFile (characters path) (characters text)
  if let some e := outcome.crash then
    IO.eprintln (characters ("Error: " ++ e.message))
  return outcome.exitCode.toUInt32

end FlowTemplate.Main

open FlowTemplate FlowTemplate.Main in
/-- Runs a command on the files, the environment and the clock of the machine. -/
def main (arguments : List String) : IO UInt32 := do
  let arguments := arguments.map Text.ofPlain
  let envFile ← readEnvFile
  let environment ← readEnvironment (settingNames ++ words envFile)
  match Settings.ofEnvironment environment envFile with
  | .error issues =>
    for issue in issues do
      IO.eprintln (characters ("Error: " ++ issue.message))
    return 1
  | .ok settings =>
    let folder ← readFolder arguments
    let seed := (← IO.getRandomBytes 8).toUInt64LE!
    perform settings (Command.run { folder, settings, stream := Drawing.stream seed } arguments)
