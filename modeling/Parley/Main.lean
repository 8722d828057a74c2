import Parley.Console.Session
import Parley.Conversation.FreshKey

namespace Parley.Program

def entryAt (path : String) : IO FileEntry := do
  if path.isEmpty then return .missing .notFound
  if path.contains '\x00' then return .missing .zeroInName
  try
    return .file (← IO.FS.readBinFile path).toList
  catch e =>
    match e with
    | .inappropriateType _ 21 _ => return .directory
    | .inappropriateType _ _ _ => return .missing .notDirectory
    | .invalidArgument _ _ _ => return .missing .nameTooLong
    | _ => return .missing .notFound

def settingsPaths (chosen : Option String) : List String :=
  (Settings.bundledPaths ++ chosen.toList).flatMap (fun path =>
    path :: Settings.ownFormats.filterMap (fun f => Path.withExtension? path f.extension))

def filesAt (paths : List String) : IO Files := do
  let entries ← paths.mapM (fun path => do return (path, ← entryAt path))
  let place ← IO.currentDir
  return ⟨place.toString, fun path => (entries.lookup path).getD (.missing .notFound)⟩

def promptPaths (settings : Except SettingsError Settings) : List String :=
  match settings with
  | .ok s => s.app.systemPromptFile.toList
  | .error _ => []

def splitVariable (entry : List UInt8) : Option (String × String) :=
  match Text.decodeUtf8 entry with
  | .error _ => none
  | .ok text =>
    match text.toList.span (· != '=') with
    | (name, _ :: value) => some (String.ofList name, String.ofList value)
    | _ => none

def environment : IO Environment := do
  try
    let bytes ← IO.FS.readBinFile "/proc/self/environ"
    return (Console.splitBehind 0 [] bytes.toList).filterMap (fun entry =>
      splitVariable (if entry.getLast? = some 0 then entry.dropLast else entry))
  catch _ => return []

def print (lines : List Printed) : IO Unit := do
  let output ← IO.getStdout
  let errors ← IO.getStderr
  for line in lines do
    match line with
    | .out text => output.putStrLn text
    | .err text => errors.putStrLn text
  output.flush

/-- Reads on until the session or the input ends. `rest` holds bytes that make no line yet. -/
partial def loop (input : IO.FS.Stream) (session : Console.Session) (rest : List UInt8) :
    IO UInt32 := do
  let (line, behind) := rest.span (· != 10)
  if behind.isEmpty then
    let bytes ← input.read 4096
    if !bytes.isEmpty then return ← loop input session (rest ++ bytes.toList)
    if rest.isEmpty then return 0
  let now ← IO.monoNanosNow
  match session.read [.broken] now (line ++ behind.take 1) with
  | none => return 1
  | some (session, printed) =>
    print printed
    match session.exit with
    | some code => return UInt32.ofNat code
    | none => loop input session (behind.drop 1)

end Parley.Program

open Parley in
def main (arguments : List String) : IO UInt32 := do
  let chosen := arguments.head?
  let environment ← Program.environment
  let paths := Program.settingsPaths chosen
  let first ← Program.filesAt paths
  let prompts := Program.promptPaths (Settings.load first environment chosen)
  let files ← Program.filesAt (paths ++ prompts)
  let key := ConversationKey.ofRandom (← IO.getRandomBytes 16).toList
  let (session, printed) := Console.Session.start files environment chosen key
  Program.print printed
  Program.loop (← IO.getStdin) session []
