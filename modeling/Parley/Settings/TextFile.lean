import Parley.Files.Path
import Parley.Json.Reader
import Parley.Settings.Source
import Parley.Toml.Reader

namespace Parley

namespace Setting

mutual

def ofToml (origin : Origin) : Toml.Value → Setting
  | .string s => .scalar origin (.text s)
  | .integer n => .scalar origin (.integer n)
  | .float x => .scalar origin (.float x)
  | .boolean b => .scalar origin (.boolean b)
  | .moment text => .scalar origin (.text text)
  | .array items => .array origin (ofTomlItems origin items)
  | .table entries => .table origin (ofTomlEntries origin entries)

def ofTomlItems (origin : Origin) : List Toml.Value → List Setting
  | [] => []
  | item :: rest => ofToml origin item :: ofTomlItems origin rest

def ofTomlEntries (origin : Origin) : List (String × Toml.Value) → Settings.Table
  | [] => []
  | (name, value) :: rest => (name, ofToml origin value) :: ofTomlEntries origin rest

end

mutual

/-- A whole number beyond the range of 64 bits with sign becomes a floating point number. -/
def ofJson (origin : Origin) : Json → Setting
  | .null => .scalar origin .nil
  | .bool b => .scalar origin (.boolean b)
  | .int n =>
    .scalar origin (if n < Numeral.signedBound then .integer n else .float (.ofRatio false n.toNat 1))
  | .float x => .scalar origin (.float x)
  | .str s => .scalar origin (.text s)
  | .arr items => .array origin (ofJsonItems origin items)
  | .obj members => .table origin (ofJsonMembers origin members)

def ofJsonItems (origin : Origin) : List Json → List Setting
  | [] => []
  | item :: rest => ofJson origin item :: ofJsonItems origin rest

def ofJsonMembers (origin : Origin) : List (String × Json) → Settings.Table
  | [] => []
  | (name, value) :: rest => (name, ofJson origin value) :: ofJsonMembers origin rest

end

end Setting

namespace Settings

structure Format where
  extension : String
  read : Origin → String → Except SettingsError Table

namespace Format

def toml : Format where
  extension := "toml"
  read origin text :=
    match Toml.read? text with
    | some entries => .ok (Setting.ofTomlEntries origin entries)
    | none => .error .malformed

def json : Format where
  extension := "json"
  read origin text :=
    match Json.read? text with
    | some (.obj members) => .ok (Setting.ofJsonMembers origin members)
    | _ => .error .malformed

end Format

variable (formats : List Format)

/-- The file that a path means: the one it leads to, or one with an extension added. -/
def findFile (files : Files) (path : String) : Except SettingsError (String × Format) :=
  if files.isFile path then
    match formats.find? (fun f => Path.extension? path = some f.extension) with
    | some format => .ok (path, format)
    | none => .error (.unknownFormat (Path.absolute files.workingDirectory path))
  else
    let found := formats.findSome? (fun f =>
      ((Path.withExtension? path f.extension).filter files.isFile).map (fun p => (p, f)))
    match found with
    | some file => .ok file
    | none => .error (.noFile path)

def readFile : FileReader := fun files path => do
  let (path, format) ← findFile formats files path
  match files.readText path with
  | .ok text => format.read (.file (Path.seenFrom files.workingDirectory path)) text
  | .error e => .error (.unreadable e)

end Settings

end Parley
