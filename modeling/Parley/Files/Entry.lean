import Parley.Text.Utf8

namespace Parley

inductive FileError
  | notFound
  | isDirectory
  | notDirectory
  | nameTooLong
  | zeroInName
  | notText
  deriving DecidableEq

def FileError.text : FileError → String
  | notFound => "No such file or directory (os error 2)"
  | isDirectory => "Is a directory (os error 21)"
  | notDirectory => "Not a directory (os error 20)"
  | nameTooLong => "File name too long (os error 36)"
  | zeroInName => "file name contained an unexpected NUL byte"
  | notText => "stream did not contain valid UTF-8"

inductive FileEntry
  | file (bytes : List UInt8)
  | directory
  | missing (error : FileError)

structure Files where
  workingDirectory : String
  entry : String → FileEntry

namespace Files

def exists? (files : Files) (path : String) : Bool :=
  match files.entry path with
  | .missing _ => false
  | _ => true

def isFile (files : Files) (path : String) : Bool :=
  match files.entry path with
  | .file _ => true
  | _ => false

def readText (files : Files) (path : String) : Except FileError String :=
  match files.entry path with
  | .file bytes => (Text.decodeUtf8 bytes).mapError (fun _ => .notText)
  | .directory => .error .isDirectory
  | .missing e => .error e

end Files

end Parley
