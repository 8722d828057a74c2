import Parley.Text.Utf8

namespace Parley.Console

def splitBehind (stop : UInt8) (done : List UInt8) : List UInt8 → List (List UInt8)
  | [] => if done.isEmpty then [] else [done.reverse]
  | b :: bs =>
    if b = stop then (b :: done).reverse :: splitBehind stop [] bs
    else splitBehind stop (b :: done) bs

def splitLines (bytes : List UInt8) : List (List UInt8) := splitBehind 10 [] bytes

def withoutLineEnd (bytes : List UInt8) : List UInt8 :=
  match bytes.reverse with
  | 10 :: 13 :: bs => bs.reverse
  | 10 :: bs => bs.reverse
  | _ => bytes

def lineText (bytes : List UInt8) : Except Text.BadUtf8 String :=
  Text.decodeUtf8 (withoutLineEnd bytes)

end Parley.Console
