import Parley.DomainName.FoldTable
import Parley.Text.Lowercase
import Parley.Text.Ranges

namespace Parley.DomainName

open Text

def word? (c : Char) : Option (List Char) := do
  let (first, words) ← (foldedWords.takeWhile (·.1 ≤ c.toNat)).getLast?
  let word ← (words.splitOn " ")[c.toNat - first]?
  some word.toList

def shifted? (c : Char) : Option (List Char) := do
  let (_, _, shift) ← shiftedRuns.find? (fun (first, last, _) => first ≤ c.toNat && c.toNat ≤ last)
  some [Char.ofNat (c.toNat + shift).toNat]

/-- What a character stands for; `none` where no name holds it. A character that the tables do not
know stands for its lower-case form. -/
def fold? (c : Char) : Option (List Char) :=
  if c.toNat < 0x80 then some [c.toLower]
  else if inRanges ignoredRanges c then some []
  else if inRanges refusedRanges c then none
  else if inRanges keptRanges c then some [c]
  else (word? c <|> shifted? c).getD (lowerChar c)

def isFolded (c : Char) : Bool := fold? c == some [c]

end Parley.DomainName
