import Parley.Conversation.Message

namespace Parley

def hexByte (b : UInt8) : List Char :=
  let digit (n : Nat) : Char := (Nat.toDigits 16 n).headD '0'
  [digit (b.toNat / 16), digit (b.toNat % 16)]

def markRandom (bytes : List UInt8) : List UInt8 :=
  (bytes.modify 6 (fun b => (b &&& 0x0f) ||| 0x40)).modify 8 (fun b => (b &&& 0x3f) ||| 0x80)

/-- The key made of sixteen random bytes, in groups of 4, 2, 2, 2 and 6. -/
def ConversationKey.ofRandom (bytes : List UInt8) : ConversationKey :=
  let hex := (markRandom bytes).map hexByte
  let group (start count : Nat) : List Char := ((hex.drop start).take count).flatten
  let groups := [group 0 4, group 4 2, group 6 2, group 8 2, group 10 6]
  ⟨"-".intercalate (groups.map String.ofList)⟩

end Parley
