namespace Parley.Text

/-- The first byte sequence that is no character. It has no length when the bytes end inside it. -/
structure BadUtf8 where
  start : Nat
  length : Option Nat
  deriving DecidableEq, Repr

def BadUtf8.text (e : BadUtf8) : String :=
  match e.length with
  | some n => s!"invalid utf-8 sequence of {n} bytes from index {e.start}"
  | none => s!"incomplete utf-8 byte sequence from index {e.start}"

def isTail (b : UInt8) : Bool := 0x80 ≤ b && b ≤ 0xbf

def secondFits (a b : UInt8) : Bool :=
  if a = 0xe0 then 0xa0 ≤ b && b ≤ 0xbf
  else if a = 0xed then 0x80 ≤ b && b ≤ 0x9f
  else if a = 0xf0 then 0x90 ≤ b && b ≤ 0xbf
  else if a = 0xf4 then 0x80 ≤ b && b ≤ 0x8f
  else isTail b

def join2 (a b : UInt8) : Char :=
  Char.ofNat ((a.toNat - 0xc0) * 64 + (b.toNat - 0x80))

def join3 (a b c : UInt8) : Char :=
  Char.ofNat (((a.toNat - 0xe0) * 64 + (b.toNat - 0x80)) * 64 + (c.toNat - 0x80))

def join4 (a b c d : UInt8) : Char :=
  Char.ofNat ((((a.toNat - 0xf0) * 64 + (b.toNat - 0x80)) * 64 + (c.toNat - 0x80)) * 64 +
    (d.toNat - 0x80))

/-- `start` is the index of the first byte, `done` the characters before it in reverse. -/
def decodeFrom (start : Nat) (done : List Char) : List UInt8 → Except BadUtf8 (List Char)
  | [] => .ok done.reverse
  | a :: rest =>
    if a < 0x80 then decodeFrom (start + 1) (Char.ofNat a.toNat :: done) rest
    else if a < 0xc2 || 0xf4 < a then .error ⟨start, some 1⟩
    else if a < 0xe0 then
      match rest with
      | [] => .error ⟨start, none⟩
      | b :: rest =>
        if isTail b then decodeFrom (start + 2) (join2 a b :: done) rest
        else .error ⟨start, some 1⟩
    else if a < 0xf0 then
      match rest with
      | [] => .error ⟨start, none⟩
      | [b] => .error ⟨start, if secondFits a b then none else some 1⟩
      | b :: c :: rest =>
        if !secondFits a b then .error ⟨start, some 1⟩
        else if isTail c then decodeFrom (start + 3) (join3 a b c :: done) rest
        else .error ⟨start, some 2⟩
    else
      match rest with
      | [] => .error ⟨start, none⟩
      | [b] => .error ⟨start, if secondFits a b then none else some 1⟩
      | [b, c] =>
        .error ⟨start, if !secondFits a b then some 1 else if isTail c then none else some 2⟩
      | b :: c :: d :: rest =>
        if !secondFits a b then .error ⟨start, some 1⟩
        else if !isTail c then .error ⟨start, some 2⟩
        else if isTail d then decodeFrom (start + 4) (join4 a b c d :: done) rest
        else .error ⟨start, some 3⟩

def decodeUtf8 (bytes : List UInt8) : Except BadUtf8 String :=
  (decodeFrom 0 [] bytes).map String.ofList

end Parley.Text
