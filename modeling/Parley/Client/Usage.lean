namespace Parley

structure TokenUsage where
  prompt : UInt64
  completion : UInt64
  total : UInt64
  deriving DecidableEq, Repr

namespace TokenUsage

def zero : TokenUsage := ⟨0, 0, 0⟩

def addPrompt (n : UInt64) (u : TokenUsage) : TokenUsage := { u with prompt := u.prompt + n }

def addCompletion (n : UInt64) (u : TokenUsage) : TokenUsage :=
  { u with completion := u.completion + n }

def addTotal (n : UInt64) (u : TokenUsage) : TokenUsage := { u with total := u.total + n }

def add (u : TokenUsage) (prompt completion : UInt64) : TokenUsage :=
  ((u.addPrompt prompt).addCompletion completion).addTotal (prompt + completion)

end TokenUsage

end Parley
