import Parley.Model.Provider
import Parley.Text.Lowercase

namespace Parley

structure LanguageModel where
  provider : Provider
  name : String
  deriving DecidableEq, Repr

namespace LanguageModel

def display (m : LanguageModel) : String := s!"{m.provider.name}:{m.name}"

/-- The o1 family of one provider refuses system messages. -/
def acceptsSystem (m : LanguageModel) : Bool :=
  !(m.provider = .openai && (Text.lowercase m.name).startsWith "o1")

end LanguageModel

end Parley
