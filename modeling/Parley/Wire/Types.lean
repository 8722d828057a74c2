import Parley.Conversation.Compose
import Parley.Json.Basic
import Parley.Model.LanguageModel
import Parley.Wire.Codec

namespace Parley

def Role.toJson (r : Role) : Json := .str r.name

def Role.ofJson : Wire.Decoder Role := Wire.decodeName Role.name Role.all

def Message.toJson (m : Message) : Json :=
  Json.object [("role", m.role.toJson), ("content", .str m.content)]

def Message.ofJson : Wire.Decoder Message :=
  Wire.decodePair "Message" ⟨"role", Role.ofJson⟩ ⟨"content", Wire.decodeString⟩ Message.mk

def ConversationKey.toJson (k : ConversationKey) : Json := .str k.text

def ConversationKey.ofJson : Wire.Decoder ConversationKey := fun j =>
  (Wire.decodeString j).map ConversationKey.mk

def Attachment.toJson (a : Attachment) : Json :=
  Json.object [("name", .str a.name), ("content", .str a.content)]

def Attachment.ofJson : Wire.Decoder Attachment :=
  Wire.decodePair "Attachment" ⟨"name", Wire.decodeString⟩ ⟨"content", Wire.decodeString⟩
    Attachment.mk

def Provider.toJson (p : Provider) : Json := .str p.tag

def Provider.ofJson : Wire.Decoder Provider := Wire.decodeName Provider.tag Provider.all

def LanguageModel.toJson (m : LanguageModel) : Json :=
  Json.object [("provider", m.provider.toJson), ("model_name", .str m.name)]

def LanguageModel.ofJson : Wire.Decoder LanguageModel :=
  Wire.decodePair "LanguageModel" ⟨"provider", Provider.ofJson⟩
    ⟨"model_name", Wire.decodeString⟩ LanguageModel.mk

end Parley
