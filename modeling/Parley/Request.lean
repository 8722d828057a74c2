import Parley.Conversation.Compose
import Parley.Duration
import Parley.Failure
import Parley.Model.LanguageModel
import Parley.Text.Quoted

namespace Parley

abbrev ClientId := Nat

structure Request where
  key : ConversationKey
  input : String
  attachments : List Attachment
  model : LanguageModel
  client : ClientId
  /-- The time limit in seconds, if it is not the usual one. -/
  timeout : Option Nat
  elapsed : Option Duration
  deriving DecidableEq, Repr

def defaultTimeout : Nat := 60

namespace Request

def effectiveTimeout (r : Request) : Nat := r.timeout.getD defaultTimeout

def text (r : Request) : String :=
  let option (shown : Option String) : String :=
    match shown with
    | some s => s!"Some({s})"
    | none => "None"
  let field (name value : String) : String := name ++ ": " ++ value
  let record (name : String) (fields : List String) : String :=
    name ++ " \x7b " ++ ", ".intercalate fields ++ " \x7d"
  record "RequestContext" [
    field "key" s!"ConversationKey({Text.quoted r.key.text})",
    field "user_input" (Text.quoted r.input),
    field "attachments" (toString r.attachments.length),
    field "model" (record "LanguageModel" [
      field "provider" r.model.provider.label,
      field "model_name" (Text.quoted r.model.name)]),
    field "timeout_secs" (option (r.timeout.map toString)),
    field "elapsed" (option (r.elapsed.map Duration.text))]

end Request

structure Reply where
  message : Message
  elapsed : Duration
  deriving DecidableEq, Repr

inductive Outcome
  | generated (reply : Reply)
  | failed (error : PromptError)
  /-- Nothing came of it: the submission was a stop, or was itself stopped. -/
  | skipped
  deriving DecidableEq, Repr

namespace Outcome

def reply? : Outcome → Option Reply
  | generated reply => some reply
  | _ => none

def error? : Outcome → Option PromptError
  | failed error => some error
  | _ => none

def isSkipped : Outcome → Bool
  | skipped => true
  | _ => false

end Outcome

structure Completion where
  request : Request
  outcome : Outcome
  deriving DecidableEq, Repr

end Parley
