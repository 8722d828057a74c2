import Parley.Model.Provider

namespace Parley

inductive ModelError
  | request (message : String)
  | invalidRequest (message : String)
  | emptyResponse
  | aborted (message : String)
  deriving DecidableEq, Repr

def ModelError.text : ModelError → String
  | .request message => message
  | .invalidRequest message => s!"Invalid request: {message}"
  | .emptyResponse => "Model returned no content"
  | .aborted message => s!"Model call aborted: {message}"

inductive CallFailure
  | model (error : ModelError)
  | timeout (seconds : Nat)
  | cancelled
  deriving DecidableEq, Repr

def CallFailure.text : CallFailure → String
  | .model error => error.text
  | .timeout seconds => s!"deadline of {seconds}s elapsed"
  | .cancelled => "interrupted"

inductive PromptError
  | modelNotActive (message : String)
  | providerUnavailable (message : String)
  | timeout (seconds : Nat)
  | cancelled
  deriving DecidableEq, Repr

namespace PromptError

def text : PromptError → String
  | modelNotActive message => message
  | providerUnavailable message => s!"Provider unavailable: {message}"
  | timeout seconds => s!"Model call timed out after {seconds}s"
  | cancelled => "Cancelled"

/-- Whoever cancels takes the user message back, so a cancelled call does not. -/
def rollsBack : PromptError → Bool
  | cancelled => false
  | _ => true

def isReportable : PromptError → Bool
  | cancelled => false
  | _ => true

end PromptError

def janModelNotActive : String :=
  "Selected Jan model is not active. Download and make it active or add API Key in Jan settings."

def inactiveModelText : Provider → String
  | .jan => janModelNotActive
  | provider => s!"Selected {provider.name} model is not active."

def workerStoppedText : String := "Prompt worker stopped before resolving the request"

/-- The error that the caller sees. It depends on the failure and on the provider only. -/
def classify (failure : CallFailure) (provider : Provider) : PromptError :=
  match failure with
  | .timeout seconds => .timeout seconds
  | .cancelled => .cancelled
  | .model error =>
    if provider.reportsInactiveModel then .modelNotActive (inactiveModelText provider)
    else .providerUnavailable error.text

end Parley
