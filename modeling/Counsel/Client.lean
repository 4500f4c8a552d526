import Counsel.Dialogue.Reply
import Counsel.Dialogue.Request
import Counsel.Flow.Basic
import Counsel.Log.Note
import Counsel.Text.Shown

/-!
The client of the dialogue service: the addresses it uses, what it notes, and what a request comes
to that never reaches a service.
-/

namespace Counsel.Client

/-- The scheme of an address in small letters, and what follows its colon. -/
def splitScheme? (url : String) : Option (String × List Char) :=
  match Text.splitOnce [':'] url.toList with
  | some (scheme, rest) =>
      let letters := scheme.all fun c => c.isAlphanum || c = '+' || c = '-' || c = '.'
      if letters ∧ (scheme.head?.map Char.isAlpha).getD false then
        some (Text.lowerAscii (.ofList scheme), rest)
      else none
  | none => none

/-- What keeps a request from being answered where nobody listens: an address that is none, one of
another kind than the web's, or nobody at it. -/
def unreachable (url : String) : String :=
  match splitScheme? url with
  | none => "builder error"
  | some (scheme, rest) =>
      if scheme = "http" ∨ scheme = "https" then
        if (rest.dropWhile fun c => c = '/' || c = '\\').isEmpty then "builder error"
        else "error sending request for url (" ++ url ++ ")"
      else "builder error for url (" ++ url ++ ")"

/-- The address of the service without the slashes it ends with. -/
def normaliseBase (base : String) : String := Text.dropTrailing '/' base

/-- The outcome of a dialogue request where nobody listens. -/
def failedExchange (base : String) : Dialogue.Outcome :=
  .error (.transport (unreachable (base ++ "/dialogue")))

def exchangeNotes (r : Dialogue.Request) : List Log.Note :=
  [⟨.debug, .client, "POST /dialogue session=" ++ r.sessionId ++ " tool=" ++
    Text.shownOption r.tool ++ " history=" ++ toString r.history.length ++ " opener=" ++
    (if r.isOpener then "true" else "false")⟩]

def flowNotes (base : String) : List Log.Note :=
  [⟨.debug, .client, "Making POST request to: " ++ base ++ "/flow/next"⟩]

end Counsel.Client
