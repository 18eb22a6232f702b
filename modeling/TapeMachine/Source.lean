import TapeMachine.Files.Fault
import TapeMachine.Log.Logger
import TapeMachine.Network.Body
import TapeMachine.Network.Status
import TapeMachine.Network.Url

/-!
Where programs come from: a file, or a resource that is fetched. A fetched program is complete or is
not given out at all.
-/

namespace TapeMachine

/-- The greatest number of bytes that is fetched. -/
def maxRemoteSize : Nat := 0x4000000

/-- A response to a request. -/
structure Response where
  status : Int
  body : Body := {}
  deriving Inhabited

/-- Why a request got no response. -/
inductive RequestError where
  /-- The request was given up on behalf of the caller. -/
  | cancelled
  | failed (message : String)
  deriving DecidableEq, Inhabited

/-- The words for the error. -/
def RequestError.message : RequestError → String
  | .cancelled => "context canceled"
  | .failed message => message

/-- Why a program could not be had. -/
inductive SourceError where
  | unreadable (fault : FileFault)
  | badUrl (message : String)
  | noResponse (url : Network.Url) (error : RequestError)
  | badStatus (source : String) (status : Int)
  | broken (message : String)
  | tooLarge (source : String)
  deriving DecidableEq, Inhabited

/-- The text of the error. -/
def SourceError.message : SourceError → String
  | .unreadable fault => "read program: " ++ fault.message
  | .badUrl message => "fetch program: " ++ message
  | .noResponse url error =>
    "fetch program: Get " ++ Text.quotedBytes url.render ++ ": " ++ error.message
  | .badStatus source status => "fetch program: " ++ source ++ ": " ++ Network.statusLine status
  | .broken message => "fetch program: " ++ message
  | .tooLarge source =>
    "fetch program: " ++ source ++ ": larger than " ++ toString maxRemoteSize ++ " bytes"

namespace Source

/-- A source is fetched, not read from a file. -/
def isRemote (source : String) : Bool :=
  source.startsWith "http://" || source.startsWith "https://"

/-- The program in a body. It is read up to one byte behind the greatest number of bytes, so that a
body with more of them is told from one that ends there.
-/
def readBody (source : String) (body : Body) : Except SourceError ByteArray :=
  let limited : LimitedBody := { body, left := maxRemoteSize + 1 }
  match limited.readAll .doubling ByteArray.empty with
  | .error message => .error (.broken message)
  | .ok program => if maxRemoteSize < program.size then .error (.tooLarge source) else .ok program

/-- The program in a response. -/
def ofResponse (source : String) (url : Network.Url)
    : Except RequestError Response → Except SourceError ByteArray
  | .error error => .error (.noResponse url error)
  | .ok response =>
    if response.status = Network.statusOk then readBody source response.body
    else .error (.badStatus source response.status)

/-- Gets a program from its source. The response to a request is asked for only if the address is
well formed.
-/
def load (read : FileReader) (fetch : Network.Url → Except RequestError Response)
    (source : String)
    : Except SourceError ByteArray :=
  if isRemote source then
    match Network.Url.parse source with
    | .error message => .error (.badUrl message)
    | .ok url =>
      let url := url.withoutEmptyPort
      ofResponse source url (fetch url)
  else (read source).mapError .unreadable

/-- The record that a program has been loaded. -/
def announcement (source : String) (length : Nat) (span : Option String) : Log.Record :=
  { level := .debug
    message := "program loaded"
    attributes := [⟨"source", .text source⟩, ⟨"length", .int length⟩]
    span }

end Source

end TapeMachine
