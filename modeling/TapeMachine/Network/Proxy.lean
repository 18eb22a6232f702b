import TapeMachine.Log.Logger
import TapeMachine.Mode
import TapeMachine.Network.HostPort
import TapeMachine.Network.Url
import TapeMachine.Settings.Document
import TapeMachine.Text.Choice

/-!
Which proxy a program uses, and which connections go through it.
-/

namespace TapeMachine.Network

/-- The settings that may name a proxy, the most important first. -/
def proxySettings : List String := ["proxy_addr", "proxy_address", "http_proxy", "socks_proxy"]

/-- The names in the environment that may name a proxy, the most important first. -/
def proxyVariables : List String := ["ALL_PROXY", "all_proxy", "SOCKS_PROXY", "socks_proxy"]

/-- The address of the proxy, empty if there is none. While a program is developed there is none,
and nothing is looked up. Otherwise every setting is looked up, even where an earlier one decides.
-/
def proxyAddress (mode : Mode) (documents : Settings.Documents) (environment : String → String)
    : Except Settings.LookupError String :=
  if mode = .development then .ok ""
  else do
    let written ← proxySettings.mapM documents.textOrEmpty
    return Text.firstNonempty (written ++ proxyVariables.map environment)

/-- The record that says which proxy is used, if there is one. -/
def proxyAnnouncement (address : String) : Option Log.Record :=
  if address.isEmpty then none
  else some { level := .info, message := "proxy", attributes := [⟨"addr", .text address⟩] }

/-- How connections that are not local are made. -/
inductive Outlet where
  /-- Without a proxy. -/
  | direct
  /-- By the proxy at an address, which speaks a protocol that is known. -/
  | proxy (url : Url)
  /-- By a protocol that was added under a name of its own. -/
  | added (protocol : String)
  deriving DecidableEq, Inhabited

/-- Why there is no outlet. -/
inductive OutletError where
  | badUrl (message : String)
  | unknownScheme (scheme : String)
  deriving DecidableEq, Inhabited

/-- The text of the error. -/
def OutletError.message : OutletError → String
  | .badUrl message => message
  | .unknownScheme scheme => "proxy: unknown scheme: " ++ scheme

/-- The protocols that are known; a short name stands for the current version. -/
def proxyProtocols : List String := ["socks5", "socks5h"]

/-- The outlet at the address of a proxy, with the protocols in `added` besides those that are
known.
-/
def outlet (added : List String) (address : String) : Except OutletError Outlet :=
  if address.isEmpty then .ok .direct
  else
    match Url.parse address with
    | .error message => .error (.badUrl message)
    | .ok url =>
      let scheme := if url.scheme = "socks" then "socks5" else url.scheme
      if proxyProtocols.contains scheme then .ok (.proxy { url with scheme })
      else if added.contains scheme then .ok (.added scheme)
      else .error (.unknownScheme scheme)

/-- Connects to an address in a network, or tells why it could not. -/
def Dialer (m : Type → Type) (ε κ : Type) : Type := String → String → m (Except ε κ)

/-- Connects straight on to an address that is local, and to any other by the dialer of the outlet.
Only other addresses ask for that dialer, and fail if there is none.
-/
def dial {m : Type → Type} [Monad m] {ε κ : Type} (lookup : String → m (List IpAddress))
    (direct : Dialer m ε κ) (outlet : m (Except ε (Dialer m ε κ)))
    : Dialer m ε κ := fun network address => do
  if ← judge lookup address then direct network address
  else
    match ← outlet with
    | .error cause => return .error cause
    | .ok dialer => dialer network address

/-- The way a connection takes. -/
inductive Route where
  | direct
  /-- Through the outlet, to an address in a network. -/
  | outlet (network address : String)
  deriving DecidableEq, Inhabited

/-- The way to an address, when names are looked up in a table and the outlet is there or not. -/
def route {ε : Type} (lookup : String → List IpAddress) (ready : Except ε Unit)
    (network address : String) : Except ε Route :=
  let direct : Dialer Id ε Route := fun _ _ => pure (.ok .direct)
  let outlet : Dialer Id ε Route := fun network address => pure (.ok (.outlet network address))
  Id.run (dial (fun name => pure (lookup name)) direct (pure (ready.map fun _ => outlet)) network
    address)

end TapeMachine.Network
