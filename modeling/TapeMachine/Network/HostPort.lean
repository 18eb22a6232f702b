import TapeMachine.Network.IpAddress

/-!
Hosts with ports, and which of them are local.
-/

namespace TapeMachine.Network

/-- The host of a text in the form `host:port`, or `[host]:port` where the host has colons. A text
of another form has none.
-/
def hostOf? (chars : List Char) : Option (List Char) :=
  match Text.cutLast ':' chars with
  | none => none
  | some (front, port) =>
    if port.contains '[' || port.contains ']' then none
    else
      match front with
      | '[' :: inside =>
        match Text.cut ']' inside with
        | (host, some []) => if host.contains '[' then none else some host
        | _ => none
      | _ => if [':', '[', ']'].any front.contains then none else some front

/-- The host that an address to dial names: the part before the port, or all of it if there is no
port.
-/
def hostOf (address : String) : List Char :=
  (hostOf? address.toList).getD address.toList

/-- Judges whether an address to dial is local. An address literal is judged by its value. Of the
names, `localhost` is local, and any other if one of the addresses that `lookup` finds for it is; an
address with a zone is looked up as the address it is. Only other names are looked up.
-/
def judge {m : Type → Type} [Monad m] (lookup : String → m (List IpAddress)) (address : String)
    : m Bool :=
  let host := hostOf address
  match IpAddress.ofChars? host with
  | some literal => return literal.isLocal
  | none =>
    if String.ofList host = "localhost" then return true
    else
      match IpAddress.ofZonedChars? host with
      | some literal => return literal.isLocal
      | none => return (← lookup (String.ofList host)).any IpAddress.isLocal

/-- An address to dial is local, when names are looked up in a table. -/
def isLocal (lookup : String → List IpAddress) (address : String) : Bool :=
  Id.run (judge (fun name => pure (lookup name)) address)

end TapeMachine.Network
