import SocketReactor.Socket.Command

/-!
# Labels for what the host chooses

Ports and descriptors that a host has chosen differ from run to run, so answers show labels
in their place. A port is numbered when an answer first shows it; port zero was not chosen
and stands as it is. An open descriptor is shown as `N`.
-/

namespace SocketReactor.Session

def shownDescriptor (descriptor : Descriptor) : String :=
  if descriptor = .absent then descriptor.text else "N"

structure SeenPort where
  family : Family
  kind : Kind
  number : UInt16
  deriving DecidableEq, Repr

/-- The ports that answers have shown, in the order in which they were first shown. -/
abbrev SeenPorts := List SeenPort

namespace SeenPorts

def labelAt (position : Nat) : String := "P" ++ Numeral.decimal (position + 1)

/-- The label of a port, which is numbered now if it has not been shown before. Port zero has
none. -/
def label (seen : SeenPorts) (port : SeenPort) : Option String × SeenPorts :=
  if port.number = 0 then (none, seen)
  else match seen.findIdx? (· = port) with
    | some position => (some (labelAt position), seen)
    | none => (some (labelAt seen.length), seen ++ [port])

def endpointText (seen : SeenPorts) (kind : Kind) (endpoint : Endpoint) : String × SeenPorts :=
  let (label, after) := seen.label ⟨endpoint.family, kind, endpoint.port.getD 0⟩
  let text := endpoint.toText
  match label with
  | none => (text, after)
  | some label => match Text.splitLast ':' text.toList with
    | some (before, _) => (String.ofList before ++ ":" ++ label, after)
    | none => (text, after)

/-- A text that ends in a port, with the label in its place if the port has been shown. -/
def hidePort (seen : SeenPorts) (text : String) : String :=
  let shown := do
    let (before, digits) ← Text.splitLast ':' text.toList
    let number ← Numeral.read? 10 digits
    let position ← seen.findIdx? fun (port : SeenPort) => port.number.toNat = number
    return String.ofList before ++ ":" ++ labelAt position
  shown.getD text

/-- A fault with the ports in its endpoints as labels, where answers have shown them. -/
def hideIn (seen : SeenPorts) : Fault → Fault
  | .bindFailed errno endpoint => .bindFailed errno (seen.hidePort endpoint)
  | .connectFailed errno endpoint => .connectFailed errno (seen.hidePort endpoint)
  | fault => fault

end SeenPorts

end SocketReactor.Session
