import SocketReactor.Address.Groups

/-!
# Address literals

Addresses as text. A colon decides between the two families, and `parseFamily`
reads the text of one family only.
-/

namespace SocketReactor.Address

def text : Address → String
  | v4 ip => ip.text
  | v6 ip => ip.text

def toText (address : Address) : String := address.family.name ++ "://" ++ address.text

def parseV4 (text : String) : Except Fault Address :=
  match Ipv4.parse? text.toList with
  | some ip => .ok (v4 ip)
  | none => .error (.badAddress text Family.inet4.name)

def parseV6 (text : String) : Except Fault Address :=
  match Ipv6.parse? text.toList with
  | some ip => .ok (v6 ip)
  | none => .error (.badAddress text Family.inet6.name)

def parse (text : String) : Except Fault Address :=
  if ':' ∈ text.toList then parseV6 text else parseV4 text

def parseFamily (text : String) : Family → Except Fault Address
  | .inet4 => parseV4 text
  | .inet6 => parseV6 text
  | .unix => .error (.unsupportedFamily Family.unix.name)

end SocketReactor.Address
