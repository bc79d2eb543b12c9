import SocketReactor.Fault
import SocketReactor.Octets

/-!
# Host addresses

Address families and the addresses of the two internet families. An IPv4 address
is four octets, an IPv6 address eight 16-bit groups; `octets` gives either in
network order and `ofOctets` reads it back.
-/

namespace SocketReactor

inductive Family where
  | inet4
  | inet6
  | unix
  deriving DecidableEq, Repr

namespace Family

def name : Family → String
  | inet4 => "inet4"
  | inet6 => "inet6"
  | unix => "unix"

def number : Family → Int32
  | inet4 => 2
  | inet6 => 10
  | unix => 1

def ofNumber? (number : Int32) : Option Family :=
  if number = 2 then some inet4
  else if number = 10 then some inet6
  else if number = 1 then some unix
  else none

theorem ofNumber?_number (family : Family) : ofNumber? family.number = some family := by
  cases family <;> decide

end Family

structure Ipv4 where
  (a b c d : UInt8)
  deriving DecidableEq, Repr

structure Ipv6 where
  (g0 g1 g2 g3 g4 g5 g6 g7 : UInt16)
  deriving DecidableEq, Repr

namespace Ipv4

def octets (ip : Ipv4) : List UInt8 := [ip.a, ip.b, ip.c, ip.d]

def any : Ipv4 := ⟨0, 0, 0, 0⟩

def loopback : Ipv4 := ⟨127, 0, 0, 1⟩

/-- Whether the address lies in the block that stays on the host. -/
def isLoopback (ip : Ipv4) : Bool := ip.a = 127

def ofOctets? : List UInt8 → Option Ipv4
  | [a, b, c, d] => some ⟨a, b, c, d⟩
  | _ => none

end Ipv4

namespace Ipv6

def groups (ip : Ipv6) : List UInt16 :=
  [ip.g0, ip.g1, ip.g2, ip.g3, ip.g4, ip.g5, ip.g6, ip.g7]

def ofGroups? : List UInt16 → Option Ipv6
  | [g0, g1, g2, g3, g4, g5, g6, g7] => some ⟨g0, g1, g2, g3, g4, g5, g6, g7⟩
  | _ => none

@[simp] theorem ofGroups?_groups (ip : Ipv6) : ofGroups? ip.groups = some ip := rfl

def octets (ip : Ipv6) : List UInt8 := ip.groups.flatMap Octets.big16

def any : Ipv6 := ⟨0, 0, 0, 0, 0, 0, 0, 0⟩

def loopback : Ipv6 := ⟨0, 0, 0, 0, 0, 0, 0, 1⟩

/-- Words from pairs of octets; an odd octet at the end is dropped. -/
def words : List UInt8 → List UInt16
  | high :: low :: rest => Octets.word16 high low :: words rest
  | _ => []

def ofOctets? (octets : List UInt8) : Option Ipv6 :=
  if octets.length = 16 then ofGroups? (words octets) else none

@[simp] theorem words_flatMap (groups : List UInt16) :
    words (groups.flatMap Octets.big16) = groups := by
  induction groups with
  | nil => rfl
  | cons group rest ih => simp [Octets.big16, words, ih]

@[simp] theorem ofOctets?_octets (ip : Ipv6) : ofOctets? ip.octets = some ip := by
  have length : ip.octets.length = 16 := rfl
  rw [ofOctets?, if_pos length, octets, words_flatMap, ofGroups?_groups]

def mapped (ip : Ipv4) : Ipv6 :=
  ⟨0, 0, 0, 0, 0, 0xffff, Octets.word16 ip.a ip.b, Octets.word16 ip.c ip.d⟩

/-- The IPv4 address in the last four octets, if the rest marks it as one. -/
def mapped? (ip : Ipv6) : Option Ipv4 :=
  if ip.groups.take 6 = [0, 0, 0, 0, 0, 0xffff] then
    some ⟨Octets.high ip.g6, Octets.low ip.g6, Octets.high ip.g7, Octets.low ip.g7⟩
  else none

theorem mapped?_mapped (ip : Ipv4) : (mapped ip).mapped? = some ip := by
  simp [mapped?, mapped, groups]

end Ipv6

inductive Address where
  | v4 (ip : Ipv4)
  | v6 (ip : Ipv6)
  deriving DecidableEq, Repr

namespace Address

def anyV4 : Address := v4 Ipv4.any

def loopbackV4 : Address := v4 Ipv4.loopback

def anyV6 : Address := v6 Ipv6.any

def loopbackV6 : Address := v6 Ipv6.loopback

def family : Address → Family
  | v4 _ => .inet4
  | v6 _ => .inet6

/-- The octets in network order, four or sixteen. -/
def octets : Address → List UInt8
  | v4 ip => ip.octets
  | v6 ip => ip.octets

/-- Whether the address is the unspecified one of its family. -/
def isAny : Address → Bool
  | v4 ip => ip = Ipv4.any
  | v6 ip => ip = Ipv6.any

/-- Whether the address names the host itself. -/
def isLoopback : Address → Bool
  | v4 ip => ip.isLoopback
  | v6 ip => ip = Ipv6.loopback

/-- The address of a family with these octets; their number has to fit exactly. -/
def ofOctets (family : Family) (octets : List UInt8) : Except Fault Address :=
  let wrongLength := Fault.badAddress (Octets.listed octets) family.name
  match family with
  | .inet4 => match Ipv4.ofOctets? octets with
    | some ip => .ok (v4 ip)
    | none => .error wrongLength
  | .inet6 => match Ipv6.ofOctets? octets with
    | some ip => .ok (v6 ip)
    | none => .error wrongLength
  | .unix => .error (.unsupportedFamily family.name)

end Address

end SocketReactor
