import SocketReactor.Address.Dotted
import SocketReactor.Text.Split

/-!
# Grouped addresses

The text of an IPv6 address. It is read in every form that has eight groups of
one to four hexadecimal digits between colons: two colons may stand once for one
or more zero groups, and the last two groups may be a dotted address. It is
written with lower-case digits and no leading zeros, the leftmost longest run of
at least two zero groups left out, and a mapped IPv4 address dotted.
-/

namespace SocketReactor.Ipv6

def group? (piece : List Char) : Option UInt16 :=
  if piece.length ≤ 4 then (Numeral.read? 16 piece).map UInt16.ofNat else none

def dottedGroups (ip : Ipv4) : List UInt16 := [Octets.word16 ip.a ip.b, Octets.word16 ip.c ip.d]

def groups? (dotted : Bool) : List (List Char) → Option (List UInt16)
  | [] => some []
  | [last] => match group? last with
    | some group => some [group]
    | none => if dotted then (Ipv4.parse? last).map dottedGroups else none
  | piece :: rest => match group? piece, groups? dotted rest with
    | some group, some groups => some (group :: groups)
    | _, _ => none

/-- Reads the groups on one side of the two colons, which may be none. -/
def side? (dotted : Bool) (text : List Char) : Option (List UInt16) :=
  if text = [] then some [] else groups? dotted (text.splitOn ':')

def parse? (text : List Char) : Option Ipv6 :=
  match Text.splitFirst [':', ':'] text with
  | none => (groups? true (text.splitOn ':')).bind ofGroups?
  | some (front, back) => match side? false front, side? true back with
    | some front, some back =>
        if front.length + back.length < 8 then
          ofGroups? (front ++ List.replicate (8 - (front.length + back.length)) 0 ++ back)
        else none
    | _, _ => none

def zerosFrom (groups : List UInt16) (start : Nat) : Nat :=
  ((groups.drop start).takeWhile fun group => group = 0).length

/-- The leftmost position where the most zero groups follow. -/
def gapStart (groups : List UInt16) : Nat :=
  (List.range groups.length).foldl
    (fun best start => if zerosFrom groups best < zerosFrom groups start then start else best) 0

/-- Groups in hexadecimal with colons between them. -/
def joined (groups : List UInt16) : List Char :=
  [':'].intercalate (groups.map fun group => Nat.toDigits 16 group.toNat)

def chars (ip : Ipv6) : List Char :=
  match ip.mapped? with
  | some tail => "::ffff:".toList ++ tail.chars
  | none =>
      let start := gapStart ip.groups
      let length := zerosFrom ip.groups start
      if 2 ≤ length then
        joined (ip.groups.take start) ++ [':', ':'] ++ joined (ip.groups.drop (start + length))
      else joined ip.groups

def text (ip : Ipv6) : String := String.ofList ip.chars

end SocketReactor.Ipv6
