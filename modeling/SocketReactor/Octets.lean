import SocketReactor.Text.Numeral

/-!
# Octets

Words as octets, most significant octet first unless a name says otherwise, and
the hexadecimal text of octets. Splitting a word and joining the pieces undo
each other in both directions.
-/

namespace SocketReactor.Octets

def high (word : UInt16) : UInt8 := UInt8.ofNat (word.toNat / 256)

def low (word : UInt16) : UInt8 := UInt8.ofNat word.toNat

def word16 (high low : UInt8) : UInt16 := UInt16.ofNat (high.toNat * 256 + low.toNat)

def high16 (word : UInt32) : UInt16 := UInt16.ofNat (word.toNat / 65536)

def low16 (word : UInt32) : UInt16 := UInt16.ofNat word.toNat

def word32 (high low : UInt16) : UInt32 := UInt32.ofNat (high.toNat * 65536 + low.toNat)

def big16 (word : UInt16) : List UInt8 := [high word, low word]

/-- The octets of a 16-bit word, least significant first. -/
def little16 (word : UInt16) : List UInt8 := [low word, high word]

def big32 (word : UInt32) : List UInt8 :=
  big16 (high16 word) ++ big16 (low16 word)

/-- The octets of a 32-bit word, least significant first. -/
def little32 (word : UInt32) : List UInt8 :=
  little16 (low16 word) ++ little16 (high16 word)

def hexadecimal (octets : List UInt8) : String :=
  String.ofList (octets.flatMap fun octet =>
    [Nat.digitChar (octet.toNat / 16), Nat.digitChar (octet.toNat % 16)])

/-- The decimal values between brackets, with a comma and a blank between two of them. -/
def listed (octets : List UInt8) : String :=
  "[" ++ ", ".intercalate (octets.map fun octet => Numeral.decimal octet.toNat) ++ "]"

@[simp] theorem word16_high_low (word : UInt16) : word16 (high word) (low word) = word := by
  apply UInt16.toNat_inj.mp
  have bound := word.toNat_lt
  simp only [word16, high, low, UInt16.toNat_ofNat', UInt8.toNat_ofNat']
  omega

@[simp] theorem high_word16 (upper lower : UInt8) : high (word16 upper lower) = upper := by
  apply UInt8.toNat_inj.mp
  have upper_bound := upper.toNat_lt
  have lower_bound := lower.toNat_lt
  simp only [word16, high, UInt16.toNat_ofNat', UInt8.toNat_ofNat']
  omega

@[simp] theorem low_word16 (upper lower : UInt8) : low (word16 upper lower) = lower := by
  apply UInt8.toNat_inj.mp
  have upper_bound := upper.toNat_lt
  have lower_bound := lower.toNat_lt
  simp only [word16, low, UInt16.toNat_ofNat', UInt8.toNat_ofNat']
  omega

@[simp] theorem word32_high16_low16 (word : UInt32) :
    word32 (high16 word) (low16 word) = word := by
  apply UInt32.toNat_inj.mp
  have bound := word.toNat_lt
  simp only [word32, high16, low16, UInt32.toNat_ofNat', UInt16.toNat_ofNat']
  omega

@[simp] theorem high16_word32 (upper lower : UInt16) : high16 (word32 upper lower) = upper := by
  apply UInt16.toNat_inj.mp
  have upper_bound := upper.toNat_lt
  have lower_bound := lower.toNat_lt
  simp only [word32, high16, UInt32.toNat_ofNat', UInt16.toNat_ofNat']
  omega

@[simp] theorem low16_word32 (upper lower : UInt16) : low16 (word32 upper lower) = lower := by
  apply UInt16.toNat_inj.mp
  have upper_bound := upper.toNat_lt
  have lower_bound := lower.toNat_lt
  simp only [word32, low16, UInt32.toNat_ofNat', UInt16.toNat_ofNat']
  omega

end SocketReactor.Octets
