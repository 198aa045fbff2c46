/-!
# Surrogates

Escapes of four hexadecimal digits name code units of 16 bits.  A character beyond them is
written as a lead surrogate followed by a trail surrogate, each of which carries ten bits.  Added
to the first number that needs a pair, these bits give every such character; laid over it, they
give the same character unless the lead surrogate sets the bit that the number already has.
-/

namespace Wamp.Text

def isLead (codeUnit : Nat) : Bool :=
  0xd800 ≤ codeUnit && codeUnit < 0xdc00

def isTrail (codeUnit : Nat) : Bool :=
  0xdc00 ≤ codeUnit && codeUnit < 0xe000

/-- The character that a lead and a trail surrogate write together. -/
def joined (lead trail : Nat) : Char :=
  Char.ofNat (0x10000 + 0x400 * (lead - 0xd800) + (trail - 0xdc00))

/-- The character that a lead and a trail surrogate write with the bits of both laid over
`0x10000`. -/
def overlaid (lead trail : Nat) : Char :=
  Char.ofNat (0x10000 ||| (lead - 0xd800) <<< 10 ||| (trail - 0xdc00))

end Wamp.Text
