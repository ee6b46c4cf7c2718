/-!
# Access flags

A declaration carries 32 bits of modifiers. Nine of them have a meaning here; the others are kept
as they come and mean nothing.
-/

namespace Unmask

/-- The modifiers of a declaration. -/
structure Access where
  bits : UInt32 := 0
  deriving DecidableEq

namespace Access

/-- The bits that have a meaning: public, private, protected, static, final, interface, abstract,
synthetic and enum. -/
def meaningful : UInt32 :=
  0x0001 ||| 0x0002 ||| 0x0004 ||| 0x0008 ||| 0x0010 ||| 0x0200 ||| 0x0400 ||| 0x1000 ||| 0x4000

/-- The bits without those that mean nothing. -/
def known (a : Access) : UInt32 := a.bits &&& meaningful

/-- Whether a bit is set. -/
def has (a : Access) (bit : UInt32) : Bool := a.bits &&& bit == bit

def isPublic (a : Access) : Bool := a.has 0x0001

def isPrivate (a : Access) : Bool := a.has 0x0002

def isStatic (a : Access) : Bool := a.has 0x0008

def isInterface (a : Access) : Bool := a.has 0x0200

def isAbstract (a : Access) : Bool := a.has 0x0400

/-- Whether the compiler made the declaration up. -/
def isSynthetic (a : Access) : Bool := a.has 0x1000

def isEnum (a : Access) : Bool := a.has 0x4000

end Access

end Unmask
