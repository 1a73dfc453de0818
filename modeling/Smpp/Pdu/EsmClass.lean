import Smpp.Text.Numeral

/-!
The mode and type of a short message: bits of one octet.
-/

namespace Smpp

structure EsmClass where
  octet : UInt8
  deriving DecidableEq, Repr

namespace EsmClass

instance : Inhabited EsmClass := ⟨⟨0⟩⟩

def plain : EsmClass := ⟨0⟩

def headerBit : UInt8 := 0x40

def replyPathBit : UInt8 := 0x80

def typeMask : UInt8 := 0x3C

def deliveryReceipt : EsmClass := ⟨0x04⟩

def hasHeader (esmClass : EsmClass) : Bool := esmClass.octet &&& headerBit != 0

def hasReplyPath (esmClass : EsmClass) : Bool := esmClass.octet &&& replyPathBit != 0

def isDeliveryReceipt (esmClass : EsmClass) : Bool :=
  esmClass.octet &&& typeMask == deliveryReceipt.octet

def withHeader (esmClass : EsmClass) : EsmClass := ⟨esmClass.octet ||| headerBit⟩

def description (esmClass : EsmClass) : String :=
  s!"EsmClass(0x{Numeral.upperHexadecimal 2 esmClass.octet.toNat})"

end EsmClass

end Smpp
