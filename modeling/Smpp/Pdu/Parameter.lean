import Smpp.Text.Utf8

/-!
Optional parameters: a tag and a value of octets. Values may be read as a number or as a text; the
protocol lists the tags that are not a vendor's own.
-/

namespace Smpp

structure Parameter where
  tag : UInt16
  value : Octets
  deriving DecidableEq, Repr

namespace Parameter

def ofOctet (tag : UInt16) (value : UInt8) : Parameter := ⟨tag, [value]⟩

def ofWord (tag value : UInt16) : Parameter := ⟨tag, Octets.ofWord16 value⟩

def ofText (tag : UInt16) (value : String) : Parameter := ⟨tag, Utf8.encode value ++ [0]⟩

def toOctet? (parameter : Parameter) : Option UInt8 :=
  match parameter.value with
  | [value] => some value
  | _ => none

def toWord? (parameter : Parameter) : Option UInt16 :=
  match parameter.value with
  | [high, low] => some (Octets.toWord16 high low)
  | _ => none

def toText? (parameter : Parameter) : Option String :=
  Utf8.decode? (parameter.value.takeWhile fun octet => octet != 0)

def encodedSize (parameter : Parameter) : Nat := 4 + parameter.value.length

def scInterfaceVersion : UInt16 := 0x0210

def receiptedMessageId : UInt16 := 0x001E

def messagePayload : UInt16 := 0x0424

def messageState : UInt16 := 0x0427

def standardTags : List UInt16 :=
  [0x0005, 0x0006, 0x0007, 0x0008, 0x000D, 0x000E, 0x000F, 0x0010, 0x0017, 0x0019, 0x001D, 0x001E,
   0x0030, 0x0201, 0x0202, 0x0203, 0x0204, 0x0205, 0x020A, 0x020B, 0x020C, 0x020D, 0x020E, 0x020F,
   0x0210, 0x0302, 0x0303, 0x0304, 0x0381, 0x0420, 0x0421, 0x0422, 0x0423, 0x0424, 0x0425, 0x0426,
   0x0427, 0x0501, 0x1201, 0x1203, 0x1204, 0x130C, 0x1380, 0x1383]

def isStandard (tag : UInt16) : Bool := tag ∈ standardTags

def find? (tag : UInt16) (parameters : List Parameter) : Option Parameter :=
  parameters.find? fun parameter => parameter.tag == tag

end Parameter

end Smpp
