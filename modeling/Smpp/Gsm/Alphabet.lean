import Smpp.Octets

/-!
The GSM default alphabet: 127 characters of one septet, and ten more behind an escape septet. A text
is representable when each of its characters has septets; decoding reads every list of septets.
-/

namespace Smpp.Gsm

def escapeSeptet : UInt8 := 0x1B

/-- The default alphabet in the order of its septets. The escape septet holds the place of the
escape character, which has no septets of its own. -/
def defaultAlphabet : List Char :=
  ['@', '£', '$', '¥', 'è', 'é', 'ù', 'ì', 'ò', 'Ç', '\n', 'Ø', 'ø', '\r', 'Å', 'å',
   'Δ', '_', 'Φ', 'Γ', 'Λ', 'Ω', 'Π', 'Ψ', 'Σ', 'Θ', 'Ξ', '\x1B', 'Æ', 'æ', 'ß', 'É',
   ' ', '!', '"', '#', '¤', '%', '&', '\'', '(', ')', '*', '+', ',', '-', '.', '/',
   '0', '1', '2', '3', '4', '5', '6', '7', '8', '9', ':', ';', '<', '=', '>', '?',
   '¡', 'A', 'B', 'C', 'D', 'E', 'F', 'G', 'H', 'I', 'J', 'K', 'L', 'M', 'N', 'O',
   'P', 'Q', 'R', 'S', 'T', 'U', 'V', 'W', 'X', 'Y', 'Z', 'Ä', 'Ö', 'Ñ', 'Ü', '§',
   '¿', 'a', 'b', 'c', 'd', 'e', 'f', 'g', 'h', 'i', 'j', 'k', 'l', 'm', 'n', 'o',
   'p', 'q', 'r', 's', 't', 'u', 'v', 'w', 'x', 'y', 'z', 'ä', 'ö', 'ñ', 'ü', 'à']

def extensionTable : List (Char × UInt8) :=
  [('\x0C', 0x0A), ('^', 0x14), ('\x7b', 0x28), ('\x7d', 0x29), ('\\', 0x2F), ('[', 0x3C),
   ('~', 0x3D), (']', 0x3E), ('|', 0x40), ('€', 0x65)]

def septets? (character : Char) : Option Octets :=
  if character ≠ '\x1B' ∧ character ∈ defaultAlphabet then
    some [UInt8.ofNat (defaultAlphabet.idxOf character)]
  else (extensionTable.lookup character).map fun code => [escapeSeptet, code]

def isRepresentable (text : String) : Bool := text.toList.all fun character => (septets? character).isSome

def firstUnrepresentable? (text : String) : Option Char :=
  text.toList.find? fun character => (septets? character).isNone

def encode? (text : String) : Option Octets := (text.toList.mapM septets?).map List.flatten

def septetCount? (text : String) : Option Nat :=
  (text.toList.mapM fun character => (septets? character).map List.length).map fun lengths =>
    lengths.foldr (· + ·) 0

def extensionCharacter (code : UInt8) : Char :=
  match extensionTable.find? fun entry => entry.2 == code with
  | some entry => entry.1
  | none => ' '

def defaultCharacter (septet : UInt8) : Char := defaultAlphabet.getD septet.toNat ' '

/-- Reads septets, of which each octet carries one in its low seven bits. An escape at the end has
no code and shows as a space. -/
def decodeCharacters : Octets → List Char
  | [] => []
  | [septet] =>
      let septet := septet &&& 0x7F
      if septet = escapeSeptet then [' '] else [defaultCharacter septet]
  | septet :: code :: rest =>
      let septet := septet &&& 0x7F
      if septet = escapeSeptet then extensionCharacter (code &&& 0x7F) :: decodeCharacters rest
      else defaultCharacter septet :: decodeCharacters (code :: rest)

def decode (septets : Octets) : String := String.ofList (decodeCharacters septets)

end Smpp.Gsm
