import Smpp.Codec.Error
import Smpp.Pdu.ShortMessage

/-!
Long texts in several short messages. A text that does not fit into one message is cut into runs of
whole characters, each as long as the budget of a part allows, and each part begins with a header
that tells the handset where it belongs.
-/

namespace Smpp

/-- The header of a part: a reference that all parts of a message share, their number, and the place
of this one, counted from one. -/
structure ConcatHeader where
  reference : UInt8
  total : UInt8
  index : UInt8
  deriving DecidableEq, Repr

namespace ConcatHeader

def toOctets (header : ConcatHeader) : Octets :=
  [0x05, 0x00, 0x03, header.reference, header.total, header.index]

def ofOctets? : Octets → Option ConcatHeader
  | 0x05 :: 0x00 :: 0x03 :: reference :: total :: index :: _ => some ⟨reference, total, index⟩
  | _ => none

end ConcatHeader

structure Segment where
  payload : Octets
  dataCoding : DataCoding
  header : Option ConcatHeader
  /-- The septets or code units of the text in this part. -/
  units : Nat
  deriving DecidableEq, Repr

def Segment.isConcatenated (segment : Segment) : Bool := segment.header.isSome

def Segment.esmClass (segment : Segment) : EsmClass :=
  if segment.isConcatenated then EsmClass.plain.withHeader else .plain

structure SegmentedMessage where
  segments : List Segment
  dataCoding : DataCoding
  esmClass : EsmClass
  deriving DecidableEq, Repr

inductive TargetEncoding
  /-- The GSM alphabet if it has every character of the text, UCS-2 otherwise. -/
  | auto
  | gsm
  | ucs2
  deriving DecidableEq, Repr

namespace Segment

/-- How a character set fills short messages: the units that each character takes, the units that fit
into a message of its own and into a part, and the octets of a run of characters behind fill bits. -/
structure Layout where
  dataCoding : DataCoding
  width : Char → Nat
  singleBudget : Nat
  partBudget : Nat
  write : Nat → List Char → Octets

def septets (character : Char) : Octets := (Gsm.septets? character).getD []

def gsmLayout : Layout where
  dataCoding := .gsm
  width character := (septets character).length
  singleBudget := 160
  partBudget := 153
  write fill characters := Gsm.pack (characters.flatMap septets) fill

def ucs2Layout : Layout where
  dataCoding := .ucs2
  width character := (Utf16.unitsOf character).length
  singleBudget := 70
  partBudget := 67
  write _ characters := characters.flatMap Utf16.encodeCharacter

def mostParts : Nat := 255

/-- Bits between the header of a part and its text that put the text on a septet boundary. -/
def partFill : Nat := 1

/-- The longest run at the front that keeps within a budget of which `used` units are gone, and the
characters behind it. -/
def takeRun (width : Char → Nat) (budget used : Nat) : List Char → List Char × List Char
  | [] => ([], [])
  | character :: rest =>
      if used + width character ≤ budget then
        let (run, left) := takeRun width budget (used + width character) rest
        (character :: run, left)
      else ([], character :: rest)

theorem length_takeRun_le (width : Char → Nat) (budget used : Nat) (characters : List Char) :
    (takeRun width budget used characters).2.length ≤ characters.length := by
  induction characters generalizing used with
  | nil => exact Nat.le_refl 0
  | cons character rest ih =>
      simp only [takeRun]
      split
      · exact Nat.le_succ_of_le (ih _)
      · exact Nat.le_refl _

def runs (width : Char → Nat) (budget : Nat) : List Char → List (List Char)
  | [] => []
  | character :: rest =>
      let cut := takeRun width budget (width character) rest
      have _shorter : cut.2.length < (character :: rest).length :=
        Nat.lt_succ_of_le (length_takeRun_le width budget (width character) rest)
      (character :: cut.1) :: runs width budget cut.2
termination_by characters => characters.length
decreasing_by exact _shorter

def unitsOf (layout : Layout) (characters : List Char) : Nat :=
  (characters.map layout.width).foldr (· + ·) 0

def single (layout : Layout) (characters : List Char) : Segment :=
  { payload := layout.write 0 characters
    dataCoding := layout.dataCoding
    header := none
    units := unitsOf layout characters }

def part (layout : Layout) (header : ConcatHeader) (characters : List Char) : Segment :=
  { payload := header.toOctets ++ layout.write partFill characters
    dataCoding := layout.dataCoding
    header := some header
    units := unitsOf layout characters }

def parts (layout : Layout) (reference total : UInt8) : Nat → List (List Char) → List Segment
  | _, [] => []
  | index, run :: others =>
      part layout ⟨reference, total, UInt8.ofNat index⟩ run ::
        parts layout reference total (index + 1) others

end Segment

structure Segmenter where
  reference : UInt8 := 0
  deriving DecidableEq, Repr

namespace Segmenter

def layoutFor (text : String) : TargetEncoding → Except CodecError Segment.Layout
  | .gsm =>
      match Gsm.firstUnrepresentable? text with
      | some character => .error (.unencodable character)
      | none => .ok Segment.gsmLayout
  | .ucs2 => .ok Segment.ucs2Layout
  | .auto => .ok (if Gsm.isRepresentable text then Segment.gsmLayout else Segment.ucs2Layout)

/-- Lays a text out. A reference is used up only by a message that comes in parts. -/
def layOut (segmenter : Segmenter) (layout : Segment.Layout) (characters : List Char) :
    Except CodecError SegmentedMessage × Segmenter :=
  if Segment.unitsOf layout characters ≤ layout.singleBudget then
    (.ok ⟨[Segment.single layout characters], layout.dataCoding, .plain⟩, segmenter)
  else
    let runs := Segment.runs layout.width layout.partBudget characters
    if Segment.mostParts < runs.length then
      (.error (.messageTooLong runs.length Segment.mostParts), segmenter)
    else
      let segments :=
        Segment.parts layout segmenter.reference (UInt8.ofNat runs.length) 1 runs
      (.ok ⟨segments, layout.dataCoding, EsmClass.plain.withHeader⟩,
        { segmenter with reference := segmenter.reference + 1 })

def segment (segmenter : Segmenter) (text : String) (target : TargetEncoding) :
    Except CodecError SegmentedMessage × Segmenter :=
  match layoutFor text target with
  | .error error => (.error error, segmenter)
  | .ok layout => layOut segmenter layout text.toList

end Segmenter

end Smpp
