import Smpp.Pdu.ShortMessage
import Smpp.Text.Blank
import Smpp.Text.Quoted

/-!
Delivery receipts. A receipt names the message it is about in the first token of its text, as
`id:<value>`; the rest of the text is not looked at. A parameter may name the message instead.
-/

namespace Smpp

inductive ReceiptError
  | notText
  | empty
  | missingId (token : String)
  deriving DecidableEq, Repr

def ReceiptError.message : ReceiptError → String
  | notText => "Malformed receipt: body is not valid text"
  | empty => "Malformed receipt: body is empty"
  | missingId token => s!"Malformed receipt: expected id:<value>, found {Quoted.text token}"

namespace Receipt

def idOfToken? (token : List Char) : Option (List Char) :=
  let key := token.takeWhile fun character => character != ':'
  match token.drop key.length with
  | _ :: value => if key.map Char.toLower = ['i', 'd'] ∧ value ≠ [] then some value else none
  | [] => none

def messageId (body : Octets) : Except ReceiptError String :=
  match Utf8.decode? body with
  | none => .error .notText
  | some text =>
      match firstToken text.toList with
      | [] => .error .empty
      | token =>
          match idOfToken? token with
          | some value => .ok (String.ofList value)
          | none => .error (.missingId (String.ofList token))

/-- The message id of a receipt: that in its text, or else that in its parameter. -/
def ofMessage (message : ShortMessage) : Except ReceiptError String :=
  match messageId message.userData with
  | .ok id => .ok id
  | .error error =>
      match message.receiptedMessageId?.filter fun id => !id.isEmpty with
      | some id => .ok id
      | none => .error error

end Receipt

end Smpp
