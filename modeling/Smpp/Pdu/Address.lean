/-!
The numbering of addresses and the protocol version, three enumerations of one octet. Only listed
octets read as a value.
-/

namespace Smpp

inductive TypeOfNumber
  | unknown | international | national | networkSpecific | subscriberNumber | alphanumeric
  | abbreviated
  deriving DecidableEq, Repr

namespace TypeOfNumber

def toOctet : TypeOfNumber → UInt8
  | unknown => 0
  | international => 1
  | national => 2
  | networkSpecific => 3
  | subscriberNumber => 4
  | alphanumeric => 5
  | abbreviated => 6

def ofOctet? : UInt8 → Option TypeOfNumber
  | 0 => some unknown
  | 1 => some international
  | 2 => some national
  | 3 => some networkSpecific
  | 4 => some subscriberNumber
  | 5 => some alphanumeric
  | 6 => some abbreviated
  | _ => none

def name : TypeOfNumber → String
  | unknown => "Unknown"
  | international => "International"
  | national => "National"
  | networkSpecific => "NetworkSpecific"
  | subscriberNumber => "SubscriberNumber"
  | alphanumeric => "Alphanumeric"
  | abbreviated => "Abbreviated"

instance : Inhabited TypeOfNumber := ⟨unknown⟩

@[simp] theorem ofOctet?_toOctet (ton : TypeOfNumber) : ofOctet? ton.toOctet = some ton := by
  cases ton <;> rfl

theorem toOctet_of_ofOctet? {octet : UInt8} {ton : TypeOfNumber}
    (read : ofOctet? octet = some ton) : ton.toOctet = octet := by
  unfold ofOctet? at read
  split at read <;> cases read <;> rfl

end TypeOfNumber

inductive NumberingPlan
  | unknown | isdn | data | telex | landMobile | national | privateUse | ermes | internet | wapClientId
  deriving DecidableEq, Repr

namespace NumberingPlan

def toOctet : NumberingPlan → UInt8
  | unknown => 0
  | isdn => 1
  | data => 3
  | telex => 4
  | landMobile => 6
  | national => 8
  | privateUse => 9
  | ermes => 10
  | internet => 14
  | wapClientId => 18

def ofOctet? : UInt8 → Option NumberingPlan
  | 0 => some unknown
  | 1 => some isdn
  | 3 => some data
  | 4 => some telex
  | 6 => some landMobile
  | 8 => some national
  | 9 => some privateUse
  | 10 => some ermes
  | 14 => some internet
  | 18 => some wapClientId
  | _ => none

def name : NumberingPlan → String
  | unknown => "Unknown"
  | isdn => "Isdn"
  | data => "Data"
  | telex => "Telex"
  | landMobile => "LandMobile"
  | national => "National"
  | privateUse => "Private"
  | ermes => "Ermes"
  | internet => "Internet"
  | wapClientId => "WapClientId"

instance : Inhabited NumberingPlan := ⟨unknown⟩

@[simp] theorem ofOctet?_toOctet (npi : NumberingPlan) : ofOctet? npi.toOctet = some npi := by
  cases npi <;> rfl

theorem toOctet_of_ofOctet? {octet : UInt8} {npi : NumberingPlan}
    (read : ofOctet? octet = some npi) : npi.toOctet = octet := by
  unfold ofOctet? at read
  split at read <;> cases read <;> rfl

end NumberingPlan

inductive InterfaceVersion
  | v33 | v34
  deriving DecidableEq, Repr

namespace InterfaceVersion

def toOctet : InterfaceVersion → UInt8
  | v33 => 0x33
  | v34 => 0x34

def ofOctet? : UInt8 → Option InterfaceVersion
  | 0x33 => some v33
  | 0x34 => some v34
  | _ => none

def name : InterfaceVersion → String
  | v33 => "SmppV33"
  | v34 => "SmppV34"

instance : Inhabited InterfaceVersion := ⟨v34⟩

@[simp] theorem ofOctet?_toOctet (version : InterfaceVersion) :
    ofOctet? version.toOctet = some version := by
  cases version <;> rfl

theorem toOctet_of_ofOctet? {octet : UInt8} {version : InterfaceVersion}
    (read : ofOctet? octet = some version) : version.toOctet = octet := by
  unfold ofOctet? at read
  split at read <;> cases read <;> rfl

end InterfaceVersion

end Smpp
