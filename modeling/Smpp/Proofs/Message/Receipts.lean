import Mathlib.Data.List.TakeWhile
import Smpp.Message.Receipt

/-!
Which receipts name a message. A text does so in its first token, and a parameter may do so where the text
does not; what stands behind the first token is never looked at, and a receipt that names no message has the
error of its text.
-/

namespace Smpp

def Parameter.IsFirst (tag : UInt16) (value : Octets) (parameters : List Parameter) : Prop :=
  ∃ earlier later, parameters = earlier ++ ⟨tag, value⟩ :: later ∧ ∀ other ∈ earlier, other.tag ≠ tag

namespace ShortMessage

inductive HasPayload (message : ShortMessage) : Octets → Prop
  | own (some : message.octets ≠ []) : HasPayload message message.octets
  | parameter {value : Octets} (empty : message.octets = [])
      (first : Parameter.IsFirst 0x0424 value message.parameters) : HasPayload message value
  | nothing (empty : message.octets = []) (none : ∀ parameter ∈ message.parameters, parameter.tag ≠ 0x0424) :
      HasPayload message []

/-- What follows the header, whose first octet says how many more it has. A header that has fewer leaves
nothing. -/
inductive Follows : Octets → Octets → Prop
  | empty : Follows [] []
  | whole {length : UInt8} {header : Octets} (exact : header.length = length.toNat) (rest : Octets) :
      Follows (length :: (header ++ rest)) rest
  | cut {length : UInt8} {header : Octets} (short : header.length < length.toNat) : Follows (length :: header) []

inductive HasUserData (message : ShortMessage) : Octets → Prop
  | plain {payload : Octets} (bare : message.esmClass.hasHeader = false) (carried : message.HasPayload payload) :
      HasUserData message payload
  | behind {payload rest : Octets} (headed : message.esmClass.hasHeader = true)
      (carried : message.HasPayload payload) (follows : Follows payload rest) : HasUserData message rest

end ShortMessage

/-- The first run of characters that are not blank, with blanks before it and a blank behind it, if anything. -/
def IsFirstToken (token text : List Char) : Prop :=
  token ≠ [] ∧ ∃ before behind, text = before ++ (token ++ behind) ∧
    (∀ character ∈ before, isBlank character = true) ∧ (∀ character ∈ token, isBlank character = false) ∧
    ∀ character ∈ behind.head?, isBlank character = true

namespace Receipt

def IsKey (key : List Char) : Prop :=
  ∃ first second, key = [first, second] ∧ (first = 'i' ∨ first = 'I') ∧ (second = 'd' ∨ second = 'D')

def Gives (token id : List Char) : Prop :=
  id ≠ [] ∧ ∃ key, token = key ++ ':' :: id ∧ ':' ∉ key ∧ IsKey key

def TextNames (octets : Octets) (id : String) : Prop :=
  ∃ text token, Utf8.encode text = octets ∧ IsFirstToken token text.toList ∧ Gives token id.toList

def ParameterNames (parameters : List Parameter) (id : String) : Prop :=
  id ≠ "" ∧ ∃ behind, Parameter.IsFirst 0x001E (Utf8.encode id ++ behind) parameters ∧
    0 ∉ Utf8.encode id ∧ ∀ octet ∈ behind.head?, octet = 0

inductive Fails (octets : Octets) : ReceiptError → Prop
  | notText (none : ∀ text, Utf8.encode text ≠ octets) : Fails octets .notText
  | empty {text : String} (written : Utf8.encode text = octets)
      (blank : ∀ character ∈ text.toList, isBlank character = true) : Fails octets .empty
  | missingId {text : String} {token : List Char} (written : Utf8.encode text = octets)
      (first : IsFirstToken token text.toList) (none : ∀ id, ¬ Gives token id) :
      Fails octets (.missingId (String.ofList token))

end Receipt

theorem stops_dropWhile {α : Type} (holds : α → Bool) (whole : List α) :
    ∀ entry ∈ (whole.dropWhile holds).head?, holds entry = false := by
  intro entry first
  have stops := List.head?_dropWhile_not holds whole
  rw [Option.mem_def.mp first] at stops
  exact stops

theorem drop_length_takeWhile {α : Type} (holds : α → Bool) (whole : List α) :
    whole.drop (whole.takeWhile holds).length = whole.dropWhile holds := by
  have joined : whole.takeWhile holds ++ whole.dropWhile holds = whole := List.takeWhile_append_dropWhile
  calc whole.drop (whole.takeWhile holds).length
      = (whole.takeWhile holds ++ whole.dropWhile holds).drop (whole.takeWhile holds).length := by rw [joined]
    _ = whole.dropWhile holds := List.drop_left

theorem takeWhile_append_of_stops {α : Type} {holds : α → Bool} {front rest : List α}
    (all : ∀ entry ∈ front, holds entry = true) (stops : ∀ entry ∈ rest.head?, holds entry = false) :
    (front ++ rest).takeWhile holds = front ∧ (front ++ rest).dropWhile holds = rest := by
  rw [List.takeWhile_append_of_pos all, List.dropWhile_append_of_pos all]
  cases rest with
  | nil => exact ⟨List.append_nil front, rfl⟩
  | cons entry rest =>
      rw [List.takeWhile_cons, List.dropWhile_cons, stops entry rfl]
      exact ⟨List.append_nil front, rfl⟩

section

variable {α : Type} [BEq α] [LawfulBEq α] {separator : α}

theorem not_mem_takeWhile_separator (whole : List α) :
    separator ∉ whole.takeWhile fun entry => entry != separator := by
  intro member
  simpa using List.mem_takeWhile_imp member

theorem separator_of_dropWhile (whole : List α) :
    ∀ entry ∈ (whole.dropWhile fun entry => entry != separator).head?, entry = separator := by
  intro entry first
  simpa using stops_dropWhile _ _ entry first

theorem takeWhile_append_of_separator {front rest : List α} (free : separator ∉ front)
    (stops : ∀ entry ∈ rest.head?, entry = separator) :
    (front ++ rest).takeWhile (fun entry => entry != separator) = front ∧
      (front ++ rest).dropWhile (fun entry => entry != separator) = rest := by
  refine takeWhile_append_of_stops (fun entry member => ?_) fun entry first => ?_
  · exact bne_iff_ne.mpr (ne_of_mem_of_not_mem member free)
  · rw [stops entry first, bne_self_eq_false]

end

theorem Parameter.find?_eq_some_iff {tag : UInt16} {parameters : List Parameter} {found : Parameter} :
    Parameter.find? tag parameters = some found ↔
      found.tag = tag ∧ Parameter.IsFirst tag found.value parameters := by
  rw [Parameter.find?, List.find?_eq_some_iff_append]
  simp only [beq_iff_eq, Bool.not_eq_true', beq_eq_false_iff_ne]
  constructor
  · rintro ⟨rfl, earlier, later, split, others⟩
    exact ⟨rfl, earlier, later, split, others⟩
  · rintro ⟨rfl, earlier, later, split, others⟩
    exact ⟨rfl, earlier, later, split, others⟩

theorem Parameter.find?_eq_none_iff {tag : UInt16} {parameters : List Parameter} :
    Parameter.find? tag parameters = none ↔ ∀ parameter ∈ parameters, parameter.tag ≠ tag := by
  rw [Parameter.find?, List.find?_eq_none]
  simp only [beq_iff_eq, ne_eq]

namespace ShortMessage

variable {message : ShortMessage} {octets : Octets}

theorem hasPayload_payload (message : ShortMessage) : message.HasPayload message.payload := by
  unfold payload
  split
  · rename_i empty
    rw [List.isEmpty_iff] at empty
    split
    · rename_i parameter found
      exact .parameter empty (Parameter.find?_eq_some_iff.mp found).2
    · rename_i missing
      exact .nothing empty (Parameter.find?_eq_none_iff.mp missing)
  · rename_i some
    rw [List.isEmpty_iff] at some
    exact .own some

theorem payload_of_hasPayload (carried : message.HasPayload octets) : message.payload = octets := by
  unfold payload
  cases carried with
  | own some => rw [if_neg (by rwa [List.isEmpty_iff])]
  | parameter empty first =>
      have found : Parameter.find? Parameter.messagePayload message.parameters =
          some ⟨Parameter.messagePayload, octets⟩ := Parameter.find?_eq_some_iff.mpr ⟨rfl, first⟩
      rw [if_pos (by rwa [List.isEmpty_iff]), found]
  | nothing empty none =>
      have missing : Parameter.find? Parameter.messagePayload message.parameters = Option.none :=
        Parameter.find?_eq_none_iff.mpr none
      rw [if_pos (by rwa [List.isEmpty_iff]), missing]

theorem follows_drop (length : UInt8) (rest : Octets) : Follows (length :: rest) (rest.drop length.toNat) := by
  by_cases whole : length.toNat ≤ rest.length
  · have header : (rest.take length.toNat).length = length.toNat := List.length_take_of_le whole
    have follows := Follows.whole header (rest.drop length.toNat)
    rwa [List.take_append_drop] at follows
  · rw [List.drop_eq_nil_of_le (by omega)]
    exact .cut (by omega)

theorem drop_of_follows {length : UInt8} {rest : Octets} (follows : Follows (length :: rest) octets) :
    rest.drop length.toNat = octets := by
  cases follows with
  | whole exact => exact List.drop_left' exact
  | cut short => exact List.drop_eq_nil_of_le (Nat.le_of_lt short)

theorem hasUserData_iff : message.HasUserData octets ↔ message.userData = octets := by
  unfold userData
  constructor
  · rintro (⟨bare, carried⟩ | ⟨headed, carried, follows⟩)
    · rw [bare, payload_of_hasPayload carried]
      rfl
    · rw [headed, payload_of_hasPayload carried, if_pos rfl]
      cases follows with
      | empty => rfl
      | whole exact => exact drop_of_follows (.whole exact octets)
      | cut short => exact drop_of_follows (.cut short)
  · rintro rfl
    cases headed : message.esmClass.hasHeader with
    | false => exact .plain headed message.hasPayload_payload
    | true =>
        rw [if_pos rfl]
        refine .behind headed message.hasPayload_payload ?_
        split
        · rename_i empty
          rw [empty]
          exact .empty
        · rename_i length rest cons
          rw [cons]
          exact follows_drop length rest

end ShortMessage

theorem firstToken_eq_nil_iff {text : List Char} :
    firstToken text = [] ↔ ∀ character ∈ text, isBlank character = true := by
  have stops := stops_dropWhile isBlank text
  rw [firstToken, ← List.dropWhile_eq_nil_iff]
  cases left : text.dropWhile isBlank with
  | nil => simp only [List.takeWhile_nil]
  | cons character rest =>
      rw [left] at stops
      have solid := stops character rfl
      simp [solid]

theorem isFirstToken_iff {token text : List Char} :
    IsFirstToken token text ↔ token ≠ [] ∧ firstToken text = token := by
  refine and_congr_right fun some => ?_
  constructor
  · rintro ⟨before, behind, rfl, blank, solid, stops⟩
    have start : ∀ character ∈ (token ++ behind).head?, isBlank character = false := by
      cases token with
      | nil => exact absurd rfl some
      | cons first others =>
          intro character same
          cases Option.some.inj same
          exact solid first List.mem_cons_self
    rw [firstToken, (takeWhile_append_of_stops blank start).2]
    refine (takeWhile_append_of_stops (fun character member => ?_) fun character first => ?_).1
    · rw [solid character member]
      rfl
    · rw [stops character first]
      rfl
  · rintro rfl
    refine ⟨text.takeWhile isBlank, (text.dropWhile isBlank).dropWhile fun character => !isBlank character,
      ?_, fun character => List.mem_takeWhile_imp, fun character member => ?_, fun character first => ?_⟩
    · rw [firstToken, List.takeWhile_append_dropWhile, List.takeWhile_append_dropWhile]
    · simpa using List.mem_takeWhile_imp member
    · simpa using stops_dropWhile _ _ character first

namespace Receipt

theorem toLower_eq_iff {character small capital : Char} (letter : 'A' ≤ capital ∧ capital ≤ 'Z')
    (pair : small.toNat = capital.toNat + 32) :
    character.toLower = small ↔ character = small ∨ character = capital := by
  have low : 65 ≤ capital.toNat := letter.1
  have high : capital.toNat ≤ 90 := letter.2
  simp only [← Char.toNat_inj]
  unfold Char.toLower
  split
  · rename_i inside
    have least : 65 ≤ character.toNat := inside.1
    have most : character.toNat ≤ 90 := inside.2
    have moved : (character.val + ('a'.val - 'A'.val)).toNat = character.toNat + 32 := by
      rw [UInt32.toNat_add]
      change (character.toNat + 32) % 2 ^ 32 = _
      omega
    change (character.val + ('a'.val - 'A'.val)).toNat = small.toNat ↔ _
    omega
  · rename_i outside
    have apart : ¬ (65 ≤ character.toNat ∧ character.toNat ≤ 90) := outside
    omega

theorem map_toLower_eq_iff {key : List Char} : key.map Char.toLower = ['i', 'd'] ↔ IsKey key := by
  have first : ∀ {character : Char}, character.toLower = 'i' ↔ character = 'i' ∨ character = 'I' :=
    toLower_eq_iff (by decide) rfl
  have second : ∀ {character : Char}, character.toLower = 'd' ↔ character = 'd' ∨ character = 'D' :=
    toLower_eq_iff (by decide) rfl
  simp only [List.map_eq_cons_iff, List.map_eq_nil_iff, first, second]
  constructor
  · rintro ⟨one, _, rfl, isFirst, two, _, rfl, isSecond, rfl⟩
    exact ⟨one, two, rfl, isFirst, isSecond⟩
  · rintro ⟨one, two, rfl, isFirst, isSecond⟩
    exact ⟨one, [two], rfl, isFirst, two, [], rfl, isSecond, rfl⟩

theorem idOfToken?_eq_some_iff {token id : List Char} : idOfToken? token = some id ↔ Gives token id := by
  unfold idOfToken? Gives
  simp only [drop_length_takeWhile]
  constructor
  · intro found
    split at found
    · rename_i colon value left
      split at found
      · rename_i keyed
        obtain rfl := Option.some.inj found
        have stops : ∀ character ∈ (token.dropWhile fun character => character != ':').head?, character = ':' :=
          separator_of_dropWhile token
        have joined := List.takeWhile_append_dropWhile (p := fun character => character != ':') (l := token)
        rw [left] at stops joined
        rw [stops colon rfl] at joined
        exact ⟨keyed.2, _, joined.symm, not_mem_takeWhile_separator token, map_toLower_eq_iff.mp keyed.1⟩
      · cases found
    · cases found
  · rintro ⟨some, key, rfl, free, keyed⟩
    have stops : ∀ character ∈ (':' :: id).head?, character = ':' := fun _ first => (Option.some.inj first).symm
    obtain ⟨before, behind⟩ := takeWhile_append_of_separator free stops
    rw [before, behind]
    exact if_pos ⟨map_toLower_eq_iff.mpr keyed, some⟩

variable {octets : Octets}

theorem messageId_of_text {text : String} (written : Utf8.encode text = octets) :
    messageId octets =
      match firstToken text.toList with
      | [] => .error .empty
      | token =>
          match idOfToken? token with
          | some value => .ok (String.ofList value)
          | none => .error (.missingId (String.ofList token)) := by
  have decoded := Utf8.decode?_eq_some_iff.mpr written
  unfold messageId
  generalize Utf8.decode? octets = found at decoded ⊢
  subst decoded
  rfl

theorem messageId_of_token {text : String} {token : List Char} (written : Utf8.encode text = octets)
    (first : IsFirstToken token text.toList) :
    messageId octets =
      match idOfToken? token with
      | some value => .ok (String.ofList value)
      | none => .error (.missingId (String.ofList token)) := by
  obtain ⟨some, same⟩ := isFirstToken_iff.mp first
  rw [messageId_of_text written, same]
  cases token with
  | nil => exact absurd rfl some
  | cons character rest => rfl

theorem messageId_cases (octets : Octets) :
    (∃ id, messageId octets = .ok id ∧ TextNames octets id) ∨
      ∃ error, messageId octets = .error error ∧ Fails octets error := by
  cases read : Utf8.decode? octets with
  | none =>
      refine Or.inr ⟨.notText, by rw [messageId, read], .notText fun text written => ?_⟩
      rw [Utf8.decode?_eq_some_iff.mpr written] at read
      cases read
  | some text =>
      have written := Utf8.encode_of_decode? read
      by_cases blank : firstToken text.toList = []
      · refine Or.inr ⟨.empty, ?_, .empty written (firstToken_eq_nil_iff.mp blank)⟩
        rw [messageId_of_text written, blank]
      · have first := isFirstToken_iff.mpr ⟨blank, rfl⟩
        have found := messageId_of_token written first
        cases given : idOfToken? (firstToken text.toList) with
        | some value =>
            rw [given] at found
            refine Or.inl ⟨_, found, text, _, written, first, ?_⟩
            rw [String.toList_ofList]
            exact idOfToken?_eq_some_iff.mp given
        | none =>
            rw [given] at found
            refine Or.inr ⟨_, found, .missingId written first fun id gives => ?_⟩
            rw [idOfToken?_eq_some_iff.mpr gives] at given
            cases given

theorem messageId_of_names {id : String} (names : TextNames octets id) : messageId octets = .ok id := by
  obtain ⟨text, token, written, first, gives⟩ := names
  rw [messageId_of_token written first, idOfToken?_eq_some_iff.mpr gives]
  exact congrArg Except.ok (String.ofList_toList ..)

theorem messageId_of_fails {error : ReceiptError} (fails : Fails octets error) :
    messageId octets = .error error := by
  cases fails with
  | notText none =>
      have unread : Utf8.decode? octets = Option.none :=
        Option.eq_none_iff_forall_ne_some.mpr fun text read => none text (Utf8.encode_of_decode? read)
      rw [messageId, unread]
  | empty written blank => rw [messageId_of_text written, firstToken_eq_nil_iff.mpr blank]
  | @missingId text token written first none =>
      have missing : idOfToken? token = Option.none :=
        Option.eq_none_iff_forall_ne_some.mpr fun id found => none id (idOfToken?_eq_some_iff.mp found)
      rw [messageId_of_token written first, missing]

theorem messageId_eq_ok_iff {id : String} : messageId octets = .ok id ↔ TextNames octets id := by
  refine ⟨fun found => ?_, messageId_of_names⟩
  rcases messageId_cases octets with ⟨other, same, names⟩ | ⟨error, same, _⟩
  · cases same.symm.trans found
    exact names
  · cases same.symm.trans found

theorem messageId_eq_error_iff {error : ReceiptError} : messageId octets = .error error ↔ Fails octets error := by
  refine ⟨fun found => ?_, messageId_of_fails⟩
  rcases messageId_cases octets with ⟨id, same, _⟩ | ⟨other, same, fails⟩
  · cases same.symm.trans found
  · cases same.symm.trans found
    exact fails

theorem parameterId?_eq_some_iff {message : ShortMessage} {id : String} :
    (message.receiptedMessageId?.filter fun id => !id.isEmpty) = some id ↔
      ParameterNames message.parameters id := by
  rw [Option.filter_eq_some_iff, ShortMessage.receiptedMessageId?, Option.bind_eq_some_iff,
    Bool.not_eq_true', String.isEmpty_eq_false_iff]
  constructor
  · rintro ⟨⟨parameter, found, read⟩, some⟩
    obtain ⟨_, first⟩ := Parameter.find?_eq_some_iff.mp found
    have written := Utf8.encode_of_decode? read
    refine ⟨some, parameter.value.dropWhile fun octet => octet != 0, ?_, ?_, separator_of_dropWhile _⟩
    · rw [written, List.takeWhile_append_dropWhile]
      exact first
    · rw [written]
      exact not_mem_takeWhile_separator _
  · rintro ⟨some, behind, first, free, null⟩
    refine ⟨⟨⟨0x001E, Utf8.encode id ++ behind⟩, Parameter.find?_eq_some_iff.mpr ⟨rfl, first⟩, ?_⟩, some⟩
    rw [Parameter.toText?, (takeWhile_append_of_separator free null).1, Utf8.decode?_encode]

theorem ofMessage_eq_ok_iff {message : ShortMessage} {id : String} :
    ofMessage message = .ok id ↔ TextNames message.userData id ∨
      (∀ other, ¬ TextNames message.userData other) ∧ ParameterNames message.parameters id := by
  simp only [← messageId_eq_ok_iff, ← parameterId?_eq_some_iff, ofMessage]
  cases messageId message.userData with
  | ok own => simp
  | error error => cases message.receiptedMessageId?.filter fun id => !id.isEmpty <;> simp

theorem ofMessage_eq_error_iff {message : ShortMessage} {error : ReceiptError} :
    ofMessage message = .error error ↔
      Fails message.userData error ∧ ∀ id, ¬ ParameterNames message.parameters id := by
  simp only [← messageId_eq_error_iff, ← parameterId?_eq_some_iff, ofMessage]
  cases messageId message.userData with
  | ok own => simp
  | error own => cases message.receiptedMessageId?.filter fun id => !id.isEmpty <;> simp

theorem not_blank_of_textNames {octets : Octets} {id : String} (names : TextNames octets id) :
    ∀ character ∈ id.toList, isBlank character = false := by
  obtain ⟨text, token, _, ⟨_, _, _, _, _, solid, _⟩, _, key, rfl, _⟩ := names
  exact fun character member => solid character (List.mem_append_right key (List.mem_cons_of_mem _ member))

theorem messageId_eq_of_token {text other : String} {token : List Char} (first : IsFirstToken token text.toList)
    (otherFirst : IsFirstToken token other.toList) :
    messageId (Utf8.encode other) = messageId (Utf8.encode text) := by
  rw [messageId_of_token rfl first, messageId_of_token rfl otherFirst]

/-- The message that a receipt names, or why it names none. -/
structure Extracts (message : ShortMessage) : Prop where
  named : ∀ id, ofMessage message = .ok id ↔ ∃ octets, message.HasUserData octets ∧
    (TextNames octets id ∨ (∀ other, ¬ TextNames octets other) ∧ ParameterNames message.parameters id)
  unnamed : ∀ error, ofMessage message = .error error ↔ ∃ octets, message.HasUserData octets ∧
    Fails octets error ∧ ∀ id, ¬ ParameterNames message.parameters id
  nonempty : ∀ id, ofMessage message = .ok id → id ≠ ""
  solid : ∀ octets id, message.HasUserData octets → TextNames octets id →
    ∀ character ∈ id.toList, isBlank character = false
  /-- Nothing behind the first token is looked at. -/
  first : ∀ (other : ShortMessage) (text otherText : String) (token : List Char),
    message.HasUserData (Utf8.encode text) → other.HasUserData (Utf8.encode otherText) →
    IsFirstToken token text.toList → IsFirstToken token otherText.toList →
    (∀ id, ParameterNames other.parameters id ↔ ParameterNames message.parameters id) →
    ofMessage other = ofMessage message

/-- A receipt names the message of its text or, failing that, of its parameter, and nothing else. -/
theorem extraction_exact (message : ShortMessage) : Extracts message where
  named := by
    intro id
    simp only [ShortMessage.hasUserData_iff, exists_eq_left']
    exact ofMessage_eq_ok_iff
  unnamed := by
    intro error
    simp only [ShortMessage.hasUserData_iff, exists_eq_left']
    exact ofMessage_eq_error_iff
  nonempty := by
    rintro id found rfl
    rcases ofMessage_eq_ok_iff.mp found with ⟨_, _, _, _, some, _⟩ | ⟨_, some, _⟩ <;> exact some rfl
  solid := fun octets id _ => not_blank_of_textNames
  first := by
    intro other text otherText token read otherRead starts otherStarts same
    rw [ShortMessage.hasUserData_iff] at read otherRead
    have parameter : (other.receiptedMessageId?.filter fun id => !id.isEmpty) =
        message.receiptedMessageId?.filter fun id => !id.isEmpty := by
      ext id
      rw [parameterId?_eq_some_iff, parameterId?_eq_some_iff, same]
    rw [ofMessage, ofMessage, parameter, read, otherRead, messageId_eq_of_token starts otherStarts]

example : ofMessage { octets := Utf8.encode "\t ID:a:b stat:x" } = .ok "a:b" ∧
    ofMessage { octets := Utf8.encode "stat:x id:7", parameters := [.ofText 0x001E "8"] } = .ok "8" ∧
    ofMessage { octets := Utf8.encode "id: 7" } = .error (.missingId "id:") :=
  ⟨rfl, rfl, rfl⟩

end Receipt

end Smpp
