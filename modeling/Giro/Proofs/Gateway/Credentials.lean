import Giro.Proofs.Gateway.Requests
import Giro.Proofs.Text.Words

/-!
# Callers before anything else

The headers of a request come as bytes under names, in order; of repeated names the first
one counts. They name a caller exactly if the user number is an integer and the role, if
one is said, is known. Wherever an account or a transfer is asked about, a request that
names no caller is answered from its headers alone: neither the ledger nor the rest of the
request is looked at.
-/

namespace Giro

/-! ## Headers as they come -/

/-- Bytes as a text, each of them the character that has its number. -/
def Text.ofBytes (bytes : List UInt8) : String :=
  String.ofList (bytes.map (fun byte => Char.ofNat byte.toNat))

/-- A header as it comes: a name, and the bytes of a value. -/
structure RawHeader where
  name : String
  value : List UInt8
deriving DecidableEq

namespace RawHeader

/-- Headers with their values as texts. -/
def read (headers : List RawHeader) : List (String × String) :=
  headers.map (fun header => (header.name, Text.ofBytes header.value))

/-- The first header with a name has a value; the case of names does not matter. -/
def First (headers : List RawHeader) (name : String) (value : List UInt8) : Prop :=
  ∃ before spelling after,
    headers = before ++ ⟨spelling, value⟩ :: after ∧
      Text.lower spelling = name ∧ ∀ header ∈ before, Text.lower header.name ≠ name

/-- A value is made of visible ASCII characters, blanks and tabs. -/
def Visible (value : List UInt8) : Prop :=
  ∀ byte ∈ value, byte = 9 ∨ 0x20 <= byte ∧ byte < 0x7F

/-- The first header with a name says a word, with nothing but blanks and tabs around it. -/
def Says (headers : List RawHeader) (name : String) (word : List Char) : Prop :=
  word ≠ [] ∧ ∃ value,
    First headers name value ∧ Visible value ∧ Text.Wraps (Text.ofBytes value).toList word

/-- There is no header with a name, or the first one is blank or not visible. -/
def Silent (headers : List RawHeader) (name : String) : Prop :=
  ∀ value, First headers name value ->
    (∀ byte ∈ value, byte = 9 ∨ byte = 0x20) ∨ ¬ Visible value

/-- The user number is a signed integer of 64 bits. -/
def NamesUser (headers : List RawHeader) (userId : Int) : Prop :=
  ∃ word, Says headers "x-user-id" word ∧ Text.WritesInt word userId ∧
    -0x8000000000000000 <= userId ∧ userId <= 0x7FFFFFFFFFFFFFFF

/-- The role is one of some words, in letters of either case. -/
def SaysRole (headers : List RawHeader) (words : List String) : Prop :=
  ∃ word, Says headers "x-user-role" word ∧ Text.upper (String.ofList word) ∈ words

/-- The words for an ordinary user. -/
def userWords : List String := ["USER", "ROLE_USER"]

/-- The words for an administrator. -/
def adminWords : List String := ["ADMIN", "ROLE_ADMIN", "SCOPE_ADMIN"]

theorem toNat_ofNat_byte (byte : UInt8) : (Char.ofNat byte.toNat).toNat = byte.toNat := by
  have small := byte.toNat_lt
  rw [Char.toNat_ofNat, if_pos (Or.inl (by omega))]

theorem ofNat_byte_eq_tab_iff (byte : UInt8) : Char.ofNat byte.toNat = '\t' ↔ byte = 9 := by
  rw [← Char.toNat_inj, toNat_ofNat_byte, ← UInt8.toNat_inj]
  rfl

theorem isVisible_ofBytes (value : List UInt8) :
    Identity.isVisible (Text.ofBytes value) = true ↔ Visible value := by
  simp only [Identity.isVisible, Text.ofBytes, String.toList_ofList, List.all_map, List.all_eq_true,
    Function.comp_apply, Bool.or_eq_true, Bool.and_eq_true, decide_eq_true_eq,
    ofNat_byte_eq_tab_iff, toNat_ofNat_byte, Visible, UInt8.le_iff_toNat_le,
    UInt8.lt_iff_toNat_lt]
  rfl

/-- The blanks among visible characters are those in the ASCII range. -/
theorem isBlank_of_visible
    {byte : UInt8}
    (visible : byte = 9 ∨ 0x20 <= byte ∧ byte < 0x7F) :
    Text.isBlank (Char.ofNat byte.toNat) = true ↔ byte = 9 ∨ byte = 0x20 := by
  simp only [Text.isBlank, toNat_ofNat_byte, UInt8.le_iff_toNat_le, UInt8.lt_iff_toNat_lt,
    ← UInt8.toNat_inj, Bool.or_eq_true, Bool.and_eq_true, decide_eq_true_eq, beq_iff_eq] at *
  simp only [UInt8.reduceToNat] at *
  omega

theorem first_iff {headers : List RawHeader} {name : String} {value : List UInt8} :
    First headers name value ↔
      ∃ spelling,
        headers.find? (fun header => Text.lower header.name == name) =
          some ⟨spelling, value⟩ := by
  simp only [First, List.find?_eq_some_iff_append, beq_iff_eq, Bool.not_eq_true',
    beq_eq_false_iff_ne]
  constructor
  · rintro ⟨before, spelling, after, rfl, named, others⟩
    exact ⟨spelling, named, before, after, rfl, others⟩
  · rintro ⟨spelling, named, before, after, rfl, others⟩
    exact ⟨before, spelling, after, rfl, named, others⟩

/-- What is found under a name is what comes first under it. -/
theorem header?_read
    {request : HttpRequest}
    {headers : List RawHeader}
    (received : request.headers = read headers)
    (name : String) :
    request.header? name =
      (headers.find? (fun header => Text.lower header.name == name)).map
        (fun header => Text.ofBytes header.value) := by
  rw [HttpRequest.header?, received, read, List.find?_map, Option.map_map]
  rfl

end RawHeader

namespace Identity

open RawHeader

variable {request : HttpRequest} {headers : List RawHeader} {name : String}

/-- A header is taken for the word that it says. -/
theorem header?_eq_some_iff
    (received : request.headers = read headers)
    {text : String} :
    header? request name = some text ↔ Says headers name text.toList := by
  rw [header?, header?_read received]
  simp only [Says, first_iff]
  cases found : headers.find? (fun header => Text.lower header.name == name) with
  | none => simp
  | some header =>
      obtain ⟨spelling, value⟩ := header
      have trimmed : Text.trim (Text.ofBytes value) = text ↔
          Text.Wraps (Text.ofBytes value).toList text.toList := by
        rw [← Text.trimChars_eq_iff, ← Text.toList_trim, String.toList_inj]
      have blank : Text.allBlank (Text.ofBytes value) = true ↔
          Text.trimChars (Text.ofBytes value).toList = [] := by
        rw [Text.trimChars_eq_nil_iff, Text.allBlank, List.all_eq_true]
      have said : (if isVisible (Text.ofBytes value) && !Text.allBlank (Text.ofBytes value) then
            some (Text.trim (Text.ofBytes value)) else none) = some text ↔
          text.toList ≠ [] ∧ Visible value ∧
            Text.Wraps (Text.ofBytes value).toList text.toList := by
        rw [← isVisible_ofBytes, ← trimmed, Option.ite_none_right_eq_some, Bool.and_eq_true,
          Bool.not_eq_true', ← Bool.not_eq_true, blank]
        constructor
        · rintro ⟨⟨visible, some⟩, same⟩
          cases same
          exact ⟨by rwa [Text.toList_trim], visible, rfl⟩
        · rintro ⟨some, visible, rfl⟩
          exact ⟨⟨visible, by rwa [Text.toList_trim] at some⟩, rfl⟩
      simpa using said

/-- A header is passed over exactly if it says no word. -/
theorem header?_eq_none_iff (received : request.headers = read headers) :
    header? request name = none ↔ Silent headers name := by
  rw [header?, header?_read received]
  simp only [Silent, first_iff]
  cases found : headers.find? (fun header => Text.lower header.name == name) with
  | none => simp
  | some header =>
      obtain ⟨spelling, value⟩ := header
      have passed : (if isVisible (Text.ofBytes value) && !Text.allBlank (Text.ofBytes value) then
            some (Text.trim (Text.ofBytes value)) else none) = none ↔
          (∀ byte ∈ value, byte = 9 ∨ byte = 0x20) ∨ ¬ Visible value := by
        by_cases visible : Visible value
        · have blank : Text.allBlank (Text.ofBytes value) = true ↔
              ∀ byte ∈ value, byte = 9 ∨ byte = 0x20 := by
            rw [Text.allBlank, Text.ofBytes, String.toList_ofList, List.all_map, List.all_eq_true]
            exact forall₂_congr fun byte member => isBlank_of_visible (visible byte member)
          simp [(isVisible_ofBytes value).mpr visible, visible, blank]
        · have hidden := mt (isVisible_ofBytes value).mp visible
          simp [hidden, visible]
      simpa using passed

/-- What a header says is what it is taken for. -/
theorem says_iff (received : request.headers = read headers) {word : List Char} :
    Says headers name word ↔ header? request name = some (String.ofList word) := by
  rw [header?_eq_some_iff received, String.toList_ofList]

theorem userId_eq_ok_iff (received : request.headers = read headers) {number : Int} :
    userId request = .ok number ↔ NamesUser headers number := by
  simp only [userId, NamesUser, says_iff received]
  cases said : header? request "x-user-id" with
  | none => simp
  | some text =>
      have read : Text.readInt64? text = some number ↔
          Text.WritesInt text.toList number ∧
            -0x8000000000000000 <= number ∧ number <= 0x7FFFFFFFFFFFFFFF :=
        Text.readInt?_eq_some_iff
      have word (word : List Char) :
          some text = some (String.ofList word) ↔ text.toList = word := by
        rw [Option.some.injEq, ← String.toList_inj, String.toList_ofList]
      simp only [word, exists_eq_left', ← read]
      cases Text.readInt64? text <;> simp

/-- A word that a header says has no blanks around it, so that it names a role as it is. -/
theorem parse_of_says
    {word : List Char}
    (said : Says headers name word)
    (role : Role) :
    Role.parse (String.ofList word) = .ok role ↔
      role = .user ∧ Text.upper (String.ofList word) ∈ userWords ∨
        role = .admin ∧ Text.upper (String.ofList word) ∈ adminWords := by
  obtain ⟨-, value, -, -, wraps⟩ := said
  have trimmed : Text.trim (String.ofList word) = String.ofList word := by
    rw [Text.trim, String.toList_ofList, Text.trimChars_of_wrapped wraps]
  rw [Role.parse, trimmed]
  generalize Text.upper (String.ofList word) = spelling
  simp only [userWords, adminWords, List.mem_cons, List.not_mem_nil, or_false]
  constructor
  · intro parsed
    split_ifs at parsed with isUser isAdmin
    · cases parsed
      exact .inl ⟨rfl, by simpa using isUser⟩
    · cases parsed
      exact .inr ⟨rfl, by simpa [or_assoc] using isAdmin⟩
  · rintro (⟨rfl, rfl | rfl⟩ | ⟨rfl, rfl | rfl | rfl⟩) <;> rfl

/-- The role that the headers grant. -/
theorem role_eq_ok_iff (received : request.headers = read headers) {granted : Role} :
    role request = .ok granted ↔
      granted = .user ∧ (Silent headers "x-user-role" ∨ SaysRole headers userWords) ∨
        granted = .admin ∧ SaysRole headers adminWords := by
  simp only [role, ← header?_eq_none_iff received, SaysRole]
  cases said : header? request "x-user-role" with
  | none =>
      have wordless (word : List Char) : ¬ Says headers "x-user-role" word := by
        rw [says_iff received, said]
        exact fun same => (by cases same)
      simp [wordless, eq_comm]
  | some text =>
      have spoken := (header?_eq_some_iff received).mp said
      have word (word : List Char) :
          Says headers "x-user-role" word ↔ word = text.toList := by
        rw [says_iff received, said, Option.some.injEq, ← String.toList_inj,
          String.toList_ofList, eq_comm]
      have parsed := parse_of_says spoken granted
      rw [String.ofList_toList] at parsed
      simp only [word, exists_eq_left, String.ofList_toList, reduceCtorEq, false_or, ← parsed]
      cases Role.parse text <;> simp

/-- What is wrong with the caller of a request is that it is not known. -/
theorem unauthorized_caller (request : HttpRequest) :
    FaultsAs (fun fault => fault.status = 401) (caller request) :=
  faults_caller_of (fun _ => rfl) request

/-- A caller is named by headers alone. -/
theorem caller_congr {other : HttpRequest} (same : other.headers = request.headers) :
    caller other = caller request := by
  have header (name : String) : header? other name = header? request name := by
    rw [header?, header?, HttpRequest.header?, HttpRequest.header?, same]
  simp only [caller, userId, role, origin?, header]

/-- A caller has the user number that the headers name, and the role that they grant. -/
theorem caller_eq_ok
    {known : Caller}
    (identified : caller request = .ok known) :
    userId request = .ok known.userId ∧ role request = .ok known.role := by
  obtain ⟨number, named, identified⟩ := bind_eq_ok_iff.mp identified
  obtain ⟨granted, allowed, identified⟩ := bind_eq_ok_iff.mp identified
  cases identified
  exact ⟨named, allowed⟩

/-- Who names a user number and a role is known. -/
theorem exists_caller_iff :
    (∃ known, caller request = .ok known) ↔
      (∃ number, userId request = .ok number) ∧ ∃ granted, role request = .ok granted := by
  constructor
  · rintro ⟨known, identified⟩
    obtain ⟨named, allowed⟩ := caller_eq_ok identified
    exact ⟨⟨_, named⟩, ⟨_, allowed⟩⟩
  · rintro ⟨⟨number, named⟩, ⟨granted, allowed⟩⟩
    exact ⟨_, bind_eq_ok_iff.mpr ⟨number, named, bind_eq_ok_iff.mpr ⟨granted, allowed, rfl⟩⟩⟩

end Identity

/-! ## Routes -/

namespace HttpRequest

/-- The path at which something is wanted of what it names in a collection. -/
def pathAbout (collection : String) (named : List Char) (wanted : String) : List Char :=
  '/' :: ['/'].intercalate
    ["api".toList, "v1".toList, collection.toList, named, wanted.toList]

example : pathAbout "accounts" ['X'] "summary" = "/api/v1/accounts/X/summary".toList := by decide

/-- Whether something is asked about the transfer or the account that the path names. -/
def AsksAbout (request : HttpRequest) : Prop :=
  request.method = "GET" ∧
    ∃ named, named ≠ [] ∧ '/' ∉ named ∧
      (request.path = pathAbout "transfers" named "receipt" ∨
        ∃ wanted ∈ ["transfers", "summary", "categories", "weekly-trend"],
          request.path = pathAbout "accounts" named wanted)

/-- A path that names an account or a transfer is matched by its five pieces. -/
theorem ofPath?_pathAbout
    {collection wanted : String}
    {named : List Char}
    (whole : ∀ piece ∈ [collection.toList, named, wanted.toList], '/' ∉ piece) :
    Endpoint.ofPath? (pathAbout collection named wanted) =
      Endpoint.all.findSome? (fun endpoint =>
        (Endpoint.fill endpoint.segments
          ["api".toList, "v1".toList, collection.toList, named, wanted.toList]).map (fun pieces =>
            (endpoint, pieces))) := by
  have pieces := List.splitOn_intercalate '/'
    (List.forall_mem_cons.mpr ⟨(by decide : '/' ∉ "api".toList),
      List.forall_mem_cons.mpr ⟨(by decide : '/' ∉ "v1".toList), whole⟩⟩)
    (List.cons_ne_nil _ _)
  rw [pathAbout, Endpoint.ofPath?, Text.splitAt_eq_splitOn, pieces]

/-- Whether a request is for a transfer, or about an account or a transfer. -/
def AsksBank (request : HttpRequest) : Prop :=
  request.AsksTransfer ∨ request.AsksAbout

/-- What is asked of the bank comes to an endpoint that is not open to everyone. -/
theorem AsksBank.endpoint
    {request : HttpRequest}
    (asks : request.AsksBank) :
    ∃ endpoint pieces,
      Endpoint.ofPath? request.path = some (endpoint, pieces) ∧
        endpoint.method = request.method ∧ endpoint ∉ [Endpoint.health, .description] := by
  rcases asks with ⟨method, path⟩ | ⟨method, named, some, whole, path | ⟨wanted, member, path⟩⟩
  · rw [path, method, Call.ofPath?_transfers]
    exact ⟨.createTransfer, [], rfl, rfl, by decide⟩
  · rw [path, method, ofPath?_pathAbout (by simp [whole])]
    refine ⟨.receipt, [named], ?_, rfl, by decide⟩
    simp [Endpoint.all, Endpoint.segments, Endpoint.ofAccount, Endpoint.fill, some]
  · simp only [List.mem_cons, List.not_mem_nil, or_false] at member
    rcases member with rfl | rfl | rfl | rfl
    all_goals
      rw [path, method, ofPath?_pathAbout (by simp [whole])]
      simp [Endpoint.all, Endpoint.segments, Endpoint.ofAccount, Endpoint.fill, Endpoint.method,
        some]

end HttpRequest

namespace Call

variable {request : HttpRequest} {fault : ApiFault}

/-- Wherever not everyone may ask, the caller is looked at first. -/
theorem atEndpoint_of_unknown
    (unknown : Identity.caller request = .error fault)
    {endpoint : Endpoint}
    (closed : endpoint ∉ [Endpoint.health, .description])
    (pieces : List (List Char)) :
    atEndpoint request endpoint pieces = .error fault.respond := by
  have reported : orFault (Identity.caller request) = .error fault.respond := by
    rw [unknown, orFault]
  rw [atEndpoint.eq_def]
  split
  · simp at closed
  · simp at closed
  · rw [reported]
    rfl
  · rw [reported]
    rfl

/-- A request that names no caller is answered with the fault, and the bank does nothing. -/
theorem handle_of_unknown
    (asks : request.AsksBank)
    (unknown : Identity.caller request = .error fault)
    (bank : Bank) :
    bank.handle request = (.responded fault.respond, bank) := by
  obtain ⟨endpoint, pieces, path, method, closed⟩ := asks.endpoint
  have allowed : endpoint.allows request.method = true := by
    rw [Endpoint.allows, method, beq_self_eq_true, Bool.true_or]
  have whole : (request.method == "HEAD") = false := by
    rw [← method, Endpoint.method.eq_def]
    split <;> decide
  have faulty : ofRequest request = .error fault.respond := by
    rw [ofRequest, path]
    dsimp only
    rw [if_pos allowed, atEndpoint_of_unknown unknown closed]
  rw [Bank.handle, faulty]
  simp [HttpResponse.forMethod, whole]

end Call

namespace Identity

open RawHeader

/--
A request names its caller by headers alone. It does exactly if the first user number is
an integer, and the first role is one of those known or is not said; the caller is an
administrator exactly if the role says so. Otherwise the fault has status 401, and any
request with these headers for a transfer, or about an account or a transfer, is answered
with that fault, whatever else the request says and whatever is in the bank.
-/
theorem resolved_before_anything
    (headers : List RawHeader)
    (method target : String)
    (body : List UInt8) :
    let request : HttpRequest := ⟨method, target, read headers, body⟩
    ((∃ known, caller request = .ok known) ↔
      (∃ number, NamesUser headers number) ∧
        (Silent headers "x-user-role" ∨ SaysRole headers userWords ∨
          SaysRole headers adminWords)) ∧
    (∀ known, caller request = .ok known ->
      NamesUser headers known.userId ∧
        (known.isAdmin = true ↔ SaysRole headers adminWords)) ∧
    ∀ fault, caller request = .error fault ->
      fault.status = 401 ∧
        ∀ (bank : Bank) (other : HttpRequest), other.headers = read headers ->
          other.AsksBank ->
            bank.handle other = (.responded fault.respond, bank) := by
  intro request
  have received : request.headers = read headers := rfl
  refine ⟨?resolves, ?who, ?refused⟩
  case resolves =>
    rw [exists_caller_iff]
    simp only [userId_eq_ok_iff received, role_eq_ok_iff received]
    apply and_congr_right'
    constructor
    · rintro ⟨granted, ⟨-, silent | user⟩ | ⟨-, admin⟩⟩
      · exact .inl silent
      · exact .inr (.inl user)
      · exact .inr (.inr admin)
    · rintro (silent | user | admin)
      · exact ⟨.user, .inl ⟨rfl, .inl silent⟩⟩
      · exact ⟨.user, .inl ⟨rfl, .inr user⟩⟩
      · exact ⟨.admin, .inr ⟨rfl, admin⟩⟩
  case who =>
    intro known identified
    obtain ⟨named, allowed⟩ := caller_eq_ok identified
    refine ⟨(userId_eq_ok_iff received).mp named, ?_⟩
    rw [Caller.isAdmin, decide_eq_true_iff]
    constructor
    · intro isAdmin
      rw [isAdmin, role_eq_ok_iff received] at allowed
      simpa using allowed
    · intro admin
      have granted : role request = .ok .admin :=
        (role_eq_ok_iff received).mpr (.inr ⟨rfl, admin⟩)
      rw [granted, Except.ok.injEq] at allowed
      exact allowed.symm
  case refused =>
    intro fault unknown
    refine ⟨unauthorized_caller request fault unknown, fun bank other same asks => ?_⟩
    have alike : caller other = caller request := caller_congr same
    exact Call.handle_of_unknown asks (alike.trans unknown) bank

end Identity

namespace Sample

/-- The first user number is 7, the first role `admin` with a tab behind it. -/
def adminHeaders : List RawHeader :=
  [⟨"X-User-Id", [0x20, 0x37]⟩, ⟨"x-user-id", [0x61]⟩,
    ⟨"X-USER-ROLE", [0x61, 0x64, 0x6D, 0x69, 0x6E, 0x09]⟩]

/-- The user number is 7, the role `root`. -/
def rootHeaders : List RawHeader :=
  [⟨"X-User-Id", [0x37]⟩, ⟨"X-User-Role", [0x72, 0x6F, 0x6F, 0x74]⟩]

/-- Somebody with an unknown role asks about an account in a path that cannot be read. -/
def intruder : HttpRequest where
  method := "GET"
  target := "/api/v1/accounts/%80/summary?page=1"
  headers := RawHeader.read rootHeaders
  body := []

end Sample

namespace Identity

open RawHeader

/-- An administrator is known, and an unknown role is refused before the path is read. -/
theorem resolved_before_anything_sample :
    (∃ known,
      caller ⟨"GET", "/", read Sample.adminHeaders, []⟩ = .ok known ∧
        NamesUser Sample.adminHeaders 7 ∧ SaysRole Sample.adminHeaders adminWords) ∧
    ∃ response : HttpResponse,
      response.status = 401 ∧
        ∀ bank : Bank, bank.handle Sample.intruder = (.responded response, bank) := by
  constructor
  · have identified : caller ⟨"GET", "/", read Sample.adminHeaders, []⟩ =
        .ok ⟨7, .admin, "user-7", none⟩ := by decide +kernel
    obtain ⟨-, who, -⟩ := resolved_before_anything Sample.adminHeaders "GET" "/" []
    obtain ⟨named, admin⟩ := who _ identified
    exact ⟨_, identified, named, admin.mp rfl⟩
  · have unknown : caller Sample.intruder = .error (.unauthorized "Invalid caller role") := by
      decide +kernel
    have asks : Sample.intruder.AsksBank :=
      .inr ⟨rfl, ['%', '8', '0'], by decide, by decide, .inr ⟨"summary", by decide, by decide⟩⟩
    obtain ⟨-, -, refused⟩ :=
      resolved_before_anything Sample.rootHeaders "GET" Sample.intruder.target []
    obtain ⟨status, same⟩ := refused _ unknown
    exact ⟨_, status, fun bank => same bank Sample.intruder rfl asks⟩

end Identity
end Giro
