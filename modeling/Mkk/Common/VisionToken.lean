import Mkk.Api.Contract
import Mkk.Lib.Base64
import Mkk.Lib.Dict
import Mkk.Lib.Json
import Mkk.Lib.Lts

/-!
# One-time Vision tokens

`SignedVisionTokenIssuer` as a transition system. A `consume` call is two steps: the check of the
presented text, which reads the clock once, and the locked section, which reads it again; calls
interleave between them. The digest is a parameter. A moment is the microseconds since 1970.

A consumed token is remembered by its text and until its expiry. Both are too weak: the signature
can be spelled in several ways, and a call that passed the check in time can enter the lock late.
`tokens_once` is what holds when neither happens.
-/

namespace Mkk.Common

open Lib Lib.Base64

/-- `_encode`. -/
def encode (value : Bytes) : String := urlsafeEncode value

/-- `_decode`: the padding is put back first. -/
def decode (value : String) : Option Bytes :=
  urlsafeDecode (value ++ String.ofList (padding value.length))

theorem decode_encode (value : Bytes) : decode (encode value) = some value :=
  urlsafeDecode_urlsafeEncode value

/-- A padding character after the text of a last group of two bytes changes nothing. -/
theorem decode_padded {value : Bytes} (two : value.length % 3 = 2) :
    decode (encode value ++ "=") = some value := by
  have length : (encode value ++ "=").length % 4 = 0 := by
    rw [String.length_append, encode, urlsafeEncode, String.length_ofList, length_encode]
    change ((value.length * 4 + 2) / 3 + 1) % 4 = 0
    omega
  have text : (encode value ++ "=" ++ String.ofList (padding (encode value ++ "=").length)).toList =
      Base64.encode value ++ '=' :: [] := by
    rw [padding, length]
    simp [encode, urlsafeEncode]
  have ascii : (Base64.encode value ++ '=' :: []).all (·.toNat < 128) = true := by
    rw [List.all_append, Bool.and_eq_true]
    refine ⟨List.all_eq_true.2 fun c hc => ?_, by decide⟩
    exact decide_eq_true (toNat_lt_of_isUrlSafe (isUrlSafe_encode value c hc))
  rw [decode, urlsafeDecode, text, if_pos ascii]
  exact read_encode_pad two []

def utf8Encode (s : String) : Bytes := s.toByteArray.data.toList

def utf8Decode (bytes : Bytes) : Option String := String.fromUTF8? bytes.toByteArray

theorem utf8Decode_utf8Encode (s : String) : utf8Decode (utf8Encode s) = some s := by
  have same : (utf8Encode s).toByteArray = s.toByteArray := by
    apply ByteArray.ext
    rw [List.data_toByteArray, utf8Encode, Array.toArray_toList]
  unfold utf8Decode String.fromUTF8?
  rw [same, dif_pos s.isValidUTF8]
  rfl

structure VisionTokenClaims where
  sessionId : String
  videoId : String
  expiresAt : ℕ
deriving DecidableEq, Repr

/-! ## Issuing -/

/-- The fields the token signs. -/
structure Payload where
  sid : String
  vid : String
  exp : ℕ
  jti : String
deriving DecidableEq, Repr

/-- The last moment a `datetime` can hold. -/
def maxDatetime : ℕ := 253402300799999999

structure SignedVisionTokenIssuer where
  secret : String
  ttl : ℕ
  secretOk : 32 ≤ secret.utf8ByteSize
  ttlOk : 0 < ttl

namespace Payload

def members (p : Payload) : List (String × Json) :=
  [("sid", .str p.sid), ("vid", .str p.vid), ("exp", .int p.exp), ("jti", .str p.jti)]

/-- The part of the token the signature is over. -/
def encoded (p : Payload) : String :=
  encode (utf8Encode (Json.dumps (.obj p.members)))

/-- What a `consume` call returns for the payload. -/
def claims (p : Payload) : VisionTokenClaims where
  sessionId := p.sid
  videoId := p.vid
  expiresAt := p.exp * 1000000

end Payload

/-- The fields `issue` signs: identifiers, an expiry a `datetime` holds and a random text. -/
structure Payload.Legal (p : Payload) : Prop where
  sid : Api.isIdentifier p.sid = true
  vid : Api.isIdentifier p.vid = true
  exp : p.exp * 1000000 ≤ maxDatetime
  jti : ∃ random, p.jti = encode random

/-- What `issue` returns; the version and the path of the stream are constants. -/
structure StreamToken where
  sessionId : String
  videoId : String
  streamToken : String
  expiresAt : ℕ
deriving DecidableEq, Repr

section
variable (hmac : String → String → Bytes) (issuer : SignedVisionTokenIssuer)

/-- The signature over the text of a payload. -/
def sign (text : String) : Bytes := hmac issuer.secret text

/-- `issue` at the moment `now`, with the bytes `secrets` gave; `none` when it raises. -/
def issue (sessionId videoId : String) (now : ℕ) (random : Bytes) : Option (Payload × StreamToken) :=
  if Api.isIdentifier sessionId = false ∨ Api.isIdentifier videoId = false then none
  else
    let expiresAt := now + issuer.ttl
    if maxDatetime < expiresAt then none
    else
      let payload : Payload :=
        { sid := sessionId, vid := videoId, exp := expiresAt / 1000000, jti := encode random }
      let token := payload.encoded ++ "." ++ encode (sign hmac issuer payload.encoded)
      some (payload, { sessionId, videoId, streamToken := token, expiresAt })

/-! ## Consuming -/

/-- `token.split(".")` when it gives two parts. -/
def splitToken (token : String) : Option (String × String) :=
  match token.toList.splitOn '.' with
  | [payload, signature] => some (String.ofList payload, String.ofList signature)
  | _ => none

/-- The two parts of a token whose signature is the one of its payload. -/
def authenticParts (token : String) : Option (String × String) :=
  (splitToken token).filter fun (payload, signature) =>
    payload.toList.all (·.toNat < 128) && decode signature == some (sign hmac issuer payload)

/-- `isinstance(value, int)`: a boolean is an integer too. -/
def asInt : Json → Option ℤ
  | .int n => some n
  | .bool b => some (if b then 1 else 0)
  | _ => none

/-- The claims a payload text carries. An expiry before 1970 has passed and one that no `datetime`
holds raises, so neither gives claims. -/
def readClaims (text : String) : Option VisionTokenClaims := do
  let bytes ← decode text
  let json ← utf8Decode bytes
  match ← Json.loads json with
  | .obj members =>
    match Json.get? members "sid", Json.get? members "vid", (Json.get? members "exp").bind asInt with
    | some (.str sessionId), some (.str videoId), some (.ofNat expiresEpoch) =>
      if Api.isIdentifier sessionId = false ∨ Api.isIdentifier videoId = false then none
      else if maxDatetime < expiresEpoch * 1000000 then none
      else some { sessionId, videoId, expiresAt := expiresEpoch * 1000000 }
    | _, _, _ => none
  | _ => none

/-- `consume` up to its lock, at the moment `now`. -/
def consumeCheck (token : String) (now : ℕ) : Option VisionTokenClaims := do
  if 2048 < token.length then none
  else
    let parts ← authenticParts hmac issuer token
    let claims ← readClaims parts.1
    if claims.expiresAt ≤ now then none else some claims

end

section
variable {hmac : String → String → Bytes} {issuer : SignedVisionTokenIssuer} {token : String}

theorem issue_legal {sessionId videoId : String} {now : ℕ} {random : Bytes} {p : Payload}
    {t : StreamToken} (h : issue hmac issuer sessionId videoId now random = some (p, t)) : p.Legal := by
  unfold issue at h
  split at h
  · cases h
  · rename_i identifiers
    dsimp only at h
    split at h
    · cases h
    · rename_i representable
      cases h
      simp only [not_or, Bool.not_eq_false] at identifiers
      exact ⟨identifiers.1, identifiers.2, by dsimp only; omega, random, rfl⟩

theorem plain_of_isIdentifier {s : String} (h : Api.isIdentifier s = true) :
    ∀ c ∈ s.toList, Json.Plain c := by
  have plain {c : Char} (h : Api.isIdentifierChar c = true) : Json.Plain c :=
    Json.plain_of_class Api.isIdentifierChar (by decide) (by decide) (by decide) h
  unfold Api.isIdentifier at h
  cases chars : s.toList with
  | nil => exact fun _ h => nomatch h
  | cons first rest =>
    rw [chars] at h
    simp only [Bool.and_eq_true, List.all_eq_true] at h
    intro c hc
    rcases List.mem_cons.1 hc with rfl | hc
    · exact plain (by rw [Api.isIdentifierChar, h.1.1, Bool.true_or])
    · exact plain (h.1.2 c hc)

theorem plain_of_encode (value : Bytes) : ∀ c ∈ (encode value).toList, Json.Plain c := by
  intro c hc
  rw [encode, urlsafeEncode, String.toList_ofList] at hc
  exact Json.plain_of_class isUrlSafe (by decide) (by decide) (by decide) (isUrlSafe_encode value c hc)

theorem Payload.Legal.flat {p : Payload} (legal : p.Legal) : Json.Flat p.members := by
  obtain ⟨random, jti⟩ := legal.jti
  intro m hm
  simp only [Payload.members, List.mem_cons, List.not_mem_nil, or_false] at hm
  rcases hm with rfl | rfl | rfl | rfl
  · exact ⟨plain_of_isIdentifier (s := "sid") (by decide +kernel),
      .str (plain_of_isIdentifier legal.sid)⟩
  · exact ⟨plain_of_isIdentifier (s := "vid") (by decide +kernel),
      .str (plain_of_isIdentifier legal.vid)⟩
  · exact ⟨plain_of_isIdentifier (s := "exp") (by decide +kernel), .int p.exp⟩
  · exact ⟨plain_of_isIdentifier (s := "jti") (by decide +kernel),
      .str (jti ▸ plain_of_encode random)⟩

/-- **A signed payload reads back as its own claims.** -/
theorem readClaims_encoded {p : Payload} (legal : p.Legal) : readClaims p.encoded = some p.claims := by
  unfold readClaims
  rw [Payload.encoded, decode_encode, Option.bind_eq_bind, Option.bind_some, utf8Decode_utf8Encode,
    Option.bind_eq_bind, Option.bind_some, Json.loads_dumps legal.flat, Option.bind_eq_bind,
    Option.bind_some]
  change (if Api.isIdentifier p.sid = false ∨ Api.isIdentifier p.vid = false then none
    else if maxDatetime < p.exp * 1000000 then none
    else some p.claims) = _
  rw [if_neg (by rw [legal.sid, legal.vid]; decide), if_neg (by have := legal.exp; omega)]

/-- A presented text is its two parts. -/
theorem authenticParts_spec {parts : String × String}
    (h : authenticParts hmac issuer token = some parts) : token = parts.1 ++ "." ++ parts.2 := by
  obtain ⟨split, -⟩ := Option.filter_eq_some_iff.1 h
  unfold splitToken at split
  split at split
  · rename_i payload signature hsplit
    cases split
    have joined : ['.'].intercalate (token.toList.splitOn '.') = token.toList :=
      List.intercalate_splitOn '.'
    rw [hsplit] at joined
    apply String.toList_inj.1
    rw [← joined]
    simp [List.intercalate]
  · cases split

/-- A call passes its check with the claims of a text whose signature it carries. -/
theorem consumeCheck_spec {now : ℕ} {claims : VisionTokenClaims}
    (h : consumeCheck hmac issuer token now = some claims) :
    ∃ parts, authenticParts hmac issuer token = some parts ∧ readClaims parts.1 = some claims := by
  unfold consumeCheck at h
  split at h
  · cases h
  · obtain ⟨parts, authentic, h⟩ := Option.bind_eq_some_iff.1 h
    obtain ⟨read, claimed, h⟩ := Option.bind_eq_some_iff.1 h
    split at h
    · cases h
    · cases h
      exact ⟨parts, authentic, claimed⟩

/-- A text two parts without a dot make, the second of which reads as the signature of the first. -/
theorem authenticParts_of {payload signature : String} (first : '.' ∉ payload.toList)
    (second : '.' ∉ signature.toList) (ascii : payload.toList.all (·.toNat < 128) = true)
    (signed : decode signature = some (sign hmac issuer payload)) :
    authenticParts hmac issuer (payload ++ "." ++ signature) = some (payload, signature) := by
  have text : (payload ++ "." ++ signature).toList = payload.toList ++ '.' :: signature.toList := by
    simp
  have split : splitToken (payload ++ "." ++ signature) = some (payload, signature) := by
    rw [splitToken, text, List.splitOn_append_cons_self_of_not_mem first,
      List.splitOn_eq_singleton second]
    simp
  rw [authenticParts, split, Option.filter_some, if_pos]
  simp [ascii, signed]

/-- **An issued payload passes the check until its expiry**, under every signature text that reads
as its signature. -/
theorem consumeCheck_issued {p : Payload} (legal : p.Legal) {signature : String} {now : ℕ}
    (authentic : authenticParts hmac issuer (p.encoded ++ "." ++ signature) =
      some (p.encoded, signature))
    (short : (p.encoded ++ "." ++ signature).length ≤ 2048) (inTime : now < p.claims.expiresAt) :
    consumeCheck hmac issuer (p.encoded ++ "." ++ signature) now = some p.claims := by
  rw [consumeCheck, if_neg (not_lt.2 short), authentic, Option.bind_eq_bind, Option.bind_some,
    readClaims_encoded legal, Option.bind_eq_bind, Option.bind_some, if_neg (not_le.2 inTime)]

/-- The text of a payload has no dot and is ASCII. -/
theorem encode_text (value : Bytes) :
    '.' ∉ (encode value).toList ∧ (encode value).toList.all (·.toNat < 128) = true := by
  have safe : ∀ c ∈ (encode value).toList, isUrlSafe c = true := by
    intro c hc
    rw [encode, urlsafeEncode, String.toList_ofList] at hc
    exact isUrlSafe_encode value c hc
  refine ⟨fun dot => Bool.noConfusion (safe '.' dot), List.all_eq_true.2 ?_⟩
  intro c hc
  exact decide_eq_true (toNat_lt_of_isUrlSafe (safe c hc))

end

/-- The locked section of `consume`: the expired tokens are forgotten, and the token is refused when
it is remembered. -/
def consumeLocked (consumed : Dict String ℕ) (token : String) (claims : VisionTokenClaims)
    (now : ℕ) : Option VisionTokenClaims × Dict String ℕ :=
  let consumed := consumed.filter fun _ consumedExpiry => now < consumedExpiry
  match consumed.get? token with
  | some _ => (none, consumed)
  | none => (some claims, consumed.set token claims.expiresAt)

/-! ## Runs -/

/-- The issuer with the calls between their check and their lock, and what was issued and returned
so far. -/
structure IssuerState where
  consumed : Dict String ℕ := Dict.empty
  clock : ℕ := 0
  waiting : List (String × VisionTokenClaims) := []
  issued : List Payload := []
  returned : List (String × VisionTokenClaims) := []

inductive IssuerStep where
  | issue (sessionId videoId : String) (now : ℕ) (random : Bytes)
  | check (token : String) (now : ℕ)
  | locked (call : ℕ) (now : ℕ)

/-- The clock a step reads. -/
def IssuerStep.now : IssuerStep → ℕ
  | .issue _ _ now _ => now
  | .check _ now => now
  | .locked _ now => now

section
variable (hmac : String → String → Bytes) (issuer : SignedVisionTokenIssuer)

/-- An `issue` call; one that raises leaves the issuer as it was. -/
def IssuerState.issueCall (s : IssuerState) (sessionId videoId : String) (now : ℕ) (random : Bytes) :
    IssuerState :=
  match issue hmac issuer sessionId videoId now random with
  | none => s
  | some (payload, _) => { s with issued := s.issued ++ [payload] }

/-- A `consume` call up to its lock, where it waits with the claims. -/
def IssuerState.checkCall (s : IssuerState) (token : String) (now : ℕ) : IssuerState :=
  match consumeCheck hmac issuer token now with
  | none => s
  | some claims => { s with waiting := s.waiting ++ [(token, claims)] }

/-- The locked section of a waiting call. -/
def IssuerState.lockedCall (s : IssuerState) (call : String × VisionTokenClaims) (now : ℕ) :
    IssuerState :=
  match consumeLocked s.consumed call.1 call.2 now with
  | (none, consumed) => { s with consumed := consumed }
  | (some claims, consumed) =>
    { s with consumed := consumed, returned := s.returned ++ [(call.1, claims)] }

def issuerStep (s : IssuerState) (l : IssuerStep) : Option IssuerState :=
  if l.now < s.clock then none
  else
    let s := { s with clock := l.now }
    match l with
    | .issue sessionId videoId now random => some (s.issueCall hmac issuer sessionId videoId now random)
    | .check token now => some (s.checkCall hmac issuer token now)
    | .locked i now =>
      s.waiting[i]?.map fun call => { s with waiting := s.waiting.eraseIdx i }.lockedCall call now

/-- Nobody but the issuer signs: a text that carries a signature was issued before. -/
def Unforged (s : IssuerState) : IssuerStep → Prop
  | .check token _ =>
    ∀ parts, authenticParts hmac issuer token = some parts → ∃ p ∈ s.issued, parts.1 = p.encoded
  | _ => True

/-- The signature is spelled the way `_encode` spells it, and no call enters the lock at or after
the expiry of its token. -/
def SpelledInTime (s : IssuerState) : IssuerStep → Prop
  | .issue .. => True
  | .check token _ =>
    ∀ parts, authenticParts hmac issuer token = some parts →
      parts.2 = encode (sign hmac issuer parts.1)
  | .locked i now => ∀ call, s.waiting[i]? = some call → now < call.2.expiresAt

/-- The token carries the payload's text. -/
def Carries (token : String) (p : Payload) : Prop :=
  ∃ signature, authenticParts hmac issuer token = some (p.encoded, signature)

instance (token : String) (p : Payload) : Decidable (Carries hmac issuer token p) :=
  decidable_of_iff ((authenticParts hmac issuer token).any (·.1 = p.encoded) = true) <| by
    unfold Carries
    cases authenticParts hmac issuer token with
    | none => simp
    | some parts =>
      obtain ⟨text, signature⟩ := parts
      simp

/-- At most one call returned claims for each payload that was issued. -/
def ReturnedOnce (s : IssuerState) : Prop :=
  ∀ p ∈ s.issued, (s.returned.filter fun r => decide (Carries hmac issuer r.1 p)).length ≤ 1

/-- Every call that returned claims returned those of a payload that was issued. -/
def ReturnedSigned (s : IssuerState) : Prop :=
  ∀ r ∈ s.returned, ∃ p ∈ s.issued, Carries hmac issuer r.1 p ∧ r.2 = p.claims

end

section
variable {hmac : String → String → Bytes} {issuer : SignedVisionTokenIssuer} {s t : IssuerState}
  {l : IssuerStep}

/-- The claims of a call are those of the issued payload its token carries. -/
def Signed (hmac : String → String → Bytes) (issuer : SignedVisionTokenIssuer) (issued : List Payload)
    (call : String × VisionTokenClaims) : Prop :=
  ∃ p ∈ issued, Carries hmac issuer call.1 p ∧ call.2 = p.claims

/-- What holds in every run without forged signatures. -/
structure SignedInv (hmac : String → String → Bytes) (issuer : SignedVisionTokenIssuer)
    (s : IssuerState) : Prop where
  issued : ∀ p ∈ s.issued, p.Legal
  waiting : ∀ call ∈ s.waiting, Signed hmac issuer s.issued call
  returned : ReturnedSigned hmac issuer s

theorem issuerStep_forward (h : issuerStep hmac issuer s l = some t) : s.clock ≤ l.now := by
  by_contra back
  rw [issuerStep, if_pos (not_le.1 back)] at h
  cases h

theorem Signed.grow {issued more : List Payload} {call : String × VisionTokenClaims}
    (h : Signed hmac issuer issued call) : Signed hmac issuer (issued ++ more) call := by
  obtain ⟨p, hp, carries, claims⟩ := h
  exact ⟨p, List.mem_append_left _ hp, carries, claims⟩

theorem SignedInv.issueCall (inv : SignedInv hmac issuer s) (sessionId videoId : String) (now : ℕ)
    (random : Bytes) : SignedInv hmac issuer (s.issueCall hmac issuer sessionId videoId now random) := by
  unfold IssuerState.issueCall
  split
  · exact inv
  · rename_i payload token issued
    exact {
      issued := by
        intro p hp
        rcases List.mem_append.1 hp with old | new
        · exact inv.issued p old
        · rw [List.mem_singleton.1 new]
          exact issue_legal issued
      waiting := fun call h => (inv.waiting call h).grow
      returned := fun r h => (show Signed _ _ _ _ from inv.returned r h).grow }

theorem SignedInv.checkCall (inv : SignedInv hmac issuer s) {token : String} {now : ℕ}
    (unforged : Unforged hmac issuer s (.check token now)) :
    SignedInv hmac issuer (s.checkCall hmac issuer token now) := by
  unfold IssuerState.checkCall
  split
  · exact inv
  · rename_i claims checked
    obtain ⟨parts, authentic, claimed⟩ := consumeCheck_spec checked
    obtain ⟨p, issued, text⟩ := unforged parts authentic
    have own : claims = p.claims := by
      rw [text, readClaims_encoded (inv.issued p issued)] at claimed
      exact (Option.some.inj claimed).symm
    refine ⟨inv.issued, ?_, inv.returned⟩
    intro call hcall
    rcases List.mem_append.1 hcall with old | new
    · exact inv.waiting call old
    · rw [List.mem_singleton.1 new]
      exact ⟨p, issued, ⟨parts.2, by rw [authentic, ← text]⟩, own⟩

/-- The locked section returns the claims it was entered with, and remembers the token. -/
theorem consumeLocked_some {consumed consumed' : Dict String ℕ} {token : String}
    {claims claims' : VisionTokenClaims} {now : ℕ}
    (h : consumeLocked consumed token claims now = (some claims', consumed')) :
    claims' = claims ∧ (∀ e, consumed.get? token = some e → e ≤ now) ∧
      consumed' = (consumed.filter fun _ e => now < e).set token claims.expiresAt := by
  unfold consumeLocked at h
  dsimp only at h
  split at h
  · cases h
  · rename_i absent
    cases h
    refine ⟨rfl, ?_, rfl⟩
    intro e held
    by_contra late
    rw [Dict.get?_filter, held, Option.filter_some, if_pos (decide_eq_true (not_le.1 late))] at absent
    cases absent

theorem consumeLocked_none {consumed consumed' : Dict String ℕ} {token : String}
    {claims : VisionTokenClaims} {now : ℕ}
    (h : consumeLocked consumed token claims now = (none, consumed')) :
    consumed' = consumed.filter fun _ e => now < e := by
  unfold consumeLocked at h
  dsimp only at h
  split at h <;> cases h
  rfl

theorem SignedInv.lockedCall (inv : SignedInv hmac issuer s) {call : String × VisionTokenClaims}
    (own : Signed hmac issuer s.issued call) (now : ℕ) :
    SignedInv hmac issuer (s.lockedCall call now) := by
  unfold IssuerState.lockedCall
  split
  · exact ⟨inv.issued, inv.waiting, inv.returned⟩
  · rename_i claims consumed result
    obtain ⟨rfl, -, -⟩ := consumeLocked_some result
    refine ⟨inv.issued, inv.waiting, ?_⟩
    intro r hr
    rcases List.mem_append.1 hr with old | new
    · exact inv.returned r old
    · rw [List.mem_singleton.1 new]
      exact own

/-- **Without forged signatures every returned claim was signed**, in every order of the steps. -/
theorem SignedInv.step (inv : SignedInv hmac issuer s) (unforged : Unforged hmac issuer s l)
    (h : issuerStep hmac issuer s l = some t) : SignedInv hmac issuer t := by
  have forward := issuerStep_forward h
  have ticked : SignedInv hmac issuer { s with clock := l.now } :=
    ⟨inv.issued, inv.waiting, inv.returned⟩
  rw [issuerStep, if_neg (not_lt.2 forward)] at h
  cases l with
  | issue sessionId videoId now random =>
    cases h
    exact ticked.issueCall sessionId videoId now random
  | check token now =>
    cases h
    exact ticked.checkCall unforged
  | locked i now =>
    obtain ⟨call, hi, rfl⟩ := Option.map_eq_some_iff.1 h
    have known := List.mem_of_getElem? hi
    refine SignedInv.lockedCall (s := { s with clock := now, waiting := s.waiting.eraseIdx i })
      ⟨inv.issued, ?_, inv.returned⟩ (inv.waiting call known) now
    intro other hother
    exact inv.waiting other (List.mem_of_mem_eraseIdx hother)

/-! ## At most one call -/

/-- A waiting or returned call: its signature is spelled as issued, and its claims are the ones its
text carries. -/
def Spelled (hmac : String → String → Bytes) (issuer : SignedVisionTokenIssuer)
    (call : String × VisionTokenClaims) : Prop :=
  ∃ text, authenticParts hmac issuer call.1 = some (text, encode (sign hmac issuer text)) ∧
    readClaims text = some call.2

/-- One text has one spelling and one expiry. -/
theorem Spelled.same {call other : String × VisionTokenClaims} {p : Payload}
    (h : Spelled hmac issuer call) (h' : Spelled hmac issuer other)
    (carries : Carries hmac issuer call.1 p) (carries' : Carries hmac issuer other.1 p) :
    call = other := by
  obtain ⟨text, authentic, claims⟩ := h
  obtain ⟨text', authentic', claims'⟩ := h'
  obtain ⟨_, hp⟩ := carries
  obtain ⟨_, hp'⟩ := carries'
  have first : text = p.encoded := congrArg Prod.fst (Option.some.inj (authentic.symm.trans hp))
  have second : text' = p.encoded := congrArg Prod.fst (Option.some.inj (authentic'.symm.trans hp'))
  obtain rfl : text = text' := first.trans second.symm
  have token : call.1 = other.1 :=
    (authenticParts_spec authentic).trans (authenticParts_spec authentic').symm
  exact Prod.ext token (Option.some.inj (claims.symm.trans claims'))

/-- What holds in a run that spells every signature as issued and enters no lock late. A returned
token is remembered for as long as a call could still return it. -/
structure OnceInv (hmac : String → String → Bytes) (issuer : SignedVisionTokenIssuer)
    (s : IssuerState) : Prop where
  waiting : ∀ call ∈ s.waiting, Spelled hmac issuer call
  returned : ∀ r ∈ s.returned, Spelled hmac issuer r
  remembered : ∀ r ∈ s.returned,
    s.consumed.get? r.1 = some r.2.expiresAt ∨ r.2.expiresAt ≤ s.clock
  once : s.returned.Nodup

/-- Pruning at a later clock keeps what a call could still return. -/
theorem OnceInv.pruned (inv : OnceInv hmac issuer s) {now : ℕ} (forward : s.clock ≤ now)
    {r : String × VisionTokenClaims} (hr : r ∈ s.returned) :
    (s.consumed.filter fun _ e => now < e).get? r.1 = some r.2.expiresAt ∨ r.2.expiresAt ≤ now := by
  rcases inv.remembered r hr with held | past
  · by_cases live : now < r.2.expiresAt
    · left
      rw [Dict.get?_filter, held, Option.filter_some, if_pos (decide_eq_true live)]
    · exact .inr (not_lt.1 live)
  · exact .inr (past.trans forward)

theorem OnceInv.lockedCall (inv : OnceInv hmac issuer s) {call : String × VisionTokenClaims}
    (own : Spelled hmac issuer call) {now : ℕ} (clock : s.clock = now)
    (inTime : now < call.2.expiresAt) : OnceInv hmac issuer (s.lockedCall call now) := by
  have pruned {r : String × VisionTokenClaims} (hr : r ∈ s.returned) := inv.pruned clock.le hr
  unfold IssuerState.lockedCall
  split
  · rename_i consumed result
    rw [consumeLocked_none result]
    refine ⟨inv.waiting, inv.returned, ?_, inv.once⟩
    intro r hr
    exact clock ▸ pruned hr
  · rename_i claims consumed result
    obtain ⟨same, unknown, after⟩ := consumeLocked_some result
    subst same after
    -- the token is new: a returned one with the same text is still remembered
    have fresh : ∀ r ∈ s.returned, r.1 ≠ call.1 := by
      intro r hr token
      obtain ⟨text, authentic, read⟩ := inv.returned r hr
      obtain ⟨text', authentic', read'⟩ := own
      rw [token, authentic'] at authentic
      have text : text' = text := congrArg Prod.fst (Option.some.inj authentic)
      have expiry : r.2 = call.2 := by
        rw [text, read] at read'
        exact Option.some.inj read'
      rcases inv.remembered r hr with held | past
      · have := unknown _ (token ▸ held)
        rw [expiry] at this
        omega
      · rw [expiry, clock] at past
        omega
    refine ⟨inv.waiting, ?_, ?_, ?_⟩
    · intro r hr
      rcases List.mem_append.1 hr with old | new
      · exact inv.returned r old
      · rw [List.mem_singleton.1 new]
        exact own
    · intro r hr
      rcases List.mem_append.1 hr with old | new
      · rcases pruned old with held | past
        · left
          dsimp only
          rw [Dict.get?_set_ne _ (fresh r old), held]
        · exact .inr (clock ▸ past)
      · rw [List.mem_singleton.1 new]
        exact .inl (Dict.get?_set_self _ _ _)
    · dsimp only
      rw [List.nodup_append]
      refine ⟨inv.once, List.nodup_singleton _, ?_⟩
      intro r hr r' hr' same
      rw [List.mem_singleton.1 hr'] at same
      exact fresh r hr (congrArg Prod.fst same)

theorem OnceInv.step (inv : OnceInv hmac issuer s) (guard : SpelledInTime hmac issuer s l)
    (h : issuerStep hmac issuer s l = some t) : OnceInv hmac issuer t := by
  have forward := issuerStep_forward h
  have ticked : OnceInv hmac issuer { s with clock := l.now } := {
    waiting := inv.waiting
    returned := inv.returned
    remembered := fun r hr => (inv.remembered r hr).imp_right fun past => past.trans forward
    once := inv.once }
  rw [issuerStep, if_neg (not_lt.2 forward)] at h
  cases l with
  | issue sessionId videoId now random =>
    cases h
    unfold IssuerState.issueCall
    split <;> exact ⟨ticked.waiting, ticked.returned, ticked.remembered, ticked.once⟩
  | check token now =>
    cases h
    unfold IssuerState.checkCall
    split
    · exact ticked
    · rename_i claims checked
      obtain ⟨parts, authentic, claimed⟩ := consumeCheck_spec checked
      refine ⟨?_, ticked.returned, ticked.remembered, ticked.once⟩
      intro call hcall
      rcases List.mem_append.1 hcall with old | new
      · exact inv.waiting call old
      · rw [List.mem_singleton.1 new]
        exact ⟨parts.1, by rw [authentic, ← guard parts authentic], claimed⟩
  | locked i now =>
    obtain ⟨call, hi, rfl⟩ := Option.map_eq_some_iff.1 h
    have known := List.mem_of_getElem? hi
    refine OnceInv.lockedCall (s := { s with clock := now, waiting := s.waiting.eraseIdx i })
      ⟨?_, ticked.returned, ticked.remembered, ticked.once⟩ (inv.waiting call known) rfl
      (guard call hi)
    intro other hother
    exact inv.waiting other (List.mem_of_mem_eraseIdx hother)

/-- A list without repetitions holds one entry a token can carry the payload's text with. -/
theorem OnceInv.returnedOnce (inv : OnceInv hmac issuer s) : ReturnedOnce hmac issuer s := by
  intro p _
  have same : ∀ r ∈ s.returned.filter fun r => decide (Carries hmac issuer r.1 p),
      ∀ r' ∈ s.returned.filter fun r => decide (Carries hmac issuer r.1 p), r = r' := by
    intro r hr r' hr'
    obtain ⟨hr, carries⟩ := List.mem_filter.1 hr
    obtain ⟨hr', carries'⟩ := List.mem_filter.1 hr'
    exact (inv.returned r hr).same (inv.returned r' hr') (of_decide_eq_true carries)
      (of_decide_eq_true carries')
  have nodup := inv.once.filter fun r => decide (Carries hmac issuer r.1 p)
  cases hl : s.returned.filter fun r => decide (Carries hmac issuer r.1 p) with
  | nil => exact Nat.zero_le _
  | cons r rest =>
    cases rest with
    | nil => exact le_rfl
    | cons r' rest =>
      rw [hl] at same nodup
      have equal := same r List.mem_cons_self r' (List.mem_cons_of_mem _ List.mem_cons_self)
      exact absurd (equal ▸ List.mem_cons_self) (List.nodup_cons.1 nodup).1

end

/-! ## Runs on a small issuer -/

/-- An issuer with a minute of validity. -/
def smallIssuer : SignedVisionTokenIssuer where
  secret := "0123456789abcdef0123456789abcdef"
  ttl := 60000000
  secretOk := by decide +kernel
  ttlOk := by decide

/-- A digest of the right length. -/
def smallDigest (key text : String) : Bytes :=
  (utf8Encode (key ++ text) ++ List.replicate 32 0).take 32

/-- What the small issuer signs at the moment zero. -/
def smallPayload : Payload where
  sid := "session-0001"
  vid := "video-0001"
  exp := 60
  jti := encode (List.replicate 16 0)

def smallSignature : String := encode (sign smallDigest smallIssuer smallPayload.encoded)

def smallToken : String := smallPayload.encoded ++ "." ++ smallSignature

theorem smallPayload_legal : smallPayload.Legal :=
  ⟨by decide +kernel, by decide +kernel, by decide, _, rfl⟩

theorem length_smallDigest (key text : String) : (smallDigest key text).length = 32 := by
  rw [smallDigest, List.length_take, List.length_append, List.length_replicate]
  omega

theorem smallToken_issued : issue smallDigest smallIssuer "session-0001" "video-0001" 0
    (List.replicate 16 0) =
      some (smallPayload, ⟨"session-0001", "video-0001", smallToken, 60000000⟩) := by
  rw [issue, if_neg (by decide +kernel)]
  dsimp only
  rw [if_neg (by decide)]
  rfl

/-- The token, and the token with a padding character, carry the signature. -/
theorem smallToken_authentic :
    authenticParts smallDigest smallIssuer smallToken =
      some (smallPayload.encoded, smallSignature) ∧
    authenticParts smallDigest smallIssuer (smallToken ++ "=") =
      some (smallPayload.encoded, smallSignature ++ "=") := by
  have payload := encode_text (utf8Encode (Json.dumps (.obj smallPayload.members)))
  have signature := encode_text (sign smallDigest smallIssuer smallPayload.encoded)
  constructor
  · exact authenticParts_of payload.1 signature.1 payload.2 (decode_encode _)
  · rw [smallToken, String.append_assoc]
    refine authenticParts_of payload.1 ?_ payload.2 (decode_padded ?_)
    · rw [String.toList_append, List.mem_append, not_or]
      exact ⟨signature.1, by decide⟩
    · rw [sign, length_smallDigest]

theorem length_smallToken : smallToken.length = 152 := by
  have text : (utf8Encode (Json.dumps (.obj smallPayload.members))).length = 81 := by
    decide +kernel
  have payload : smallPayload.encoded.length = 108 := by
    rw [Payload.encoded, encode, urlsafeEncode, String.length_ofList, length_encode, text]
  have signature : smallSignature.length = 43 := by
    rw [smallSignature, encode, urlsafeEncode, String.length_ofList, length_encode, sign,
      length_smallDigest]
  rw [smallToken, String.length_append, String.length_append, payload, signature]
  decide

/-- Both spellings pass the check until the expiry. -/
theorem smallToken_checked {now : ℕ} (inTime : now < 60000000) :
    consumeCheck smallDigest smallIssuer smallToken now = some smallPayload.claims ∧
    consumeCheck smallDigest smallIssuer (smallToken ++ "=") now = some smallPayload.claims := by
  have short := length_smallToken
  constructor
  · refine consumeCheck_issued smallPayload_legal smallToken_authentic.1 ?_ inTime
    rw [← smallToken]
    omega
  · have padded := smallToken_authentic.2
    rw [smallToken, String.append_assoc] at padded ⊢
    refine consumeCheck_issued smallPayload_legal padded ?_ inTime
    rw [← String.append_assoc, ← smallToken, String.length_append, short]
    decide

section
variable {hmac : String → String → Bytes} {issuer : SignedVisionTokenIssuer} {s : IssuerState}

theorem issuerStep_issue {sessionId videoId : String} {now : ℕ} {random : Bytes} {p : Payload}
    {token : StreamToken} (forward : s.clock ≤ now)
    (h : issue hmac issuer sessionId videoId now random = some (p, token)) :
    issuerStep hmac issuer s (.issue sessionId videoId now random) =
      some { s with clock := now, issued := s.issued ++ [p] } := by
  simp only [issuerStep, IssuerStep.now, if_neg (not_lt.2 forward), IssuerState.issueCall, h]

theorem issuerStep_check {token : String} {now : ℕ} {claims : VisionTokenClaims}
    (forward : s.clock ≤ now) (h : consumeCheck hmac issuer token now = some claims) :
    issuerStep hmac issuer s (.check token now) =
      some { s with clock := now, waiting := s.waiting ++ [(token, claims)] } := by
  simp only [issuerStep, IssuerStep.now, if_neg (not_lt.2 forward), IssuerState.checkCall, h]

/-- What a waiting call finds at its lock when its token is not remembered. -/
theorem issuerStep_locked {i now : ℕ} {call : String × VisionTokenClaims} (forward : s.clock ≤ now)
    (hi : s.waiting[i]? = some call) (unknown : s.consumed.get? call.1 = none) :
    issuerStep hmac issuer s (.locked i now) =
      some { s with
        clock := now
        waiting := s.waiting.eraseIdx i
        consumed := (s.consumed.filter fun _ e => now < e).set call.1 call.2.expiresAt
        returned := s.returned ++ [call] } := by
  have result : consumeLocked s.consumed call.1 call.2 now =
      (some call.2, (s.consumed.filter fun _ e => now < e).set call.1 call.2.expiresAt) := by
    rw [consumeLocked, Dict.get?_filter, unknown]
    rfl
  simp only [issuerStep, IssuerStep.now, if_neg (not_lt.2 forward), hi, Option.map_some,
    IssuerState.lockedCall, result]

end

/-! ## One-time tokens -/

/-- **One-time tokens.** Without forged signatures every returned claim is that of an issued payload;
and when moreover every signature is spelled as issued and no call enters the lock at or after the
expiry, no payload is returned twice. -/
theorem tokens_once (hmac : String → String → Bytes) (issuer : SignedVisionTokenIssuer)
    {ls : List IssuerStep} {s : IssuerState}
    (run : Lts.Steps (issuerStep hmac issuer)
      (fun s l => Unforged hmac issuer s l ∧ SpelledInTime hmac issuer s l) {} ls s) :
    ReturnedOnce hmac issuer s ∧ ReturnedSigned hmac issuer s := by
  have both : OnceInv hmac issuer s ∧ SignedInv hmac issuer s := by
    refine run.invariant (P := fun s => OnceInv hmac issuer s ∧ SignedInv hmac issuer s) ?_ ⟨?_, ?_⟩
    · rintro s l t ⟨once, signed⟩ ⟨unforged, spelled⟩ h
      exact ⟨once.step spelled h, signed.step unforged h⟩
    · exact ⟨List.forall_mem_nil _, List.forall_mem_nil _, List.forall_mem_nil _, List.nodup_nil⟩
    · exact ⟨List.forall_mem_nil _, List.forall_mem_nil _, List.forall_mem_nil _⟩
  exact ⟨both.1.returnedOnce, both.2.returned⟩

/-- The token is presented once, in time and as it was issued. -/
theorem tokens_once_small : ∃ s, Lts.Steps (issuerStep smallDigest smallIssuer)
      (fun s l => Unforged smallDigest smallIssuer s l ∧ SpelledInTime smallDigest smallIssuer s l) {}
      [.issue "session-0001" "video-0001" 0 (List.replicate 16 0), .check smallToken 1,
        .locked 0 2] s ∧
    s.returned = [(smallToken, smallPayload.claims)] ∧
    ReturnedOnce smallDigest smallIssuer s ∧ ReturnedSigned smallDigest smallIssuer s := by
  have authentic := smallToken_authentic.1
  have unforged (s : IssuerState) (known : s.issued = [smallPayload]) (now : ℕ) :
      Unforged smallDigest smallIssuer s (.check smallToken now) := by
    intro parts h
    rw [authentic] at h
    exact ⟨smallPayload, known ▸ List.mem_cons_self, (congrArg Prod.fst (Option.some.inj h)).symm⟩
  have spelled (s : IssuerState) (now : ℕ) :
      SpelledInTime smallDigest smallIssuer s (.check smallToken now) := by
    intro parts h
    rw [authentic] at h
    rw [← Option.some.inj h]
    rfl
  have inTime (s : IssuerState) (waiting : s.waiting = [(smallToken, smallPayload.claims)]) :
      SpelledInTime smallDigest smallIssuer s (.locked 0 2) := by
    intro call hcall
    rw [waiting] at hcall
    cases hcall
    decide
  obtain ⟨s, run, returned⟩ : ∃ s, Lts.Steps (issuerStep smallDigest smallIssuer)
      (fun s l => Unforged smallDigest smallIssuer s l ∧ SpelledInTime smallDigest smallIssuer s l) {}
      [.issue "session-0001" "video-0001" 0 (List.replicate 16 0), .check smallToken 1,
        .locked 0 2] s ∧
      s.returned = [(smallToken, smallPayload.claims)] :=
    ⟨_, .cons ⟨trivial, trivial⟩ (issuerStep_issue le_rfl smallToken_issued)
      (.cons ⟨unforged _ rfl 1, spelled _ 1⟩
        (issuerStep_check (Nat.zero_le 1) (smallToken_checked (by decide)).1)
        (.cons ⟨trivial, inTime _ rfl⟩ (issuerStep_locked (by decide) rfl rfl) (.nil _))), rfl⟩
  exact ⟨s, run, returned, tokens_once smallDigest smallIssuer run⟩

/-- A second call returns the same claims when it presents the token with a padding character. -/
theorem token_respelled : ∃ s, Lts.Steps (issuerStep smallDigest smallIssuer)
      (Unforged smallDigest smallIssuer) {}
      [.issue "session-0001" "video-0001" 0 (List.replicate 16 0), .check smallToken 1, .locked 0 2,
        .check (smallToken ++ "=") 3, .locked 0 4] s ∧
    ¬ ReturnedOnce smallDigest smallIssuer s := by
  have unforged (s : IssuerState) (known : s.issued = [smallPayload]) (now : ℕ)
      {token signature : String} (authentic : authenticParts smallDigest smallIssuer token =
        some (smallPayload.encoded, signature)) :
      Unforged smallDigest smallIssuer s (.check token now) := by
    intro parts h
    rw [authentic] at h
    exact ⟨smallPayload, known ▸ List.mem_cons_self, (congrArg Prod.fst (Option.some.inj h)).symm⟩
  have other : smallToken ≠ smallToken ++ "=" := by
    intro same
    have := congrArg String.length same
    rw [String.length_append, length_smallToken] at this
    exact absurd this (by decide)
  obtain ⟨s, run, issued, returned⟩ : ∃ s, Lts.Steps (issuerStep smallDigest smallIssuer)
      (Unforged smallDigest smallIssuer) {}
      [.issue "session-0001" "video-0001" 0 (List.replicate 16 0), .check smallToken 1, .locked 0 2,
        .check (smallToken ++ "=") 3, .locked 0 4] s ∧ s.issued = [smallPayload] ∧
      s.returned = [(smallToken, smallPayload.claims), (smallToken ++ "=", smallPayload.claims)] :=
    ⟨_, .cons trivial (issuerStep_issue le_rfl smallToken_issued)
      (.cons (unforged _ rfl 1 smallToken_authentic.1)
        (issuerStep_check (Nat.zero_le 1) (smallToken_checked (by decide)).1)
        (.cons trivial (issuerStep_locked (by decide) rfl rfl)
          (.cons (unforged _ rfl 3 smallToken_authentic.2)
            (issuerStep_check (by decide) (smallToken_checked (by decide)).2)
            (.cons trivial (issuerStep_locked (by decide) rfl
              ((Dict.get?_set_ne _ other.symm _).trans rfl)) (.nil _))))), rfl, rfl⟩
  refine ⟨s, run, fun once => ?_⟩
  have first : Carries smallDigest smallIssuer smallToken smallPayload :=
    ⟨_, smallToken_authentic.1⟩
  have second : Carries smallDigest smallIssuer (smallToken ++ "=") smallPayload :=
    ⟨_, smallToken_authentic.2⟩
  have twice := once smallPayload (issued ▸ List.mem_cons_self)
  rw [returned, List.filter_eq_self.2] at twice
  · exact absurd twice (by simp)
  · intro r hr
    simp only [List.mem_cons, List.not_mem_nil, or_false] at hr
    rcases hr with rfl | rfl
    · exact decide_eq_true first
    · exact decide_eq_true second

end Mkk.Common
