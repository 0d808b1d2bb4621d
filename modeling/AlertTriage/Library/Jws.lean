import AlertTriage.Library.Base64
import AlertTriage.Library.JsonRoundTrip

/-!
# Signed JSON in compact form

A token is three URL-safe Base64 segments joined by dots: a JSON header, a JSON
payload and the code that a keyed hash gives the first two. The hash is a
parameter throughout. What `sign` writes splits into its segments again,
carries the payload it was given and a valid signature (`parts_sign`,
`payload_sign`, `signedBy_sign`).
-/

namespace AlertTriage.Library

def utf8 (s : String) : List UInt8 := s.toByteArray.data.toList

def ofUtf8 (bs : List UInt8) : Option String := String.fromUTF8? ⟨bs.toArray⟩

theorem ofUtf8_utf8 (s : String) : ofUtf8 (utf8 s) = some s := by
  simp [ofUtf8, utf8, String.fromUTF8?, String.fromUTF8, s.isValidUTF8]

/-- A keyed hash: the key, then the message. -/
abbrev Mac := List UInt8 → List UInt8 → List UInt8

namespace Jws

/-- The three segments of a token. -/
structure Parts where
  header : List Char
  payload : List Char
  signature : List Char
deriving DecidableEq, Repr

/-- `token.split(".")`, if there are three parts. -/
def parts (token : String) : Option Parts :=
  match token.toList.splitOn '.' with
  | [header, payload, signature] => some ⟨header, payload, signature⟩
  | _ => none

/-- What is signed: the first two segments with the dot between them. -/
def signingInput (header payload : List Char) : List UInt8 :=
  utf8 (String.ofList (['.'].intercalate [header, payload]))

def compact (p : Parts) : String :=
  String.ofList (['.'].intercalate [p.header, p.payload, p.signature])

def segment (style : Json.Style) (j : Json) : List Char :=
  Base64.urlEncode (utf8 (Json.dumps style j))

/-- The token of a header and a payload under a secret. -/
def sign (mac : Mac) (style : Json.Style) (header payload : Json)
    (secret : String) : String :=
  let h := segment style header
  let p := segment style payload
  compact ⟨h, p, Base64.urlEncode (mac (utf8 secret) (signingInput h p))⟩

/-- The JSON value in a segment. -/
def readSegment (cs : List Char) : Option Json :=
  ((Base64.urlDecode cs).bind ofUtf8).bind Json.loads

def payload (token : String) : Option Json :=
  (parts token).bind fun p => readSegment p.payload

def header (token : String) : Option Json :=
  (parts token).bind fun p => readSegment p.header

/-- The signature is the hash of the other segments under the secret. -/
def signedBy (mac : Mac) (token secret : String) : Bool :=
  (parts token).any fun p =>
    Base64.urlDecode p.signature ==
      some (mac (utf8 secret) (signingInput p.header p.payload))

/-- An audience claim names the audience, as a string or in a list. -/
def audienceMatches (audience : String) : Json → Bool
  | .str s => s == audience
  | .arr items => items.any fun j => j.asStr? == some audience
  | _ => false

/-! ## What is signed is read back -/

variable (mac : Mac) (style : Json.Style) (header payload : Json)
  (secret : String)

theorem parts_compact {p : Parts} (hh : '.' ∉ p.header) (hp : '.' ∉ p.payload)
    (hs : '.' ∉ p.signature) : parts (compact p) = some p := by
  have hsplit : (['.'].intercalate
      [p.header, p.payload, p.signature]).splitOn '.' =
        [p.header, p.payload, p.signature] := by
    refine List.splitOn_intercalate '.' (fun l hl => ?_) (by simp)
    simp only [List.mem_cons, List.not_mem_nil, or_false] at hl
    rcases hl with rfl | rfl | rfl
    · exact hh
    · exact hp
    · exact hs
  rw [parts, compact, String.toList_ofList, hsplit]

/-- The segments of a signed token. -/
def signedParts : Parts :=
  let h := segment style header
  let p := segment style payload
  ⟨h, p, Base64.urlEncode (mac (utf8 secret) (signingInput h p))⟩

theorem parts_sign : parts (sign mac style header payload secret) =
    some (signedParts mac style header payload secret) :=
  parts_compact (Base64.dot_notMem_urlEncode _) (Base64.dot_notMem_urlEncode _)
    (Base64.dot_notMem_urlEncode _)

theorem sign_ne_empty : sign mac style header payload secret ≠ "" := by
  intro h
  have hp := congrArg parts h
  rw [parts_sign] at hp
  exact absurd hp (by simp [parts])

theorem readSegment_segment {j : Json} (h : Json.Distinct j) :
    readSegment (segment style j) = some j := by
  rw [readSegment, segment, Base64.urlDecode_urlEncode, Option.bind_some,
    ofUtf8_utf8, Option.bind_some, Json.loads_dumps style h]

theorem payload_sign {payload : Json} (h : Json.Distinct payload) :
    Jws.payload (sign mac style header payload secret) = some payload := by
  rw [Jws.payload, parts_sign, Option.bind_some, signedParts]
  exact readSegment_segment style h

/-- Another secret verifies what this one has signed just when the hash is the same. -/
theorem signedBy_sign_iff (secret' : String) :
    signedBy mac (sign mac style header payload secret) secret' = true ↔
      mac (utf8 secret) (signingInput (segment style header) (segment style payload)) =
        mac (utf8 secret') (signingInput (segment style header) (segment style payload)) := by
  simp [signedBy, parts_sign, signedParts, Base64.urlDecode_urlEncode]

theorem signedBy_sign :
    signedBy mac (sign mac style header payload secret) secret = true := by
  simp [signedBy, parts_sign, signedParts, Base64.urlDecode_urlEncode]

end Jws

end AlertTriage.Library
