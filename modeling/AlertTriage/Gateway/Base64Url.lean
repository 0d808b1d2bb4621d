import AlertTriage.Gateway.ServiceTokens

/-!
# `b64urlEncode` and `b64urlDecode` of `gateway/src/jwt.ts`

The platform's `btoa` and `atob` work on strings whose characters stand for bytes. The
encoder cuts the padding off and the decoder puts it back by the length of the text,
`"===".slice((s.length + 3) % 4)`; between them two characters of the alphabet are
exchanged. Both are the URL-safe form (`b64urlEncode_eq`, `b64urlDecode_eq`), so every
byte array is read back, and with it the three parts of a minted token
(`b64url_roundTrip`).
-/

namespace AlertTriage.Gateway

open Library

/-! ## §1  Strings of bytes -/

/-- `bin += String.fromCharCode(bytes[i])` for every byte. -/
def binaryString (bytes : List UInt8) : String :=
  bytes.foldl (fun bin b => bin.push (Char.ofNat b.toNat)) ""

/-- `bytes[i] = bin.charCodeAt(i)` for every place. -/
def charCodes (bin : String) : List UInt8 :=
  bin.toList.map fun c => UInt8.ofNat c.toNat

/-- `btoa(bin)`: a character that is no byte raises. -/
def btoa (bin : String) : Option String :=
  if bin.toList.all fun c => decide (c.toNat < 256) then
    some (String.ofList (Base64.btoa (charCodes bin)))
  else none

/-- `atob(s)`. -/
def atob (s : String) : Option String :=
  (Base64.atob s.toList).map binaryString

theorem toNat_ofNat_byte {n : ℕ} (h : n < 256) : (Char.ofNat n).toNat = n := by
  have hvalid : n.isValidChar := .inl (by omega)
  rw [Char.ofNat, dif_pos hvalid]
  rfl

theorem toList_binaryString (bytes : List UInt8) :
    (binaryString bytes).toList = bytes.map fun b => Char.ofNat b.toNat := by
  have hpush : ∀ bin : String,
      (bytes.foldl (fun bin b => bin.push (Char.ofNat b.toNat)) bin).toList =
        bin.toList ++ bytes.map fun b => Char.ofNat b.toNat := by
    induction bytes with
    | nil => intro bin; simp
    | cons b bytes ih =>
        intro bin
        rw [List.foldl_cons, ih, String.toList_push, List.map_cons, List.append_assoc]
        rfl
  exact hpush ""

theorem charCodes_binaryString (bytes : List UInt8) :
    charCodes (binaryString bytes) = bytes := by
  have hbyte : ∀ b : UInt8, UInt8.ofNat (Char.ofNat b.toNat).toNat = b := by
    intro b
    rw [toNat_ofNat_byte b.toNat_lt, UInt8.ofNat_toNat]
  rw [charCodes, toList_binaryString, List.map_map]
  exact (List.map_congr_left fun b _ => hbyte b).trans (List.map_id bytes)

/-- `btoa` takes what was made of bytes. -/
theorem btoa_binaryString (bytes : List UInt8) :
    btoa (binaryString bytes) = some (String.ofList (Base64.btoa bytes)) := by
  have hbytes : ((binaryString bytes).toList.all fun c => decide (c.toNat < 256)) = true := by
    rw [toList_binaryString, List.all_eq_true]
    intro c hc
    obtain ⟨b, -, rfl⟩ := List.mem_map.mp hc
    rw [toNat_ofNat_byte b.toNat_lt]
    exact decide_eq_true b.toNat_lt
  rw [btoa, if_pos hbytes, charCodes_binaryString]

/-! ## §2  The two functions -/

def b64urlEncode (bytes : List UInt8) : Option String :=
  (btoa (binaryString bytes)).map fun s =>
    -- `.replace(/\+/g, "-").replace(/\//g, "_").replace(/=+$/g, "")`
    String.ofList ((Base64.replaceAll '/' '_'
      (Base64.replaceAll '+' '-' s.toList)).rdropWhile (· == '='))

def b64urlEncodeStr (s : String) : Option String := b64urlEncode (utf8 s)

/-- A character beyond the basic plane counts once here and twice in JavaScript; `atob`
refuses it either way. -/
def b64urlDecode (s : String) : Option (List UInt8) :=
  let padded := Base64.replaceAll '_' '/' (Base64.replaceAll '-' '+' s.toList) ++
    "===".toList.drop ((s.toList.length + 3) % 4)
  (atob (String.ofList padded)).map charCodes

theorem b64urlEncode_eq (bytes : List UInt8) :
    b64urlEncode bytes = some (String.ofList (Base64.urlEncode bytes)) := by
  rw [b64urlEncode, btoa_binaryString, Option.map_some, String.toList_ofList,
    Base64.urlEncode_eq]

theorem b64urlDecode_eq (s : String) : b64urlDecode s = Base64.urlDecode s.toList := by
  have hpadded : Base64.replaceAll '_' '/' (Base64.replaceAll '-' '+' s.toList) ++
      "===".toList.drop ((s.toList.length + 3) % 4) =
        s.toList.map Base64.fromUrl ++ Base64.padding s.toList.length := by
    rw [Base64.replaceAll_fromUrl]
    rfl
  have hbytes : charCodes ∘ binaryString = id := by
    ext bytes : 1
    exact charCodes_binaryString bytes
  rw [b64urlDecode, hpadded, atob, String.toList_ofList, Option.map_map, hbytes,
    Option.map_id]
  rfl

/-- **Every byte array is read back.** -/
theorem b64urlDecode_b64urlEncode (bytes : List UInt8) :
    (b64urlEncode bytes).bind b64urlDecode = some bytes := by
  rw [b64urlEncode_eq, Option.bind_some, b64urlDecode_eq, String.toList_ofList]
  exact Base64.urlDecode_urlEncode bytes

/-! ## §3  Minted tokens -/

/-- `JSON.parse(dec.decode(b64urlDecode(part)))`. -/
def readPart (web : WebPlatform) (part : String) : Option Json :=
  (b64urlDecode part).bind fun bytes => jsonParse (web.textDecode bytes)

/-- An object without a repeated key or a number that is not finite is read back. -/
theorem readPart_segment (web : WebPlatform) {fields : Params}
    (hd : Json.Distinct (.obj fields)) (hf : isFinite (.obj fields) = true) :
    readPart web (String.ofList (Jws.segment jsStyle (.obj fields))) =
      some (.obj fields) := by
  rw [readPart, b64urlDecode_eq, String.toList_ofList, Jws.segment,
    Base64.urlDecode_urlEncode, Option.bind_some, textDecode_dumps, jsonParse,
    Json.loads_dumps jsStyle hd]
  exact if_pos hf

theorem MintArgs.claims_finite (args : MintArgs) (jti : String) (iat : ℕ) :
    isFinite (.obj (args.claims jti iat)) = true := by
  unfold MintArgs.claims
  cases args.reqId.filter fun r => r != "" with
  | none => rfl
  | some r => rfl

theorem ofList_intercalate_pair (h p : List Char) :
    String.ofList (['.'].intercalate [h, p]) =
      String.ofList h ++ "." ++ String.ofList p := by
  apply String.toList_injective
  simp [List.intercalate, String.toList_append]

theorem ofList_intercalate_triple (h p q : List Char) :
    String.ofList (['.'].intercalate [h, p, q]) =
      String.ofList h ++ "." ++ String.ofList p ++ "." ++ String.ofList q := by
  apply String.toList_injective
  simp [List.intercalate, String.toList_append]

/-- Base64url is read back, byte array by byte array and token by token: of what
`mintHs256` returns, `split(".")` gives the parts that were encoded, and they decode to
the header, the payload and the signature. -/
theorem b64url_roundTrip (web : WebPlatform) :
    (∀ bytes, (b64urlEncode bytes).bind b64urlDecode = some bytes) ∧
    ∀ (args : MintArgs) (jti : String) (nowMs : ℕ), ∃ header payload sig : String,
      let claims : Json := .obj (args.claims jti (nowMs / 1000))
      let code := web.hmac (utf8 args.secret) (utf8 (header ++ "." ++ payload))
      b64urlEncodeStr (Json.dumps jsStyle hs256Header) = some header ∧
      b64urlEncodeStr (Json.dumps jsStyle claims) = some payload ∧
      b64urlEncode code = some sig ∧
      mintHs256 web.hmac args jti nowMs = header ++ "." ++ payload ++ "." ++ sig ∧
      Jws.parts (mintHs256 web.hmac args jti nowMs) =
        some ⟨header.toList, payload.toList, sig.toList⟩ ∧
      readPart web header = some hs256Header ∧
      readPart web payload = some claims ∧
      b64urlDecode sig = some code := by
  refine ⟨b64urlDecode_b64urlEncode, fun args jti nowMs => ?_⟩
  let h := Jws.segment jsStyle hs256Header
  let p := Jws.segment jsStyle (.obj (args.claims jti (nowMs / 1000)))
  have hinput : Jws.signingInput h p =
      utf8 (String.ofList h ++ "." ++ String.ofList p) := by
    rw [Jws.signingInput, ofList_intercalate_pair]
  refine ⟨String.ofList h, String.ofList p, String.ofList (Base64.urlEncode
    (web.hmac (utf8 args.secret) (Jws.signingInput h p))), ?_⟩
  rw [← hinput]
  refine ⟨b64urlEncode_eq _, b64urlEncode_eq _, b64urlEncode_eq _, ?_, ?_, ?_, ?_, ?_⟩
  · exact ofList_intercalate_triple _ _ _
  · rw [mintHs256, Jws.parts_sign]
    simp only [String.toList_ofList]
    rfl
  · exact readPart_segment web (by simp [Json.Distinct, Json.DistinctFields]) rfl
  · exact readPart_segment web (args.claims_distinct jti _) (args.claims_finite jti _)
  · rw [b64urlDecode_eq, String.toList_ofList]
    exact Base64.urlDecode_urlEncode _

end AlertTriage.Gateway
