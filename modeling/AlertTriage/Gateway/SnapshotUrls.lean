import AlertTriage.Library.UrlPath

/-!
# The URLs of a snapshot

`fetchSnapshot` of the gateway and the BFF's snapshot route both put the alert
id into `/api/alerts/${alertId}/snapshot` as it is and leave the rest to the
URL parser. The request goes to the snapshot endpoint of that alert exactly for
the ids that the parser takes as one plain segment (`snapshot_url_iff`).
-/

namespace AlertTriage.Gateway

open Library Library.Url

/-! ## §1  The two requests -/

/-- `` `/api/alerts/${alertId}/snapshot` ``. -/
def snapshotReference (alertId : Utf16) : Utf16 :=
  utf16 "/api/alerts/".toList ++ alertId ++ utf16 "/snapshot".toList

/-- The URL that `fetchSnapshot` requests with the gateway's token. -/
def fetchSnapshotUrl (bffBaseUrl : Location) (alertId : Utf16) :
    Option Location :=
  resolve bffBaseUrl (snapshotReference alertId)

/-- The BFF's snapshot route, once the gateway token is admitted: its refusal
or the URL that it requests with an ingest token. -/
def snapshotRoute (socApiBaseUrl : Location) (alertId : Utf16) :
    Except (ℕ × String) (Option Location) :=
  if alertId = [] ∨ 256 < alertId.length then .error (400, "invalid_alert_id")
  else .ok (resolve socApiBaseUrl (snapshotReference alertId))

/-- The URL is that of the snapshot endpoint of this alert, on the origin. -/
def IsSnapshotOf (base : Location) (alertId : Utf16) (url : Location) : Prop :=
  url.origin = base.origin ∧ ∃ segment text,
    url.path = ["api".toList, "alerts".toList, segment, "snapshot".toList] ∧
      percentDecode segment = utf8Bytes text ∧ utf16 text = alertId

/-! ## §2  Plain ids -/

/-- The text is one segment to the parser, and stays what it is. -/
structure PlainText (text : List Char) : Prop where
  no_slash : ∀ c ∈ text, isSlash c = false
  no_end : ∀ c ∈ text, endsPath c = false
  no_newline : ∀ c ∈ text, isTabOrNewline c = false
  no_escape : hasEscape text = false
  not_dot : text ≠ ['.']
  not_dots : text ≠ ['.', '.']

/-- The conditions on single characters, evaluated. -/
def plainChars (text : List Char) : Bool :=
  text.all fun c => !(isSlash c || endsPath c || isTabOrNewline c)

instance (text : List Char) : Decidable (PlainText text) :=
  decidable_of_iff (plainChars text = true ∧ hasEscape text = false ∧
      text ≠ ['.'] ∧ text ≠ ['.', '.']) (by
    simp only [plainChars, List.all_eq_true, Bool.not_eq_true', Bool.or_eq_false_iff]
    constructor
    · rintro ⟨hchars, hesc, hd, hdd⟩
      exact ⟨fun c hc => (hchars c hc).1.1, fun c hc => (hchars c hc).1.2,
        fun c hc => (hchars c hc).2, hesc, hd, hdd⟩
    · intro h
      exact ⟨fun c hc => ⟨⟨h.no_slash c hc, h.no_end c hc⟩, h.no_newline c hc⟩,
        h.no_escape, h.not_dot, h.not_dots⟩)

/-- The id is well-formed text with no slash, backslash, question mark, hash,
tab or newline and no `%` before two hexadecimal digits, and it is neither `.`
nor `..`. -/
def PlainAlertId (alertId : Utf16) : Prop :=
  utf16 (scalarValues alertId) = alertId ∧ PlainText (scalarValues alertId)

instance (alertId : Utf16) : Decidable (PlainAlertId alertId) :=
  inferInstanceAs (Decidable (_ ∧ _))

/-- What is left of a text when tabs and newlines are gone. -/
def keptText (text : List Char) : List Char :=
  text.filter fun c => !isTabOrNewline c

theorem scalarValues_snapshotReference (alertId : Utf16) :
    scalarValues (snapshotReference alertId) =
      "/api/alerts/".toList ++ scalarValues alertId ++ "/snapshot".toList := by
  have hslash : utf16 "/snapshot".toList = 0x2F :: utf16 "snapshot".toList := by
    decide
  rw [snapshotReference, List.append_assoc, scalarValues_utf16_append, hslash,
    scalarValues_append alertId (by decide), ← hslash, scalarValues_utf16,
    List.append_assoc]

/-- **The path of the request**: the parser comes to the id with the two fixed
segments behind it. -/
theorem resolve_snapshotReference (base : Location) (alertId : Utf16) :
    resolve base (snapshotReference alertId) = some { base with
      path := pathState (keptText (scalarValues alertId) ++ "/snapshot".toList) []
        ["api".toList, "alerts".toList] } := by
  have hends := preprocess_of_ends (c := '/') (d := 't') (by decide) (by decide)
    ("api/alerts/".toList ++ scalarValues alertId ++ "/snapsho".toList)
  have hinput : '/' :: ("api/alerts/".toList ++ scalarValues alertId ++
      "/snapsho".toList) ++ ['t'] =
      "/api/alerts/".toList ++ scalarValues alertId ++ "/snapshot".toList := by
    simp
  have hfront : ("/api/alerts/".toList).filter (fun c => !isTabOrNewline c) =
      "/api/alerts/".toList := by decide
  have hback : ("/snapshot".toList).filter (fun c => !isTabOrNewline c) =
      "/snapshot".toList := by decide
  rw [hinput, List.filter_append, List.filter_append, hfront, hback] at hends
  rw [resolve, scalarValues_snapshotReference, hends]
  rfl

/-! ## §3  Exactly the plain ids -/

theorem length_utf8_keptText (text : List Char) :
    (utf8Bytes (keptText text)).length ≤ (utf8Bytes text).length ∧
      ((utf8Bytes (keptText text)).length = (utf8Bytes text).length →
        ∀ c ∈ text, isTabOrNewline c = false) := by
  induction text with
  | nil => simp [keptText]
  | cons c text ih =>
      obtain ⟨hle, heq⟩ := ih
      have hpos := length_utf8EncodeChar_pos c
      cases hc : isTabOrNewline c with
      | true =>
          have hkept : keptText (c :: text) = keptText text := by
            simp [keptText, hc]
          rw [hkept, utf8_cons, List.length_append]
          exact ⟨by omega, fun h => by omega⟩
      | false =>
          have hkept : keptText (c :: text) = c :: keptText text := by
            simp [keptText, hc]
          rw [hkept, utf8_cons, utf8_cons, List.length_append, List.length_append]
          refine ⟨by omega, fun h x hx => ?_⟩
          rcases List.mem_cons.mp hx with rfl | hx
          · exact hc
          · exact heq (by omega) x hx

/-- The path behind the two fixed segments. -/
def snapshotPath (text : List Char) : Path :=
  pathState (text ++ "/snapshot".toList) [] ["api".toList, "alerts".toList]

theorem snapshotPath_chunk {text : List Char}
    (hslash : ∀ c ∈ text, isSlash c = false)
    (hends : ∀ c ∈ text, endsPath c = false) :
    snapshotPath text =
      closeSegment true (encode text) ["api".toList, "alerts".toList] ++
        ["snapshot".toList] := by
  rw [snapshotPath, pathState_chunk fun c hc => ⟨hslash c hc, hends c hc⟩]
  rfl

theorem PlainText.snapshotPath {text : List Char} (h : PlainText text) :
    snapshotPath text =
      ["api".toList, "alerts".toList, encode text, "snapshot".toList] := by
  have hdec := percentDecode_encode h.no_escape
  have hsingle : isSingleDot (encode text) = false := by
    by_contra hdot
    have hdot' := percentDecode_singleDot (by simpa using hdot)
    exact h.not_dot (utf8_injective (hdec.symm.trans hdot'))
  have hdouble : isDoubleDot (encode text) = false := by
    by_contra hdots
    have hdots' := percentDecode_doubleDot (by simpa using hdots)
    exact h.not_dots (utf8_injective (hdec.symm.trans hdots'))
  rw [snapshotPath_chunk h.no_slash h.no_end, closeSegment_plain hsingle hdouble]
  rfl

/-- **A path that stands for the whole id** leaves the parser nothing to drop. -/
theorem plainText_of_path {text segment : List Char}
    (hpath : Gateway.snapshotPath (keptText text) =
      ["api".toList, "alerts".toList, segment, "snapshot".toList])
    (hdec : percentDecode segment = utf8Bytes text) : PlainText text := by
  obtain ⟨hle, heq⟩ := pathState_cost (keptText text ++ "/snapshot".toList) []
    ["api".toList, "alerts".toList]
  obtain ⟨hkle, hkeq⟩ := length_utf8_keptText text
  -- the path costs as much as the text allows, so no step on the way lost anything
  have hcost : cost (Gateway.snapshotPath (keptText text)) =
      cost ["api".toList, "alerts".toList] + (utf8Bytes text).length + 10 := by
    have hsnapshot : percentDecode "snapshot".toList = utf8Bytes "snapshot".toList := by
      decide
    have hsum : cost ["api".toList, "alerts".toList, segment, "snapshot".toList] =
        cost ["api".toList, "alerts".toList] + (percentDecode segment).length + 1 +
          (percentDecode "snapshot".toList).length + 1 := by
      rw [← cost_append, ← cost_append]
      rfl
    rw [hpath, hsum, hdec, hsnapshot]
    rfl
  have hsuffix : (utf8Bytes "/snapshot".toList).length = 9 := by decide
  rw [show encode [] = [] from rfl, show (utf8Bytes []).length = 0 from rfl,
    length_utf8_append, hsuffix] at hle heq
  rw [Gateway.snapshotPath] at hcost
  have hnewline := hkeq (by omega)
  have hkept : keptText text = text := by
    simpa [keptText] using hnewline
  obtain ⟨hends, hlen⟩ := heq (by omega)
  rw [hkept] at hends hlen hpath
  have hslash : ∀ c ∈ text, isSlash c = false := by
    have hcount : text.countP isSlash = 0 := by
      have hone : ("/snapshot".toList).countP isSlash = 1 := by decide
      rw [← Gateway.snapshotPath, hpath, List.countP_append, hone] at hlen
      simp only [List.length_cons, List.length_nil] at hlen
      omega
    simpa [List.countP_eq_zero] using hcount
  have hends' : ∀ c ∈ text, endsPath c = false := fun c hc =>
    hends c (List.mem_append_left _ hc)
  rw [snapshotPath_chunk hslash hends'] at hpath
  have hclose : closeSegment true (encode text) ["api".toList, "alerts".toList] =
      ["api".toList, "alerts".toList, segment] :=
    (List.append_left_inj ["snapshot".toList]).mp hpath
  obtain ⟨hdouble, hsingle, rfl⟩ := closeSegment_eq_append hclose
  refine ⟨hslash, hends', hnewline, ?_, ?_, ?_⟩
  · by_contra hesc
    have hlt := (length_percentDecode_encode text).2 (by simpa using hesc)
    rw [hdec] at hlt
    exact absurd hlt (Nat.lt_irrefl _)
  · rintro rfl
    exact absurd hsingle (by decide)
  · rintro rfl
    exact absurd hdouble (by decide)

theorem resolve_isSnapshotOf_iff (base : Location) (alertId : Utf16) :
    (∃ url, resolve base (snapshotReference alertId) = some url ∧
      IsSnapshotOf base alertId url) ↔ PlainAlertId alertId := by
  constructor
  · rintro ⟨url, hurl, -, segment, text, hpath, hdec, rfl⟩
    rw [resolve_snapshotReference, scalarValues_utf16] at hurl
    obtain rfl := Option.some.inj hurl
    refine ⟨by rw [scalarValues_utf16], ?_⟩
    rw [scalarValues_utf16]
    exact plainText_of_path hpath hdec
  · rintro ⟨hwell, hplain⟩
    have hkept : keptText (scalarValues alertId) = scalarValues alertId := by
      simpa [keptText] using hplain.no_newline
    refine ⟨_, resolve_snapshotReference base alertId, rfl,
      encode (scalarValues alertId), scalarValues alertId, ?_,
      percentDecode_encode hplain.no_escape, hwell⟩
    rw [hkept]
    exact hplain.snapshotPath

/-- **The snapshot requests go to the snapshot endpoint of their alert exactly
for the plain ids**, on both hops. -/
theorem snapshot_url_iff (bffBaseUrl socApiBaseUrl : Location)
    (alertId : Utf16) :
    ((∃ url, fetchSnapshotUrl bffBaseUrl alertId = some url ∧
        IsSnapshotOf bffBaseUrl alertId url) ↔ PlainAlertId alertId) ∧
      ((∀ requested, snapshotRoute socApiBaseUrl alertId = .ok requested →
          ∃ url, requested = some url ∧ IsSnapshotOf socApiBaseUrl alertId url) ↔
        256 < alertId.length ∨ PlainAlertId alertId) := by
  refine ⟨resolve_isSnapshotOf_iff bffBaseUrl alertId, ?_⟩
  rw [← resolve_isSnapshotOf_iff socApiBaseUrl alertId]
  unfold snapshotRoute
  split
  · rename_i hrefused
    apply iff_of_true (fun _ h => by cases h)
    rcases hrefused with rfl | hlong
    · exact .inr ((resolve_isSnapshotOf_iff socApiBaseUrl []).mpr
        ⟨rfl, by decide⟩)
    · exact .inl hlong
  · rename_i hadmitted
    constructor
    · intro h
      exact .inr (h _ rfl)
    · rintro (hlong | h) requested hreq
      · exact absurd (.inr hlong) hadmitted
      · obtain rfl := Except.ok.inj hreq
        exact h

/-- Two dot segments and a question mark lead both services to `/jobs/a1`. -/
theorem snapshot_url_leaves :
    let alertId := utf16 "../../jobs/a1?".toList
    fetchSnapshotUrl ⟨"https://bff.example.com", []⟩ alertId =
        some ⟨"https://bff.example.com", ["jobs".toList, "a1".toList]⟩ ∧
      snapshotRoute ⟨"http://localhost:8000", []⟩ alertId =
        .ok (some ⟨"http://localhost:8000", ["jobs".toList, "a1".toList]⟩) ∧
      ¬ (∀ (bffBaseUrl : Location) (alertId : Utf16),
        ∃ url, fetchSnapshotUrl bffBaseUrl alertId = some url ∧
          IsSnapshotOf bffBaseUrl alertId url) ∧
      ¬ ∀ (socApiBaseUrl : Location) (alertId : Utf16), alertId.length ≤ 256 →
        ∀ requested, snapshotRoute socApiBaseUrl alertId = .ok requested →
          ∃ url, requested = some url ∧ IsSnapshotOf socApiBaseUrl alertId url := by
  refine ⟨by decide, by decide, fun h => ?_, fun h => ?_⟩
  · have hplain := (resolve_isSnapshotOf_iff _ _).mp
      (h ⟨"https://bff.example.com", []⟩ (utf16 "..".toList))
    exact absurd hplain (by decide)
  · have hplain := (resolve_isSnapshotOf_iff _ _).mp
      (h ⟨"http://localhost:8000", []⟩ (utf16 "..".toList) (by decide) _ rfl)
    exact absurd hplain (by decide)

end AlertTriage.Gateway
