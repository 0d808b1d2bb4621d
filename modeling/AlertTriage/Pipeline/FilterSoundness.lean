import AlertTriage.Library.JsonStrings
import AlertTriage.Pipeline.ContentFilter
import AlertTriage.Pipeline.Enrichment

/-!
# What the content filter lets through

The filter is there to keep destructive searches, addresses inside the network and windows outside
1 to 8760 hours from the tools (`Harmless`). It raises on values of a type that it does not expect
(`ReadableParams`), refuses what it finds (`RefusedCall`), and lets the rest through: it looks at addresses
for two tools only, at the first of three fields that holds anything, in the letter case of its
own list, and at hours from above only (`filterHolds_iff`).
-/

namespace AlertTriage

open Library Library.Json

/-! ## §1  What it is there for -/

/-- A string of the value holds an SSRF target, in whatever letter case. -/
def MentionsTarget (v : Json) : Prop :=
  ∃ s ∈ texts v, ∃ target ∈ ssrfTargets, target.toList <:+: s.toList.map Char.toLower

instance (v : Json) : Decidable (MentionsTarget v) :=
  inferInstanceAs (Decidable (∃ s ∈ texts v, ∃ target ∈ ssrfTargets, _ <:+: _))

def addressFields : List String := ["ioc_value", "src_ip", "dst_ip"]

/-- No address field mentions a target. -/
def AddressesHarmless (params : Params) : Prop :=
  ∀ key ∈ addressFields, ∀ v, lookup key params = some v → ¬ MentionsTarget v

/-- The window, if one is given, is between an hour and a year. -/
def HoursHarmless (params : Params) : Prop :=
  ∀ v, lookup "hours_back" params = some v →
    ∃ hours, asPyInt? v = some hours ∧ 1 ≤ hours ∧ hours ≤ 8760

/-- A call that may reach its tool. -/
structure Harmless (isWordUnicode : Char → Bool) (toolName : String) (params : Params) :
    Prop where
  spl : toolName = "query_splunk" → ∀ v, lookup "raw_spl" params = some v →
    ∀ s ∈ texts v, isDangerousSpl isWordUnicode s = false
  addresses : AddressesHarmless params
  hours : HoursHarmless params

/-- The filter answers, and lets nothing through that is not harmless. -/
def FilterHolds (isWordUnicode : Char → Bool) (toolName : String) (params : Params) : Prop :=
  ∃ safe reason, validateToolParams isWordUnicode toolName params = .ok (safe, reason) ∧
    (safe = true → Harmless isWordUnicode toolName params)

/-! ## §2  What it reads and refuses -/

/-- The tools whose addresses it looks at. -/
def AddressChecked (toolName : String) : Prop :=
  toolName = "lookup_threat_intel" ∨ toolName = "query_netflow"

instance (toolName : String) : Decidable (AddressChecked toolName) :=
  inferInstanceAs (Decidable (_ ∨ _))

/-- The fields have a type that the filter can read. -/
structure ReadableParams (toolName : String) (params : Params) : Prop where
  spl : toolName = "query_splunk" → ∀ v, lookup "raw_spl" params = some v →
    v.truthy = true → ∃ s, v = .str s
  address : AddressChecked toolName → searchable (firstTruthy params addressFields) = true

/-- The filter has something against the call. -/
inductive RefusedCall (isWordUnicode : Char → Bool) (toolName : String) (params : Params) : Prop where
  | keyword (spl : String) : toolName = "query_splunk" →
      lookup "raw_spl" params = some (.str spl) → isDangerousSpl isWordUnicode spl = true →
      RefusedCall isWordUnicode toolName params
  | target (target : String) : AddressChecked toolName → target ∈ ssrfTargets →
      pyContains target (firstTruthy params addressFields) = .ok true →
      RefusedCall isWordUnicode toolName params
  | hours (hours : ℤ) : (lookup "hours_back" params).bind asPyInt? = some hours →
      8760 < hours → RefusedCall isWordUnicode toolName params

theorem containsAny_ok {v : Json} (hv : searchable v = true) (targets : List String) :
    ∃ found, containsAny v targets = .ok found ∧
      (found = true ↔ ∃ target ∈ targets, pyContains target v = .ok true) := by
  induction targets with
  | nil => exact ⟨false, rfl, by simp⟩
  | cons target targets ih =>
      obtain ⟨b, hb⟩ := pyContains_ok hv target
      obtain ⟨found, hfound, hiff⟩ := ih
      rw [containsAny, hb]
      cases b with
      | true => exact ⟨true, rfl, by simp [hb]⟩
      | false => exact ⟨found, hfound, by simp [hb, hiff]⟩

theorem containsAny_raises {v : Json} (hv : searchable v = false) (target : String)
    (targets : List String) : ∃ e, containsAny v (target :: targets) = .error e := by
  obtain ⟨e, he⟩ := pyContains_raises hv target
  refine ⟨e, ?_⟩
  rw [containsAny, he]
  rfl

theorem splRefused_ok (isWordUnicode : Char → Bool) {params : Params}
    (h : ∀ v, lookup "raw_spl" params = some v → v.truthy = true → ∃ s, v = .str s) :
    ∃ reason, splRefused isWordUnicode params = .ok reason ∧
      (reason.isSome = true ↔ ∃ spl, lookup "raw_spl" params = some (.str spl) ∧
        isDangerousSpl isWordUnicode spl = true) := by
  unfold splRefused
  cases hraw : lookup "raw_spl" params with
  | none => exact ⟨none, rfl, by simp⟩
  | some v =>
      by_cases htruthy : v.truthy = true
      · obtain ⟨spl, rfl⟩ := h v hraw htruthy
        by_cases hspl : isDangerousSpl isWordUnicode spl = true
        · exact ⟨some _, congrArg Except.ok (if_pos hspl), by simp [hspl]⟩
        · exact ⟨none, congrArg Except.ok (if_neg hspl), by simp [hspl]⟩
      · cases v with
        | str s =>
            obtain rfl : s = "" := by simpa [truthy] using htruthy
            exact ⟨none, rfl, by simp [isDangerousSpl, findsWord]⟩
        | _ => exact ⟨none, if_neg htruthy, by simp⟩

theorem splRefused_raises (isWordUnicode : Char → Bool) {params : Params} {v : Json}
    (hraw : lookup "raw_spl" params = some v) (htruthy : v.truthy = true)
    (hv : ∀ s, v ≠ .str s) : ∃ e, splRefused isWordUnicode params = .error e := by
  unfold splRefused
  rw [hraw]
  cases v with
  | str s => exact absurd rfl (hv s)
  | _ => exact ⟨_, if_pos htruthy⟩

/-- The last check, which is made for every tool that the others let through. -/
theorem validateToolParams_hours (isWordUnicode : Char → Bool) {toolName : String}
    {params : Params}
    (hspl : toolName = "query_splunk" → splRefused isWordUnicode params = .ok none)
    (haddress : AddressChecked toolName →
      containsAny (firstTruthy params addressFields) ssrfTargets = .ok false) :
    ∃ safe reason, validateToolParams isWordUnicode toolName params = .ok (safe, reason) ∧
      (safe = false ↔ ∃ hours, (lookup "hours_back" params).bind asPyInt? = some hours ∧
        8760 < hours) := by
  have hrest : validateToolParams isWordUnicode toolName params =
      validateToolParams isWordUnicode "" params := by
    unfold validateToolParams
    by_cases htool : toolName = "query_splunk"
    · subst htool
      rw [hspl rfl]
      rfl
    · by_cases hchecked : AddressChecked toolName
      · have hfound := haddress hchecked
        unfold AddressChecked at hchecked
        rw [if_neg htool, if_pos hchecked]
        show (containsAny (firstTruthy params addressFields) ssrfTargets >>= _) = _
        rw [hfound]
        rfl
      · unfold AddressChecked at hchecked
        rw [if_neg htool, if_neg hchecked]
        rfl
  rw [hrest]
  unfold validateToolParams
  cases hhours : (lookup "hours_back" params).bind asPyInt? with
  | none => exact ⟨true, "ok", rfl, by simp⟩
  | some hours =>
      by_cases hlarge : 8760 < hours
      · exact ⟨false, "hours_back=" ++ pyStr (.int hours) ++ " exceeds maximum (8760h)",
          if_pos hlarge, by simp [hlarge]⟩
      · exact ⟨true, "ok", if_neg hlarge, by simp [hlarge]⟩

/-- What the filter answers to fields that it can read. -/
theorem validateToolParams_ok (isWordUnicode : Char → Bool) {toolName : String}
    {params : Params} (h : ReadableParams toolName params) :
    ∃ safe reason, validateToolParams isWordUnicode toolName params = .ok (safe, reason) ∧
      (safe = false ↔ RefusedCall isWordUnicode toolName params) := by
  -- the checks of the source in their order: the query, the address, the hours
  by_cases htool : toolName = "query_splunk"
  · obtain ⟨reason, hreason, hiff⟩ := splRefused_ok isWordUnicode (h.spl htool)
    have hchecked : ¬ AddressChecked toolName := by
      subst htool
      decide
    cases reason with
    | some reason =>
        obtain ⟨spl, hraw, hd⟩ := hiff.mp rfl
        refine ⟨false, reason, ?_, iff_of_true rfl (.keyword spl htool hraw hd)⟩
        unfold validateToolParams
        rw [if_pos htool, hreason]
        rfl
    | none =>
        obtain ⟨safe, reason, hok, hsafe⟩ := validateToolParams_hours isWordUnicode
          (fun _ => hreason) (fun hc => absurd hc hchecked)
        refine ⟨safe, reason, hok, hsafe.trans ⟨fun ⟨hours, hh, hl⟩ => .hours hours hh hl, ?_⟩⟩
        rintro (⟨spl, -, hraw, hd⟩ | ⟨target, hc, -, -⟩ | ⟨hours, hh, hl⟩)
        · exact absurd (hiff.mpr ⟨spl, hraw, hd⟩) (by simp)
        · exact absurd hc hchecked
        · exact ⟨hours, hh, hl⟩
  · by_cases hchecked : AddressChecked toolName
    · obtain ⟨found, hfound, hiff⟩ := containsAny_ok (h.address hchecked) ssrfTargets
      cases found with
      | true =>
          obtain ⟨target, ht, hc⟩ := hiff.mp rfl
          refine ⟨false, "SSRF target detected in IP parameter: " ++
            pyStr (firstTruthy params addressFields), ?_,
            iff_of_true rfl (.target target hchecked ht hc)⟩
          unfold AddressChecked at hchecked
          unfold validateToolParams
          rw [if_neg htool, if_pos hchecked]
          show (containsAny (firstTruthy params addressFields) ssrfTargets >>= _) = _
          rw [hfound]
          rfl
      | false =>
          obtain ⟨safe, reason, hok, hsafe⟩ := validateToolParams_hours
            isWordUnicode (fun hspl => absurd hspl htool) (fun _ => hfound)
          refine ⟨safe, reason, hok, hsafe.trans ⟨fun ⟨hours, hh, hl⟩ => .hours hours hh hl, ?_⟩⟩
          rintro (⟨spl, hspl, -, -⟩ | ⟨target, -, ht, hc⟩ | ⟨hours, hh, hl⟩)
          · exact absurd hspl htool
          · exact absurd (hiff.mpr ⟨target, ht, hc⟩) (by simp)
          · exact ⟨hours, hh, hl⟩
    · obtain ⟨safe, reason, hok, hsafe⟩ := validateToolParams_hours
        isWordUnicode (fun hspl => absurd hspl htool)
        (fun hc => absurd hc hchecked)
      refine ⟨safe, reason, hok, hsafe.trans ⟨fun ⟨hours, hh, hl⟩ => .hours hours hh hl, ?_⟩⟩
      rintro (⟨spl, hspl, -, -⟩ | ⟨target, hc, -, -⟩ | ⟨hours, hh, hl⟩)
      · exact absurd hspl htool
      · exact absurd hc hchecked
      · exact ⟨hours, hh, hl⟩

/-- What it cannot read, it raises on. -/
theorem validateToolParams_raises (isWordUnicode : Char → Bool) {toolName : String}
    {params : Params} (h : ¬ ReadableParams toolName params) :
    ∃ e, validateToolParams isWordUnicode toolName params = .error e := by
  by_cases htool : toolName = "query_splunk"
  · have hraw : ∃ v, lookup "raw_spl" params = some v ∧ v.truthy = true ∧ ∀ s, v ≠ .str s := by
      by_contra hraw
      refine h ⟨fun _ v hv htruthy => ?_, fun hc => ?_⟩
      · by_contra hs
        exact hraw ⟨v, hv, htruthy, fun s hstr => hs ⟨s, hstr⟩⟩
      · subst htool
        exact absurd hc (by decide)
    obtain ⟨v, hv, htruthy, hstr⟩ := hraw
    obtain ⟨e, he⟩ := splRefused_raises isWordUnicode hv htruthy hstr
    refine ⟨e, ?_⟩
    unfold validateToolParams
    rw [if_pos htool, he]
    rfl
  · have hchecked : AddressChecked toolName ∧
        searchable (firstTruthy params addressFields) = false := by
      by_contra hc
      refine h ⟨fun hspl => absurd hspl htool, fun hchecked => ?_⟩
      exact Bool.eq_true_of_not_eq_false fun hfalse => hc ⟨hchecked, hfalse⟩
    obtain ⟨hchecked, hsearch⟩ := hchecked
    obtain ⟨e, he⟩ := containsAny_raises hsearch "169.254.169.254" ssrfTargets.tail
    refine ⟨e, ?_⟩
    unfold AddressChecked at hchecked
    unfold validateToolParams
    rw [if_neg htool, if_pos hchecked]
    show (containsAny (firstTruthy params addressFields)
      ("169.254.169.254" :: ssrfTargets.tail) >>= _) = _
    rw [he]
    rfl

/-! ## §3  When it holds -/

theorem texts_falsy {v : Json} (h : v.truthy = false) : ∀ s ∈ texts v, s = "" := by
  cases v with
  | str s => simpa [texts, truthy] using h
  | arr items =>
      obtain rfl : items = [] := by simpa [truthy] using h
      simp [texts, textsItems]
  | obj fields =>
      obtain rfl : fields = [] := by simpa [truthy] using h
      simp [texts, textsFields]
  | _ => simp [texts]

/-- A call that it can read and has nothing against holds no keyword. -/
theorem spl_harmless {isWordUnicode : Char → Bool} {toolName : String} {params : Params}
    (hread : ReadableParams toolName params) (hr : ¬ RefusedCall isWordUnicode toolName params)
    (htool : toolName = "query_splunk") {v : Json} (hv : lookup "raw_spl" params = some v) :
    ∀ s ∈ texts v, isDangerousSpl isWordUnicode s = false := by
  intro s hs
  by_cases htruthy : v.truthy = true
  · obtain ⟨spl, rfl⟩ := hread.spl htool v hv htruthy
    obtain rfl : s = spl := List.mem_singleton.mp hs
    by_contra hspl
    exact hr (.keyword s htool hv (Bool.eq_true_of_not_eq_false hspl))
  · rw [texts_falsy (Bool.eq_false_of_not_eq_true htruthy) s hs]
    rfl

/-- **When the filter holds**: the fields have types that it can read, and it finds something, or
no address field mentions a target in any letter case and the window is within its bounds. -/
theorem filterHolds_iff (isWordUnicode : Char → Bool) (toolName : String) (params : Params) :
    FilterHolds isWordUnicode toolName params ↔
      ReadableParams toolName params ∧ (RefusedCall isWordUnicode toolName params ∨
        AddressesHarmless params ∧ HoursHarmless params) := by
  constructor
  · rintro ⟨safe, reason, hok, hsafe⟩
    have hread : ReadableParams toolName params := by
      by_contra hread
      obtain ⟨e, he⟩ := validateToolParams_raises isWordUnicode hread
      cases he.symm.trans hok
    refine ⟨hread, ?_⟩
    obtain ⟨safe', reason', hok', hrefused⟩ :=
      validateToolParams_ok isWordUnicode hread
    obtain ⟨rfl, -⟩ := Prod.mk.inj (Except.ok.inj (hok.symm.trans hok'))
    cases safe with
    | false => exact .inl (hrefused.mp rfl)
    | true => exact .inr ⟨(hsafe rfl).addresses, (hsafe rfl).hours⟩
  · rintro ⟨hread, hcond⟩
    obtain ⟨safe, reason, hok, hrefused⟩ :=
      validateToolParams_ok isWordUnicode hread
    refine ⟨safe, reason, hok, fun hsafe => ?_⟩
    have hr : ¬ RefusedCall isWordUnicode toolName params := by
      intro hr
      rw [hrefused.mpr hr] at hsafe
      cases hsafe
    rcases hcond with hr' | ⟨haddresses, hhours⟩
    · exact absurd hr' hr
    · exact ⟨fun htool v hv => spl_harmless hread hr htool hv, haddresses, hhours⟩

/-- The address of the cloud's metadata service in the second field. -/
def metadataParams : Params :=
  [("query_type", .str "beacon_detection"), ("src_ip", .str "10.0.0.5"),
    ("dst_ip", .str "169.254.169.254")]

theorem metadata_let_through :
    ¬ ∀ (isWordUnicode : Char → Bool) (toolName : String) (params : Params),
      toolName ∈ toolRegistry → FilterHolds isWordUnicode toolName params := by
  intro h
  obtain ⟨safe, reason, hok, hsafe⟩ :=
    h (fun _ => false) "query_netflow" metadataParams (by decide)
  have hpass : validateToolParams (fun _ => false) "query_netflow" metadataParams =
      .ok (true, "ok") := by decide +kernel
  obtain ⟨rfl, -⟩ := Prod.mk.inj (Except.ok.inj (hok.symm.trans hpass))
  exact (hsafe rfl).addresses "dst_ip" (by decide) (.str "169.254.169.254") rfl
    (by decide +kernel)

end AlertTriage
