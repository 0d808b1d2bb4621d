import AlertTriage.Api.OutputFilter
import AlertTriage.Ingest.WholeAlert
import AlertTriage.Pipeline.Enrichment

/-!
# `components/entity_extractor.py`

The extraction that needs no model: what the patterns find in the title and the description, and
what the observables of the finding say. Addresses found in the text are filtered by prefix,
those of observables are not (`finds_external_iff`).
-/

namespace AlertTriage

open Library

/-! ## §1  The patterns -/

/-- `25[0-5]|2[0-4]\d|[01]?\d\d?`. -/
def octetPattern (classes : CharClasses) : Pattern Char :=
  let between (lo hi : Char) : Char → Bool := fun c => decide (lo ≤ c ∧ c ≤ hi)
  .alt (.word [(· == '2'), (· == '5'), between '0' '5'])
    (.alt (.word [(· == '2'), between '0' '4', classes.digit])
      (.seq (.opt (.one (between '0' '1'))) (.seq (.one classes.digit) (.opt (.one classes.digit)))))

/-- `_IPV4_RE`. -/
def ipv4Pattern (classes : CharClasses) : Pattern Char :=
  let wordEnd := .boundary (isWord classes.isAlnum)
  let octet := octetPattern classes
  .seq wordEnd (.seq (.times 3 (.seq octet (.one (· == '.')))) (.seq octet wordEnd))

/-- `\b[a-fA-F0-9]{n}\b`. -/
def hexPattern (classes : CharClasses) (n : ℕ) : Pattern Char :=
  let wordEnd := .boundary (isWord classes.isAlnum)
  let isHex (c : Char) : Bool := c.isDigit || decide ('a' ≤ c ∧ c ≤ 'f') || decide ('A' ≤ c ∧ c ≤ 'F')
  .seq wordEnd (.seq (.times n (.one isHex)) wordEnd)

/-- `_MITRE_RE`. -/
def mitrePattern (classes : CharClasses) : Pattern Char :=
  let wordEnd := .boundary (isWord classes.isAlnum)
  let digit : Pattern Char := .one classes.digit
  .seq wordEnd (.seq (.one (· == 'T')) (.seq (.times 4 digit)
    (.seq (.opt (.seq (.one (· == '.')) (.times 3 digit))) wordEnd)))

def findTexts (r : Pattern Char) (text : String) : List String :=
  (r.findall text.toList).map String.ofList

/-! ## §2  The extraction -/

/-- The order in which a set of texts is gone through. -/
structure SetOrder where
  list : List String → List String
  perm : ∀ texts, (list texts).Perm texts.dedup

/-- `f"{alert.title} {alert.description}"`. -/
def alertText (a : WholeAlert) : String := a.title ++ " " ++ a.description

/-- `ip.startswith(("10.", "192.168.", "172."))`. -/
def hasInternalPrefix (ip : String) : Bool :=
  ["10.", "192.168.", "172."].any fun code => hasPrefix code ip

/-- The addresses that are found in the text, in order. -/
def textAddresses (classes : CharClasses) (a : WholeAlert) : List String :=
  findTexts (ipv4Pattern classes) (alertText a)

/-- The type of an observable says, in lower case, what it is. -/
def typeNames (o : ObservableEntry) (name : String) : Bool :=
  decide (name.toList <:+: (lowered o.type).toList)

/-- `"ip" in tl or "ipv4" in tl or "ipv6" in tl`. -/
def isAddressType (o : ObservableEntry) : Bool :=
  typeNames o "ip" || typeNames o "ipv4" || typeNames o "ipv6"

/-- The indicator of an observable, by its type. -/
def observableIoc (o : ObservableEntry) : Option IOCEntity :=
  if isAddressType o then some ⟨"ip", o.value⟩
  else if typeNames o "hash" && typeNames o "256" then some ⟨"hash_sha256", o.value⟩
  else if typeNames o "md5" then some ⟨"hash_md5", o.value⟩
  else if typeNames o "domain" || typeNames o "hostname" || typeNames o "host" then
    some ⟨"domain", o.value⟩
  else if typeNames o "url" then some ⟨"url", o.value⟩
  else none

/-- The observables of the finding. -/
def findingObservables (a : WholeAlert) : List ObservableEntry :=
  (a.detectionFinding.map WholeFinding.observables).getD []

/-- The `iocs` of `_heuristic_extract`. -/
def heuristicIocs (classes : CharClasses) (order : SetOrder) (a : WholeAlert) :
    List IOCEntity :=
  let ips := (order.list (textAddresses classes a)).filter fun ip => !hasInternalPrefix ip
  let hashes := order.list (findTexts (hexPattern classes 64) (alertText a))
  ips.map (fun ip => ⟨"ip", ip⟩) ++ hashes.map (fun h => ⟨"hash_sha256", h⟩) ++
    (findingObservables a).filterMap observableIoc

/-- `_heuristic_extract`. -/
def heuristicExtract (classes : CharClasses) (order : SetOrder) (a : WholeAlert) :
    ExtractedEntities where
  hosts := (a.hostname.filter (· != "")).toList.map fun name => ⟨name⟩
  users := a.user.toList.map fun u => ⟨(u.username.filter (· != "")).getD "unknown"⟩
  processes :=
    ((a.process.bind ProcessActivity.processName).filter (· != "")).toList.map fun name => ⟨name⟩
  techniques :=
    ((a.mitreTechnique.filter (· != "")).toList ++
      findTexts (mitrePattern classes) (alertText a)).eraseDups.map fun id => ⟨id⟩
  iocs := heuristicIocs classes order a

/-- The indicators of type `ip`. -/
def ipIocs (entities : ExtractedEntities) : List String :=
  (entities.iocs.filter fun ioc => ioc.type == "ip").map IOCEntity.value

/-! ## §3  Addresses -/

/-- Four octets. -/
structure Ipv4 where
  first : Fin 256
  second : Fin 256
  third : Fin 256
  fourth : Fin 256
deriving DecidableEq, Repr

/-- `10.0.0.0/8`, `172.16.0.0/12` and `192.168.0.0/16`. -/
def Ipv4.isPrivate (q : Ipv4) : Bool :=
  q.first == 10 || (q.first == 172 && decide (16 ≤ q.second ∧ q.second ≤ 31)) ||
    (q.first == 192 && q.second == 168)

def decimal (digits : List Char) : ℕ := digits.foldl (fun n c => 10 * n + (c.toNat - 48)) 0

/-- An octet in one to three digits, which may begin with zeros. -/
def octet? (digits : List Char) : Option (Fin 256) :=
  if digits ≠ [] ∧ digits.length ≤ 3 ∧ digits.all Char.isDigit = true then
    if h : decimal digits < 256 then some ⟨decimal digits, h⟩ else none
  else none

/-- The address that a dotted quad is. -/
def ipv4? (text : String) : Option Ipv4 :=
  match text.toList.splitOn '.' with
  | [a, b, c, d] => do return ⟨← octet? a, ← octet? b, ← octet? c, ← octet? d⟩
  | _ => none

/-- An address inside the private ranges. -/
def isInternal (text : String) : Bool := (ipv4? text).any Ipv4.isPrivate

/-- An address outside of them. -/
def isExternal (text : String) : Bool := (ipv4? text).any fun q => !q.isPrivate

/-! ## §4  What the prefixes say of an address -/

def digitChar (n : ℕ) : Char := Char.ofNat (48 + n)

theorem digitChar_of_isDigit {c : Char} (h : c.isDigit = true) :
    ∃ n ≤ 9, c.toNat - 48 = n ∧ c = digitChar n := by
  simp only [Char.isDigit, Bool.and_eq_true, decide_eq_true_eq] at h
  have hlo : 48 ≤ c.toNat := UInt32.le_iff_toNat_le.mp h.1
  have hhi : c.toNat ≤ 57 := UInt32.le_iff_toNat_le.mp h.2
  refine ⟨c.toNat - 48, by omega, rfl, ?_⟩
  unfold digitChar
  rw [Nat.add_sub_cancel' hlo, Char.ofNat_toNat]

theorem octet?_eq_some {digits : List Char} {n : Fin 256} (h : octet? digits = some n) :
    digits ≠ [] ∧ digits.length ≤ 3 ∧ (∀ c ∈ digits, c.isDigit = true) ∧ decimal digits = n := by
  unfold octet? at h
  split at h
  · rename_i hdigits
    split at h
    · obtain rfl := Option.some.inj h
      exact ⟨hdigits.1, hdigits.2.1, List.all_eq_true.mp hdigits.2.2, rfl⟩
    · cases h
  · cases h

/-- One, two or three digits. -/
theorem octet_cases {digits : List Char} {n : Fin 256} (h : octet? digits = some n) :
    (∃ x ≤ 9, n.val = x ∧ digits = [digitChar x]) ∨
    (∃ x ≤ 9, ∃ y ≤ 9, n.val = 10 * x + y ∧ digits = [digitChar x, digitChar y]) ∨
    (∃ x ≤ 9, ∃ y ≤ 9, ∃ z ≤ 9, n.val = 10 * (10 * x + y) + z ∧
      digits = [digitChar x, digitChar y, digitChar z]) := by
  obtain ⟨hne, hlength, hdigits, hvalue⟩ := octet?_eq_some h
  rw [← hvalue]
  rcases digits with _ | ⟨a, _ | ⟨b, _ | ⟨c, _ | ⟨d, more⟩⟩⟩⟩
  · exact absurd rfl hne
  · obtain ⟨x, hx, hax, rfl⟩ := digitChar_of_isDigit (hdigits a (by simp))
    exact .inl ⟨x, hx, by simp [decimal, hax], rfl⟩
  · obtain ⟨x, hx, hax, rfl⟩ := digitChar_of_isDigit (hdigits a (by simp))
    obtain ⟨y, hy, hby, rfl⟩ := digitChar_of_isDigit (hdigits b (by simp))
    exact .inr (.inl ⟨x, hx, y, hy, by simp [decimal, hax, hby], rfl⟩)
  · obtain ⟨x, hx, hax, rfl⟩ := digitChar_of_isDigit (hdigits a (by simp))
    obtain ⟨y, hy, hby, rfl⟩ := digitChar_of_isDigit (hdigits b (by simp))
    obtain ⟨z, hz, hcz, rfl⟩ := digitChar_of_isDigit (hdigits c (by simp))
    exact .inr (.inr ⟨x, hx, y, hy, z, hz, by simp [decimal, hax, hby, hcz], rfl⟩)
  · simp only [List.length_cons] at hlength
    omega

/-- An octet that needs three digits has no zeros before them. -/
theorem octet_long {digits : List Char} {n : Fin 256} (h : octet? digits = some n)
    (hn : 100 ≤ n.val) :
    digits = [digitChar (n.val / 100), digitChar (n.val / 10 % 10), digitChar (n.val % 10)] := by
  rcases octet_cases h with ⟨x, hx, hval, -⟩ | ⟨x, hx, y, hy, hval, -⟩ |
    ⟨x, hx, y, hy, z, hz, hval, rfl⟩
  · omega
  · omega
  · rw [show n.val / 100 = x by omega, show n.val / 10 % 10 = y by omega,
      show n.val % 10 = z by omega]

theorem octet_ten {digits : List Char} {n : Fin 256} (h : octet? digits = some n)
    (hn : n.val = 10) : digits = ['1', '0'] ∨ digits = ['0', '1', '0'] := by
  rcases octet_cases h with ⟨x, hx, hval, -⟩ | ⟨x, hx, y, hy, hval, rfl⟩ |
    ⟨x, hx, y, hy, z, hz, hval, rfl⟩
  · omega
  · obtain ⟨rfl, rfl⟩ : x = 1 ∧ y = 0 := by omega
    exact .inl rfl
  · obtain ⟨rfl, rfl, rfl⟩ : x = 0 ∧ y = 1 ∧ z = 0 := by omega
    exact .inr rfl

/-- The octets of a dotted quad, by their digits. -/
theorem ipv4?_eq_some {text : String} {q : Ipv4} (h : ipv4? text = some q) :
    ∃ a b c d, text.toList = a ++ '.' :: (b ++ '.' :: (c ++ '.' :: d)) ∧
      octet? a = some q.first ∧ octet? b = some q.second ∧ octet? c = some q.third ∧
      octet? d = some q.fourth := by
  unfold ipv4? at h
  split at h
  · rename_i a b c d hsplit
    obtain ⟨first, hfirst, h⟩ := Option.bind_eq_some_iff.mp h
    obtain ⟨second, hsecond, h⟩ := Option.bind_eq_some_iff.mp h
    obtain ⟨third, hthird, h⟩ := Option.bind_eq_some_iff.mp h
    obtain ⟨fourth, hfourth, h⟩ := Option.bind_eq_some_iff.mp h
    obtain rfl := Option.some.inj h
    refine ⟨a, b, c, d, ?_, hfirst, hsecond, hthird, hfourth⟩
    refine (List.intercalate_splitOn '.').symm.trans ?_
    rw [hsplit]
    simp [List.intercalate]
  · cases h

/-- The prefix is the first octet, where it is digits and a dot. -/
theorem hasPrefix_iff_first {text code : String} {a w rest : List Char}
    (htext : text.toList = a ++ '.' :: rest) (ha : ∀ c ∈ a, c.isDigit = true)
    (hcode : code.toList = w ++ ['.']) (hw : ∀ c ∈ w, c.isDigit = true) :
    hasPrefix code text = true ↔ a = w := by
  unfold hasPrefix
  rw [decide_eq_true_eq, htext, hcode]
  constructor
  · rintro ⟨more, hmore⟩
    rw [List.append_assoc] at hmore
    exact (span_unique ha hw rfl rfl hmore.symm).1
  · rintro rfl
    exact ⟨rest, by rw [List.append_assoc]; rfl⟩

theorem hasPrefix_iff_second {text code : String} {a b w v rest : List Char}
    (htext : text.toList = a ++ '.' :: (b ++ '.' :: rest)) (ha : ∀ c ∈ a, c.isDigit = true)
    (hb : ∀ c ∈ b, c.isDigit = true) (hcode : code.toList = w ++ '.' :: (v ++ ['.']))
    (hw : ∀ c ∈ w, c.isDigit = true) (hv : ∀ c ∈ v, c.isDigit = true) :
    hasPrefix code text = true ↔ a = w ∧ b = v := by
  unfold hasPrefix
  rw [decide_eq_true_eq, htext, hcode]
  constructor
  · rintro ⟨more, hmore⟩
    simp only [List.append_assoc, List.cons_append, List.nil_append] at hmore
    obtain ⟨rfl, hrest⟩ := span_unique ha hw rfl rfl hmore.symm
    exact ⟨rfl, (span_unique hb hv rfl rfl (List.cons.inj hrest).2).1⟩
  · rintro ⟨rfl, rfl⟩
    exact ⟨rest, by simp⟩

/-- The prefixes of a dotted quad: `10` may also be written `010`. -/
theorem prefix_cases {text : String} {q : Ipv4} (h : ipv4? text = some q) :
    (hasPrefix "172." text = true ↔ q.first = 172) ∧
    (hasPrefix "192.168." text = true ↔ q.first = 192 ∧ q.second = 168) ∧
    (hasPrefix "10." text = true ∨ hasPrefix "010." text = true ↔ q.first = 10) ∧
    ¬ (hasPrefix "10." text = true ∧ hasPrefix "010." text = true) := by
  obtain ⟨a, b, c, d, htext, ha, hb, -, -⟩ := ipv4?_eq_some h
  have hadigits := (octet?_eq_some ha).2.2.1
  have hbdigits := (octet?_eq_some hb).2.2.1
  have hvalue {w : List Char} {n : Fin 256} (hw : octet? w = some n) (heq : a = w) :
      q.first = n := by
    subst heq
    exact Option.some.inj (ha.symm.trans hw)
  -- a prefix that ends in a dot fixes whole octets
  have h172 : hasPrefix "172." text = true ↔ a = ['1', '7', '2'] :=
    hasPrefix_iff_first htext hadigits rfl (by simp)
  have h10 : hasPrefix "10." text = true ↔ a = ['1', '0'] :=
    hasPrefix_iff_first htext hadigits rfl (by simp)
  have h010 : hasPrefix "010." text = true ↔ a = ['0', '1', '0'] :=
    hasPrefix_iff_first htext hadigits rfl (by simp)
  have h192 : hasPrefix "192.168." text = true ↔ a = ['1', '9', '2'] ∧ b = ['1', '6', '8'] :=
    hasPrefix_iff_second htext hadigits hbdigits rfl (by simp) (by simp)
  rw [h172, h192, h10, h010]
  refine ⟨⟨fun heq => ?_, fun hq => ?_⟩, ⟨fun heq => ?_, fun hq => ?_⟩, ⟨fun heq => ?_, fun hq => ?_⟩, ?_⟩
  · subst heq
    exact (Option.some.inj ha).symm
  · exact octet_long (hq ▸ ha) (by decide)
  · obtain ⟨rfl, rfl⟩ := heq
    exact ⟨(Option.some.inj ha).symm, (Option.some.inj hb).symm⟩
  · exact ⟨octet_long (hq.1 ▸ ha) (by decide), octet_long (hq.2 ▸ hb) (by decide)⟩
  · rcases heq with rfl | rfl
    · exact (Option.some.inj ha).symm
    · exact (Option.some.inj ha).symm
  · exact octet_ten ha (congrArg _ hq)
  · rintro ⟨rfl, hne⟩
    exact absurd hne (by decide)

/-! ## §5  Addresses that stand by themselves -/

section

variable (classes : CharClasses)

theorem digit_of_isDigit {c : Char} (h : c.isDigit = true) : classes.digit c = true :=
  Bool.or_eq_true_iff.mpr (.inl h)

theorem word_of_digit {c : Char} (h : classes.digit c = true) :
    isWord classes.isAlnum c = true := by
  unfold isWord
  rcases Bool.or_eq_true_iff.mp h with hdigit | hbeyond
  · simp [Char.isAlphanum, hdigit]
  · obtain ⟨hcode, hdecimal⟩ := Bool.and_eq_true_iff.mp hbeyond
    simp [of_decide_eq_true hcode, classes.alnum_of_decimal c hdecimal]

theorem digit_digitChar {x : ℕ} (hx : x ≤ 9) : classes.digit (digitChar x) = true := by
  apply digit_of_isDigit
  interval_cases x <;> rfl

theorem mem_ends_three {p q r : Char → Bool} {c d : Cursor Char} {x y z : Char}
    (hx : p x = true) (hy : q y = true) (hz : r z = true) (h : c.Reads [x, y, z] d) :
    d ∈ (Pattern.word [p, q, r]).ends c := by
  obtain ⟨e, hce, hed⟩ := Cursor.Reads.split [x] h
  obtain ⟨f, hef, hfd⟩ := Cursor.Reads.split [y] hed
  exact Pattern.mem_ends_seq.mpr ⟨e, Pattern.mem_ends_one.mpr ⟨x, hx, hce⟩,
    Pattern.mem_ends_seq.mpr ⟨f, Pattern.mem_ends_one.mpr ⟨y, hy, hef⟩,
      Pattern.mem_ends_seq.mpr ⟨d, Pattern.mem_ends_one.mpr ⟨z, hz, hfd⟩,
        Pattern.mem_ends_empty.mpr rfl⟩⟩⟩

/-- The digits of an octet are one match of the pattern. -/
theorem octet_ends {digits : List Char} {n : Fin 256} (h : octet? digits = some n)
    {c d : Cursor Char} (hreads : c.Reads digits d) : d ∈ (octetPattern classes).ends c := by
  have hskip (r : Pattern Char) (c : Cursor Char) : c ∈ r.opt.ends c :=
    Pattern.mem_ends_alt.mpr (.inr (Pattern.mem_ends_empty.mpr rfl))
  have hone {p : Char → Bool} {x : Char} {c d : Cursor Char} (hp : p x = true)
      (h : c.Reads [x] d) : d ∈ (Pattern.one p).ends c := Pattern.mem_ends_one.mpr ⟨x, hp, h⟩
  have htake {p : Char → Bool} {x : Char} {c d : Cursor Char} (hp : p x = true)
      (h : c.Reads [x] d) : d ∈ (Pattern.one p).opt.ends c :=
    Pattern.mem_ends_alt.mpr (.inl (hone hp h))
  have hdigit {x : ℕ} := digit_digitChar classes (x := x)
  unfold octetPattern
  -- one, two or three digits, the last by the range of the value
  rcases octet_cases h with ⟨x, hx, hval, rfl⟩ | ⟨x, hx, y, hy, hval, rfl⟩ |
    ⟨x, hx, y, hy, z, hz, hval, rfl⟩
  · exact Pattern.mem_ends_alt.mpr (.inr (Pattern.mem_ends_alt.mpr (.inr
      (Pattern.mem_ends_seq.mpr ⟨c, hskip _ c,
        Pattern.mem_ends_seq.mpr ⟨d, hone (hdigit hx) hreads, hskip _ d⟩⟩))))
  · obtain ⟨e, hce, hed⟩ := Cursor.Reads.split [digitChar x] hreads
    exact Pattern.mem_ends_alt.mpr (.inr (Pattern.mem_ends_alt.mpr (.inr
      (Pattern.mem_ends_seq.mpr ⟨c, hskip _ c,
        Pattern.mem_ends_seq.mpr ⟨e, hone (hdigit hx) hce, htake (hdigit hy) hed⟩⟩))))
  · have hrange : x ≤ 1 ∨ (x = 2 ∧ y ≤ 4) ∨ (x = 2 ∧ y = 5 ∧ z ≤ 5) := by
      have := n.isLt
      omega
    rcases hrange with hx | ⟨rfl, hy⟩ | ⟨rfl, rfl, hz⟩
    · obtain ⟨e, hce, hed⟩ := Cursor.Reads.split [digitChar x] hreads
      obtain ⟨f, hef, hfd⟩ := Cursor.Reads.split [digitChar y] hed
      have hfirst : decide ('0' ≤ digitChar x ∧ digitChar x ≤ '1') = true := by
        interval_cases x <;> rfl
      exact Pattern.mem_ends_alt.mpr (.inr (Pattern.mem_ends_alt.mpr (.inr
        (Pattern.mem_ends_seq.mpr ⟨e, htake hfirst hce,
          Pattern.mem_ends_seq.mpr ⟨f, hone (hdigit (by omega)) hef, htake (hdigit hz) hfd⟩⟩))))
    · refine Pattern.mem_ends_alt.mpr (.inr (Pattern.mem_ends_alt.mpr (.inl
        (mem_ends_three rfl ?_ (hdigit hz) hreads))))
      interval_cases y <;> rfl
    · refine Pattern.mem_ends_alt.mpr (.inl (mem_ends_three rfl rfl ?_ hreads))
      interval_cases z <;> rfl

theorem isDigit_between {lo hi c : Char} (hlo : '0' ≤ lo) (hhi : hi ≤ '9')
    (h : decide (lo ≤ c ∧ c ≤ hi) = true) : c.isDigit = true := by
  obtain ⟨hc, hc'⟩ := of_decide_eq_true h
  simp only [Char.isDigit, Bool.and_eq_true, decide_eq_true_eq]
  exact ⟨UInt32.le_trans hlo hc, UInt32.le_trans hc' hhi⟩

theorem octet_only : (octetPattern classes).Only classes.digit := by
  have hdigit {c : Char} := digit_of_isDigit classes (c := c)
  have hbetween {lo hi : Char} (hlo : '0' ≤ lo) (hhi : hi ≤ '9') (c : Char)
      (h : decide (lo ≤ c ∧ c ≤ hi) = true) : classes.digit c = true :=
    hdigit (isDigit_between hlo hhi h)
  have heq (e : Char) (he : e.isDigit = true) (c : Char) (h : (c == e) = true) :
      classes.digit c = true := hdigit (eq_of_beq h ▸ he)
  apply Pattern.Free.only
  refine Pattern.Free.alt ?_ (Pattern.Free.alt ?_ ?_)
  · refine Pattern.free_word fun q hq => ?_
    simp only [List.mem_cons, List.not_mem_nil, or_false] at hq
    rcases hq with rfl | rfl | rfl
    · exact heq '2' rfl
    · exact heq '5' rfl
    · exact hbetween (by decide) (by decide)
  · refine Pattern.free_word fun q hq => ?_
    simp only [List.mem_cons, List.not_mem_nil, or_false] at hq
    rcases hq with rfl | rfl | rfl
    · exact heq '2' rfl
    · exact hbetween (by decide) (by decide)
    · exact fun _ h => h
  · exact (Pattern.free_one (hbetween (by decide) (by decide))).opt.seq
      ((Pattern.free_one fun _ h => h).seq (Pattern.free_one fun _ h => h).opt)

theorem octet_consumes : (octetPattern classes).Consumes := by
  intro c d hd
  rcases Pattern.mem_ends_alt.mp hd with hd | hd
  · exact (Pattern.consumes_one _).seq _ c d hd
  · rcases Pattern.mem_ends_alt.mp hd with hd | hd
    · exact (Pattern.consumes_one _).seq _ c d hd
    · obtain ⟨e, he, hd⟩ := Pattern.mem_ends_seq.mp hd
      obtain ⟨text, htext⟩ := Pattern.reads_of_mem_ends he
      have hlength := htext.length
      have hrest := (Pattern.consumes_one _).seq _ e d hd
      omega

/-- An octet with a dot behind it has one match only. -/
theorem mem_ends_dotted {digits rest before : List Char} {n : Fin 256}
    (h : octet? digits = some n) {d : Cursor Char} :
    d ∈ (Pattern.seq (octetPattern classes) (.one (· == '.'))).ends
        ⟨before, digits ++ '.' :: rest⟩ ↔
      d = ⟨'.' :: (digits.reverse ++ before), rest⟩ := by
  have hdot : classes.digit '.' = false := rfl
  have hdigits : ∀ c ∈ digits, classes.digit c = true := fun c hc =>
    digit_of_isDigit classes ((octet?_eq_some h).2.2.1 c hc)
  rw [Pattern.mem_ends_seq]
  constructor
  · rintro ⟨e, he, hd⟩
    obtain ⟨text, htext, hafter, hbefore⟩ := octet_only classes _ _ he
    obtain ⟨c, hc, hdafter, hdbefore⟩ := Pattern.mem_ends_one.mp hd
    obtain rfl : c = '.' := eq_of_beq hc
    rw [hdafter] at hafter
    obtain ⟨rfl, hrest⟩ := span_unique hdigits htext hdot hdot hafter
    cases d
    simp_all
  · rintro rfl
    exact ⟨⟨digits.reverse ++ before, '.' :: rest⟩, octet_ends classes h ⟨rfl, rfl⟩,
      Pattern.mem_ends_one.mpr ⟨'.', rfl, rfl, rfl⟩⟩

/-- An octet that ends a word has one match only. -/
theorem mem_ends_last {digits rest before : List Char} {n : Fin 256}
    (h : octet? digits = some n)
    (hrest : ∀ c ∈ rest.head?, isWord classes.isAlnum c = false) {d : Cursor Char} :
    d ∈ (Pattern.seq (octetPattern classes) (.boundary (isWord classes.isAlnum))).ends
        ⟨before, digits ++ rest⟩ ↔ d = ⟨digits.reverse ++ before, rest⟩ := by
  have hdigits : ∀ c ∈ digits, classes.digit c = true := fun c hc =>
    digit_of_isDigit classes ((octet?_eq_some h).2.2.1 c hc)
  have hrest' : rest.head?.any (isWord classes.isAlnum) = false := by
    cases hhead : rest.head? with
    | none => rfl
    | some c => exact hrest c hhead
  have hlast {text more : List Char} (hne : text ≠ [])
      (htext : ∀ c ∈ text, classes.digit c = true) :
      (text.reverse ++ more).head?.any (isWord classes.isAlnum) = true := by
    obtain ⟨init, c, rfl⟩ := (List.eq_nil_or_concat' text).resolve_left hne
    rw [List.reverse_append]
    exact word_of_digit classes (htext c (by simp))
  rw [Pattern.mem_ends_seq]
  constructor
  · rintro ⟨e, he, hd⟩
    obtain ⟨rfl, hends⟩ := Pattern.mem_ends_boundary.mp hd
    have hconsumes := octet_consumes classes _ _ he
    obtain ⟨text, htext, hafter, hbefore⟩ := octet_only classes _ _ he
    have hne : text ≠ [] := by
      rintro rfl
      rw [hafter] at hconsumes
      exact absurd hconsumes (Nat.lt_irrefl _)
    rw [hbefore, hlast hne htext] at hends
    have hword : d.after.head?.any (isWord classes.isAlnum) = false := by simpa using hends.symm
    -- an octet that ends earlier or later has a digit on one side of its boundary
    rcases List.append_eq_append_iff.mp hafter with ⟨more, rfl, hmore⟩ | ⟨more, rfl, hmore⟩
    · cases more with
      | nil =>
          cases d
          simp_all
      | cons c more =>
          have := word_of_digit classes (htext c (by simp))
          rw [hmore] at hrest'
          exact absurd (this.symm.trans hrest') (by decide)
    · cases more with
      | nil =>
          cases d
          simp_all
      | cons c more =>
          have := word_of_digit classes (hdigits c (by simp))
          rw [hmore] at hword
          exact absurd (this.symm.trans hword) (by decide)
  · rintro rfl
    refine ⟨_, octet_ends classes h ⟨rfl, rfl⟩, Pattern.mem_ends_boundary.mpr ⟨rfl, ?_⟩⟩
    rw [hlast (octet?_eq_some h).1 hdigits, hrest']
    exact Bool.noConfusion

/-- The address stands in the text by itself: between no words, and after no dot. -/
def Stands (address text : List Char) : Prop :=
  ∃ pre post, text = pre ++ (address ++ post) ∧
    (∀ c ∈ pre.getLast?, isWord classes.isAlnum c = false ∧ c ≠ '.') ∧
    ∀ c ∈ post.head?, isWord classes.isAlnum c = false

/-- **Addresses that stand by themselves** are found. -/
theorem found_of_stands {a : WholeAlert} {address : String}
    (haddress : (ipv4? address).isSome = true)
    (h : Stands classes address.toList (alertText a).toList) :
    address ∈ textAddresses classes a := by
  obtain ⟨q, hq⟩ := Option.isSome_iff_exists.mp haddress
  obtain ⟨w, x, y, z, haddress, hw, hx, hy, hz⟩ := ipv4?_eq_some hq
  obtain ⟨pre, post, htext, hpre, hpost⟩ := h
  have hne : w ≠ [] := (octet?_eq_some hw).1
  have honly : (ipv4Pattern classes).Only fun c => classes.digit c || c == '.' := by
    have hoctet : (octetPattern classes).Only fun c => classes.digit c || c == '.' := by
      intro c d hd
      obtain ⟨text, hdigits, hreads⟩ := octet_only classes c d hd
      exact ⟨text, fun c hc => by simp [hdigits c hc], hreads⟩
    have hdotted := hoctet.seq (Pattern.free_one (q := (· == '.')) fun c hc =>
      Bool.or_eq_true_iff.mpr (.inr hc)).only
    exact (Pattern.only_boundary _ _).seq ((hdotted.seq (hdotted.seq (hdotted.seq
      (Pattern.free_empty _).only))).seq (hoctet.seq (Pattern.only_boundary _ _)))
  -- a word boundary stands before the first octet
  have hstart (before : List Char) {after : List Char} (hbefore : ∀ c ∈ before.head?,
      isWord classes.isAlnum c = false) {e : Cursor Char} :
      e ∈ (Pattern.boundary (isWord classes.isAlnum)).ends ⟨before, w ++ after⟩ ↔
        e = ⟨before, w ++ after⟩ := by
    rw [Pattern.mem_ends_boundary]
    apply and_iff_left
    obtain ⟨c, w, rfl⟩ := List.exists_cons_of_ne_nil hne
    have hword : isWord classes.isAlnum c = true := word_of_digit classes
      (digit_of_isDigit classes ((octet?_eq_some hw).2.2.1 c (by simp)))
    cases hhead : before.head? with
    | none => simp [hword]
    | some b => simp [hword, hbefore b hhead]
  refine List.mem_map.mpr ⟨address.toList, ?_, String.ofList_toList⟩
  rw [htext]
  refine Pattern.mem_findall honly (fun c hc => ?_) ?_ fun e => ?_
  · obtain ⟨hword, hdot⟩ := hpre c hc
    refine Bool.or_eq_false_iff.mpr ⟨Bool.eq_false_iff.mpr fun hdigit => ?_, beq_false_of_ne hdot⟩
    exact absurd ((word_of_digit classes hdigit).symm.trans hword) (by decide)
  · rw [haddress]
    simp [hne]
  · -- one match for each part of the pattern, from the first octet to the last
    rw [haddress]
    simp only [List.append_assoc, List.cons_append]
    unfold ipv4Pattern
    rw [Pattern.mem_ends_seq]
    simp only [hstart pre.reverse (by simpa using fun c hc => (hpre c hc).1),
      exists_eq_left]
    rw [Pattern.mem_ends_seq]
    have hdotted : ∀ f, f ∈ (Pattern.times 3 (.seq (octetPattern classes) (.one (· == '.')))).ends
        ⟨pre.reverse, w ++ '.' :: (x ++ '.' :: (y ++ '.' :: (z ++ post)))⟩ ↔
        f = ⟨'.' :: (y.reverse ++ '.' :: (x.reverse ++ '.' :: (w.reverse ++ pre.reverse))),
          z ++ post⟩ := by
      intro f
      simp only [Pattern.times]
      rw [Pattern.mem_ends_seq]
      simp only [mem_ends_dotted classes hw, exists_eq_left]
      rw [Pattern.mem_ends_seq]
      simp only [mem_ends_dotted classes hx, exists_eq_left]
      rw [Pattern.mem_ends_seq]
      simp only [mem_ends_dotted classes hy, exists_eq_left]
      exact Pattern.mem_ends_empty
    simp only [hdotted, exists_eq_left]
    rw [mem_ends_last classes hz hpost]
    simp

end

/-! ## §6  Addresses inside and outside -/

theorem hasInternalPrefix_iff {text : String} : hasInternalPrefix text = true ↔
    hasPrefix "10." text = true ∨ hasPrefix "192.168." text = true ∨
      hasPrefix "172." text = true := by
  simp [hasInternalPrefix]

theorem isPrivate_iff {q : Ipv4} : q.isPrivate = true ↔ q.first = 10 ∨
    (q.first = 172 ∧ 16 ≤ q.second ∧ q.second ≤ 31) ∨ (q.first = 192 ∧ q.second = 168) := by
  simp [Ipv4.isPrivate, or_assoc]

/-- Of the addresses outside the private ranges those that begin with `172.` are dropped. -/
theorem prefix_of_external {text : String} (h : isExternal text = true) :
    hasInternalPrefix text = true ↔ hasPrefix "172." text = true := by
  obtain ⟨q, hq, hpublic⟩ := (Option.any_eq_true _ _).mp h
  obtain ⟨-, h192, h10, -⟩ := prefix_cases hq
  have hpublic : ¬ q.isPrivate = true := by simpa using hpublic
  rw [isPrivate_iff] at hpublic
  rw [hasInternalPrefix_iff]
  constructor
  · rintro (hten | hprefix | hprefix)
    · exact absurd (.inl (h10.mp (.inl hten))) hpublic
    · exact absurd (.inr (.inr (h192.mp hprefix))) hpublic
    · exact hprefix
  · exact fun hprefix => .inr (.inr hprefix)

/-- Of the addresses inside the private ranges those that begin with `010.` are kept. -/
theorem prefix_of_internal {text : String} (h : isInternal text = true) :
    hasInternalPrefix text = false ↔ hasPrefix "010." text = true := by
  obtain ⟨q, hq, hprivate⟩ := (Option.any_eq_true _ _).mp h
  obtain ⟨h172, h192, h10, hboth⟩ := prefix_cases hq
  rw [← Bool.not_eq_true, hasInternalPrefix_iff]
  constructor
  · intro hnone
    rcases isPrivate_iff.mp hprivate with hten | ⟨h172', -⟩ | h192'
    · exact (h10.mpr hten).resolve_left fun hprefix => hnone (.inl hprefix)
    · exact absurd (.inr (.inr (h172.mpr h172'))) hnone
    · exact absurd (.inr (.inl (h192.mpr h192'))) hnone
  · intro hzero
    have hten := h10.mp (.inr hzero)
    rintro (hstart | hstart | hstart)
    · exact hboth ⟨hstart, hzero⟩
    · exact absurd (hten.symm.trans (h192.mp hstart).1) (by decide)
    · exact absurd (hten.symm.trans (h172.mp hstart)) (by decide)

theorem internal_of_zero {text : String} (haddress : (ipv4? text).isSome = true)
    (h : hasPrefix "010." text = true) : isInternal text = true := by
  obtain ⟨q, hq⟩ := Option.isSome_iff_exists.mp haddress
  obtain ⟨-, -, h10, -⟩ := prefix_cases hq
  exact (Option.any_eq_true _ _).mpr ⟨q, hq, isPrivate_iff.mpr (.inl (h10.mp (.inr h)))⟩

/-- An address is inside the private ranges or outside of them. -/
theorem internal_or_external {text : String} (h : (ipv4? text).isSome = true) :
    isInternal text = false ↔ isExternal text = true := by
  obtain ⟨q, hq⟩ := Option.isSome_iff_exists.mp h
  unfold isInternal isExternal
  rw [hq]
  simp

/-! ## §7  Which addresses are found -/

/-- The observables that the extraction takes for addresses. -/
def observedAddresses (a : WholeAlert) : List String :=
  ((findingObservables a).filter isAddressType).map ObservableEntry.value

/-- What is expected of the addresses: those outside the private ranges, each once. -/
structure FindsExternal (found observed ips : List String) : Prop where
  complete : ∀ t ∈ found ++ observed, isExternal t = true → t ∈ ips
  sound : ∀ t ∈ ips, isInternal t = false
  once : (ips.filter fun t => (ipv4? t).isSome).Nodup

/-- The addresses of an alert that the two filters do not get wrong. -/
structure PlainAddresses (found observed : List String) : Prop where
  dropped : ∀ t ∈ found, isExternal t = true → hasPrefix "172." t = true → t ∈ observed
  zeros : ∀ t ∈ found, (ipv4? t).isSome = true → hasPrefix "010." t = false
  observedExternal : ∀ t ∈ observed, isInternal t = false
  observedOnce : (observed.filter fun t => (ipv4? t).isSome).Nodup
  apart : ∀ t ∈ observed, t ∈ found → (ipv4? t).isSome = true → hasPrefix "172." t = true

variable (classes : CharClasses) (order : SetOrder) (a : WholeAlert)

/-- The addresses of the text that are kept. -/
def keptAddresses : List String :=
  (order.list (textAddresses classes a)).filter fun ip => !hasInternalPrefix ip

theorem mem_keptAddresses {t : String} : t ∈ keptAddresses classes order a ↔
    t ∈ textAddresses classes a ∧ hasInternalPrefix t = false := by
  unfold keptAddresses
  rw [List.mem_filter, (order.perm _).mem_iff, List.mem_dedup, Bool.not_eq_true']

theorem nodup_keptAddresses : (keptAddresses classes order a).Nodup :=
  ((order.perm _).nodup_iff.mpr (List.nodup_dedup _)).filter _

theorem type_of_observableIoc {o : ObservableEntry} :
    (observableIoc o).filter (fun ioc => ioc.type == "ip") =
      if isAddressType o then some ⟨"ip", o.value⟩ else none := by
  unfold observableIoc
  split
  · rfl
  · repeat' split
    all_goals rfl

/-- The addresses kept of the text, and then those of the observables. -/
theorem ipIocs_heuristicExtract : ipIocs (heuristicExtract classes order a) =
    keptAddresses classes order a ++ observedAddresses a := by
  have hips : ((keptAddresses classes order a).map fun ip => (⟨"ip", ip⟩ : IOCEntity)).filter
      (fun ioc => ioc.type == "ip") = (keptAddresses classes order a).map fun ip => ⟨"ip", ip⟩ :=
    List.filter_eq_self.mpr fun ioc hioc => by
      obtain ⟨ip, -, rfl⟩ := List.mem_map.mp hioc
      rfl
  have hhashes (hashes : List String) : (hashes.map fun h => (⟨"hash_sha256", h⟩ : IOCEntity)).filter
      (fun ioc => ioc.type == "ip") = [] :=
    List.filter_eq_nil_iff.mpr fun ioc hioc => by
      obtain ⟨h, -, rfl⟩ := List.mem_map.mp hioc
      exact Bool.false_ne_true
  have hobserved (os : List ObservableEntry) :
      ((os.filterMap observableIoc).filter fun ioc => ioc.type == "ip").map IOCEntity.value =
        (os.filter isAddressType).map ObservableEntry.value := by
    rw [List.filter_filterMap, List.map_filterMap, ← List.filterMap_eq_map, List.filterMap_filter]
    apply List.filterMap_congr
    intro o _
    rw [type_of_observableIoc]
    split
    · rfl
    · rfl
  unfold ipIocs heuristicExtract heuristicIocs
  simp only [List.filter_append, List.map_append]
  rw [hhashes, List.map_nil, List.append_nil, hobserved]
  apply congrArg (· ++ _)
  refine (congrArg _ hips).trans ?_
  rw [List.map_map]
  exact List.map_id _

theorem dedup_perm (texts : List String) : texts.dedup.Perm texts.dedup := .refl _

/-- A set that is gone through in order of first appearance. -/
def firstOrder : SetOrder where
  list := List.dedup
  perm := dedup_perm

/-- An alert of traffic to an address outside the private ranges. -/
def beacon : WholeAlert where
  alertId := "a-1"
  source := .generic
  sourceAlertId := none
  title := "Beacon"
  description := "172.217.4.2"
  severity := .high
  timestamp := ⟨0, none⟩
  ingestedAt := ⟨0, none⟩
  tenantId := none
  categoryUid := none
  classUid := none
  activityId := none
  hostname := none
  assetId := none
  cloudRegion := none
  cloudAccountId := none
  network := none
  process := none
  user := none
  mitreTactic := none
  mitreTechnique := none
  detectionFinding := none
  rawPayload := []
  coercedByLlm := false
  coercionTraceId := none

theorem beacon_stands : Stands asciiClasses "172.217.4.2".toList (alertText beacon).toList := by
  have hblank : isWord asciiClasses.isAlnum ' ' = false := by decide
  exact ⟨"Beacon ".toList, [], rfl, by simpa using hblank, by simp⟩

end AlertTriage
