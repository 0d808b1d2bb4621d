import AlertTriage.Pipeline.VendorTools

/-!
# What the vendor tools make of their exchanges

A tool that asks its vendor may be answered with anything. A call that fails becomes a result
that reports an error (`callTool_shows`). What the tool returns otherwise can be recorded,
whatever it was answered, except that the tools which hand on what an API of the customer says
hand on a misfit, too (`executed_iff`), and that the tactics of CrowdStrike's incidents are
not looked at.
-/

namespace AlertTriage.Vendor

open Library Library.Async

variable {α : Type} {P : α → Prop} {rt : ToolRuntime} {settings : ToolSettings}

/-! ## §1  Failed calls -/

/-- The request raised, was refused or brought no JSON. -/
def Refused (reply : Except VendorExn HttpResponse) : Prop :=
  ∀ response, reply = .ok response → 400 ≤ response.status ∨ response.json = none

/-- The call did not come back, or failed. -/
def Failed : (c : VendorCall) → Option c.Reply → Prop
  | .http _, reply => ∀ r : Except VendorExn HttpResponse, reply = some r → Refused r
  | .aws _, reply => ∀ value : Json, reply ≠ some (.ok value)
  | _, reply => reply = none

theorem stops_lift (x : Except PyExn α) : Stops Failed (lift x : Tool α) := by
  cases x <;> trivial

theorem stops_call (c : VendorCall) (h : ∀ r, ¬ Failed c (some r)) : Stops Failed (call c) := by
  refine Reveals.ask fun r hr a ha => ?_
  cases r with
  | none => cases ha
  | some r => exact h r hr

theorem stops_aws (c : AwsCall) : Stops Failed (aws c) := by
  refine Reveals.ask fun r hr a ha => ?_
  cases r with
  | none => cases ha
  | some r =>
      cases r with
      | ok value => exact hr value rfl
      | error e => cases ha

/-- A success with JSON is the only reply that brings anything. -/
theorem decoded_of_ok {response : HttpResponse} {body : Json}
    (h : (do response.raiseForStatus; response.decoded : Except VendorExn Json) = .ok body) :
    response.status < 300 ∧ response.json = some body := by
  unfold HttpResponse.raiseForStatus HttpResponse.decoded at h
  by_cases hstatus : 200 ≤ response.status ∧ response.status < 300
  · rw [if_pos hstatus] at h
    refine ⟨hstatus.2, ?_⟩
    cases hjson : response.json with
    | none =>
        rw [hjson] at h
        cases h
    | some value =>
        rw [hjson] at h
        rw [Except.ok.inj h]
  · rw [if_neg hstatus] at h
    cases h

theorem stops_requestJson (request : HttpRequest) : Stops Failed (requestJson request) := by
  refine Reveals.ask fun r hr body hbody => ?_
  cases r with
  | none => cases hbody
  | some r =>
      cases r with
      | error e => cases hbody
      | ok response =>
          obtain ⟨hstatus, hjson⟩ := decoded_of_ok hbody
          rcases hr _ rfl response rfl with hrefused | hnone
          · omega
          · rw [hjson] at hnone
            cases hnone

theorem stops_timeMs : Stops Failed timeMs :=
  Stops.bind (stops_call _ fun _ h => by cases h) fun _ => Reveals.pure _

theorem yields_lift {x : Except PyExn α} (h : ∀ a, x = .ok a → P a) :
    Yields P (lift x : Tool α) := by
  cases x with
  | ok a => exact Yields.pure (h a rfl)
  | error e => exact Yields.throw _

/-- `try … except`: what the body returns, or the dict of the exception. -/
theorem Yields.guarded {Q : Params → Prop} {onError : VendorExn → Params} {body : Tool Params}
    (hbody : Yields Q body) (herror : ∀ e, Q (onError e)) :
    Yields Q (guarded onError body) := by
  refine hbody.caught.bind fun r hr => ?_
  cases r with
  | ok result => exact Yields.pure (hr result rfl)
  | error e => exact Yields.pure (herror e)

theorem Reveals.guarded {onError : VendorExn → Params} {body : Tool Params}
    (hbody : Reveals Failed ReportsError body) (herror : ∀ e, ReportsError (onError e)) :
    Reveals Failed ReportsError (guarded onError body) := by
  refine hbody.caught.bind ?_ ?_
  · intro r hr
    cases r with
    | ok result => exact Yields.pure (hr result rfl)
    | error e => exact Yields.pure (herror e)
  · intro r
    cases r <;> exact Reveals.pure _

/-- A body that stops, with a dict of the exception that reports it. -/
theorem Stops.guarded {onError : VendorExn → Params} {body : Tool Params}
    (hbody : Stops Failed body) (herror : ∀ e, ReportsError (onError e)) :
    Reveals Failed ReportsError (guarded onError body) :=
  Reveals.guarded (hbody.imp fun _ h => h.elim) herror

/-! ## §2  No failed exchange is lost -/

theorem stops_pollUntilDone (sid : Json) (n : ℕ) :
    Stops Failed (pollUntilDone rt settings sid n) := by
  induction n with
  | zero => exact Reveals.pure _
  | succ n ih =>
      unfold pollUntilDone
      refine (stops_call _ fun _ h => by cases h).bind fun _ => ?_
      refine (stops_requestJson _).bind fun status => ?_
      refine (stops_lift _).bind fun state => ?_
      split
      · exact Reveals.pure _
      · exact ih

theorem stops_splunkSearch (spl : String) (maxResults : ℤ) :
    Stops Failed (splunkSearch rt settings spl maxResults) := by
  refine (stops_requestJson _).bind fun created => ?_
  refine (stops_lift _).bind fun sid => ?_
  refine (stops_pollUntilDone sid 30).bind fun _ => ?_
  exact (stops_requestJson _).bind fun results => stops_lift _

theorem splunk_shows (params : SplunkQueryInput) :
    Reveals Failed ReportsError (splunkQuery rt settings params) := by
  unfold splunkQuery
  refine stops_timeMs.bind fun startMs => ?_
  cases filledText (buildSpl params.query) with
  | none => exact Reveals.pure _
  | some spl =>
      refine (stops_splunkSearch spl params.maxResults).caught.bind ?_ ?_
      · intro r hr
        cases r with
        | ok rows => exact (hr rows rfl).elim
        | error e => cases e <;> exact Yields.pure (.inr rfl)
      · intro r
        cases r with
        | error e => cases e <;> exact Reveals.pure _
        | ok rawResults =>
            refine stops_timeMs.bind fun elapsed => ?_
            refine (stops_lift _).bind fun compressed => ?_
            refine (stops_lift _).bind fun rows => ?_
            exact (stops_lift _).bind fun shown => Reveals.pure _

theorem stops_fetchToken (owner : TokenOwner) (request : HttpRequest) (now : ℚ) :
    Stops Failed (fetchToken owner request now) := by
  refine (stops_requestJson _).bind fun data => ?_
  refine (stops_lift _).bind fun token => (stops_lift _).bind fun expiresIn => ?_
  split
  · exact (stops_call _ fun _ h => by cases h).bind fun _ => Reveals.pure _
  · exact (stops_call _ fun _ h => by cases h).bind fun _ => Reveals.throw _

theorem stops_getToken (owner : TokenOwner) (request : HttpRequest) :
    Stops Failed (getToken owner request) := by
  refine (stops_call _ fun _ h => by cases h).bind fun now => ?_
  refine (stops_call _ fun _ h => by cases h).bind fun cache => ?_
  split
  · cases cache.token with
    | some token => exact Reveals.pure _
    | none => exact Reveals.throw _
  · exact stops_fetchToken _ _ _

theorem stops_resources (request : HttpRequest) : Stops Failed (resources request) :=
  (stops_requestJson _).bind fun _ => stops_lift _

theorem stops_twoStep (t : TwoStep) (headers : List (String × String)) :
    Stops Failed (t.run settings headers) := by
  refine (stops_resources _).bind fun ids => ?_
  split
  · exact Reveals.pure _
  · refine (stops_lift _).bind fun wanted => ?_
    refine (stops_resources _).bind fun details => ?_
    refine (stops_lift _).bind fun count => ?_
    exact (stops_lift _).bind fun rows => Reveals.pure _

theorem stops_processTree (headers : List (String × String)) (params : CrowdStrikeInput) :
    Stops Failed (processTree settings headers params) := by
  unfold processTree
  cases filledText params.deviceId with
  | none => exact Reveals.pure _
  | some _ => exact (stops_resources _).bind fun _ => Reveals.pure _

theorem stops_deviceInfo (headers : List (String × String)) (params : CrowdStrikeInput) :
    Stops Failed (deviceInfo settings headers params) := by
  refine (stops_resources _).bind fun ids => ?_
  split
  · exact Reveals.pure _
  · refine (stops_lift _).bind fun first => ?_
    refine (stops_requestJson _).bind fun details => ?_
    refine (stops_lift _).bind fun found => ?_
    exact (stops_lift _).bind fun d => Reveals.pure _

theorem crowdstrike_shows (params : CrowdStrikeInput) :
    Reveals Failed ReportsError (crowdstrikeQuery rt settings params) := by
  unfold crowdstrikeQuery
  split
  · exact Reveals.pure _
  · refine stops_timeMs.bind fun _ => Stops.guarded ?_ fun e => by cases e <;> exact .inr rfl
    refine (stops_getToken _ _).bind fun token => ?_
    dsimp only
    split_ifs
    · exact (stops_call _ fun _ h => by cases h).bind fun since => stops_twoStep _ _
    · exact stops_processTree _ _
    · exact stops_deviceInfo _ _
    · exact (stops_resources _).bind fun _ => Reveals.pure _
    · exact stops_twoStep _ _
    · exact stops_twoStep _ _
    · exact Reveals.pure _

theorem stops_collectPages (rows : Json → Except PyExn (List Json)) (lookup : EventLookup)
    (enough left : ℕ) : ∀ number events,
      Stops Failed (collectPages rows lookup enough left number events) := by
  induction left with
  | zero => exact fun _ _ => Reveals.pure _
  | succ left ih =>
      intro number events
      refine (stops_aws _).bind fun page => (stops_lift _).bind fun found => ?_
      dsimp only
      split
      · exact Reveals.pure _
      · exact ih _ _

theorem stops_paginate (rows : Json → Except PyExn (List Json)) (lookup : EventLookup)
    (enough : ℕ) : Stops Failed (paginate rows lookup enough) :=
  (stops_call _ fun _ h => by cases h).bind fun _ => stops_collectPages _ _ _ _ _ _

theorem stops_firstPages (since : String) (names : List String) : ∀ events,
    Stops Failed (firstPages rt since names events) := by
  induction names with
  | nil => exact fun _ => Reveals.pure _
  | cons name names ih => exact fun _ => (stops_paginate _ _ _).bind fun _ => ih _

theorem stops_guarddutyFindings : Stops Failed guarddutyFindings := by
  refine (stops_aws _).bind fun _ => (stops_aws _).bind fun listed => ?_
  refine (stops_lift _).bind fun detectors => ?_
  split
  · exact Reveals.pure _
  · refine (stops_lift _).bind fun detectorId => (stops_aws _).bind fun listed => ?_
    refine (stops_lift _).bind fun findingIds => ?_
    split
    · exact Reveals.pure _
    · exact (stops_aws _).bind fun response => (stops_lift _).bind fun findings => Reveals.pure _

theorem aws_shows (params : AWSQueryInput) :
    Reveals Failed ReportsError (awsQuery rt settings params) := by
  unfold awsQuery
  split
  · exact Reveals.pure _
  · refine (stops_call _ fun _ h => by cases h).bind fun since => ?_
    refine Stops.guarded ?_ fun e => by cases e <;> exact .inr rfl
    refine (stops_aws _).bind fun _ => (stops_aws _).bind fun _ => ?_
    split_ifs
    · exact (stops_aws _).bind fun _ => (stops_paginate _ _ _).bind fun events =>
        (stops_lift _).bind fun highRisk => Reveals.pure _
    · exact (stops_aws _).bind fun _ => (stops_firstPages _ _ _).bind fun events => Reveals.pure _
    · exact stops_guarddutyFindings
    · exact (stops_aws _).bind fun _ => (stops_paginate _ _ _).bind fun events => Reveals.pure _
    · exact Reveals.pure _

theorem stops_servicenowLookup (query : String) (params : CMDBInput) :
    Stops Failed (servicenowLookup rt settings query params) := by
  have hauth : Stops Failed (snowAuthHeaders rt settings) := by
    unfold snowAuthHeaders
    split
    · exact (stops_getToken _ _).bind fun _ => Reveals.pure _
    · exact Reveals.pure _
  refine hauth.bind fun authHeaders => (stops_requestJson _).bind fun found => ?_
  refine (stops_lift _).bind fun records => ?_
  split
  · exact Reveals.pure _
  · exact (stops_lift _).bind fun r => Reveals.pure _

theorem cmdbFailure_reports (text : String) : ReportsError (cmdbFailure text) := .inr rfl

/-- What the lookup hands over for an exception is reported, too, or nothing. -/
theorem servicenow_shows (params : CMDBInput) :
    Reveals Failed (fun found => ∀ result, found = some result → ReportsError result)
      (queryServicenowCmdb rt settings params) := by
  unfold queryServicenowCmdb
  split
  · exact Reveals.pure _
  · cases sysparmQuery params with
    | none => exact Reveals.pure _
    | some query =>
        refine (stops_servicenowLookup query params).caught.bind ?_ ?_
        · intro r hr
          cases r with
          | ok result => exact (hr result rfl).elim
          | error e =>
              cases e with
              | timeout =>
                  refine Yields.pure fun result h => ?_
                  rw [← Option.some.inj h]
                  exact .inr rfl
              | _ => exact Yields.pure fun result h => by cases h
        · intro r
          cases r with
          | ok result => exact Reveals.pure _
          | error e => cases e <;> exact Reveals.pure _

theorem cmdb_shows (params : CMDBInput) :
    Reveals Failed ReportsError (cmdbQuery rt settings params) := by
  unfold cmdbQuery
  split
  · exact Reveals.pure _
  · refine (servicenow_shows params).bind ?_ ?_
    · intro found hfound
      cases found with
      | some result => exact Yields.pure (hfound result rfl)
      | none => exact Yields.pure (cmdbFailure_reports _)
    · intro found
      cases found <;> exact Reveals.pure _

theorem vulncheck_shows (cveId : String) :
    Reveals Failed ReportsError (vulncheckLookup rt settings cveId) := by
  unfold vulncheckLookup
  split
  · exact Reveals.pure _
  · refine stops_timeMs.bind fun startMs =>
      Stops.guarded ?_ fun e => by cases e <;> exact .inr rfl
    refine (stops_requestJson _).bind fun body => (stops_lift _).bind fun data => ?_
    split
    · exact stops_timeMs.bind fun _ => Reveals.pure _
    · exact (stops_lift _).bind fun entry => stops_timeMs.bind fun _ => Reveals.pure _

theorem failure_reports (t : PassThrough) (text : String) : ReportsError (t.failure text) :=
  .inr rfl

/-- A status from 400 on is passed over by no `raise_for_status`, but by a dict. -/
theorem passThrough_shows (t : PassThrough) : Reveals Failed ReportsError (t.run rt) := by
  have hhttp : Reveals Failed (fun response => 400 ≤ response.status ∨ response.json = none)
      (http t.request) := by
    refine Reveals.ask fun r hr response hresponse => ?_
    cases r with
    | none => cases hresponse
    | some r => exact hr r rfl response hresponse
  refine Reveals.guarded ?_ fun e => by cases e <;> exact failure_reports _ _
  refine hhttp.bind ?_ ?_
  · intro response hrefused
    split
    · exact Yields.pure (failure_reports _ _)
    · rename_i hstatus
      unfold HttpResponse.decoded
      rw [hrefused.resolve_left hstatus]
      exact Yields.throw _
  · intro response
    split
    · exact Reveals.pure _
    · cases response.decoded with
      | ok data => exact Reveals.pure _
      | error e => exact Reveals.throw _

/-- The tools other than the lookup of indicators. -/
theorem callTool_shows {toolName : String} (params : Params)
    (hintel : toolName ≠ "lookup_threat_intel") :
    Reveals Failed ReportsError (callTool rt settings toolName params) := by
  unfold callTool toolFunction
  split
  · split_ifs
    · exact splunk_shows _
    · exact crowdstrike_shows _
    · exact aws_shows _
    · exact cmdb_shows _
    · unfold netflowQuery
      split
      · exact Reveals.pure _
      · exact passThrough_shows _
    · unfold backupQuery
      split
      · exact Reveals.pure _
      · exact passThrough_shows _
    · exact vulncheck_shows _
    · exact Reveals.throw _
  · exact Reveals.throw _

/-! ## §3  What is returned can be recorded -/

/-- What the result says of its source and its error fits the record. -/
def Recordable (result : Params) : Prop :=
  (schemaBool? (getOr result "source_available" (.bool true))).isSome = true ∧
    (schemaText? (getOr result "error" .null)).isSome = true

/-- Only the wording of two tools looks further. -/
theorem resultFits_of_recordable {toolName : String} {result : Params} (h : Recordable result)
    (hcrowd : toolName ≠ "query_crowdstrike") (haws : toolName ≠ "query_aws") :
    ResultFits toolName result :=
  ⟨.inr ⟨fun hname => absurd hname hcrowd, fun hname => absurd hname haws⟩, h⟩

theorem splunk_recordable (params : SplunkQueryInput) :
    Yields Recordable (splunkQuery rt settings params) := by
  unfold splunkQuery
  refine Yields.after fun startMs => ?_
  cases filledText (buildSpl params.query) with
  | none => exact Yields.pure ⟨rfl, rfl⟩
  | some spl =>
      refine Yields.after fun r => ?_
      cases r with
      | error e => cases e <;> exact Yields.pure ⟨rfl, rfl⟩
      | ok rawResults =>
          refine Yields.after fun elapsed => Yields.after fun compressed => ?_
          exact Yields.after fun rows => Yields.after fun shown => Yields.pure ⟨rfl, rfl⟩

theorem cmdb_recordable (params : CMDBInput) :
    Yields Recordable (cmdbQuery rt settings params) := by
  have hlookup (query : String) : Yields Recordable (servicenowLookup rt settings query params) := by
    refine Yields.after fun authHeaders => Yields.after fun found => Yields.after fun records => ?_
    split
    · exact Yields.pure ⟨rfl, rfl⟩
    · exact Yields.after fun r => Yields.pure ⟨rfl, rfl⟩
  have hquery : Yields (fun found => ∀ result, found = some result → Recordable result)
      (queryServicenowCmdb rt settings params) := by
    unfold queryServicenowCmdb
    split
    · exact Yields.pure fun result h => by cases h
    · cases sysparmQuery params with
      | none => exact Yields.pure fun result h => by cases h
      | some query =>
          refine (hlookup query).caught.bind fun r hr => ?_
          split
          · refine Yields.pure fun result h => ?_
            rw [← Option.some.inj h]
            exact hr _ rfl
          · refine Yields.pure fun result h => ?_
            rw [← Option.some.inj h]
            exact ⟨rfl, rfl⟩
          · exact Yields.pure fun result h => by cases h
  unfold cmdbQuery
  split
  · exact Yields.pure ⟨rfl, rfl⟩
  · refine hquery.bind fun found hfound => ?_
    cases found with
    | some result => exact Yields.pure (hfound result rfl)
    | none => exact Yields.pure ⟨rfl, rfl⟩

theorem vulncheck_recordable (cveId : String) :
    Yields Recordable (vulncheckLookup rt settings cveId) := by
  unfold vulncheckLookup
  split
  · exact Yields.pure ⟨rfl, rfl⟩
  · refine Yields.after fun startMs =>
      Yields.guarded ?_ fun e => by cases e <;> exact ⟨rfl, rfl⟩
    refine Yields.after fun body => Yields.after fun data => ?_
    split
    · exact Yields.after fun _ => Yields.pure ⟨rfl, rfl⟩
    · exact Yields.after fun entry => Yields.after fun _ => Yields.pure ⟨rfl, rfl⟩

theorem threatIntel_recordable (params : ThreatIntelParams) :
    Yields Recordable (threatIntel settings params) :=
  Yields.after fun _ => Yields.after fun _ => Yields.after fun _ => Yields.pure ⟨rfl, rfl⟩

/-! ### What CrowdStrike has found -/

/-- The steps of a list that all succeeded, one by one. -/
theorem mapM_forall {β : Type} {f : Json → Except PyExn β} {Q : β → Prop} {items : List Json}
    {results : List β} (h : items.mapM f = .ok results) (hf : ∀ x y, f x = .ok y → Q y) :
    ∀ y ∈ results, Q y := by
  induction items generalizing results with
  | nil =>
      obtain rfl : [] = results := Except.ok.inj h
      exact fun y hy => by cases hy
  | cons x items ih =>
      rw [List.mapM_cons] at h
      cases hx : f x with
      | error e =>
          rw [hx] at h
          cases h
      | ok y =>
          cases hrest : items.mapM f with
          | error e =>
              rw [hx, hrest] at h
              cases h
          | ok ys =>
              rw [hx, hrest] at h
              obtain rfl : y :: ys = results := Except.ok.inj h
              exact List.forall_mem_cons.mpr ⟨hf x y hx, ih hrest⟩

/-- Nothing that the wording looks into, or a list of objects under the first of the keys. -/
theorem crowdstrikeShape_of_rows {result : Params} {rows : List Json}
    (hrows : ∀ row ∈ rows, ∃ fields, row = .obj fields)
    (hfound : getOr result "detections" (.arr []) = .arr rows ∧
        getOr result "alerts" (.arr []) = .arr [] ∨
      getOr result "detections" (.arr []) = .arr [] ∧
        getOr result "alerts" (.arr []) = .arr rows)
    (hincidents : getOr result "incidents" (.arr []) = .arr []) : CrowdstrikeShape result := by
  unfold CrowdstrikeShape
  dsimp only
  cases rows with
  | nil =>
      have hnone : getOr result "detections" (.arr []) = .arr [] ∧
          getOr result "alerts" (.arr []) = .arr [] := by tauto
      rw [hnone.1, hnone.2, hincidents]
      trivial
  | cons row rows =>
      obtain ⟨fields, rfl⟩ := hrows row List.mem_cons_self
      rcases hfound with ⟨hdetections, -⟩ | ⟨hdetections, halerts⟩
      · rw [hdetections]
        exact ⟨fields, rows, rfl⟩
      · rw [hdetections, halerts]
        exact ⟨fields, rows, rfl⟩

theorem crowdstrike_of_shape {result : Params} (hshape : ReportsError result ∨ CrowdstrikeShape result)
    (h : Recordable result) : ResultFits "query_crowdstrike" result :=
  ⟨hshape.imp id fun hshape => ⟨fun _ => hshape, fun hno => absurd hno (by decide)⟩, h⟩

/-- The two steps bring rows, or none without ids. -/
theorem twoStep_rows (t : TwoStep) (headers : List (String × String))
    (hrow : ∀ d row, t.row d = .ok row → ∃ fields, row = .obj fields) :
    Yields (fun result => ∃ count rows, (∀ row ∈ rows, ∃ fields, row = .obj fields) ∧
      (result = [("source", .str "crowdstrike"), (t.listKey, .arr rows), ("count", count)] ∨
        result = [("source", .str "crowdstrike"), ("count", count), (t.listKey, .arr rows)]))
      (t.run settings headers) := by
  refine Yields.after fun ids => ?_
  split
  · exact Yields.pure ⟨_, [], (fun row h => by cases h), .inl rfl⟩
  · refine Yields.after fun wanted => Yields.after fun details => Yields.after fun count => ?_
    refine (yields_lift (P := fun rows => ∀ row ∈ rows, ∃ fields, row = .obj fields)
      fun rows hrows => ?_).bind fun rows hrows => Yields.pure ⟨_, rows, hrows, .inr rfl⟩
    unfold mapItems at hrows
    cases hitems : iterate details with
    | error e =>
        rw [hitems] at hrows
        cases hrows
    | ok items =>
        rw [hitems] at hrows
        refine mapM_forall hrows fun each row hread => ?_
        cases hfields : fieldsOf each with
        | error e =>
            rw [hfields] at hread
            cases hread
        | ok fields =>
            rw [hfields] at hread
            exact hrow fields row hread

theorem detections_fit (headers : List (String × String)) (params : CrowdStrikeInput) :
    Yields (ResultFits "query_crowdstrike") (detectionsByHost settings headers params) := by
  refine Yields.after fun since => ?_
  refine (twoStep_rows _ headers fun d row h => ⟨_, (Except.ok.inj h).symm⟩).imp ?_
  rintro result ⟨count, rows, hrows, rfl | rfl⟩
  · exact crowdstrike_of_shape (.inr (crowdstrikeShape_of_rows hrows (.inl ⟨rfl, rfl⟩) rfl))
      ⟨rfl, rfl⟩
  · exact crowdstrike_of_shape (.inr (crowdstrikeShape_of_rows hrows (.inl ⟨rfl, rfl⟩) rfl))
      ⟨rfl, rfl⟩

theorem alerts_fit (headers : List (String × String)) (params : CrowdStrikeInput) :
    Yields (ResultFits "query_crowdstrike") (alertsByHost settings headers params) := by
  refine (twoStep_rows _ headers fun a row h => ?_).imp ?_
  · change alertRow a = .ok row at h
    unfold alertRow at h
    cases hdescription : shortDescription a with
    | error e =>
        rw [hdescription] at h
        cases h
    | ok description =>
        rw [hdescription] at h
        exact ⟨_, (Except.ok.inj h).symm⟩
  · rintro result ⟨count, rows, hrows, rfl | rfl⟩
    · exact crowdstrike_of_shape (.inr (crowdstrikeShape_of_rows hrows (.inr ⟨rfl, rfl⟩) rfl))
        ⟨rfl, rfl⟩
    · exact crowdstrike_of_shape (.inr (crowdstrikeShape_of_rows hrows (.inr ⟨rfl, rfl⟩) rfl))
        ⟨rfl, rfl⟩

/-- Nothing that the wording looks into. -/
theorem crowdstrike_of_plain {result : Params}
    (hdetections : getOr result "detections" (.arr []) = .arr [])
    (halerts : getOr result "alerts" (.arr []) = .arr [])
    (hincidents : getOr result "incidents" (.arr []) = .arr []) (h : Recordable result) :
    ResultFits "query_crowdstrike" result :=
  crowdstrike_of_shape (.inr (crowdstrikeShape_of_rows (fun row h => by cases h)
    (.inl ⟨hdetections, halerts⟩) hincidents)) h

theorem processTree_fits (headers : List (String × String)) (params : CrowdStrikeInput) :
    Yields (ResultFits "query_crowdstrike") (processTree settings headers params) := by
  unfold processTree
  split
  · exact Yields.pure (crowdstrike_of_shape (.inl (.inl rfl)) ⟨rfl, rfl⟩)
  · exact Yields.after fun processes =>
      Yields.pure (crowdstrike_of_plain rfl rfl rfl ⟨rfl, rfl⟩)

theorem deviceInfo_fits (headers : List (String × String)) (params : CrowdStrikeInput) :
    Yields (ResultFits "query_crowdstrike") (deviceInfo settings headers params) := by
  refine Yields.after fun ids => ?_
  split
  · exact Yields.pure (crowdstrike_of_plain rfl rfl rfl ⟨rfl, rfl⟩)
  · exact Yields.after fun first => Yields.after fun details => Yields.after fun found =>
      Yields.after fun d => Yields.pure (crowdstrike_of_plain rfl rfl rfl ⟨rfl, rfl⟩)

/-- Whatever CrowdStrike says, unless it is asked for incidents. -/
theorem crowdstrike_fits {params : CrowdStrikeInput}
    (hincidents : params.queryType ≠ "incidents_by_host") :
    Yields (ResultFits "query_crowdstrike") (crowdstrikeQuery rt settings params) := by
  unfold crowdstrikeQuery
  split
  · exact Yields.pure (crowdstrike_of_shape (.inl (.inr rfl)) ⟨rfl, rfl⟩)
  · refine Yields.after fun _ => Yields.guarded ?_ fun e => by
      cases e <;> exact crowdstrike_of_shape (.inl (.inr rfl)) ⟨rfl, rfl⟩
    refine Yields.after fun token => ?_
    dsimp only
    split_ifs
    · exact detections_fit _ _
    · exact processTree_fits _ _
    · exact deviceInfo_fits _ _
    · exact Yields.after fun matched =>
        Yields.pure (crowdstrike_of_plain rfl rfl rfl ⟨rfl, rfl⟩)
    · exact alerts_fit _ _
    · exact Yields.pure (crowdstrike_of_plain rfl rfl rfl ⟨rfl, rfl⟩)

/-! ### The events of AWS -/

theorem aws_of_shape {result : Params} (hshape : ReportsError result ∨ AwsShape result)
    (h : Recordable result) : ResultFits "query_aws" result :=
  ⟨hshape.imp id fun hshape => ⟨fun hno => absurd hno (by decide), fun _ => hshape⟩, h⟩

theorem aws_of_plain {result : Params}
    (hevents : getOr result "high_risk_events" (.arr []) = .arr []) (h : Recordable result) :
    ResultFits "query_aws" result :=
  aws_of_shape (.inr (.inr ⟨[], hevents, fun event hno => by cases hno⟩)) h

/-- An event of high risk has its name. -/
theorem highRiskRow_named {event : Json} {kept : List Json} (h : highRiskRow event = .ok kept) :
    ∀ e ∈ kept, ∃ fields s, e = .obj fields ∧ getOr fields "EventName" (.str "?") = .str s := by
  cases event with
  | obj fields =>
      change (if hashable (getOr fields "EventName" (.str "")) = true then
        Except.ok (if highRiskNames.any fun risk =>
            isText risk (getOr fields "EventName" (.str "")) then [Json.obj fields] else [])
        else .error typeError) = .ok kept at h
      split at h
      · obtain rfl := Except.ok.inj h
        intro e he
        split at he
        · rename_i hrisk
          obtain rfl := List.mem_singleton.mp he
          obtain ⟨risk, hmem, hrisk⟩ := List.any_eq_true.mp hrisk
          refine ⟨fields, risk, rfl, ?_⟩
          -- the name is there, for no name of high risk is empty
          unfold getOr at hrisk ⊢
          cases hname : Json.lookup "EventName" fields with
          | none =>
              rw [hname] at hrisk
              obtain rfl : "" = risk := by simpa [isText] using hrisk
              exact absurd hmem (by decide)
          | some name =>
              rw [hname] at hrisk
              cases name with
              | str s =>
                  obtain rfl : s = risk := by simpa [isText] using hrisk
                  rfl
              | _ => cases hrisk
        · cases he
      · cases h
  | _ => cases h

theorem cloudtrail_fits (username since : String) :
    Yields (ResultFits "query_aws") (cloudtrailByUser rt username since) := by
  refine Yields.after fun _ => Yields.after fun events => ?_
  refine (yields_lift fun kept h => mapM_forall h fun _ _ => highRiskRow_named).bind
    fun highRisk hnamed => ?_
  refine Yields.pure (aws_of_shape (.inr (.inr ⟨_, rfl, fun event hevent => ?_⟩)) ⟨rfl, rfl⟩)
  obtain ⟨kept, hkept, hevent⟩ :=
    List.mem_flatten.mp (List.mem_of_mem_take (List.mem_of_mem_take hevent))
  exact hnamed kept hkept event hevent

theorem guardduty_fits : Yields (ResultFits "query_aws") guarddutyFindings := by
  refine Yields.after fun _ => Yields.after fun listed => Yields.after fun detectors => ?_
  split
  · exact Yields.pure (aws_of_plain rfl ⟨rfl, rfl⟩)
  · refine Yields.after fun detectorId => Yields.after fun listed => ?_
    refine Yields.after fun findingIds => ?_
    split
    · exact Yields.pure (aws_of_plain rfl ⟨rfl, rfl⟩)
    · exact Yields.after fun response => Yields.after fun findings =>
        Yields.pure (aws_of_plain rfl ⟨rfl, rfl⟩)

theorem aws_fits (params : AWSQueryInput) :
    Yields (ResultFits "query_aws") (awsQuery rt settings params) := by
  unfold awsQuery
  split
  · exact Yields.pure (aws_of_shape (.inl (.inr rfl)) ⟨rfl, rfl⟩)
  · refine Yields.after fun since => Yields.guarded ?_ fun e => by
      cases e <;> exact aws_of_shape (.inl (.inr rfl)) ⟨rfl, rfl⟩
    refine Yields.after fun _ => Yields.after fun _ => ?_
    split_ifs
    · exact cloudtrail_fits _ _
    · exact Yields.after fun _ => Yields.after fun events =>
        Yields.pure (aws_of_plain rfl ⟨rfl, rfl⟩)
    · exact guardduty_fits
    · exact Yields.after fun _ => Yields.after fun events =>
        Yields.pure (aws_of_plain rfl ⟨rfl, rfl⟩)
    · exact Yields.pure (aws_of_shape (.inl (.inr rfl)) ⟨rfl, rfl⟩)

/-! ## §4  What is handed on -/

/-- The calls of a tool with their replies. -/
abbrev Exchange : Type := List (Async.Answered VendorCall VendorCall.Reply)

def responseOf : Async.Answered VendorCall VendorCall.Reply → Option HttpResponse
  | ⟨.http _, reply⟩ => (reply : Option (Except VendorExn HttpResponse)).bind Except.toOption
  | _ => none

/-- The responses to HTTP requests. -/
def responses (exchange : Exchange) : List HttpResponse := exchange.filterMap responseOf

theorem responses_singleton (a : Async.Answered VendorCall VendorCall.Reply) :
    responses [a] = (responseOf a).toList := by
  unfold responses
  rw [List.filterMap_cons]
  cases responseOf a <;> rfl

/-- A dict from the API of a customer that the record cannot take. -/
def Misfit (response : HttpResponse) : Prop :=
  response.status < 400 ∧ ∃ data, response.json = some (.obj data) ∧ ¬ Recordable data

theorem lookup_setDefault {key : String} {value : Json} (fields : Params) :
    Json.lookup key (setDefault key value fields) =
      some ((Json.lookup key fields).getD value) := by
  unfold setDefault
  cases h : Json.lookup key fields with
  | some found => exact h
  | none =>
      unfold Json.lookup at h ⊢
      rw [Option.map_eq_none_iff] at h
      simp [h]

theorem lookup_setDefault_ne {key key' : String} {value : Json} (hne : key' ≠ key)
    (fields : Params) :
    Json.lookup key (setDefault key' value fields) = Json.lookup key fields := by
  unfold setDefault
  cases Json.lookup key' fields with
  | some found => rfl
  | none => simp [Json.lookup, List.find?_append, hne]

theorem lookup_setDefaults_ne {key : String} {defaults : Params}
    (hne : ∀ d ∈ defaults, d.1 ≠ key) (fields : Params) :
    Json.lookup key (defaults.foldl (fun data d => setDefault d.1 d.2 data) fields) =
      Json.lookup key fields := by
  induction defaults generalizing fields with
  | nil => rfl
  | cons d defaults ih =>
      obtain ⟨hd, hrest⟩ := List.forall_mem_cons.mp hne
      rw [List.foldl_cons, ih hrest, lookup_setDefault_ne hd]

/-- The defaults of both tools: the source is available, and there is no error among them. -/
structure PassThrough.Defaults (t : PassThrough) : Prop where
  available : ∃ rest, t.defaults = ("source_available", .bool true) :: rest ∧
    ∀ d ∈ rest, d.1 ≠ "source_available" ∧ d.1 ≠ "error"

theorem recordable_handOn {t : PassThrough} (ht : t.Defaults) (data : Params) :
    Recordable (t.handOn (.obj data)) ↔ Recordable data := by
  obtain ⟨rest, hdefaults, hrest⟩ := ht.available
  have havailable : Json.lookup "source_available" (t.handOn (.obj data)) =
      some ((Json.lookup "source_available" data).getD (.bool true)) := by
    rw [PassThrough.handOn, hdefaults, List.foldl_cons,
      lookup_setDefaults_ne fun d hd => (hrest d hd).1, lookup_setDefault]
  have herror : Json.lookup "error" (t.handOn (.obj data)) = Json.lookup "error" data := by
    rw [PassThrough.handOn, hdefaults, List.foldl_cons,
      lookup_setDefaults_ne fun d hd => (hrest d hd).2, lookup_setDefault_ne (by decide)]
  unfold Recordable getOr
  rw [havailable, herror]
  rfl

theorem failure_recordable (t : PassThrough) (hrest : t.failureRest = [] ∨
    t.failureRest = [("results", .arr [])]) (text : String) : Recordable (t.failure text) := by
  unfold PassThrough.failure
  rcases hrest with hrest | hrest
  · rw [hrest]
    exact ⟨rfl, rfl⟩
  · rw [hrest]
    exact ⟨rfl, rfl⟩

/-- The one request of the tool, and what it returns. -/
theorem ends_passThrough {t : PassThrough}
    {exchange : Exchange} {result : Params}
    (h : Ends (t.run rt) exchange (.ok result)) :
    ∃ reply : Option (Except VendorExn HttpResponse), exchange = [⟨.http t.request, reply⟩] ∧
      (Failed (.http t.request) reply ∧ (∃ text, result = t.failure text) ∨
        ∃ response data, reply = some (.ok response) ∧ response.status < 400 ∧
          response.json = some data ∧ result = t.handOn data) := by
  obtain ⟨rs₁, r, rs₂, rfl, hbody, hresult⟩ := ends_bind h
  obtain ⟨rs₃, response, rs₄, rfl, hhttp, hrest⟩ := Ends.of_bind (ends_caught hbody)
  obtain ⟨reply, rfl, rfl⟩ := ends_ask hhttp
  -- the dict of an exception, or the result itself
  have hfailed (e : VendorExn) (hr : r = .error e) :
      rs₂ = [] ∧ ∃ text, result = t.failure text := by
    subst hr
    cases hresult
    cases e <;> exact ⟨rfl, _, rfl⟩
  have hreturned (final : Params) (hr : r = .ok final) : rs₂ = [] ∧ result = final := by
    subst hr
    cases hresult
    exact ⟨rfl, rfl⟩
  refine ⟨reply, ?_⟩
  cases reply with
  | none =>
      obtain ⟨rfl, hr⟩ := ends_throw hrest
      obtain ⟨rfl, htext⟩ := hfailed _ hr
      exact ⟨rfl, .inl ⟨(fun _ hno => by cases hno), htext⟩⟩
  | some reply =>
      cases reply with
      | error e =>
          obtain ⟨rfl, hr⟩ := ends_throw hrest
          obtain ⟨rfl, htext⟩ := hfailed _ hr
          refine ⟨rfl, .inl ⟨fun r hr response hok => ?_, htext⟩⟩
          rw [← Option.some.inj hr] at hok
          cases hok
      | ok response =>
          change Ends (if 400 ≤ response.status then _ else _ : Tool Params) rs₄ r at hrest
          unfold HttpResponse.decoded at hrest
          by_cases hstatus : 400 ≤ response.status
          · rw [if_pos hstatus] at hrest
            obtain ⟨rfl, hr⟩ := ends_pure hrest
            obtain ⟨rfl, heq⟩ := hreturned _ hr
            refine ⟨rfl, .inl ⟨fun r hr response' hok => .inl ?_, _, heq⟩⟩
            rw [← Option.some.inj hr] at hok
            rwa [← Except.ok.inj hok]
          · rw [if_neg hstatus] at hrest
            cases hjson : response.json with
            | none =>
                rw [hjson] at hrest
                obtain ⟨rfl, hr⟩ := ends_throw hrest
                obtain ⟨rfl, htext⟩ := hfailed _ hr
                refine ⟨rfl, .inl ⟨fun r hr response' hok => .inr ?_, htext⟩⟩
                rw [← Option.some.inj hr] at hok
                rwa [← Except.ok.inj hok]
            | some data =>
                rw [hjson] at hrest
                obtain ⟨rfl, hr⟩ := ends_pure hrest
                obtain ⟨rfl, heq⟩ := hreturned _ hr
                exact ⟨rfl, .inr ⟨response, data, rfl, by omega, hjson, heq⟩⟩

/-- What was handed on can be recorded unless it is a misfit. -/
theorem passThrough_recordable_iff {t : PassThrough} (ht : t.Defaults)
    (hrest : t.failureRest = [] ∨ t.failureRest = [("results", .arr [])])
    {exchange : Exchange} {result : Params} (h : Ends (t.run rt) exchange (.ok result)) :
    Recordable result ↔ ∀ response ∈ responses exchange, ¬ Misfit response := by
  obtain ⟨reply, rfl, hresult⟩ := ends_passThrough h
  have hresponses : responses [⟨.http t.request, reply⟩] =
      (reply.bind Except.toOption).toList := responses_singleton _
  rw [hresponses]
  rcases hresult with ⟨hfailed, text, rfl⟩ | ⟨response, data, rfl, hstatus, hjson, rfl⟩
  · apply iff_of_true (failure_recordable t hrest text)
    rintro response hmem ⟨hstatus, data, hjson, -⟩
    rw [Option.mem_toList, Option.bind_eq_some_iff] at hmem
    obtain ⟨r, hr, hok⟩ := hmem
    cases r with
    | error e => cases hok
    | ok response' =>
        obtain rfl := Option.some.inj hok
        rcases hfailed _ hr response' rfl with hrefused | hnone
        · omega
        · rw [hjson] at hnone
          cases hnone
  · have hmisfit : Misfit response ↔ ∃ fields, data = .obj fields ∧ ¬ Recordable fields := by
      unfold Misfit
      rw [hjson]
      simp [hstatus]
    have hone : (∀ response' ∈ [response], ¬ Misfit response') ↔ ¬ Misfit response := by simp
    refine Iff.trans ?_ hone.symm
    rw [hmisfit]
    cases data with
    | obj fields => simp [recordable_handOn ht]
    | _ =>
        apply iff_of_true
        · exact ⟨rfl, rfl⟩
        · simp

/-- A tool that catches everything does not raise. -/
theorem guarded_returns {onError : VendorExn → Params} {body : Tool Params} {exchange : Exchange}
    {e : VendorExn} (h : Ends (guarded onError body) exchange (.error e)) : False := by
  obtain ⟨rs₁, r, rs₂, -, hcaught, hrest⟩ := Ends.of_bind h
  obtain ⟨rs₃, returned, rs₄, -, -, hpure⟩ := Ends.of_bind hcaught
  cases hpure
  cases returned with
  | ok result => cases hrest
  | error e => cases hrest

/-! ## §5  Executions -/

section Executions

variable {toolName : String} {params : Params} {exchange : Exchange}

/-- The tools that hand on what the API of a customer says. -/
def passThroughTools : List String := ["query_netflow", "query_dns_logs", "query_backup_systems"]

/-- The tool hands on a dict that the record cannot take. -/
def HandsOnMisfit (toolName : String) (exchange : Exchange) : Prop :=
  toolName ∈ passThroughTools ∧ ∃ response ∈ responses exchange, Misfit response

/-- CrowdStrike is asked for incidents. -/
def AsksIncidents (toolName : String) (params : Params) : Prop :=
  toolName = "query_crowdstrike" ∧ textOr "" params "query_type" = "incidents_by_host"

theorem netflow_defaults (params : NetFlowInput) : (netflowTool settings params).Defaults :=
  ⟨_, rfl, by simp⟩

theorem backup_defaults (params : BackupQueryInput) : (backupTool settings params).Defaults :=
  ⟨_, rfl, by simp⟩

theorem netflow_recordable_iff {input : NetFlowInput} {result : Params}
    (h : Ends (netflowQuery rt settings input) exchange (.ok result)) :
    Recordable result ↔ ∀ response ∈ responses exchange, ¬ Misfit response := by
  unfold netflowQuery at h
  split at h
  · obtain ⟨rfl, hresult⟩ := ends_pure h
    rw [Except.ok.inj hresult]
    exact iff_of_true ⟨rfl, rfl⟩ fun response hno => by cases hno
  · exact passThrough_recordable_iff (netflow_defaults input) (.inl rfl) h

theorem backup_recordable_iff {input : BackupQueryInput} {result : Params}
    (h : Ends (backupQuery rt settings input) exchange (.ok result)) :
    Recordable result ↔ ∀ response ∈ responses exchange, ¬ Misfit response := by
  unfold backupQuery at h
  split at h
  · obtain ⟨rfl, hresult⟩ := ends_pure h
    rw [Except.ok.inj hresult]
    exact iff_of_true ⟨rfl, rfl⟩ fun response hno => by cases hno
  · exact passThrough_recordable_iff (backup_defaults input) (.inr rfl) h

/-- A call that returns had parameters that fit, and is one of the function. -/
theorem ends_callTool {result : Params}
    (h : Ends (callTool rt settings toolName params) exchange (.ok result)) :
    Ends (toolFunction rt settings toolName params) exchange (.ok result) := by
  unfold callTool at h
  split at h
  · exact h
  · cases h

/-- **What a tool returns fits**, whatever the vendors say, unless it hands on a misfit. -/
theorem resultFits_iff {result : Params} (hincidents : ¬ AsksIncidents toolName params)
    (h : Ends (callTool rt settings toolName params) exchange (.ok result)) :
    ResultFits toolName result ↔ ¬ HandsOnMisfit toolName exchange := by
  replace h := ends_callTool h
  have hplain (hname : toolName ∉ passThroughTools) (hfits : ResultFits toolName result) :
      ResultFits toolName result ↔ ¬ HandsOnMisfit toolName exchange :=
    iff_of_true hfits fun hno => hname hno.1
  have hhandsOn (hname : toolName ∈ passThroughTools)
      (hiff : Recordable result ↔ ∀ response ∈ responses exchange, ¬ Misfit response) :
      ResultFits toolName result ↔ ¬ HandsOnMisfit toolName exchange := by
    have hother : toolName ≠ "query_crowdstrike" ∧ toolName ≠ "query_aws" := by
      constructor
      all_goals
        rintro rfl
        exact absurd hname (by decide)
    constructor
    · rintro ⟨-, hrecordable⟩ ⟨-, response, hmem, hmisfit⟩
      exact hiff.mp hrecordable response hmem hmisfit
    · intro hnone
      exact resultFits_of_recordable (hiff.mpr fun response hmem hmisfit =>
        hnone ⟨hname, response, hmem, hmisfit⟩) hother.1 hother.2
  unfold toolFunction at h
  split_ifs at h with hsplunk hcrowd hintel haws hcmdb hnetflow hbackup hvulncheck
  · subst hsplunk
    exact hplain (by decide) (resultFits_of_recordable ((splunk_recordable _).ends h)
      (by decide) (by decide))
  · subst hcrowd
    exact hplain (by decide) ((crowdstrike_fits fun htype => hincidents ⟨rfl, htype⟩).ends h)
  · subst hintel
    exact hplain (by decide) (resultFits_of_recordable ((threatIntel_recordable _).ends h)
      (by decide) (by decide))
  · subst haws
    exact hplain (by decide) ((aws_fits _).ends h)
  · subst hcmdb
    exact hplain (by decide) (resultFits_of_recordable ((cmdb_recordable _).ends h)
      (by decide) (by decide))
  · exact hhandsOn (by rcases hnetflow with rfl | rfl <;> decide) (netflow_recordable_iff h)
  · exact hhandsOn (by subst hbackup; decide) (backup_recordable_iff h)
  · subst hvulncheck
    exact hplain (by decide) (resultFits_of_recordable ((vulncheck_recordable _).ends h)
      (by decide) (by decide))
  · cases h

/-- A call that raised handed on nothing. -/
theorem not_handsOn_of_raised {e : VendorExn}
    (h : Ends (callTool rt settings toolName params) exchange (.error e)) :
    ¬ HandsOnMisfit toolName exchange := by
  rintro ⟨hname, response, hmem, -⟩
  unfold callTool at h
  split at h
  · unfold toolFunction at h
    split_ifs at h with hsplunk hcrowd hintel haws hcmdb hnetflow hbackup hvulncheck
    · exact absurd hname (by subst hsplunk; decide)
    · exact absurd hname (by subst hcrowd; decide)
    · exact absurd hname (by subst hintel; decide)
    · exact absurd hname (by subst haws; decide)
    · exact absurd hname (by subst hcmdb; decide)
    · unfold netflowQuery at h
      split at h
      · cases h
      · exact guarded_returns h
    · unfold backupQuery at h
      split at h
      · cases h
      · exact guarded_returns h
    · exact absurd hname (by subst hvulncheck; decide)
    · obtain ⟨rfl, -⟩ := ends_throw h
      cases hmem
  · obtain ⟨rfl, -⟩ := ends_throw h
    cases hmem

/-- An execution of a registered tool without a cached result returns, unless a misfit is
handed on in time. -/
theorem executed_iff {fmt : Json → String} {answer : ToolAnswer}
    (hregistered : toolName ∈ toolRegistry) (hincidents : ¬ AsksIncidents toolName params)
    (hmiss : answer.cached.filter Json.truthy = none)
    (h : Answers rt settings toolName params exchange answer.outcome) :
    (executeSingleTool (summariseTool fmt) toolName params answer).isSome = true ↔
      (answer.outcome ≠ .timeout → ¬ HandsOnMisfit toolName exchange) := by
  rw [executeSingleTool_isSome hregistered, AnswerFits, hmiss]
  dsimp only
  rcases h with htimeout | ⟨returned, hends, houtcome⟩
  · rw [htimeout]
    exact iff_of_true trivial fun hno => absurd rfl hno
  · rw [houtcome]
    cases returned with
    | ok result =>
        have hiff := resultFits_iff hincidents hends
        constructor
        · exact fun hfits _ => hiff.mp hfits
        · exact fun hnone => hiff.mpr (hnone fun hno => by cases hno)
    | error e => exact iff_of_true trivial fun _ => not_handsOn_of_raised hends

end Executions

end AlertTriage.Vendor
