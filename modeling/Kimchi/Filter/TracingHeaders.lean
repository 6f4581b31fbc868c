import Kimchi.Filter.FilterChain

/-!
# What the header filter does to a message

`HeaderFilter::onRequest` repairs two headers, one after the other: the second reads
what the first left behind.  `getSingleOrEmpty` answers alike for a header that is
missing, empty or repeated, so these three are one case, `Lacking`; the other one is
`Present`.

* `ensure_of_present`, `ensure_of_lacking` — one repair: nothing, or one entry in the
  place of all others of the name.
* `normalised_tracingWith` — both repairs together.
* `headerFilter_normalises` — the forwarded message, and that a second pass of the
  filter forwards it unchanged.
-/

namespace Kimchi

open Library

namespace HTTPHeaders

/-- The header occurs exactly once, with a value. -/
def Present (hdrs : HTTPHeaders) (name : Str) : Prop := ∃ value, value ≠ [] ∧ hdrs.values name = [value]

/-- The header is missing, empty or repeated. -/
def Lacking (hdrs : HTTPHeaders) (name : Str) : Prop :=
  hdrs.values name = [] ∨ hdrs.values name = [[]] ∨ 2 ≤ (hdrs.values name).length

theorem present_or_lacking (hdrs : HTTPHeaders) (name : Str) : hdrs.Present name ∨ hdrs.Lacking name := by
  unfold Present Lacking
  rcases hvalues : hdrs.values name with _ | ⟨value, _ | ⟨other, rest⟩⟩
  · exact Or.inr (Or.inl rfl)
  · by_cases hempty : value = []
    · subst hempty
      exact Or.inr (Or.inr (Or.inl rfl))
    · exact Or.inl ⟨value, hempty, rfl⟩
  · exact Or.inr (Or.inr (Or.inr (by simp)))

theorem Lacking.not_present {hdrs : HTTPHeaders} {name : Str} (h : hdrs.Lacking name) :
    ¬ hdrs.Present name := by
  rintro ⟨value, hne, hvalues⟩
  unfold Lacking at h
  rw [hvalues] at h
  rcases h with hmissing | hempty | hrepeated
  · cases hmissing
  · exact hne (List.singleton_inj.mp hempty)
  · simp at hrepeated

/-- The reader sees a value exactly where the header is present. -/
theorem getSingleOrEmpty_ne_nil_iff {hdrs : HTTPHeaders} {name : Str} :
    hdrs.getSingleOrEmpty name ≠ [] ↔ hdrs.Present name := by
  constructor
  · intro hne
    exact ⟨_, hne, (getSingleOrEmpty_eq_iff hne).mp rfl⟩
  · rintro ⟨value, hne, hvalues⟩
    rw [(getSingleOrEmpty_eq_iff hne).mpr hvalues]
    exact hne

/-- A present header has the value that is read. -/
theorem Present.values_eq {hdrs : HTTPHeaders} {name : Str} (h : hdrs.Present name) :
    hdrs.values name = [hdrs.getSingleOrEmpty name] :=
  (getSingleOrEmpty_eq_iff (getSingleOrEmpty_ne_nil_iff.mpr h)).mp rfl

theorem present_congr {hdrs hdrs' : HTTPHeaders} {name : Str} (h : hdrs'.values name = hdrs.values name) :
    hdrs'.Present name ↔ hdrs.Present name := by
  unfold Present
  rw [h]

end HTTPHeaders

namespace HeaderFilter

/-! ## One repair -/

section Ensure

variable {hdrs : HTTPHeaders} {name : Str}

theorem ensure_of_present (h : hdrs.Present name) (value : Str) : ensure hdrs name value = hdrs :=
  if_neg (HTTPHeaders.getSingleOrEmpty_ne_nil_iff.mpr h)

theorem ensure_of_lacking (h : hdrs.Lacking name) (value : Str) :
    ensure hdrs name value = hdrs.set name value := by
  have hempty : hdrs.getSingleOrEmpty name = [] := by
    by_contra hne
    exact h.not_present (HTTPHeaders.getSingleOrEmpty_ne_nil_iff.mp hne)
  exact if_pos hempty

theorem values_ensure_of_lacking (h : hdrs.Lacking name) (value : Str) :
    (ensure hdrs name value).values name = [value] := by
  rw [ensure_of_lacking h, HTTPHeaders.values_set_self]

/-- After the repair the header is present, whatever it was before. -/
theorem present_ensure (hdrs : HTTPHeaders) (name : Str) {value : Str} (hvalue : value ≠ []) :
    (ensure hdrs name value).Present name := by
  rcases hdrs.present_or_lacking name with hpresent | hlacking
  · rw [ensure_of_present hpresent]
    exact hpresent
  · exact ⟨value, hvalue, values_ensure_of_lacking hlacking value⟩

/-- The repair of a header leaves the entries outside `names` in place. -/
theorem without_ensure {names : List Str} (h : name ∈ names) (hdrs : HTTPHeaders) (value : Str) :
    Multimap.without lower (ensure hdrs name value) names = Multimap.without lower hdrs names := by
  unfold ensure
  split
  · exact Multimap.without_set_of_mem h
  · rfl

end Ensure

/-! ## Both repairs -/

/-- The headers the filter normalises. -/
def tracingHeaders : List Str := [str "x-request-id", str "x-trace-id"]

/-- The headers after the filter, against those before it. -/
structure Normalised (id : Str) (before after : HTTPHeaders) : Prop where
  request_id : after.Present (str "x-request-id")
  trace_id : after.Present (str "x-trace-id")
  kept : ∀ name ∈ tracingHeaders, ∀ value, value ≠ [] → before.values name = [value] →
    after.values name = [value]
  generated : before.Lacking (str "x-request-id") → after.values (str "x-request-id") = [id]
  copied : before.Lacking (str "x-trace-id") →
    after.values (str "x-trace-id") = after.values (str "x-request-id")
  others : Multimap.without lower after tracingHeaders = Multimap.without lower before tracingHeaders

theorem lower_trace_ne_request : lower (str "x-trace-id") ≠ lower (str "x-request-id") := by decide

theorem normalised_tracingWith {id : Str} (hid : id ≠ []) (hdrs : HTTPHeaders) :
    Normalised id hdrs (tracingWith id hdrs) := by
  -- `mid` are the headers between the two repairs
  let mid : HTTPHeaders := ensure hdrs (str "x-request-id") id
  have hmid : mid.Present (str "x-request-id") := present_ensure hdrs _ hid
  have hread : mid.getSingleOrEmpty (str "x-request-id") ≠ [] :=
    HTTPHeaders.getSingleOrEmpty_ne_nil_iff.mpr hmid
  -- neither repair touches the other's header
  have hrequest : (tracingWith id hdrs).values (str "x-request-id") = mid.values (str "x-request-id") :=
    values_ensure_of_ne lower_trace_ne_request
  have htrace : mid.values (str "x-trace-id") = hdrs.values (str "x-trace-id") :=
    values_ensure_of_ne lower_trace_ne_request.symm
  refine ⟨(HTTPHeaders.present_congr hrequest).mpr hmid, present_ensure mid _ hread, ?_, ?_, ?_, ?_⟩
  · intro name hname value hvalue hbefore
    rcases List.mem_pair.mp hname with rfl | rfl
    · have hkept : mid = hdrs := ensure_of_present ⟨value, hvalue, hbefore⟩ id
      rw [hrequest, hkept, hbefore]
    · have hkept : tracingWith id hdrs = mid :=
        ensure_of_present ⟨value, hvalue, htrace.trans hbefore⟩ _
      rw [hkept, htrace, hbefore]
  · intro hlacking
    rw [hrequest]
    exact values_ensure_of_lacking hlacking id
  · intro hlacking
    have hmidLacking : mid.Lacking (str "x-trace-id") := by
      unfold HTTPHeaders.Lacking
      rw [htrace]
      exact hlacking
    rw [hrequest, hmid.values_eq]
    exact values_ensure_of_lacking hmidLacking _
  · have hsecond : Multimap.without lower (tracingWith id hdrs) tracingHeaders =
        Multimap.without lower mid tracingHeaders := without_ensure (by decide) mid _
    rw [hsecond]
    exact without_ensure (by decide) hdrs id

/-- Headers with both ids pass unchanged, whatever id is generated. -/
theorem tracingWith_of_present {hdrs : HTTPHeaders} (hrequest : hdrs.Present (str "x-request-id"))
    (htrace : hdrs.Present (str "x-trace-id")) (id : Str) : tracingWith id hdrs = hdrs := by
  unfold tracingWith
  rw [ensure_of_present hrequest, ensure_of_present htrace]

/-- The generated id has 32 digits. -/
theorem generateRequestId_ne_nil (rand64 : UInt64 × UInt64) : generateRequestId rand64 ≠ [] := by
  intro hempty
  have hlength : (generateRequestId rand64).length = 32 := by simp [generateRequestId, hex16]
  rw [hempty] at hlength
  cases hlength

end HeaderFilter

/-- **The header filter normalises the tracing headers.**  For every message and every
non-empty generated id, the forwarded message has each of the two headers exactly once
and with a value, as `Normalised` says, and is otherwise the message received; and it
passes the filter a second time unchanged, whatever id is generated then.  The filter
of the gateway is an instance: its ids are never empty. -/
theorem headerFilter_normalises (msg : HTTPMessage) :
    (∀ id : Str, id ≠ [] → ∃ msg' : HTTPMessage,
      HeaderFilter.onRequestWith id msg = .forward msg' ∧
      HeaderFilter.Normalised id msg.headers msg'.headers ∧
      msg' = { msg with headers := msg'.headers } ∧
      ∀ id', HeaderFilter.onRequestWith id' msg' = .forward msg') ∧
    ∀ rand64 : UInt64 × UInt64, HeaderFilter.generateRequestId rand64 ≠ [] ∧
      HeaderFilter.onRequest rand64 msg =
        HeaderFilter.onRequestWith (HeaderFilter.generateRequestId rand64) msg := by
  constructor
  · intro id hid
    have hnormalised := HeaderFilter.normalised_tracingWith hid msg.headers
    refine ⟨{ msg with headers := HeaderFilter.tracingWith id msg.headers }, rfl, hnormalised, rfl, ?_⟩
    intro id'
    unfold HeaderFilter.onRequestWith
    rw [HeaderFilter.tracingWith_of_present hnormalised.request_id hnormalised.trace_id]
  · intro rand64
    exact ⟨HeaderFilter.generateRequestId_ne_nil rand64, rfl⟩

end Kimchi
