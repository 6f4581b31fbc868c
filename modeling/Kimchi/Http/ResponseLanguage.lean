import Mathlib.Data.List.Induction
import Kimchi.Http.Message

/-!
# Well-formed responses

What a `ResponseHandler` may be sent for one request: any number of interim headers,
one final header block, body, and one end of message.  `IsResponse` says so
declaratively; `ResponseShape.scan` recognises the prefixes of such call sequences
one call at a time, which is the form the invariants of the senders use.
`exists_response_iff_scan` connects the two.
-/

namespace Kimchi

/-- A complete response: interim headers, final headers, body and one end of
message. -/
def IsResponse (calls : List ResponseCall) : Prop :=
  ∃ (interim : List ResponseHead) (final : ResponseHead) (bodies : List Str),
    (∀ head ∈ interim, head.is1xx = true) ∧ final.is1xx = false ∧
      calls = interim.map .sendHeaders ++ .sendHeaders final :: (bodies.map .sendBody ++ [.sendEOM])

/-- How far a response has got. -/
inductive ResponseShape where
  | head
  | body
  | ended
  | malformed
  deriving DecidableEq, Repr

namespace ResponseShape

/-- The shape after one more call. -/
def scan : ResponseShape → ResponseCall → ResponseShape
  | .head, .sendHeaders h => if h.is1xx then .head else .body
  | .body, .sendBody _ => .body
  | .body, .sendEOM => .ended
  | _, _ => .malformed

/-- The shape of a call sequence. -/
def ofCalls (calls : List ResponseCall) : ResponseShape := calls.foldl scan .head

theorem ofCalls_append (calls more : List ResponseCall) :
    ofCalls (calls ++ more) = more.foldl scan (ofCalls calls) := by
  simp [ofCalls]

@[simp] theorem foldl_scan_malformed (calls : List ResponseCall) :
    calls.foldl scan .malformed = .malformed := by
  induction calls with
  | nil => rfl
  | cons c calls ih => simpa [scan] using ih

theorem foldl_scan_interim {interim : List ResponseHead} (h : ∀ head ∈ interim, head.is1xx = true) :
    (interim.map ResponseCall.sendHeaders).foldl scan .head = .head := by
  induction interim with
  | nil => rfl
  | cons i interim ih =>
      have hi : i.is1xx = true := h i (by simp)
      simpa [scan, hi] using ih fun head hh => h head (by simp [hh])

theorem foldl_scan_bodies (bodies : List Str) :
    (bodies.map ResponseCall.sendBody).foldl scan .body = .body := by
  induction bodies with
  | nil => rfl
  | cons b bodies ih => simpa [scan] using ih

theorem ofCalls_of_isResponse {calls : List ResponseCall} (h : IsResponse calls) :
    ofCalls calls = .ended := by
  obtain ⟨interim, final, bodies, hinterim, hfinal, rfl⟩ := h
  rw [ofCalls, List.foldl_append, foldl_scan_interim hinterim, List.foldl_cons]
  have hhead : scan .head (.sendHeaders final) = .body := by simp [scan, hfinal]
  rw [hhead, List.foldl_append, foldl_scan_bodies]
  rfl

/-- Only an interim header block keeps the head open. -/
theorem scan_eq_head {shape : ResponseShape} {c : ResponseCall} (h : scan shape c = .head) :
    shape = .head ∧ ∃ head, c = .sendHeaders head ∧ head.is1xx = true := by
  cases shape <;> cases c <;> simp [scan] at h
  next head => exact ⟨rfl, head, rfl, h⟩

/-- The body is entered by the final header block and kept open by body chunks. -/
theorem scan_eq_body {shape : ResponseShape} {c : ResponseCall} (h : scan shape c = .body) :
    (shape = .head ∧ ∃ head, c = .sendHeaders head ∧ head.is1xx = false) ∨
      (shape = .body ∧ ∃ chunk, c = .sendBody chunk) := by
  cases shape <;> cases c <;> simp [scan] at h
  next head => exact Or.inl ⟨rfl, head, rfl, h⟩
  next chunk => exact Or.inr ⟨rfl, chunk, rfl⟩

theorem scan_eq_ended {shape : ResponseShape} {c : ResponseCall} (h : scan shape c = .ended) :
    shape = .body ∧ c = .sendEOM := by
  cases shape <;> cases c <;> simp [scan] at h
  · split at h <;> cases h
  · exact ⟨rfl, rfl⟩

theorem ofCalls_concat (calls : List ResponseCall) (c : ResponseCall) :
    ofCalls (calls ++ [c]) = scan (ofCalls calls) c := by
  simp [ofCalls]

/-- While the head is open, only interim headers were sent. -/
theorem exists_interim_of_head (calls : List ResponseCall) (h : ofCalls calls = .head) :
    ∃ interim : List ResponseHead,
      (∀ head ∈ interim, head.is1xx = true) ∧ calls = interim.map .sendHeaders := by
  induction calls using List.reverseRecOn with
  | nil => exact ⟨[], by simp, rfl⟩
  | append_singleton calls c ih =>
      rw [ofCalls_concat] at h
      obtain ⟨hprev, last, rfl, hlast⟩ := scan_eq_head h
      obtain ⟨interim, hinterim, rfl⟩ := ih hprev
      refine ⟨interim ++ [last], ?_, by simp⟩
      intro head hhead
      rcases List.mem_append.mp hhead with hm | hm
      · exact hinterim head hm
      · rw [List.mem_singleton.mp hm]
        exact hlast

/-- While the body is open, interim headers, the final headers and body chunks were
sent. -/
theorem exists_parts_of_body (calls : List ResponseCall) (h : ofCalls calls = .body) :
    ∃ (interim : List ResponseHead) (final : ResponseHead) (bodies : List Str),
      (∀ head ∈ interim, head.is1xx = true) ∧ final.is1xx = false ∧
        calls = interim.map .sendHeaders ++ .sendHeaders final :: bodies.map .sendBody := by
  induction calls using List.reverseRecOn with
  | nil => cases h
  | append_singleton calls c ih =>
      rw [ofCalls_concat] at h
      rcases scan_eq_body h with ⟨hprev, final, rfl, hfinal⟩ | ⟨hprev, chunk, rfl⟩
      · obtain ⟨interim, hinterim, rfl⟩ := exists_interim_of_head calls hprev
        exact ⟨interim, final, [], hinterim, hfinal, by simp⟩
      · obtain ⟨interim, final, bodies, hinterim, hfinal, rfl⟩ := ih hprev
        exact ⟨interim, final, bodies ++ [chunk], hinterim, hfinal, by simp⟩

/-- The last call of an ended response is its end of message, after an open body. -/
theorem isResponse_of_ended (calls : List ResponseCall) (h : ofCalls calls = .ended) :
    IsResponse calls := by
  rcases List.eq_nil_or_concat' calls with rfl | ⟨before, last, rfl⟩
  · cases h
  · rw [ofCalls_concat] at h
    obtain ⟨hprev, rfl⟩ := scan_eq_ended h
    obtain ⟨interim, final, bodies, hinterim, hfinal, rfl⟩ := exists_parts_of_body before hprev
    exact ⟨interim, final, bodies, hinterim, hfinal, by simp⟩

/-- A call sequence can be completed to a response exactly when the scan never
fails. -/
theorem exists_response_iff_scan (calls : List ResponseCall) :
    (∃ response, IsResponse response ∧ calls <+: response) ↔ ofCalls calls ≠ .malformed := by
  constructor
  · rintro ⟨response, hresponse, rest, rfl⟩ hbad
    have hended := ofCalls_of_isResponse hresponse
    rw [ofCalls_append, hbad, foldl_scan_malformed] at hended
    cases hended
  · intro hok
    cases hshape : ofCalls calls with
    | head =>
        obtain ⟨interim, hinterim, rfl⟩ := exists_interim_of_head calls hshape
        refine ⟨_, ⟨interim, ⟨200, [], []⟩, [], hinterim, rfl, rfl⟩, ?_⟩
        exact List.prefix_append _ _
    | body =>
        obtain ⟨interim, final, bodies, hinterim, hfinal, rfl⟩ := exists_parts_of_body calls hshape
        refine ⟨_, ⟨interim, final, bodies, hinterim, hfinal, rfl⟩, ?_⟩
        exact ⟨[.sendEOM], by simp⟩
    | ended => exact ⟨calls, isResponse_of_ended calls hshape, List.prefix_rfl⟩
    | malformed => exact absurd hshape hok

end ResponseShape

/-- The calls that end a response: the end of message, or an abort of the
transaction. -/
def ResponseCall.isEnd : ResponseCall → Bool
  | .sendEOM | .sendAbort => true
  | _ => false

/-- How often a call sequence ends the response. -/
def endMarkers (calls : List ResponseCall) : Nat := calls.countP ResponseCall.isEnd

@[simp] theorem endMarkers_nil : endMarkers [] = 0 := rfl

@[simp] theorem endMarkers_append (calls more : List ResponseCall) :
    endMarkers (calls ++ more) = endMarkers calls + endMarkers more := by
  simp [endMarkers]

end Kimchi
