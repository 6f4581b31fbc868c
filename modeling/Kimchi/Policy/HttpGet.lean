import Kimchi.Handler.GatewayHandler
import Kimchi.Library.Substring
import Kimchi.Library.Throwing
import Kimchi.Policy.JwksCache

/-!
# The HTTP client of the key set fetch

`httpGet` of `policy/jwks_cache.cpp`: a request over POSIX sockets, a loop that
collects what `recv` yields, and a reader for the collected bytes.

What the peer does is a `Reception`: the bytes the server sends, how `recv` cuts them
into chunks, and how the loop ends.  At an orderly end (`n = 0`) everything has
arrived; a failure or timeout (`n < 0`) may come after any number of bytes.  The loop
leaves with the same result either way, so nothing after it can tell the two apart.

* `recvLoop_recvs` — the loop collects what has arrived, however it was cut.
* `readResponse_eq_ok_iff` — the reader accepts exactly the `IsJwksResponse` texts.
* `httpGet_eq_ok_iff` — both together.
-/

namespace Kimchi

open Library

/-! ## Reading the response -/

/-- `std::isspace` in the C locale. -/
def isSpace (b : UInt8) : Bool := b = 32 || (9 ≤ b && b ≤ 13)

/-- `std::isdigit`. -/
def isDigit (b : UInt8) : Bool := 48 ≤ b && b ≤ 57

/-- The value of a row of decimal digits. -/
def digitsValue (digits : Str) : Nat := digits.foldl (fun n d => 10 * n + (d.toNat - 48)) 0

/-- An optional sign. -/
def splitSign : Str → Bool × Str
  | [] => (false, [])
  | b :: s => if b = 45 then (true, s) else if b = 43 then (false, s) else (false, b :: s)

/-- `std::stoi`: blanks, a sign and at least one digit; what follows the digits is
ignored.  Both exceptions say `stoi`. -/
def stoi (s : Str) : Except Str Int :=
  let (negative, s) := splitSign (s.dropWhile isSpace)
  let digits := s.takeWhile isDigit
  let value : Int := if negative then -digitsValue digits else digitsValue digits
  -- `std::invalid_argument`
  if digits = [] then .error (str "stoi")
  -- `std::out_of_range`
  else if value < -2147483648 ∨ 2147483647 < value then .error (str "stoi")
  else .ok value

/-- `std::to_string`. -/
def intDigits (n : Int) : Str :=
  (if n < 0 then str "-" else []) ++ (Nat.toDigits 10 n.natAbs).map fun d => UInt8.ofNat d.toNat

/-- The end of the header section. -/
def headerEnd : Str := str "\r\n\r\n"

/-- `httpGet` after the loop. -/
def readResponse (response : Str) : Except Str Str := do
  if response.length < 12 ∨ response.take 5 ≠ str "HTTP/" then throw (str "JWKS: invalid HTTP response")
  let statusCode ← stoi ((response.drop 9).take 3)
  if statusCode ≠ 200 then throw (str "JWKS endpoint returned HTTP " ++ intDigits statusCode)
  match findPattern headerEnd response with
  | none => throw (str "JWKS: malformed HTTP response (no header end)")
  | some pos => return response.drop (pos + 4)

/-- An HTTP response with the status 200 and this body: the status code field is the
three bytes after `HTTP/x.y` and a blank, the body is what follows the first empty
line. -/
structure IsJwksResponse (stream body : Str) : Prop where
  version : stream.take 5 = str "HTTP/"
  status : (stream.drop 9).take 3 = str "200"
  body : ∃ header, SplitsAtFirst headerEnd stream header body

/-! ## Sockets -/

/-- How the receive loop ends: `recv` returns 0 at the end of the stream, and -1 for
an error or a timeout. -/
inductive RecvEnd where
  | endOfStream
  | failure
  deriving DecidableEq, Repr

/-- One return of `recv`: `n` and the bytes in `buf`. -/
structure RecvResult where
  n : Int
  buf : Str
  deriving DecidableEq, Repr

/-- What `recv` returns to end the loop. -/
def RecvEnd.result : RecvEnd → RecvResult
  | .endOfStream => { n := 0, buf := [] }
  | .failure => { n := -1, buf := [] }

/-- The answer to a request: the bytes the server sends, the chunks that `recv`
yields, each no larger than the buffer, and the end of the loop. -/
structure Reception where
  stream : Str
  chunks : List Str
  ending : RecvEnd
  chunk_size : ∀ chunk ∈ chunks, chunk ≠ [] ∧ chunk.length ≤ 4096
  arrived : chunks.flatten <+: stream
  complete : ending = .endOfStream → chunks.flatten = stream

namespace Reception

/-- The bytes that have arrived when the loop ends. -/
def received (r : Reception) : Str := r.chunks.flatten

/-- What the calls of `recv` return. -/
def recvs (r : Reception) : List RecvResult :=
  r.chunks.map (fun chunk => { n := chunk.length, buf := chunk }) ++ [r.ending.result]

end Reception

/-- `while ((n = recv(...)) > 0) response.append(buf, n)`. -/
def recvLoop : List RecvResult → Str → Str
  | [], response => response
  | r :: rest, response =>
      if r.n > 0 then recvLoop rest (response ++ r.buf.take r.n.toNat)
      else
        -- the end of the stream and a failure leave the loop alike
        response

/-- The first of the results of `getaddrinfo`. -/
structure AddrInfo where
  family : Int32
  socktype : Int32
  protocol : Int32
  addr : Str
  deriving DecidableEq, Repr

/-- The system calls of one `httpGet`.  `send` yields how many bytes it took, and the
peer answers to these. -/
structure Sockets where
  getaddrinfo : Str → Str → Except Str AddrInfo
  socket : Int32 → Int32 → Int32 → Bool
  connect : Str → Bool
  send : Str → Option Nat
  recv : Str → Reception

/-- `c_str()`: the bytes before the first NUL. -/
def cStr (s : Str) : Str := s.takeWhile (· ≠ 0)

/-- The text of the request. -/
def jwksRequest (host path : Str) : Str :=
  str "GET " ++ path ++ str " HTTP/1.0\r\nHost: " ++ host ++
    str "\r\nAccept: application/json\r\nConnection: close\r\n\r\n"

/-- `httpGet`, over sockets that may fail at every call. -/
def httpGet (sys : Sockets) (host : Str) (port : UInt16) (path : Str) : Except Str Str := do
  let res ← (sys.getaddrinfo (cStr host) (portDigits port)).mapError (str "JWKS DNS lookup failed: " ++ ·)
  if sys.socket res.family res.socktype res.protocol = false then throw (str "JWKS socket() failed")
  if sys.connect res.addr = false then
    throw (str "JWKS connect() to " ++ host ++ str ":" ++ portDigits port ++ str " failed")
  match sys.send (jwksRequest host path) with
  | none => throw (str "JWKS send() failed")
  | some sent => readResponse (recvLoop (sys.recv ((jwksRequest host path).take sent)).recvs [])

/-- The answer a call of `httpGet` reads, if it gets that far. -/
def Sockets.reception (sys : Sockets) (host : Str) (port : UInt16) (path : Str) : Option Reception :=
  match sys.getaddrinfo (cStr host) (portDigits port) with
  | .error _ => none
  | .ok res =>
      if sys.socket res.family res.socktype res.protocol = true ∧ sys.connect res.addr = true then
        (sys.send (jwksRequest host path)).map fun sent => sys.recv ((jwksRequest host path).take sent)
      else none

/-! ## The loop -/

/-- The loop collects the chunks and stops at the end, whichever it is. -/
theorem recvLoop_chunks {chunks : List Str} (h : ∀ chunk ∈ chunks, chunk ≠ []) (ending : RecvEnd)
    (response : Str) :
    recvLoop (chunks.map (fun chunk => { n := chunk.length, buf := chunk }) ++ [ending.result]) response =
      response ++ chunks.flatten := by
  induction chunks generalizing response with
  | nil => cases ending <;> simp [recvLoop, RecvEnd.result]
  | cons chunk rest ih =>
      have hpos : 0 < (chunk.length : Int) := by
        have hne := List.length_pos_of_ne_nil (h chunk List.mem_cons_self)
        omega
      rw [List.map_cons, List.cons_append, recvLoop, if_pos hpos,
        ih fun c hc => h c (List.mem_cons_of_mem chunk hc), List.flatten_cons, Int.toNat_natCast,
        List.take_length, List.append_assoc]

theorem recvLoop_recvs (r : Reception) : recvLoop r.recvs [] = r.received := by
  have hchunks : ∀ chunk ∈ r.chunks, chunk ≠ [] := fun chunk hchunk => (r.chunk_size chunk hchunk).1
  rw [Reception.recvs, recvLoop_chunks hchunks, List.nil_append, Reception.received]

/-! ## The reader -/

theorem snd_splitSign_suffix (s : Str) : (splitSign s).2 <:+ s := by
  cases s with
  | nil => exact List.suffix_rfl
  | cons b s =>
      rw [splitSign]
      split_ifs
      · exact List.suffix_cons b s
      · exact List.suffix_cons b s
      · exact List.suffix_rfl

theorem isDigit_iff {b : UInt8} : isDigit b = true ↔ 48 ≤ b.toNat ∧ b.toNat ≤ 57 := by
  simp [isDigit, UInt8.le_iff_toNat_le]

/-- At most three digits have the value 200 only as `200`. -/
theorem eq_of_digitsValue_eq_200 {digits : Str} (hdigits : ∀ d ∈ digits, isDigit d = true)
    (hlength : digits.length ≤ 3) (hvalue : digitsValue digits = 200) : digits = str "200" := by
  have hrange : ∀ d ∈ digits, 48 ≤ d.toNat ∧ d.toNat ≤ 57 := fun d hd => isDigit_iff.mp (hdigits d hd)
  match digits, hlength with
  | [], _ => cases hvalue
  | [a], _ =>
      have ha := hrange a (by simp)
      simp only [digitsValue, List.foldl_cons, List.foldl_nil] at hvalue
      omega
  | [a, b], _ =>
      have ha := hrange a (by simp)
      have hb := hrange b (by simp)
      simp only [digitsValue, List.foldl_cons, List.foldl_nil] at hvalue
      omega
  | [a, b, c], _ =>
      have ha := hrange a (by simp)
      have hb := hrange b (by simp)
      have hc := hrange c (by simp)
      simp only [digitsValue, List.foldl_cons, List.foldl_nil] at hvalue
      have ha' : a = 50 := UInt8.toNat_inj.mp (by change a.toNat = 50; omega)
      have hb' : b = 48 := UInt8.toNat_inj.mp (by change b.toNat = 48; omega)
      have hc' : c = 48 := UInt8.toNat_inj.mp (by change c.toNat = 48; omega)
      rw [ha', hb', hc']
      rfl

/-- Of three bytes, only `200` is read as 200: blanks and signs leave too few digits. -/
theorem stoi_eq_200_iff {s : Str} (hlength : s.length ≤ 3) : stoi s = .ok 200 ↔ s = str "200" := by
  constructor
  · intro h
    unfold stoi at h
    have hsuffix : (splitSign (s.dropWhile isSpace)).2 <:+ s :=
      (snd_splitSign_suffix _).trans (List.dropWhile_suffix _)
    generalize splitSign (s.dropWhile isSpace) = signed at h hsuffix
    obtain ⟨negative, rest⟩ := signed
    have hprefix : rest.takeWhile isDigit <+: rest := List.takeWhile_prefix _
    have hdigits : ∀ d ∈ rest.takeWhile isDigit, isDigit d = true :=
      List.all_eq_true.mp List.all_takeWhile
    dsimp only at h hsuffix
    generalize rest.takeWhile isDigit = digits at h hprefix hdigits
    split_ifs at h
    · -- a negative value is not 200
      have hvalue := Except.ok.inj h
      omega
    · have hvalue : digitsValue digits = 200 := by
        have hvalue := Except.ok.inj h
        omega
      have hle := hprefix.length_le
      have hle' := hsuffix.length_le
      have h200 : digits = str "200" :=
        eq_of_digitsValue_eq_200 hdigits (hle.trans (hle'.trans hlength)) hvalue
      -- the three digits are all there was
      have hthree : digits.length = 3 := by
        rw [h200]
        rfl
      have hrest : digits = rest := hprefix.eq_of_length (by omega)
      have hs : rest = s := hsuffix.eq_of_length (by omega)
      rw [← hs, ← hrest, h200]
  · rintro rfl
    rfl

/-- A response with a status code field has twelve bytes. -/
theorem twelve_le_length {stream : Str} (h : (stream.drop 9).take 3 = str "200") : 12 ≤ stream.length := by
  have hthree : ((stream.drop 9).take 3).length = 3 := by
    rw [h]
    rfl
  rw [List.length_take, List.length_drop] at hthree
  omega

/-- **The reader** accepts exactly the responses with the status 200, and returns
their body. -/
theorem readResponse_eq_ok_iff {response body : Str} :
    readResponse response = .ok body ↔ IsJwksResponse response body := by
  have hbody : (∃ pos, findPattern headerEnd response = some pos ∧ response.drop (pos + 4) = body) ↔
      ∃ header, SplitsAtFirst headerEnd response header body := findPattern_drop_iff
  have hfield : ((response.drop 9).take 3).length ≤ 3 := List.length_take_le 3 _
  unfold readResponse
  constructor
  · intro h
    obtain ⟨hvalid, h⟩ := guard_eq_ok_iff.mp h
    obtain ⟨statusCode, hstatus, h⟩ := bind_eq_ok_iff.mp h
    obtain ⟨h200, h⟩ := guard_eq_ok_iff.mp h
    obtain rfl : statusCode = 200 := not_not.mp h200
    obtain ⟨-, hversion⟩ := not_or.mp hvalid
    refine ⟨not_not.mp hversion, (stoi_eq_200_iff hfield).mp hstatus, hbody.mp ?_⟩
    cases hfind : findPattern headerEnd response with
    | none =>
        rw [hfind] at h
        exact absurd h throw_ne_ok
    | some pos =>
        rw [hfind] at h
        exact ⟨pos, rfl, pure_eq_ok_iff.mp h⟩
  · rintro ⟨hversion, hstatus, hsplits⟩
    obtain ⟨pos, hfind, hdrop⟩ := hbody.mpr hsplits
    have hvalid : ¬ (response.length < 12 ∨ response.take 5 ≠ str "HTTP/") := by
      rintro (hshort | hother)
      · exact absurd (twelve_le_length hstatus) (Nat.not_le.mpr hshort)
      · exact hother hversion
    refine guard_eq_ok_iff.mpr ⟨hvalid, ?_⟩
    refine bind_eq_ok_iff.mpr ⟨200, (stoi_eq_200_iff hfield).mpr hstatus, ?_⟩
    refine guard_eq_ok_iff.mpr ⟨by simp, ?_⟩
    rw [hfind]
    exact pure_eq_ok_iff.mpr hdrop

/-- A response that has arrived in part and is accepted stays one when the rest
arrives: what was taken for its body is the beginning of it. -/
theorem IsJwksResponse.append {stream body : Str} (h : IsJwksResponse stream body) (rest : Str) :
    IsJwksResponse (stream ++ rest) (body ++ rest) := by
  obtain ⟨header, hsplits⟩ := h.body
  have hlength := twelve_le_length h.status
  refine ⟨?_, ?_, header, hsplits.append rest⟩
  · rw [List.take_append_of_le_length (by omega), h.version]
  · rw [List.drop_append_of_le_length (by omega), List.take_append_of_le_length, h.status]
    rw [List.length_drop]
    omega

/-! ## The call -/

/-- **When `httpGet` returns:** the request got an answer, and what arrived of it is a
response.  How the loop ended does not occur. -/
theorem httpGet_eq_ok_iff {sys : Sockets} {host : Str} {port : UInt16} {path body : Str} :
    httpGet sys host port path = .ok body ↔
      ∃ r, sys.reception host port path = some r ∧ IsJwksResponse r.received body := by
  unfold httpGet Sockets.reception
  rw [bind_eq_ok_iff]
  simp only [mapError_eq_ok_iff]
  cases hlookup : sys.getaddrinfo (cStr host) (portDigits port) with
  | error message => simp
  | ok res =>
      simp only [Except.ok.injEq, exists_eq_left']
      rw [guard_eq_ok_iff, guard_eq_ok_iff, Bool.not_eq_false, Bool.not_eq_false, ← and_assoc]
      by_cases hconnected :
          sys.socket res.family res.socktype res.protocol = true ∧ sys.connect res.addr = true
      · rw [if_pos hconnected]
        cases hsend : sys.send (jwksRequest host path) with
        | none => simp [throw_ne_ok]
        | some sent => simp [hconnected, recvLoop_recvs, readResponse_eq_ok_iff]
      · simp [hconnected]

end Kimchi
