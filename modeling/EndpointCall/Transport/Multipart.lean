import EndpointCall.Transport.Request
import EndpointCall.Text.Utf8
import EndpointCall.Text.Blank
import EndpointCall.Error
/-! Multipart bodies. -/
namespace EndpointCall.Multipart

def crlf : List UInt8 := [13, 10]

def dashes : List UInt8 := [45, 45]

def encodePart (boundary : String) (name : String) (d : Document) : List UInt8 :=
  dashes ++ Utf8.encode boundary ++ crlf ++
    Utf8.encode ("Content-Disposition: form-data; name=\"" ++ name ++ "\"") ++ crlf ++
    Utf8.encode ("Content-Type: " ++ d.format.mime) ++ crlf ++ crlf ++ d.bytes ++ crlf

def newBoundary (uuidDigits : List Char) : String := "dataservices-" ++ String.ofList uuidDigits

/-- A form-data body: every document of every field in order, then the closing delimiter. -/
def encode (fields : List CallField) (boundary : String) : List UInt8 :=
  fields.flatMap (fun f => f.value.documents.flatMap (encodePart boundary f.name)) ++
    dashes ++ Utf8.encode boundary ++ dashes ++ crlf

def formDataType (boundary : String) : String := "multipart/form-data; boundary=" ++ boundary

def trimQuotes (s : String) : String :=
  String.ofList ((s.toList.dropWhile (· = '"')).reverse.dropWhile (· = '"')).reverse

def boundaryOf (contentType : String) : Option String :=
  ((Text.splitOn contentType ';').drop 1).findSome? fun param =>
    match Text.splitOnce param '=' with
    | some (key, value) =>
      if Text.eqIgnoreAsciiCase (Text.trim key) "boundary" then some (trimQuotes (Text.trim value))
      else none
    | none => none

def findFrom (needle : List UInt8) : Nat → List UInt8 → Option Nat
  | _, [] => none
  | i, b :: rest => if needle.isPrefixOf (b :: rest) then some i else findFrom needle (i + 1) rest

theorem findFrom_bounds (needle : List UInt8) :
    ∀ (i : Nat) (l : List UInt8) (j : Nat), findFrom needle i l = some j →
      i ≤ j ∧ j + needle.length ≤ i + l.length := by
  intro i l
  induction l generalizing i with
  | nil => intro j h; simp [findFrom] at h
  | cons b rest ih =>
    intro j h
    simp only [findFrom] at h
    split at h
    · next hp =>
      have hle := (List.isPrefixOf_iff_prefix.mp hp).length_le
      simp only [Option.some.injEq] at h
      subst h
      simp only [List.length_cons] at hle ⊢
      omega
    · have := ih (i + 1) j h
      simp only [List.length_cons]
      omega

def find (hay needle : List UInt8) (start : Nat) : Option Nat :=
  if needle.isEmpty || start > hay.length then none
  else findFrom needle start (hay.drop start)

theorem find_bounds {hay needle : List UInt8} {start j : Nat} (h : find hay needle start = some j) :
    start ≤ j ∧ j + needle.length ≤ hay.length := by
  unfold find at h
  split at h
  · simp at h
  · next hc =>
    have := findFrom_bounds needle start (hay.drop start) j h
    simp only [Bool.or_eq_true, decide_eq_true_eq, not_or, Nat.not_lt] at hc
    simp only [List.length_drop] at this
    omega

/-- How many bytes at the front are blanks and then one line end (CRLF or LF). -/
def lineEndLength (rest : List UInt8) : Nat :=
  let blanks := (rest.takeWhile (fun b => b = 32 || b = 9)).length
  match rest.drop blanks with
  | 13 :: 10 :: _ => blanks + 2
  | 10 :: _ => blanks + 1
  | _ => blanks

def dropTrailingCrlf (part : List UInt8) : List UInt8 :=
  if crlf.isSuffixOf part then part.take (part.length - 2) else part

def crlfLines (bs : List UInt8) : List (List UInt8) :=
  go [] bs
where
  go (acc : List UInt8) : List UInt8 → List (List UInt8)
    | [] => [acc.reverse]
    | 13 :: 10 :: rest => acc.reverse :: go [] rest
    | b :: rest => go (b :: acc) rest

def headerFormat (head : List UInt8) (dflt : Format) : Format :=
  let headers := (crlfLines head).filterMap fun line =>
    Text.splitOnce (Utf8.decodeLossy line) ':'
  match headers.find? (fun kv => Text.eqIgnoreAsciiCase (Text.trim kv.1) "content-type") with
  | some (_, value) =>
    match Format.ofMime value with
    | .unknown => dflt
    | f => f
  | none => dflt

def decodePart (part : List UInt8) (dflt : Format) : Except Error Document :=
  match find part [13, 10, 13, 10] 0 with
  | some split => .ok ⟨headerFormat (part.take split) dflt, part.drop (split + 4)⟩
  | none =>
    if crlf.isPrefixOf part then .ok ⟨dflt, part.drop 2⟩
    else .error (.content "multipart part has no header separator")

set_option linter.unusedVariables false in
/-- The parts after the delimiter found at `pos`, each found from the end of the one before. -/
def partsFrom (body delim : List UInt8) (dflt : Format) (hd : 2 ≤ delim.length)
    (pos : Nat) (acc : List Document) : Except Error (List Document) :=
  let afterDelim := pos + delim.length
  if dashes.isPrefixOf (body.drop afterDelim) then .ok acc.reverse
  else
    let start := afterDelim + lineEndLength (body.drop afterDelim)
    match h : find body delim start with
    | none => .error (.content "multipart body has no closing boundary")
    | some next =>
      match decodePart (dropTrailingCrlf ((body.drop start).take (next - start))) dflt with
      | .error e => .error e
      | .ok d => partsFrom body delim dflt hd next (d :: acc)
termination_by body.length - pos
decreasing_by
  have := find_bounds h
  omega

/-- The parts of a multipart body, in body order. -/
def decode (body : List UInt8) (boundary : String) (dflt : Format) : Except Error (List Document) :=
  let delim := dashes ++ Utf8.encode boundary
  match find body delim 0 with
  | none => .error (.content "multipart body has no opening boundary")
  | some pos => partsFrom body delim dflt (by simp [delim, dashes]) pos []

end EndpointCall.Multipart
