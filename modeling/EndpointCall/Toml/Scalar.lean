import EndpointCall.Toml.Lexical
/-! TOML scalars. -/
namespace EndpointCall.Toml

open Reader

/-! ### Strings -/

def isBasicByte (b : UInt8) : Bool :=
  isBlank b || b == 33 || (35 ≤ b && b ≤ 91) || (93 ≤ b && b ≤ 126) || 128 ≤ b

def isLiteralByte (b : UInt8) : Bool :=
  b == 9 || (32 ≤ b && b ≤ 38) || (40 ≤ b && b ≤ 126) || 128 ≤ b

def hexValue (bs : List UInt8) : Nat :=
  bs.foldl (fun acc b =>
    acc * 16 + (if isDigit b then b.toNat - 48 else if b ≤ 70 then b.toNat - 55 else b.toNat - 87)) 0

def hexEscape (n : Nat) : Reader Char :=
  ((takeWhile 0 n isHexDigit).verify (·.length == n)).check fun bs =>
    let v := hexValue bs
    if v < 0xD800 || (0xDFFF < v && v ≤ 0x10FFFF) then .ok (Char.ofNat v)
    else .error (Clash.message .outOfRange)

def escapeLetters : List Expected :=
  [.char 'b', .char 'f', .char 'n', .char 'r', .char 't', .char 'u', .char 'U', .char '\\',
   .char '"']

def badEscape : Reader Char := Reader.expecting (Reader.label (Reader.cut Reader.fail) "escape sequence") escapeLetters

def escapeChar : Reader Char := do
  let b ← Reader.any
  match b with
  | 98 => pure '\x08'
  | 102 => pure '\x0c'
  | 110 => pure '\n'
  | 114 => pure '\r'
  | 116 => pure '\t'
  | 117 => (hexEscape 4).cut.label "unicode 4-digit hex code"
  | 85 => (hexEscape 8).cut.label "unicode 8-digit hex code"
  | 92 => pure '\\'
  | 34 => pure '"'
  | _ => badEscape

def escaped : Reader Char := do
  byte (ascii '\\')
  escapeChar

def basicChunk : Reader String :=
  ((takeSome isBasicByte).map textOf).orElse (escaped.map String.singleton)

def basicString : Reader String := do
  byte 34
  let parts ← many basicChunk
  (byte 34).cut.label "basic string"
  pure (String.join parts)

def literalString : Reader String :=
  (do
    byte 39
    let bs ← (takeMany isLiteralByte).cut
    (byte 39).cut
    pure (textOf bs)).label "literal string"

def escapedNewline : Reader Unit := fun c =>
  let one : Reader Unit := do
    byte (ascii '\\')
    let _ ← blanks
    newline
    blanksAndNewlines
  match many one c with
  | .ok ([], _) => .error { offset := c.pos }
  | .ok (_, c') => .ok ((), c')
  | .error f => .error f

def multiBasicChunk : Reader String :=
  ((takeSome isBasicByte).map textOf).orElse
    ((escapedNewline.map fun _ => "").orElse
      ((escaped.map String.singleton).orElse (newline.map fun _ => "\n")))

def quotesBefore (q : UInt8) (follow : Reader Unit) : Reader String :=
  (do tag [q, q]; lookahead follow; pure (textOf [q, q])).orElse
    (do byte q; lookahead follow; pure (textOf [q]))

def noneOf (b : UInt8) : Reader Unit := (oneOf (· != b)).map fun _ => ()

def multiBasicRuns (fuel : Nat) (acc : String) : Reader String :=
  match fuel with
  | 0 => pure acc
  | fuel + 1 => do
    match ← opt (quotesBefore 34 (noneOf 34)) with
    | none => pure acc
    | some q =>
      match ← opt multiBasicChunk with
      | none => pure acc
      | some first =>
        let more ← many multiBasicChunk
        multiBasicRuns fuel (acc ++ q ++ first ++ String.join more)

def multiBasicBody : Reader String := fun c => (do
  let parts ← many multiBasicChunk
  let body ← multiBasicRuns (c.rest.length + 1) (String.join parts)
  match ← opt (quotesBefore 34 (tag [34, 34, 34])) with
  | some q => pure (body ++ q)
  | none => pure body) c

def multiBasicString : Reader String :=
  (do
    tag [34, 34, 34]
    let _ ← opt newline
    let body ← multiBasicBody.cut
    (tag [34, 34, 34]).cut
    pure body).label "multiline basic string"

def multiLiteralUnit : Reader Unit :=
  ((oneOf isLiteralByte).map fun _ => ()).orElse newline

def multiLiteralRun : Reader Unit := do
  let _ ← quotesBefore 39 (noneOf 39)
  let _ ← multiLiteralUnit
  let _ ← many multiLiteralUnit

def multiLiteralBody : Reader String := fun c => (do
  let bs ← recognize (do
    let _ ← many multiLiteralUnit
    let _ ← many multiLiteralRun
    let _ ← opt (quotesBefore 39 (tag [39, 39, 39])))
  let t := textOf bs
  pure (if (t.splitOn "\r\n").length > 1 then "\n".intercalate (t.splitOn "\r\n") else t)) c

def multiLiteralString : Reader String :=
  (do
    tag [39, 39, 39]
    let _ ← opt newline
    let body ← multiLiteralBody.cut
    (tag [39, 39, 39]).cut
    pure body).label "multiline literal string"

/-- Any string: multi-line basic, basic, multi-line literal or literal, tried in that order. -/
def string : Reader String :=
  multiBasicString.orElse (basicString.orElse (multiLiteralString.orElse literalString))

/-! ### Numbers -/

def digitsWith (first digit : UInt8 → Bool) : Reader Unit := do
  let _ ← oneOf first
  let _ ← many ((do let _ ← oneOf digit).orElse
    (do byte 95; let _ ← ((oneOf digit).cut).expecting [.description "digit"]))

def decimalText : Reader String :=
  ((recognize (do
    let _ ← opt (oneOf fun b => b == 43 || b == 45)
    (digitsWith (fun b => 49 ≤ b && b ≤ 57) isDigit).orElse (do let _ ← oneOf isDigit))).map
      textOf).label "integer"

def zeroPrefixable : Reader String := (recognize (digitsWith isDigit isDigit)).map textOf

def dropUnderscores (s : String) : String := String.ofList (s.toList.filter (· != '_'))

def digitsValue (base : Nat) (cs : List Char) : Option Nat :=
  if cs.isEmpty then none
  else cs.foldl (fun acc c => acc.bind fun a =>
    let d := if c.isDigit then c.toNat - 48
      else if 'a' ≤ c && c ≤ 'z' then c.toNat - 87
      else if 'A' ≤ c && c ≤ 'Z' then c.toNat - 55 else base
    if d < base then some (a * base + d) else none) (some 0)

def readInt64 (base : Nat) (s : String) : Except String Int :=
  let (neg, cs) := match s.toList with
    | '-' :: r => (true, r)
    | '+' :: r => (false, r)
    | r => (false, r)
  if cs.isEmpty then .error "cannot parse integer from empty string"
  else match digitsValue base cs with
    | none => .error "invalid digit found in string"
    | some n =>
      if neg then
        if n ≤ Nat.pow 2 63 then .ok (-(n : Int)) else .error "number too small to fit in target type"
      else if n < Nat.pow 2 63 then .ok n else .error "number too large to fit in target type"

def prefixedDigits (pfx : List UInt8) (digit : UInt8 → Bool) (name : String) : Reader String :=
  (do
    tag pfx
    (recognize (digitsWith digit digit)).cut.map textOf).label name

/-- An integer: hexadecimal, octal or binary after `0x`, `0o` or `0b`, else decimal. -/
def integer : Reader Int := do
  match ← peek2? with
  | some (48, 120) =>
    ((prefixedDigits [48, 120] isHexDigit "hexadecimal integer").check
      fun s => readInt64 16 (dropUnderscores s)).cut
  | some (48, 111) =>
    ((prefixedDigits [48, 111] (fun b => 48 ≤ b && b ≤ 55) "octal integer").check
      fun s => readInt64 8 (dropUnderscores s)).cut
  | some (48, 98) =>
    ((prefixedDigits [48, 98] (fun b => b == 48 || b == 49) "binary integer").check
      fun s => readInt64 2 (dropUnderscores s)).cut
  | _ => fun c =>
    match decimalText c with
    | .error f => .error f
    | .ok (s, c') =>
      match readInt64 10 (dropUnderscores s) with
      | .ok v => .ok (v, c')
      | .error cause => .error { offset := c.pos, final := true, cause := some cause }

def exponent : Reader Unit := do
  let _ ← oneOf fun b => b == 101 || b == 69
  let _ ← opt (oneOf fun b => b == 43 || b == 45)
  let _ ← zeroPrefixable.cut

def fraction : Reader Unit := do
  byte 46
  let _ ← zeroPrefixable.cut.expecting [.description "digit"]

def decimalFloat (s : String) : Float :=
  let cs := (dropUnderscores s).toList
  let (neg, cs) := match cs with
    | '-' :: r => (true, r)
    | '+' :: r => (false, r)
    | r => (false, r)
  let mant := cs.takeWhile fun c => c != 'e' && c != 'E'
  let expPart := (cs.dropWhile fun c => c != 'e' && c != 'E').drop 1
  let intDigits := mant.takeWhile (· != '.')
  let fracDigits := (mant.dropWhile (· != '.')).drop 1
  let digits := (digitsValue 10 (intDigits ++ fracDigits)).getD 0
  let e : Int := match expPart with
    | '-' :: r => -((digitsValue 10 r).getD 0 : Int)
    | '+' :: r => (digitsValue 10 r).getD 0
    | r => (digitsValue 10 r).getD 0
  let scale := e - fracDigits.length
  let mag := if scale ≥ 0 then Float.ofScientific digits false scale.toNat
    else Float.ofScientific digits true (-scale).toNat
  if neg then -mag else mag

def infinity : Reader Float := (tag [105, 110, 102]).map fun _ => 1.0 / 0.0

def notANumber : Reader Float := (tag [110, 97, 110]).map fun _ => 0.0 / 0.0

/-- A float; an infinite result of a finite text is refused. -/
def float : Reader Float :=
  let finite : Reader Float := fun c =>
    match (recognize (do
      let _ ← decimalText
      exponent.orElse (do fraction; let _ ← opt exponent))) c with
    | .error f => .error f
    | .ok (bs, c') =>
      let v := decimalFloat (textOf bs)
      if v == 1.0 / 0.0 then .error ({ offset := c.pos } : Fault).cut else .ok (v, c')
  let special : Reader Float := do
    let sign ← opt (oneOf fun b => b == 43 || b == 45)
    let v ← infinity.orElse notANumber
    pure (if sign == some 45 then -v else v)
  (finite.orElse special).label "floating-point number"

def trueWord : Reader Bool := do
  let _ ← lookahead (byte 116)
  (tag [116, 114, 117, 101]).cut
  pure true

def falseWord : Reader Bool := do
  let _ ← lookahead (byte 102)
  (tag [102, 97, 108, 115, 101]).cut
  pure false

/-! ### Date-times -/

def fixedDigits (n : Nat) : Reader Nat :=
  (takeWhile n n isDigit).map fun bs => (digitsValue 10 (textOf bs).toList).getD 0

def ranged (lo hi : Nat) : Reader Nat :=
  (fixedDigits 2).check fun d =>
    if lo ≤ d && d ≤ hi then .ok d else .error (Clash.message .outOfRange)

def isLeapYear (y : Nat) : Bool := y % 4 == 0 && (y % 100 != 0 || y % 400 == 0)

def daysInMonth (y m : Nat) : Nat :=
  if m == 2 then (if isLeapYear y then 29 else 28)
  else if m == 4 || m == 6 || m == 9 || m == 11 then 30
  else 31

def fullDate : Reader Date := do
  let y ← fixedDigits 4
  byte 45
  let (m, d) ← (do
    let m ← ranged 1 12
    byte 45
    let d ← ranged 1 (daysInMonth y m)
    pure (m, d)).cut
  pure ⟨y, m, d⟩

def secondFraction : Reader Nat := do
  byte 46
  let bs ← takeSome isDigit
  let kept := (textOf bs).toList.take 9
  pure ((digitsValue 10 kept).getD 0 * Nat.pow 10 (9 - kept.length))

def partialTime : Reader Time := do
  let h ← ranged 0 23
  byte 58
  let (m, s, n) ← (do
    let m ← ranged 0 59
    byte 58
    let s ← ranged 0 60
    let n ← opt secondFraction
    pure (m, s, n.getD 0)).cut
  pure ⟨h, m, s, n⟩

def timeOffset : Reader Offset :=
  ((byte 90).orElse (byte 122) |>.map fun _ => Offset.utc).orElse
    ((do
      let sign ← oneOf fun b => b == 43 || b == 45
      let (h, m) ← (do
        let h ← ranged 0 23
        byte 58
        let m ← ranged 0 59
        pure (h, m)).cut
      let mins : Int := (if sign == 45 then -1 else 1) * ((h : Int) * 60 + m)
      pure mins).verify (fun m => -(24 * 60) ≤ m && m ≤ 24 * 60) |>.map Offset.minutes)
  |>.label "time offset"

/-- A date-time: a date with an optional time and offset, or a time alone. -/
def datetime : Reader Datetime :=
  (do
    let d ← fullDate
    let rest ← opt (do
      let _ ← oneOf fun b => b == 84 || b == 116 || b == 32
      let t ← partialTime
      let o ← opt timeOffset
      pure (t, o))
    match rest with
    | some (t, o) => pure ({ date := some d, time := some t, offset := o } : Datetime)
    | none => pure ({ date := some d, time := none, offset := none } : Datetime)).label "date-time"
  |>.orElse ((partialTime.map fun t => (⟨none, some t, none⟩ : Datetime)).label "time")

end EndpointCall.Toml
