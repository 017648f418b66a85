import EndpointCall.Toml.Fault
/-! Reading bytes with faults that know where they stand. -/
namespace EndpointCall.Toml

/-- The unread bytes and the offset of the first of them. -/
structure Cursor where
  rest : List UInt8
  pos : Nat

/-- A reader of a TOML text. -/
abbrev Reader := StateT Cursor (Except Fault)

namespace Reader

variable {α β : Type}

def fail : Reader α := fun c => .error { offset := c.pos }

def failWith (cause : String) : Reader α := fun c => .error { offset := c.pos, cause := some cause }

def peek? : Reader (Option UInt8) := fun c => .ok (c.rest.head?, c)

def peek2? : Reader (Option (UInt8 × UInt8)) := fun c =>
  match c.rest with
  | a :: b :: _ => .ok (some (a, b), c)
  | _ => .ok (none, c)

def offset : Reader Nat := fun c => .ok (c.pos, c)

def map (f : α → β) (p : Reader α) : Reader β := fun c =>
  match p c with
  | .ok (a, c') => .ok (f a, c')
  | .error e => .error e

def any : Reader UInt8 := fun c =>
  match c.rest with
  | b :: r => .ok (b, ⟨r, c.pos + 1⟩)
  | [] => .error { offset := c.pos }

def oneOf (p : UInt8 → Bool) : Reader UInt8 := fun c =>
  match c.rest with
  | b :: r => if p b then .ok (b, ⟨r, c.pos + 1⟩) else .error { offset := c.pos }
  | [] => .error { offset := c.pos }

def byte (b : UInt8) : Reader Unit := map (fun _ => ()) (oneOf (· == b))

def tag (bs : List UInt8) : Reader Unit := fun c =>
  if bs.isPrefixOf c.rest then .ok ((), ⟨c.rest.drop bs.length, c.pos + bs.length⟩)
  else .error { offset := c.pos }

def takeWhile (lo hi : Nat) (p : UInt8 → Bool) : Reader (List UInt8) := fun c =>
  let bs := (c.rest.takeWhile p).take hi
  if bs.length < lo then .error { offset := c.pos }
  else .ok (bs, ⟨c.rest.drop bs.length, c.pos + bs.length⟩)

def takeMany (p : UInt8 → Bool) : Reader (List UInt8) := takeWhile 0 (Nat.pow 2 64) p

def takeSome (p : UInt8 → Bool) : Reader (List UInt8) := takeWhile 1 (Nat.pow 2 64) p

def eof : Reader Unit := fun c =>
  if c.rest.isEmpty then .ok ((), c) else .error { offset := c.pos }

def lookahead (p : Reader α) : Reader α := fun c =>
  match p c with
  | .ok (a, _) => .ok (a, c)
  | .error f => .error { f with offset := c.pos }

def opt (p : Reader α) : Reader (Option α) := fun c =>
  match p c with
  | .ok (a, c') => .ok (some a, c')
  | .error f => if f.final then .error f else .ok (none, c)

def cut (p : Reader α) : Reader α := fun c =>
  match p c with
  | .ok r => .ok r
  | .error f => .error f.cut

def context (p : Reader α) (ctx : Context) : Reader α := fun c =>
  match p c with
  | .ok r => .ok r
  | .error f => .error (f.add ctx)

def label (p : Reader α) (s : String) : Reader α := p.context (.label s)

def expecting (p : Reader α) (es : List Expected) : Reader α :=
  es.foldl (fun q e => q.context (.expected e)) p

def orElse (p q : Reader α) : Reader α := fun c =>
  match p c with
  | .ok r => .ok r
  | .error f => if f.final then .error f else q c

def check (p : Reader α) (f : α → Except String β) : Reader β := fun c =>
  match p c with
  | .ok (a, c') => match f a with
    | .ok b => .ok (b, c')
    | .error cause => .error { offset := c.pos, cause := some cause }
  | .error e => .error e

def verify (p : Reader α) (ok : α → Bool) : Reader α := fun c =>
  match p c with
  | .ok (a, c') => if ok a then .ok (a, c') else .error { offset := c.pos }
  | .error e => .error e

def recognize (p : Reader α) : Reader (List UInt8) := fun c =>
  match p c with
  | .ok (_, c') => .ok (c.rest.take (c'.pos - c.pos), c')
  | .error e => .error e

def withSpan (p : Reader α) : Reader (α × Span) := fun c =>
  match p c with
  | .ok (a, c') => .ok ((a, ⟨c.pos, c'.pos⟩), c')
  | .error e => .error e

def many (p : Reader α) (c : Cursor) : Except Fault (List α × Cursor) :=
  match p c with
  | .ok (a, c') =>
    if c'.rest.length < c.rest.length then
      match many p c' with
      | .ok (as, c'') => .ok (a :: as, c'')
      | .error f => .error f
    else .ok ([a], c')
  | .error f => if f.final then .error f else .ok ([], c)
termination_by c.rest.length

def sepTail (p : Reader α) (sep : Reader Unit) (c : Cursor) : Except Fault (List α × Cursor) :=
  match sep c with
  | .error f => if f.final then .error f else .ok ([], c)
  | .ok (_, c1) =>
    match p c1 with
    | .error f => if f.final then .error f else .ok ([], c)
    | .ok (a, c2) =>
      if c2.rest.length < c.rest.length then
        match sepTail p sep c2 with
        | .ok (as, c3) => .ok (a :: as, c3)
        | .error f => .error f
      else .ok ([a], c2)
termination_by c.rest.length

def sepBy1 (p : Reader α) (sep : Reader Unit) : Reader (List α) := fun c =>
  match p c with
  | .error f => .error f
  | .ok (a, c') => (sepTail p sep c').map fun (as, c'') => (a :: as, c'')

def sepBy (p : Reader α) (sep : Reader Unit) : Reader (List α) := fun c =>
  match p c with
  | .error f => if f.final then .error f else .ok ([], c)
  | .ok (a, c') => (sepTail p sep c').map fun (as, c'') => (a :: as, c'')

end Reader

def textOf (bs : List UInt8) : String := Utf8.decodeLossy bs

end EndpointCall.Toml
