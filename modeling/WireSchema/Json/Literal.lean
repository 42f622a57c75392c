import WireSchema.Json.Malformed

/-! # Text literals

A text literal is read in two passes.  `pieces` cuts it into characters and numeric escapes,
up to its closing quote or to the place where it cannot be read on.  `joinPieces` then turns
the numeric escapes into characters, where two escapes may stand for one character.

* A literal that is only passed over has to get through the first pass alone.
* A literal that is wanted has to get through both, and of two problems the one further left
  is reported (`Literal.text`).
-/

namespace WireSchema.Json

/-! ## Pieces -/

/-- A piece of a text literal. -/
inductive Piece where
  /-- A character, written as itself or by a short escape. -/
  | plain (c : Char)
  /-- A 16-bit unit, written with four hexadecimal digits. -/
  | unit (n : Nat)
  deriving DecidableEq, Repr

/-- How a text literal ends. -/
inductive LiteralEnd where
  | closed
  | cutOff
  | controlCharacter
  | unknownEscape
  | badDigits
  deriving DecidableEq, Repr

/-- The problem with the end of a literal, if there is one. -/
def LiteralEnd.problem? : LiteralEnd → Option Malformed
  | closed => none
  | cutOff => some .endInText
  | controlCharacter => some .controlCharacter
  | unknownEscape => some .invalidEscape
  | badDigits => some .invalidEscape

def hexDigit? (c : Char) : Option Nat :=
  if '0' ≤ c ∧ c ≤ '9' then some (c.toNat - 0x30)
  else if 'a' ≤ c ∧ c ≤ 'f' then some (c.toNat - 0x57)
  else if 'A' ≤ c ∧ c ≤ 'F' then some (c.toNat - 0x37)
  else none

/-- The character that a short escape stands for. -/
def shortEscape? (c : Char) : Option Char :=
  if c = '"' then some '"'
  else if c = '\\' then some '\\'
  else if c = '/' then some '/'
  else if c = 'b' then some '\x08'
  else if c = 'f' then some '\x0c'
  else if c = 'n' then some '\n'
  else if c = 'r' then some '\r'
  else if c = 't' then some '\t'
  else none

/-- The number that four digits stand for. -/
def unit? (a b c d : Char) : Option Nat := do
  let a ← hexDigit? a
  let b ← hexDigit? b
  let c ← hexDigit? c
  let d ← hexDigit? d
  return ((a * 16 + b) * 16 + c) * 16 + d

/-- The number of bytes of a text in UTF-8. -/
def byteCount (cs : List Char) : Nat :=
  (String.ofList cs).utf8ByteSize

/-- The end of a literal whose numeric escape is followed by `cs` and not by four digits: the
    text ends if fewer than four bytes are left. -/
def brokenEscape (cs : List Char) : LiteralEnd :=
  if byteCount (cs.take 4) < 4 then .cutOff else .badDigits

/-- What a text literal holds, how it ends, and what follows it. -/
structure Pieces where
  pieces : List Piece
  ending : LiteralEnd
  rest : List Char

def Pieces.push (piece : Piece) (tail : Pieces) : Pieces :=
  { tail with pieces := piece :: tail.pieces }

/-- Reads a text literal whose opening quote has been read. -/
def readPieces : List Char → Pieces
  | [] => ⟨[], .cutOff, []⟩
  | '"' :: rest => ⟨[], .closed, rest⟩
  | ['\\'] => ⟨[], .cutOff, []⟩
  | '\\' :: 'u' :: rest =>
    -- The four places after the `u` are taken whatever stands in them, a quote included.
    match rest with
    | a :: b :: c :: d :: more =>
      match unit? a b c d with
      | some n => (readPieces more).push (.unit n)
      | none => ⟨[], brokenEscape rest, []⟩
    | _ => ⟨[], brokenEscape rest, []⟩
  | '\\' :: e :: rest =>
    match shortEscape? e with
    | some c => (readPieces rest).push (.plain c)
    | none => ⟨[], .unknownEscape, []⟩
  | c :: rest =>
    if c.toNat < 0x20 then ⟨[], .controlCharacter, []⟩
    else (readPieces rest).push (.plain c)

/-! ## Joining units -/

/-- Whether a unit is the first half of a pair. -/
def isLeading (n : Nat) : Bool := 0xD800 ≤ n && n ≤ 0xDBFF

/-- Whether a unit is the second half of a pair. -/
def isTrailing (n : Nat) : Bool := 0xDC00 ≤ n && n ≤ 0xDFFF

/-- The character that two halves stand for. -/
def joinPair (leading trailing : Nat) : Char :=
  Char.ofNat (0x10000 + (leading - 0xD800) * 0x400 + (trailing - 0xDC00))

/-- The problem with a first half that is the last piece: a literal that breaks off at a later
    numeric escape, or at its end, is reported for that, and any other for the missing half. -/
def LiteralEnd.problemAfterLeading : LiteralEnd → Malformed
  | closed | controlCharacter | unknownEscape => .unfinishedPair
  | cutOff => .endInText
  | badDigits => .invalidEscape

/-- The characters of a literal, up to the first problem. -/
def joinPieces (ending : LiteralEnd) : List Piece → Except Malformed (List Char)
  | [] =>
    match ending.problem? with
    | some problem => .error problem
    | none => .ok []
  | .plain c :: rest => (joinPieces ending rest).map (c :: ·)
  | .unit n :: rest =>
    if isTrailing n then .error .loneSurrogate
    else if isLeading n then
      match rest with
      -- A first half is useless alone: what follows it decides which problem is reported.
      | [] => .error ending.problemAfterLeading
      | .plain _ :: _ => .error .unfinishedPair
      | .unit m :: more =>
        if isTrailing m then (joinPieces ending more).map (joinPair n m :: ·)
        else .error .loneSurrogate
    else (joinPieces ending rest).map (Char.ofNat n :: ·)

/-- A text literal as far as it could be read. -/
inductive Literal where
  /-- The literal is closed.  Its text may still be refused, if halves of pairs stand alone. -/
  | closed (text : Except Malformed String)
  /-- The literal cannot be read to its end. -/
  | broken (fault : Fault)

/-- Reads a text literal whose opening quote has been read, and gives what follows it. -/
def readLiteral (cs : List Char) : Literal × List Char :=
  let read := readPieces cs
  let joined := joinPieces read.ending read.pieces
  match read.ending.problem? with
  | none => (.closed (joined.map String.ofList), read.rest)
  | some problem =>
    match joined with
    -- A half that stands alone lies further left than the place where the literal breaks off.
    | .error first => (.broken ⟨first, problem⟩, [])
    | .ok _ => (.broken (.plain problem), [])

end WireSchema.Json
