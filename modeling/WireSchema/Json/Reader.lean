import WireSchema.Json.Basic

/-! # Reading JSON

The reader turns a text into a tree in one pass from left to right.  It never fails: where the
text cannot be read on, the tree breaks off.

* `Json.read` gives the tree of a text, and what follows the value if its end was found.
* `Json.endsWell` tells whether only white space follows.
-/

namespace WireSchema.Json

/-! ## White space and keywords -/

/-- White space between the parts of a document. -/
def isSpace (c : Char) : Bool :=
  c == ' ' || c == '\t' || c == '\n' || c == '\r'

/-- Drops the white space that a text starts with. -/
def skipSpace (cs : List Char) : List Char :=
  cs.dropWhile isSpace

def readWord : (word cs : List Char) → Except Malformed (List Char)
  | [], cs => .ok cs
  | _ :: _, [] => .error .endInValue
  | w :: word, c :: cs => if w = c then readWord word cs else .error .expectedLiteral

/-- A value whose end was found, with what follows, or one that breaks off. -/
abbrev ReadValue := Json × Option (List Char)

/-- A keyword whose first letter has been read. -/
def keyword (value : Json) (word cs : List Char) : ReadValue :=
  match readWord word cs with
  | .ok rest => (value, some rest)
  | .error problem => (.broken (.plain problem), none)

/-- A text literal whose opening quote has been read. -/
def textValue (cs : List Char) : ReadValue :=
  match readLiteral cs with
  | (.closed content, rest) => (.text content, some rest)
  | (.broken fault, _) => (.brokenText fault, none)

/-- A number, from its first character on. -/
def numberValue (cs : List Char) : ReadValue :=
  match readNumber cs with
  | .ok (value, rest) => (.number value, some rest)
  | .error fault => (.broken fault, none)

/-! ## Values -/

mutual

/-- Reads a value.  `fuel` bounds the depth of the recursion. -/
def readValue : (fuel : Nat) → List Char → ReadValue
  | 0, _ => (.missing .endInValue, none)
  | fuel + 1, cs =>
    match skipSpace cs with
    | [] => (.missing .endInValue, none)
    | c :: rest =>
      if c = '"' then textValue rest
      else if c = '[' then
        let (items, ending, rest) := readItems fuel true rest
        (.array items ending, rest)
      else if c = '\x7b' then
        let (members, ending, rest) := readMembers fuel true rest
        (.object members ending, rest)
      else if c = 'n' then keyword .null ['u', 'l', 'l'] rest
      else if c = 't' then keyword (.bool true) ['r', 'u', 'e'] rest
      else if c = 'f' then keyword (.bool false) ['a', 'l', 's', 'e'] rest
      else if c = '-' ∨ (digit? c).isSome then numberValue (c :: rest)
      else (.broken (.plain .expectedValue), none)

/-- Reads the items of a list, the first one or a later one next. -/
def readItems : (fuel : Nat) → (first : Bool) → List Char →
    List Json × ListEnd × Option (List Char)
  | 0, _, _ => ([], .cutOff, none)
  | fuel + 1, first, cs =>
    match skipSpace cs with
    | [] => ([], .cutOff, none)
    | c :: rest =>
      if c = ']' then ([], .closed, some rest)
      -- A comma in front of the first item is read as a value, and refused as one.
      else if first then readItem fuel (c :: rest)
      else if c = ',' then
        match skipSpace rest with
        | [] => ([], .cutAfterComma, none)
        | d :: more =>
          if d = ']' then ([], .trailingComma, none) else readItem fuel (d :: more)
      else ([], .noSeparator, none)

def readItem : (fuel : Nat) → List Char → List Json × ListEnd × Option (List Char)
  | 0, _ => ([], .cutOff, none)
  | fuel + 1, cs =>
    match readValue fuel cs with
    | (item, none) => ([item], .lost, none)
    | (item, some rest) =>
      let (items, ending, rest) := readItems fuel false rest
      (item :: items, ending, rest)

/-- Reads the members of an object, the first one or a later one next. -/
def readMembers : (fuel : Nat) → (first : Bool) → List Char →
    List (Key × Json) × ObjectEnd × Option (List Char)
  | 0, _, _ => ([], .cutOff, none)
  | fuel + 1, first, cs =>
    match skipSpace cs with
    | [] => ([], .cutOff, none)
    | c :: rest =>
      if c = '\x7d' then ([], .closed, some rest)
      else if first then
        if c = '"' then readMember fuel rest else ([], .keyNotText, none)
      else if c = ',' then
        match skipSpace rest with
        | [] => ([], .cutAfterComma, none)
        | d :: more =>
          if d = '"' then readMember fuel more
          else if d = '\x7d' then ([], .trailingComma, none)
          else ([], .keyNotText, none)
      else ([], .noSeparator, none)

/-- Reads a member whose key has been opened, and those after it. -/
def readMember : (fuel : Nat) → List Char → List (Key × Json) × ObjectEnd × Option (List Char)
  | 0, _ => ([], .cutOff, none)
  | fuel + 1, cs =>
    match readLiteral cs with
    | (.broken fault, _) => ([], .brokenKey fault, none)
    | (.closed key, rest) =>
      match skipSpace rest with
      | [] => ([(key, .missing .endInObject)], .lost, none)
      | c :: rest =>
        if c = ':' then
          match readValue fuel rest with
          | (value, none) => ([(key, value)], .lost, none)
          | (value, some rest) =>
            let (members, ending, rest) := readMembers fuel false rest
            ((key, value) :: members, ending, rest)
        else ([(key, .missing .expectedColon)], .lost, none)

end

/-- Reads the value that a text starts with, and gives what follows it if its end was
    found.  Between two steps of the recursion a character is consumed, so the bound is never
    reached. -/
def read (text : String) : ReadValue :=
  let cs := text.toList
  -- A character takes at most three calls: for a value, for its list, for an item in it.
  readValue (3 * cs.length + 3) cs

/-- Whether only white space follows a value. -/
def endsWell (rest : Option (List Char)) : Bool :=
  match rest with
  | none => true
  | some cs => (skipSpace cs).isEmpty

end WireSchema.Json
