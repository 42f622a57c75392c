import WireSchema.Json.Decode
import WireSchema.Schema.Basic

/-! # Modules as JSON

A module is handed over as a JSON document.  Every record of the model has a `RecordFormat`
that names its members, says which of them may be left out, and stores their values.

* `Module.ofText` reads a module from the text of a document.
* The decoders of the parts of a module can be used on their own as well.
-/

namespace WireSchema

open FieldFormat (mandatory optional)

/-! ## Kinds -/

/-- The kind that a keyword names. -/
def Kind.ofJsonKeyword (keyword : String) : Except DecodeError Kind :=
  match Kind.ofKeyword? keyword with
  | some kind => .ok kind
  | none => .error (.unknownKind keyword (Kind.all.map Kind.keyword))

/-- The value under the keyword of a kind has to be `null`. -/
def Json.decodeUnit : Decoder Unit
  | .null => .ok ()
  | json => .error (json.refuse "unit")

/-- Decodes a kind: its keyword, or an object whose only member has the keyword as its key
    and `null` as its value. -/
def Kind.decode : Decoder Kind
  | .text keyword => do
    Kind.ofJsonKeyword (← Json.checked keyword)
  | .object [] .closed => .error (.malformed .expectedValue)
  | .object [] ending => do
    Json.checked ending.wanted
    throw (.malformed .expectedValue)
  | .object ((keyword, value) :: others) ending => do
    -- The keyword is judged before the colon after it.
    let kind ← Kind.ofJsonKeyword (← Json.checked keyword)
    Json.decodeUnit value
    -- Nothing but the closing brace may follow, not even a comma.
    match others, ending with
    | [], .closed => return kind
    | [], .cutOff => throw (.malformed .endInObject)
    | _, _ => throw (.malformed .expectedValue)
  | .brokenText fault => .error (.malformed fault.wanted)
  | .missing problem => .error (.malformed problem)
  | _ => .error (.malformed .expectedValue)

/-! ## Records -/

def Comment.format : RecordFormat Comment where
  name := "CommentGroup"
  blank := .blank
  fields :=
    [optional "leading" Json.decodeText fun s c => { c with leading := s },
     optional "trailing" Json.decodeText fun s c => { c with trailing := s }]

def TypeRef.format : RecordFormat TypeRef where
  name := "ComplexRef"
  blank := ⟨"", none⟩
  fields :=
    [mandatory "name" Json.decodeText fun s r => { r with name := s },
     optional "module" (Json.decodeOption Json.decodeText) fun s r => { r with home := s }]

def FixedPoint.format : RecordFormat FixedPoint where
  name := "FixedPoint"
  blank := ⟨0⟩
  fields := [mandatory "scale" Json.decodeFloat fun x f => { f with scale := x }]

def Field.format : RecordFormat Field where
  name := "SchemaField"
  blank := .scalar "" 0 .bool
  fields :=
    [mandatory "name" Json.decodeText fun s f => { f with name := s },
     mandatory "tag" Json.decodeTag fun n f => { f with tag := n },
     mandatory "kind" Kind.decode fun k f => { f with kind := k },
     optional "repeated" Json.decodeBool fun b f => { f with repeated := b },
     optional "map_key" (Json.decodeOption Json.decodeText) fun s f => { f with mapKey := s },
     optional "fixed_point" (Json.decodeOption FixedPoint.format.decode)
       fun x f => { f with fixedPoint := x },
     optional "complex" (Json.decodeOption TypeRef.format.decode)
       fun r f => { f with target := r }]

def StructDecl.format : RecordFormat StructDecl where
  name := "SchemaStruct"
  blank := .empty ""
  fields :=
    [mandatory "name" Json.decodeText fun s d => { d with name := s },
     optional "fields" (Json.decodeList Field.format.decode) fun fs d => { d with fields := fs },
     optional "comment" Comment.format.decode fun c d => { d with comment := c }]

def EnumDecl.format : RecordFormat EnumDecl where
  name := "SchemaEnum"
  blank := .ofMembers "" []
  fields :=
    [mandatory "name" Json.decodeText fun s d => { d with name := s },
     mandatory "members" (Json.decodeList Json.decodeText) fun ms d => { d with members := ms },
     optional "comment" Comment.format.decode fun c d => { d with comment := c }]

def Module.format : RecordFormat Module where
  name := "SchemaModule"
  blank := .empty "" ""
  fields :=
    [mandatory "name" Json.decodeText fun s m => { m with name := s },
     optional "namespace" Json.decodeText fun s m => { m with defaultNamespace := s },
     optional "structs" (Json.decodeList StructDecl.format.decode)
       fun ds m => { m with structs := ds },
     optional "enums" (Json.decodeList EnumDecl.format.decode)
       fun ds m => { m with enums := ds }]

/-! ## Documents -/

def Module.ofText (text : String) : Except DecodeError Module :=
  Decoder.ofText Module.format.decode text

end WireSchema
