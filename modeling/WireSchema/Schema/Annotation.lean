import WireSchema.Schema.Basic
import WireSchema.Text.Blank

/-! # Annotations in comments

The leading comment of a declaration may carry annotations: lines of the form `@key value` or
`@key: value`.  One of them extends the namespace that the declaration is placed in.

* `annotationValue?` reads one line.
* `Comment.annotation?` finds the first line of a comment that carries a key.
* `Comment.namespaceOverride?` finds the namespace that a comment asks for.
* `placement` is the namespace that a declaration is placed in.
-/

namespace WireSchema

/-! ## Lines -/

/-- The value that a line gives to the annotation `key`: blank characters, an at sign, the
    key, and then either nothing, or a colon and the value, or a value that starts with a blank
    character.  A longer word that starts with the key is another annotation. -/
def annotationValue? (key line : List Char) : Option (List Char) :=
  match Text.after? ('@' :: key) (Text.trimStart line) with
  | none => none
  | some [] => some []
  | some (c :: rest) =>
    if c = ':' then some rest
    else if Text.isBlank c then some (c :: rest)
    else none

namespace Comment

/-- The value of the first line that carries the annotation `key`, as it is written after the
    key and its colon. -/
def annotation? (comment : Comment) (key : String) : Option String :=
  ((Text.lines comment.leading.toList).findSome? (annotationValue? key.toList)).map
    String.ofList

/-! ## Namespaces -/

/-- What follows the key and a colon, if the comment starts with them. -/
def openingValue? (comment : Comment) (key : String) : Option String :=
  (Text.after? (key.toList ++ [':']) comment.leading.toList).map String.ofList

/-- The namespace that a comment asks for under the annotation `key`.  An annotated line is
    preferred to a comment that starts with the key, and a blank value asks for nothing. -/
def namespaceOverride? (comment : Comment) (key : String) : Option String :=
  match (comment.annotation? key).or (comment.openingValue? key) with
  | none => none
  | some value =>
    match Text.trim value.toList with
    | [] => none
    | cs => some (String.ofList cs)

end Comment

/-- The namespace that a declaration with the given comment is placed in.  What the comment
    asks for extends the namespace of the module. -/
def placement (key defaultNamespace : String) (comment : Comment) : String :=
  match comment.namespaceOverride? key with
  | none => defaultNamespace
  | some extra =>
    if defaultNamespace.isEmpty then extra else defaultNamespace ++ "." ++ extra

end WireSchema
