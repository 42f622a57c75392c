/-! # Types of the generated source

Members, parameters and results of generated classes have one of a few shapes of type.

* `JavaType` is such a type, and `JavaType.spelling` its text.
* `JavaType.box` adapts that text to a type argument, where the primitive types have
  class names of their own.
-/

namespace WireSchema.Output

/-- A type of the generated source. -/
inductive JavaType where
  | boolean
  | int
  | long
  | float
  | text
  | blob
  /-- A class, by the name it is written with. -/
  | named (className : String)
  | array (element : JavaType)
  | list (element : JavaType)
  | map (key element : JavaType)
  deriving DecidableEq

namespace JavaType

/-- The spelling of a type argument that would be spelled `text` elsewhere. -/
def box (text : String) : String :=
  if text = "int" then "Integer"
  else if text = "long" then "Long"
  else if text = "boolean" then "Boolean"
  else text

def spelling : JavaType → String
  | boolean => "boolean"
  | int => "int"
  | long => "long"
  | float => "float"
  | text => "String"
  | blob => "ByteBuffer"
  | named className => className
  | array element => element.spelling ++ "[]"
  | list element => "List<" ++ element.spelling ++ ">"
  | map key element => "Map<" ++ box key.spelling ++ "," ++ element.spelling ++ ">"

end JavaType

end WireSchema.Output
