import WireSchema.Json.Decode
import WireSchema.Text.Quoted

/-! # Settings of a run

A run is told where to write, what to append to type names, which annotation extends a
namespace, and what to put at the top of every file.  Every setting has a default.
-/

namespace WireSchema

/-- The settings of a run. -/
structure Config where
  /-- The directory that the generated tree is rooted in. -/
  outDir : String
  /-- What follows a type name in a file name, with its dot. -/
  extension : String
  /-- The annotation that extends a namespace. -/
  namespaceTag : String
  /-- The text at the top of every generated file. -/
  banner : String
  deriving DecidableEq

namespace Config

/-- The settings that hold if nothing else is said. -/
def default : Config where
  outDir := "."
  extension := ".java"
  namespaceTag := "javaPackage"
  banner := "// Generated by sprotogen\n// DO NOT EDIT!"

/-- The default settings, with another directory. -/
def writingTo (outDir : String) : Config :=
  { default with outDir := outDir }

def withExtension (config : Config) (extension : String) : Config :=
  { config with extension := extension }

def withNamespaceTag (config : Config) (tag : String) : Config :=
  { config with namespaceTag := tag }

def withBanner (config : Config) (banner : String) : Config :=
  { config with banner := banner }

/-- The settings as a record of a document; each of them may be left out. -/
def format : RecordFormat Config where
  name := "GeneratorConfig"
  blank := default
  fields :=
    [.optional "out_dir" (Json.decodeTextAs "path string") fun s c => { c with outDir := s },
     .optional "extension" Json.decodeText fun s c => { c with extension := s },
     .optional "namespace_tag" Json.decodeText fun s c => { c with namespaceTag := s },
     .optional "banner" Json.decodeText fun s c => { c with banner := s }]

/-- Reads settings from the text of their document. -/
def ofText (text : String) : Except DecodeError Config :=
  Decoder.ofText format.decode text

/-- How the log shows settings. -/
def describe (config : Config) : String :=
  "GeneratorConfig \x7b out_dir: " ++ Text.quote config.outDir ++
    ", extension: " ++ Text.quote config.extension ++
    ", namespace_tag: " ++ Text.quote config.namespaceTag ++
    ", banner: " ++ Text.quote config.banner ++ " \x7d"

end Config

end WireSchema
