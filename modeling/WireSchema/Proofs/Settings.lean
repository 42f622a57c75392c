import WireSchema.CommandLine.Basic
import WireSchema.Proofs.Loading
import WireSchema.Proofs.Records

/-! # Where settings come from

Each part of the settings is taken from an option, if the part has one and it is given.  Otherwise
it is taken from the document that the command line names, if it has a member for the part, and
otherwise it has its default.

* `Config.Part` — the parts of the settings, with their options and their keys.
* `Config.Chosen` — what a part is taken from.
* `run_settings` — how the settings of a run are read: a document or the defaults, and then the
  options.
* `chosen_of_base` — each part of them is chosen in that order.
-/

namespace WireSchema

open FileProgram CommandLine

/-! ## Parts of the settings -/

namespace Config

inductive Part where
  | outDir
  | extension
  | namespaceTag
  | banner

namespace Part

def get : Part → Config → String
  | outDir => Config.outDir
  | extension => Config.extension
  | namespaceTag => Config.namespaceTag
  | banner => Config.banner

/-- The key of a part in a document. -/
def key : Part → String
  | outDir => "out_dir"
  | extension => "extension"
  | namespaceTag => "namespace_tag"
  | banner => "banner"

/-- The option that a part can be given with. -/
def option? : Part → Option Setting
  | outDir => some .out
  | extension => some .extension
  | namespaceTag | banner => none

def decode : Part → Decoder String
  | outDir => Json.decodeTextAs "path string"
  | _ => Json.decodeText

def store : Part → String → Config → Config
  | outDir, value, config => { config with outDir := value }
  | extension, value, config => { config with extension := value }
  | namespaceTag, value, config => { config with namespaceTag := value }
  | banner, value, config => { config with banner := value }

/-- The field of a document that a part is read from. -/
def field (part : Part) : FieldFormat Config := .optional part.key part.decode part.store

theorem fields_eq : Config.format.fields = [outDir, extension, namespaceTag, banner].map field :=
  rfl

theorem get_store (part : Part) (value : String) (config : Config) :
    part.get (part.store value config) = value := by
  cases part <;> rfl

theorem get_store_of_ne {part other : Part} (distinct : other ≠ part) (value : String)
    (config : Config) : part.get (other.store value config) = part.get config := by
  cases part <;> cases other <;> simp_all [get, store]

theorem key_injective {part other : Part} (same : other.key = part.key) : other = part := by
  cases part <;> cases other <;> simp_all [key]

theorem keeps (part : Part) : Config.format.Keeps part.key part.decode part.get where
  distinct := by decide
  known := by cases part <;> decide
  own := by
    intro field listed same
    obtain ⟨other, _, rfl⟩ := List.mem_map.mp (fields_eq ▸ listed)
    obtain rfl := key_injective same
    exact FieldFormat.stores_optional other.get_store
  others := by
    intro field listed differs
    obtain ⟨other, _, rfl⟩ := List.mem_map.mp (fields_eq ▸ listed)
    refine FieldFormat.leaves_optional (get_store_of_ne ?_)
    rintro rfl
    exact differs rfl

theorem decode_eq_ok {part : Part} {json : Json} {value : String}
    (decoded : part.decode json = .ok value) : json = .ofString value := by
  cases part <;> cases json with
  | text text => cases text <;> simp_all [decode, Json.decodeText, Json.decodeTextAs, Json.ofString]
  | _ => cases decoded

end Part

/-- What a part of the settings is taken from: an option, else the member of a document, else its
    default. -/
def Chosen (option : Option String) (member : Option Json) (default value : String) : Prop :=
  match option, member with
  | some given, _ => value = given
  | none, some json => json = .ofString value
  | none, none => value = default

end Config

/-! ## Documents -/

namespace FileTree

/-- The settings that the document at a path gives. -/
def configAt (tree : FileTree) (path : String) : Except RunError Config :=
  match tree.textAt path with
  | .error fault => .error (.configUnreadable path fault)
  | .ok text => (Config.ofText text).mapError (.configInvalid path)

/-- The document at a path. -/
def documentAt (tree : FileTree) (path : String) : Option Json :=
  (tree.textAt path).toOption.map fun text => (Json.read text).1

end FileTree

variable {tree : FileTree} {path : String} {config : Config}

theorem chosen_of_configAt (part : Config.Part) (there : tree.configAt path = .ok config) :
    Config.Chosen none ((tree.documentAt path).bind (·.member? Config.format.names part.key))
      (part.get .default) (part.get config) := by
  unfold FileTree.configAt at there
  cases text : tree.textAt path with
  | error fault => simp [text] at there
  | ok text' =>
    simp only [text, mapError_eq_ok, Config.ofText, Decoder.ofText, bind_eq_ok] at there
    obtain ⟨read, decoded, ends⟩ := there
    split at ends
    · cases ends
      have reads := part.keeps.of_decode decoded
      simp only [FileTree.documentAt, text, Except.toOption, Option.map_some, Option.bind_some]
      cases member : (Json.read text').1.member? Config.format.names part.key with
      | none =>
        rw [member] at reads
        exact reads
      | some json =>
        rw [member] at reads
        exact Config.Part.decode_eq_ok reads
    · cases ends

/-! ## Reading the settings -/

namespace CommandLine.Invocation

/-- The settings that the options are put over: those of the document, or the default ones. -/
def base (invocation : Invocation) (tree : FileTree) : Except RunError Config :=
  match invocation.config with
  | none => .ok .default
  | some path => tree.configAt path

/-- Puts the options over settings. -/
def settle (invocation : Invocation) (config : Config) : Config :=
  { config with
    outDir := invocation.out.getD config.outDir
    extension := invocation.extension.getD config.extension }

theorem get_settle (invocation : Invocation) (part : Config.Part) (config : Config) :
    part.get (invocation.settle config) =
      (part.option?.bind invocation.value?).getD (part.get config) := by
  cases part <;> rfl

end CommandLine.Invocation

theorem Config.Chosen.override {member : Option Json} {default value : String}
    (chosen : Chosen none member default value) (option : Option String) :
    Chosen option member default (option.getD value) := by
  cases option with
  | none => exact chosen
  | some given => rfl

/-- Reads the settings of a document. -/
def readConfig (path : String) : FileProgram RunError Config := do
  let text ← readText (.configUnreadable path) path
  .ofExcept ((Config.ofText text).mapError (.configInvalid path))

theorem run_readConfig (path : String) (tree : FileTree) :
    (readConfig path).run tree = ⟨tree, [], tree.configAt path⟩ := by
  unfold readConfig FileTree.configAt
  rw [run_readText_bind]
  cases tree.textAt path <;> rfl

/-- Reads the settings that the options are put over. -/
def CommandLine.Invocation.readBase (invocation : Invocation) : FileProgram RunError Config :=
  match invocation.config with
  | none => pure .default
  | some path => readConfig path

theorem settings_eq (invocation : Invocation) :
    invocation.settings =
      invocation.readBase >>= fun config => pure (invocation.settle config) := by
  obtain ⟨models, out, extension, config, logLevel⟩ := invocation
  cases config with
  | none => cases out <;> cases extension <;> rfl
  | some path =>
    -- the document is read in one step of its own, whatever the options are
    cases out <;> cases extension <;>
      exact (bind_assoc (readText (RunError.configUnreadable path) path) _ _).symm

theorem run_readBase (invocation : Invocation) (tree : FileTree) :
    invocation.readBase.run tree = ⟨tree, [], invocation.base tree⟩ := by
  unfold Invocation.readBase Invocation.base
  cases invocation.config with
  | none => rfl
  | some path => exact run_readConfig path tree

theorem run_settings (invocation : Invocation) (tree : FileTree) :
    invocation.settings.run tree =
      ⟨tree, [], (invocation.base tree).map invocation.settle⟩ := by
  rw [settings_eq, run_bind, run_readBase]
  cases invocation.base tree <;> rfl

theorem chosen_of_base {invocation : Invocation} (based : invocation.base tree = .ok config)
    (part : Config.Part) :
    Config.Chosen (part.option?.bind invocation.value?)
      ((invocation.config.bind tree.documentAt).bind (·.member? Config.format.names part.key))
      (part.get .default) (part.get (invocation.settle config)) := by
  rw [Invocation.get_settle]
  refine Config.Chosen.override ?_ _
  unfold Invocation.base at based
  cases named : invocation.config with
  | none =>
    simp only [named, Except.ok.injEq] at based
    subst based
    rfl
  | some path =>
    rw [named] at based
    exact chosen_of_configAt part based

end WireSchema
