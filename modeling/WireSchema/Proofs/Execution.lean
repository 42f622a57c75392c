import WireSchema.Output.StructClass
import WireSchema.Proofs.WireLibrary

/-! # Running generated classes

The methods of a generated class are run here statement by statement, on an instance of the
class and with a library underneath.  A run that cannot go on has no result: a name that is
nowhere declared, a call on something that does not offer it, or a failure of the library.

* `Frame.lookup` says what a name stands for: variables come before members.
* `Statement.effect` and `Body.run` run the parts of a method.
* `ClassDecl.encode` and `ClassDecl.decode` run the two wire methods of a class.
-/

namespace WireSchema

open Output

/-! ## Instances -/

namespace Execution

/-- An instance of a generated class. -/
structure Instance (Ω : Type) where
  /-- The presence bitmap. -/
  present : Finset UInt16
  members : String → Value Ω

def Instance.assign {Ω : Type} (self : Instance Ω) (name : String) (value : Value Ω) :
    Instance Ω :=
  { self with members := fun other => if other = name then value else self.members other }

def Instance.mark {Ω : Type} (self : Instance Ω) (tag : UInt16) : Instance Ω :=
  { self with present := insert tag self.present }

/-- What a name stands for. -/
inductive Slot (Ω W : Type) where
  | value (value : Value Ω)
  | encoder
  | decoder (wire : W)
  | bitmap

/-- What statements change. -/
structure State (Ω W : Type) where
  self : Instance Ω
  /-- What the encoder has written. -/
  output : W

/-- What statements are run in. -/
structure Frame (Ω W : Type) where
  library : Library Ω W
  decl : ClassDecl
  /-- The parameters of the method and the variables around a statement, innermost first. -/
  locals : List (String × Slot Ω W)
  /-- The tag on the wire that a decoder has come to. -/
  position : Option UInt16

end Execution

open Execution

variable {Ω W : Type}

/-- What a member of a type holds before anything is stored. -/
def Output.JavaType.blank : JavaType → Value Ω
  | .boolean => .single (.boolean false)
  | .int => .single (.int 0)
  | .long => .single (.long 0)
  | .float => .single (.float 0)
  | .text | .blob | .named _ | .array _ | .list _ | .map _ _ => .single .null

def Output.ClassDecl.memberNames (decl : ClassDecl) : List String := decl.members.map (·.name)

def Output.ClassDecl.fresh (decl : ClassDecl) : Instance Ω where
  present := ∅
  members name :=
    match decl.members.find? (·.name == name) with
    | none => .single .null
    | some member => member.type.blank

/-! ## Names -/

namespace Execution.Frame

/-- What a name stands for: a variable, or else a member of the class. -/
def lookup (frame : Frame Ω W) (self : Instance Ω) (name : String) : Option (Slot Ω W) :=
  match frame.locals.lookup name with
  | some slot => some slot
  | none =>
    if name ∉ frame.decl.memberNames then none
    else if name = presenceMember then some .bitmap
    else some (.value (self.members name))

/-- The value that a name stands for, if it stands for a value. -/
def value? (frame : Frame Ω W) (self : Instance Ω) (name : String) : Option (Value Ω) :=
  match frame.lookup self name with
  | some (.value value) => some value
  | _ => none

variable {frame : Frame Ω W} {self : Instance Ω} {name : String}

theorem lookup_member (visible : name ∉ frame.locals.map Prod.fst)
    (declared : name ∈ frame.decl.memberNames) :
    frame.lookup self name =
      if name = presenceMember then some .bitmap else some (.value (self.members name)) := by
  have absent : frame.locals.lookup name = none := by
    rw [List.lookup_eq_none_iff]
    intro entry listed
    rw [bne_iff_ne]
    rintro rfl
    exact visible (List.mem_map_of_mem listed)
  rw [lookup, absent]
  exact if_neg (not_not_intro declared)

/-- A member that no variable hides is the presence bitmap. -/
theorem lookup_presence (visible : presenceMember ∉ frame.locals.map Prod.fst)
    (declared : presenceMember ∈ frame.decl.memberNames) :
    frame.lookup self presenceMember = some .bitmap := by
  rw [lookup_member visible declared, if_pos rfl]

/-- A member that no variable hides, and that is not the presence bitmap, is a value. -/
theorem value?_member (visible : name ∉ frame.locals.map Prod.fst)
    (declared : name ∈ frame.decl.memberNames) (apart : name ≠ presenceMember) :
    frame.value? self name = some (self.members name) := by
  rw [value?, lookup_member visible declared, if_neg apart]

def declare (frame : Frame Ω W) (inner : List (String × Slot Ω W)) : Frame Ω W :=
  { frame with locals := inner ++ frame.locals }

end Execution.Frame

/-! ## Wire calls -/

/-- Runs an expression that reads a member, with a decoder that has come to `position`. -/
def Output.ReadCall.run (library : Library Ω W) (wire : W) (position : UInt16) :
    ReadCall → Option (Value Ω)
  | .flag tag => (library.readBool wire tag).map fun value => .single (.boolean value)
  | .number tag => (library.readNumber wire tag).map fun value => .single (.long value)
  | .narrowNumber tag =>
    (library.readNumber wire tag).map fun value => .single (.int value.toInt32)
  | .flags => (library.readFlags wire position).map .booleans
  | .narrowNumbers => (library.readInts wire position).map .ints
  | .numbers => (library.readLongs wire position).map .longs
  | .text => (library.readText wire position).map fun value => .single (.text value)
  | .texts => (library.readTexts wire position).map .texts
  | .blob => (library.readBlob wire position).map fun bytes => .single (.blob bytes)
  | .enumMember className tag => do
    let value ← library.readNumber wire tag
    (library.byInt className value.toInt32).map .single
  | .enumMembers className => do
    let values ← library.readInts wire position
    (library.constants (library.byInt className) values).map .list
  | .object className => do
    let declared ← library.struct? className
    (library.readObject declared wire position).map fun value => .single (.object value)
  | .objects className => do
    let declared ← library.struct? className
    (library.readObjects declared wire position).map fun values => .list (values.map .object)
  | .objectMap className getter => do
    let declared ← library.struct? className
    (library.readMap declared (library.answer getter) wire position).map .map

/-- Makes an operand of the value of a member. -/
def Output.Operand.run (library : Library Ω W) : Operand → Value Ω → Option (Value Ω)
  | .itself, value => some value
  | .flag, .single (.boolean value) => some (.single (.int (if value then 1 else 0)))
  | .ordinal, .single value => value.ordinal?.map fun position => .single (.int position)
  | .ordinals className, .list elements => do
    let _ ← library.enum? className
    (library.positions Single.ordinal? elements).map .ints
  | .values, .map entries => some (.list ((library.values entries).map .object))
  | _, _ => none

/-- What a method of the encoder writes for an operand. -/
def Output.WriteMethod.payload? : WriteMethod → Value Ω → Option (Payload Ω)
  | .number, .single (.int value) => some (.number value.toInt64)
  | .number, .single (.long value) => some (.number value)
  | .numbers, .ints values => some (.ints values)
  | .numbers, .longs values => some (.longs values)
  | .flags, .booleans values => some (.flags values)
  | .text, .single (.text value) => some (.text value)
  | .texts, .texts values => some (.texts values)
  | .blob, .single (.blob bytes) => some (.blob bytes)
  | .object, .single (.object value) => some (.object value)
  | .objects, .list elements => (elements.mapM Single.object?).map .objects
  | _, _ => none

/-- What a call writes for the value of its member. -/
def Output.WriteCall.payload? (library : Library Ω W) (call : WriteCall) (value : Value Ω) :
    Option (Payload Ω) :=
  (call.operand.run library value).bind call.method.payload?

/-! ## Statements -/

def Output.Expression.run (frame : Frame Ω W) (self : Instance Ω) : Expression → Option (Value Ω)
  | .name id => frame.value? self id
  | .isPresent tag =>
    match frame.lookup self presenceMember with
    | some .bitmap => some (.single (.boolean (tag ∈ self.present)))
    | _ => none
  | .scaled id factor =>
    match frame.value? self id with
    | some (.single value) => (frame.library.scaled value factor).map .single
    | _ => none
  | .truncated type id factor =>
    match frame.value? self id with
    | some (.single value) => (frame.library.truncated type value factor).map .single
    | _ => none
  | .read call =>
    match frame.lookup self "decoder", frame.position with
    | some (.decoder wire), some position => call.run frame.library wire position
    | _, _ => none

/-- Runs a statement that answers nothing. -/
def Output.Statement.effect (frame : Frame Ω W) (state : State Ω W) :
    Statement → Option (State Ω W)
  | .answer _ => none
  | .assign member value => do
    let value ← value.run frame state.self
    if member ∈ frame.decl.memberNames then
      return { state with self := state.self.assign member value }
    else none
  | .markPresent tag =>
    match frame.lookup state.self presenceMember with
    | some .bitmap => some { state with self := state.self.mark tag }
    | _ => none
  | .write call =>
    match frame.lookup state.self "encoder" with
    | some .encoder => do
      let value ← frame.value? state.self call.member
      let payload ← call.payload? frame.library value
      return { state with output := frame.library.write state.output call.tag payload }
    | _ => none

namespace Output.Statement

variable {frame : Frame Ω W} {self : Instance Ω} {output : W}

theorem effect_assign {member : String} {expression : Expression} {value : Value Ω}
    (evaluated : expression.run frame self = some value)
    (declared : member ∈ frame.decl.memberNames) :
    effect frame ⟨self, output⟩ (.assign member expression) =
      some ⟨self.assign member value, output⟩ := by
  simp only [effect, evaluated, Option.bind_eq_bind, Option.bind_some, if_pos declared,
    Option.pure_def]

theorem effect_markPresent {tag : UInt16}
    (bitmap : frame.lookup self presenceMember = some .bitmap) :
    effect frame ⟨self, output⟩ (.markPresent tag) = some ⟨self.mark tag, output⟩ := by
  simp only [effect, bitmap]

theorem effect_write_eq {call : WriteCall} {value : Value Ω}
    (encoder : frame.lookup self "encoder" = some .encoder)
    (found : frame.value? self call.member = some value) :
    effect frame ⟨self, output⟩ (.write call) =
      (call.payload? frame.library value).map fun payload =>
        ⟨self, frame.library.write output call.tag payload⟩ := by
  simp only [effect, encoder, found, Option.bind_eq_bind, Option.bind_some, Option.pure_def,
    Option.map_eq_bind]
  rfl

end Output.Statement

/-- Runs statements up to the first answer. -/
def runStatements (frame : Frame Ω W) :
    List Statement → State Ω W → Option (State Ω W × Option (Value Ω))
  | [], state => some (state, none)
  | .answer value :: _, state => (value.run frame state.self).map fun value => (state, some value)
  | statement :: statements, state => do
    let state ← statement.effect frame state
    runStatements frame statements state

/-! ## Methods -/

/-- Runs the case of a tag.  A tag without a case is passed over. -/
def runCase (frame : Frame Ω W) (cases : List Case) (tag : UInt16) (state : State Ω W) :
    Option (State Ω W) :=
  match cases.find? (·.tag == tag) with
  | none => some state
  | some found => found.statements.foldlM (Statement.effect frame) state

theorem runCase_of_find? {frame : Frame Ω W} {cases : List Case} {found : Case} {tag : UInt16}
    (first : cases.find? (·.tag == tag) = some found) (state : State Ω W) :
    runCase frame cases tag state =
      found.statements.foldlM (Statement.effect frame) state := by
  rw [runCase, first]

/-- A tag as a number of the generated source. -/
def tagNumber (tag : UInt16) : Int32 := Int32.ofNat tag.toNat

/-- The frame of the round of a loop over the wire that handles a tag. -/
def Execution.Frame.atWireTag (frame : Frame Ω W) (tags : List UInt16) (tag : UInt16)
    (round : Nat) : Frame Ω W :=
  { frame.declare [("i", .value (.single (.int (Int32.ofNat round)))),
      ("present", .value (.ints (tags.map tagNumber)))] with position := some tag }

/-- The frame of the visit to a tag of the bitmap. -/
def Execution.Frame.atPresentTag (frame : Frame Ω W) (tag : UInt16) : Frame Ω W :=
  frame.declare [("tag", .value (.single (.int (tagNumber tag))))]

def Output.Body.run (frame : Frame Ω W) (state : State Ω W) :
    Body → Option (State Ω W × Option (Value Ω))
  | .statements list => runStatements frame list state
  | .eachWireTag cases =>
    match frame.lookup state.self "decoder" with
    | some (.decoder wire) =>
      let tags := frame.library.tags wire
      let round (state : State Ω W) (step : UInt16 × Nat) : Option (State Ω W) :=
        runCase (frame.atWireTag tags step.1 step.2) cases step.1 state
      (tags.zipIdx.foldlM round state).map (·, none)
    | _ => none
  | .eachPresentTag cases =>
    match frame.lookup state.self presenceMember with
    | some .bitmap =>
      let visit (state : State Ω W) (tag : UInt16) : Option (State Ω W) :=
        runCase (frame.atPresentTag tag) cases tag state
      ((frame.library.visit state.self.present).foldlM visit state).map (·, none)
    | _ => none

/-- Calls a method of a class by its name. -/
def Output.ClassDecl.call (library : Library Ω W) (decl : ClassDecl) (name : String)
    (arguments : List (Slot Ω W)) (state : State Ω W) :
    Option (State Ω W × Option (Value Ω)) := do
  let method ← decl.methods.find? (·.name == name)
  if method.parameters.length = arguments.length then
    method.body.run
      { library := library, decl := decl,
        locals := (method.parameters.map (·.name)).zip arguments, position := none } state
  else none

/-- What an instance writes about itself. -/
def Output.ClassDecl.encode (library : Library Ω W) (decl : ClassDecl) (self : Instance Ω) :
    Option W := do
  let (state, _) ← decl.call library "encode" [.encoder] ⟨self, library.blank⟩
  return state.output

/-- What an instance becomes when it reads from a wire. -/
def Output.ClassDecl.decode (library : Library Ω W) (decl : ClassDecl) (self : Instance Ω)
    (wire : W) : Option (Instance Ω) := do
  let (state, _) ← decl.call library "decode" [.decoder wire] ⟨self, library.blank⟩
  return state.self

end WireSchema
