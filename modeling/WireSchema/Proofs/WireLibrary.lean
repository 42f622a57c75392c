import Mathlib.Data.Finmap
import WireSchema.Output.EnumClass
import WireSchema.Registry

/-! # What generated classes run on

A generated class stores values, and hands them to a library that knows the wire format.  Here
are the values, and the library as far as generated classes use it.

* `Single` and `Value` are what a member can hold.
* `Library` are the operations of the library, and `Library.Lawful` what is relied on: what is
  written under a tag is read back under that tag.
* `Library.Fits` says that a value is one of a type.
-/

namespace WireSchema

open Output (JavaType EnumClass)

/-! ## Constants -/

namespace Output.EnumClass

/-- The position of a constant, as a number of the generated source. -/
def position? (decl : EnumClass) (constant : String) : Option Int32 :=
  (decl.constants.idxOf? constant).map Int32.ofNat

theorem find?_zipIdx (constants : List String) (start index : Nat) :
    ((constants.zipIdx start).find? fun constant => (constant.2 : Int) == (start + index : Nat)) =
      constants[index]?.map (·, start + index) := by
  induction constants generalizing start index with
  | nil => simp
  | cons constant constants inductionHypothesis =>
    rw [List.zipIdx_cons, List.find?_cons]
    cases index with
    | zero => simp
    | succ index =>
      have apart : ((start : Int) == (start + (index + 1) : Nat)) = false := by
        rw [beq_eq_false_iff_ne]
        omega
      have next : start + (index + 1) = start + 1 + index := by omega
      simp only [apart, List.getElem?_cons_succ]
      rw [next, inductionHypothesis]

/-- The lookup of an enum finds a constant by its position. -/
theorem byInt?_position {decl : EnumClass} {constant : String} {index : Nat}
    (found : decl.constants.idxOf? constant = some index) (small : index < 2 ^ 31) :
    decl.byInt? (Int32.ofNat index).toInt = some constant := by
  obtain ⟨bound, named, _⟩ := List.idxOf?_eq_some_iff.mp found
  have listed : decl.constants[index]? = some constant := by
    rw [List.getElem?_eq_getElem bound, named]
  have search := find?_zipIdx decl.constants 0 index
  rw [Nat.zero_add, listed] at search
  rw [byInt?, Int32.toInt_ofNat_of_lt small, search]
  rfl

end Output.EnumClass

namespace Execution

/-! ## Values -/

/-- A value that is no collection.  Objects of other generated classes are taken from `Ω`. -/
inductive Single (Ω : Type) where
  | null
  | boolean (value : Bool)
  | int (value : Int32)
  | long (value : Int64)
  /-- A fraction, by its bits. -/
  | float (bits : UInt32)
  | text (value : String)
  | blob (bytes : List UInt8)
  | constant (enum : Declared) (name : String)
  | object (value : Ω)
  deriving DecidableEq

/-- Objects by their keys. -/
abbrev ObjectMap (Ω : Type) := Finmap fun _ : Single Ω => Ω

/-- What a member holds. -/
inductive Value (Ω : Type) where
  | single (value : Single Ω)
  | booleans (values : List Bool)
  | ints (values : List Int32)
  | longs (values : List Int64)
  | texts (values : List String)
  | list (elements : List (Single Ω))
  | map (entries : ObjectMap Ω)

/-- What is written under a tag. -/
inductive Payload (Ω : Type) where
  | number (value : Int64)
  | ints (values : List Int32)
  | longs (values : List Int64)
  | flags (values : List Bool)
  | text (value : String)
  | texts (values : List String)
  | blob (bytes : List UInt8)
  | object (value : Ω)
  | objects (values : List Ω)

namespace Single

variable {Ω : Type}

def ordinal? : Single Ω → Option Int32
  | constant enum name => do
    let decl ← enum.declaration.enum?
    decl.toClass.position? name
  | _ => none

def object? : Single Ω → Option Ω
  | object value => some value
  | _ => none

end Single

/-! ## The library -/

/-- The library that generated classes use.  `W` is what an encoder has written. -/
structure Library (Ω W : Type) where
  /-- The declaration whose class is found under a name. -/
  classPath : String → Option Declared
  /-- The objects of a class. -/
  instanceOf : Declared → Ω → Prop
  /-- What a getter of an object returns. -/
  answer : String → Ω → Single Ω
  /-- The tags of a bitmap, in the order in which they are visited. -/
  visit : Finset UInt16 → List UInt16
  /-- The objects of a map, in the order in which they are listed. -/
  values : ObjectMap Ω → List Ω
  positions : (Single Ω → Option Int32) → List (Single Ω) → Option (List Int32)
  constants : (Int32 → Option (Single Ω)) → List Int32 → Option (List (Single Ω))
  /-- A number times a factor. -/
  scaled : Single Ω → Float → Option (Single Ω)
  /-- A fraction times a factor, cut down to a type. -/
  truncated : JavaType → Single Ω → Float → Option (Single Ω)
  blank : W
  write : W → UInt16 → Payload Ω → W
  tags : W → List UInt16
  readNumber : W → UInt16 → Option Int64
  readBool : W → UInt16 → Option Bool
  readInts : W → UInt16 → Option (List Int32)
  readLongs : W → UInt16 → Option (List Int64)
  readFlags : W → UInt16 → Option (List Bool)
  readText : W → UInt16 → Option String
  readTexts : W → UInt16 → Option (List String)
  readBlob : W → UInt16 → Option (List UInt8)
  readObject : Declared → W → UInt16 → Option Ω
  readObjects : Declared → W → UInt16 → Option (List Ω)
  readMap : Declared → (Ω → Single Ω) → W → UInt16 → Option (ObjectMap Ω)

namespace Library

variable {Ω W : Type} (library : Library Ω W)

def struct? (className : String) : Option Declared := do
  let declared ← library.classPath className
  let _ ← declared.declaration.struct?
  return declared

def enum? (className : String) : Option (Declared × EnumClass) := do
  let declared ← library.classPath className
  let decl ← declared.declaration.enum?
  return (declared, decl.toClass)

/-- The constant that a class answers for a position.  A class without constants answers
    null. -/
def byInt (className : String) (position : Int32) : Option (Single Ω) := do
  let (declared, decl) ← library.enum? className
  return match decl.byInt? position.toInt with
    | some name => .constant declared name
    | none => .null

/-- What an encoder has written after some calls. -/
def written (calls : List (UInt16 × Payload Ω)) : W :=
  calls.foldl (fun wire call => library.write wire call.1 call.2) library.blank

variable [DecidableEq Ω]

/-- The map that is filled with objects one by one. -/
def collect (key : Ω → Single Ω) (objects : List Ω) : ObjectMap Ω :=
  objects.foldl (fun entries object => entries.insert (key object) object) ∅

/-- Under a tag, each reading call that goes with a payload finds it. -/
def Reads (wire : W) (tag : UInt16) : Payload Ω → Prop
  | .number value =>
    library.readNumber wire tag = some value ∧
      ∀ flag : Bool, value = (if flag then 1 else 0) → library.readBool wire tag = some flag
  | .ints values => library.readInts wire tag = some values
  | .longs values => library.readLongs wire tag = some values
  | .flags values => library.readFlags wire tag = some values
  | .text value => library.readText wire tag = some value
  | .texts values => library.readTexts wire tag = some values
  | .blob bytes => library.readBlob wire tag = some bytes
  | .object value =>
    ∀ declared, library.instanceOf declared value →
      library.readObject declared wire tag = some value
  | .objects values =>
    ∀ declared, (∀ value ∈ values, library.instanceOf declared value) →
      library.readObjects declared wire tag = some values ∧
        ∀ key, library.readMap declared key wire tag = some (collect key values)

/-- What is relied on. -/
structure Lawful : Prop where
  visit_nodup : ∀ present, (library.visit present).Nodup
  mem_visit : ∀ present tag, tag ∈ library.visit present ↔ tag ∈ present
  mem_values : ∀ entries object,
    object ∈ library.values entries ↔ ∃ key, entries.lookup key = some object
  positions_eq : ∀ position elements,
    library.positions position elements = elements.mapM position
  constants_eq : ∀ constant positions,
    library.constants constant positions = positions.mapM constant
  /-- The tags that are found are those that were written. -/
  mem_tags : ∀ calls : List (UInt16 × Payload Ω), (calls.map Prod.fst).Nodup →
    ∀ tag, tag ∈ library.tags (library.written calls) ↔ tag ∈ calls.map Prod.fst
  /-- What was written under a tag is read under the tag. -/
  reads : ∀ calls : List (UInt16 × Payload Ω), (calls.map Prod.fst).Nodup →
    ∀ call ∈ calls, library.Reads (library.written calls) call.1 call.2

/-! ## Values of types -/

/-- The values of the class that is found under a name.  The positions of constants are numbers
    of the generated source. -/
inductive Holds (className : String) : Single Ω → Prop
  | constant {declared : Declared} {decl : EnumClass} {name : String} {index : Nat} :
      library.enum? className = some (declared, decl) →
      decl.constants.idxOf? name = some index → index < 2 ^ 31 →
      Holds className (.constant declared name)
  | object {declared : Declared} {value : Ω} : library.struct? className = some declared →
      library.instanceOf declared value → Holds className (.object value)

/-- The values of a type.  None of them is null, nor contains null. -/
inductive Fits : JavaType → Value Ω → Prop
  | boolean (value : Bool) : Fits .boolean (.single (.boolean value))
  | int (value : Int32) : Fits .int (.single (.int value))
  | long (value : Int64) : Fits .long (.single (.long value))
  | float (bits : UInt32) : Fits .float (.single (.float bits))
  | text (value : String) : Fits .text (.single (.text value))
  | blob (bytes : List UInt8) : Fits .blob (.single (.blob bytes))
  | named {className : String} {value : Single Ω} : library.Holds className value →
      Fits (.named className) (.single value)
  | booleans (values : List Bool) : Fits (.array .boolean) (.booleans values)
  | ints (values : List Int32) : Fits (.array .int) (.ints values)
  | longs (values : List Int64) : Fits (.array .long) (.longs values)
  | texts (values : List String) : Fits (.array .text) (.texts values)
  | list {className : String} {elements : List (Single Ω)} :
      (∀ element ∈ elements, library.Holds className element) →
      Fits (.list (.named className)) (.list elements)
  | map {keyType : JavaType} {className : String} {entries : ObjectMap Ω} :
      (∀ key value, entries.lookup key = some value → Fits keyType (.single key)) →
      (∀ key value, entries.lookup key = some value → library.Holds className (.object value)) →
      Fits (.map keyType (.named className)) (.map entries)

/-! ## A library that keeps records -/

/-- A library whose wire is the list of the calls that were made.  The first record of a tag is
    the one that is read. -/
noncomputable def ofRecords (classPath : String → Option Declared)
    (instanceOf : Declared → Ω → Prop) (answer : String → Ω → Single Ω) :
    Library Ω (List (UInt16 × Payload Ω)) where
  classPath := classPath
  instanceOf := instanceOf
  answer := answer
  visit present := present.toList
  values entries := entries.keys.toList.filterMap entries.lookup
  positions position elements := elements.mapM position
  constants constant positions := positions.mapM constant
  scaled _ _ := none
  truncated _ _ _ := none
  blank := []
  write wire tag payload := wire ++ [(tag, payload)]
  tags wire := wire.map Prod.fst
  readNumber wire tag := (wire.lookup tag).bind fun
    | .number value => some value
    | _ => none
  readBool wire tag := (wire.lookup tag).bind fun
    | .number value => some (value != 0)
    | _ => none
  readInts wire tag := (wire.lookup tag).bind fun
    | .ints values => some values
    | _ => none
  readLongs wire tag := (wire.lookup tag).bind fun
    | .longs values => some values
    | _ => none
  readFlags wire tag := (wire.lookup tag).bind fun
    | .flags values => some values
    | _ => none
  readText wire tag := (wire.lookup tag).bind fun
    | .text value => some value
    | _ => none
  readTexts wire tag := (wire.lookup tag).bind fun
    | .texts values => some values
    | _ => none
  readBlob wire tag := (wire.lookup tag).bind fun
    | .blob bytes => some bytes
    | _ => none
  readObject _ wire tag := (wire.lookup tag).bind fun
    | .object value => some value
    | _ => none
  readObjects _ wire tag := (wire.lookup tag).bind fun
    | .objects values => some values
    | _ => none
  readMap _ key wire tag := (wire.lookup tag).bind fun
    | .objects values => some (collect key values)
    | _ => none

variable (classPath : String → Option Declared) (instanceOf : Declared → Ω → Prop)
  (answer : String → Ω → Single Ω)

theorem written_ofRecords (calls : List (UInt16 × Payload Ω)) :
    (ofRecords classPath instanceOf answer).written calls = calls := by
  have append (start : List (UInt16 × Payload Ω)) :
      calls.foldl (fun wire call => wire ++ [(call.1, call.2)]) start = start ++ calls := by
    induction calls generalizing start with
    | nil => simp
    | cons call calls inductionHypothesis =>
      rw [List.foldl_cons, inductionHypothesis, List.append_assoc]
      rfl
  exact append []

omit [DecidableEq Ω] in
theorem lookup_of_mem {calls : List (UInt16 × Payload Ω)} (distinct : (calls.map Prod.fst).Nodup)
    {call : UInt16 × Payload Ω} (member : call ∈ calls) : calls.lookup call.1 = some call.2 := by
  induction calls with
  | nil => cases member
  | cons head calls inductionHypothesis =>
    rw [List.map_cons, List.nodup_cons] at distinct
    rcases List.mem_cons.mp member with rfl | member
    · exact List.lookup_cons_self
    · have apart : (call.1 == head.1) = false := by
        rw [beq_eq_false_iff_ne]
        exact fun same => distinct.1 (same ▸ List.mem_map_of_mem member)
      rw [List.lookup_cons, apart]
      exact inductionHypothesis distinct.2 member

/-- A library that keeps records can be relied on. -/
theorem lawful_ofRecords : (ofRecords classPath instanceOf answer).Lawful where
  visit_nodup present := present.nodup_toList
  mem_visit _ _ := Finset.mem_toList
  mem_values entries object := by
    change object ∈ entries.keys.toList.filterMap entries.lookup ↔ _
    rw [List.mem_filterMap]
    constructor
    · rintro ⟨key, _, found⟩
      exact ⟨key, found⟩
    · rintro ⟨key, found⟩
      refine ⟨key, ?_, found⟩
      rw [Finset.mem_toList, Finmap.mem_keys]
      exact Finmap.mem_of_lookup_eq_some found
  positions_eq _ _ := rfl
  constants_eq _ _ := rfl
  mem_tags calls _ tag := by
    rw [written_ofRecords]
    rfl
  reads calls distinct call member := by
    obtain ⟨tag, payload⟩ := call
    have found : calls.lookup tag = some payload := lookup_of_mem distinct member
    rw [written_ofRecords]
    cases payload with
    | number value =>
      refine ⟨by simp [ofRecords, found], ?_⟩
      rintro flag rfl
      cases flag <;> simp [ofRecords, found]
    | object value =>
      intro _ _
      simp [ofRecords, found]
    | objects values =>
      intro _ _
      simp [ofRecords, found]
    | _ => simp [Reads, ofRecords, found]

end Library

end Execution

end WireSchema
