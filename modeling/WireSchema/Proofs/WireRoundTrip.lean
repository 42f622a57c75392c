import WireSchema.Proofs.ClassNames
import WireSchema.Proofs.MemberTransfer
import WireSchema.Proofs.WireMethods

/-! # Objects across the wire

What an instance of a generated class writes about itself, a fresh instance reads back.

* `exists_calls` — the visits to present tags make one call for every tag.
* `exists_restored` — the rounds over the tags on the wire restore one member for every tag.
* `decode_encode` — the round trip.
-/

namespace WireSchema

open Output Execution

variable {Ω W : Type} [DecidableEq Ω] {library : Library Ω W} {scope : Scope} {viewpoint : String}
  {name : String} {fields : List BoundField} {source : Instance Ω}

/-! ## Writing all members -/

/-- A call wrote what a field reads back as the member of an object. -/
def Recorded (library : Library Ω W) (fields : List BoundField) (source : Instance Ω)
    (call : UInt16 × Payload Ω) : Prop :=
  ∃ bound ∈ fields, bound.field.tag = call.1 ∧ ∀ wire, library.Reads wire call.1 call.2 →
    bound.binding.read.run library wire call.1 = some (source.members bound.field.name)

/-- The visits to the tags of an object make one call for every tag. -/
theorem exists_calls {tags : List UInt16} (distinct : (fields.map (·.field.tag)).Nodup)
    (free : ∀ bound ∈ fields, bound.field.name ∉ ["tag", "encoder", presenceMember])
    (written : ∀ bound ∈ fields, bound.binding.write.tag = bound.field.tag ∧
      bound.binding.write.member = bound.field.name)
    (restores : ∀ tag ∈ tags, ∃ bound ∈ fields, bound.field.tag = tag ∧
      bound.binding.Restores library tag (source.members bound.field.name)) (output : W) :
    ∃ calls : List (UInt16 × Payload Ω), calls.map Prod.fst = tags ∧
      (∀ call ∈ calls, Recorded library fields source call) ∧
      tags.foldlM (fun state tag =>
        runCase ((encodeFrame library (structClass name fields)).atPresentTag tag)
          (fields.map BoundField.writeCase) tag state) ⟨source, output⟩ =
        some ⟨source, calls.foldl (fun wire call => library.write wire call.1 call.2) output⟩ := by
  -- visits do not change the object, so the induction needs only the output to be general
  induction tags generalizing output with
  | nil => exact ⟨[], rfl, by simp, rfl⟩
  | cons tag tags inductionHypothesis =>
    obtain ⟨bound, member, rfl, payload, paid, back⟩ := restores _ List.mem_cons_self
    obtain ⟨calls, listed, recorded, run⟩ := inductionHypothesis
      (fun tag later => restores tag (List.mem_cons_of_mem _ later))
      (library.write output bound.field.tag payload)
    refine ⟨(bound.field.tag, payload) :: calls, ?_, ?_, ?_⟩
    · rw [List.map_cons, listed]
    · exact List.forall_mem_cons.mpr ⟨⟨bound, member, rfl, back⟩, recorded⟩
    · rw [List.foldlM_cons, runCase_write distinct member (free bound member)
        (written bound member) paid]
      exact run

/-- An object writes one call for every present tag. -/
theorem exists_written (lawful : library.Lawful) (distinct : (fields.map (·.field.tag)).Nodup)
    (free : ∀ bound ∈ fields, bound.field.name ∉ ["tag", "encoder", presenceMember])
    (written : ∀ bound ∈ fields, bound.binding.write.tag = bound.field.tag ∧
      bound.binding.write.member = bound.field.name)
    (restores : ∀ tag ∈ source.present, ∃ bound ∈ fields, bound.field.tag = tag ∧
      bound.binding.Restores library tag (source.members bound.field.name)) :
    ∃ calls : List (UInt16 × Payload Ω), (calls.map Prod.fst).Nodup ∧
      (∀ tag, tag ∈ calls.map Prod.fst ↔ tag ∈ source.present) ∧
      (∀ call ∈ calls, Recorded library fields source call) ∧
      (structClass name fields).encode library source = some (library.written calls) := by
  obtain ⟨calls, called, recorded, run⟩ := exists_calls distinct free written
    (fun tag visited => restores tag ((lawful.mem_visit _ _).mp visited)) library.blank
  refine ⟨calls, ?_, fun tag => ?_, recorded, ?_⟩
  · rw [called]
    exact lawful.visit_nodup _
  · rw [called]
    exact lawful.mem_visit _ _
  · rw [encode_eq, run]
    rfl

/-! ## Reading all members -/

/-- What `out` is, after `start` has read some tags of what `source` wrote. -/
structure Restored (fields : List BoundField) (source start out : Instance Ω)
    (tags : List UInt16) : Prop where
  present : out.present = start.present ∪ tags.toFinset
  read : ∀ bound ∈ fields, bound.field.tag ∈ tags →
    out.members bound.field.name = source.members bound.field.name
  kept : ∀ bound ∈ fields, bound.field.tag ∉ tags →
    out.members bound.field.name = start.members bound.field.name

omit [DecidableEq Ω] in
theorem Restored.cons {bound : BoundField} {start out : Instance Ω} {tags : List UInt16}
    (distinct : (fields.map (·.field.tag)).Nodup) (named : (fields.map (·.field.name)).Nodup)
    (member : bound ∈ fields)
    (rest : Restored fields source
      ((start.assign bound.field.name (source.members bound.field.name)).mark bound.field.tag) out
      tags) :
    Restored fields source start out (bound.field.tag :: tags) where
  present := by
    rw [rest.present, List.toFinset_cons]
    change insert bound.field.tag start.present ∪ tags.toFinset = _
    rw [Finset.insert_union, Finset.union_insert]
  read := by
    intro other listed tagged
    -- a tag that comes again is restored by its later round
    by_cases later : other.field.tag ∈ tags
    · exact rest.read other listed later
    · have same : other.field.tag = bound.field.tag :=
        (List.mem_cons.mp tagged).resolve_right later
      cases List.inj_on_of_nodup_map distinct listed member same
      rw [rest.kept bound member later]
      exact if_pos rfl
  kept := by
    intro other listed untagged
    rw [List.mem_cons, not_or] at untagged
    have apart : other.field.name ≠ bound.field.name := by
      intro same
      cases List.inj_on_of_nodup_map named listed member same
      exact untagged.1 rfl
    rw [rest.kept other listed untagged.2]
    exact if_neg apart

omit [DecidableEq Ω] in
/-- The rounds of the loop restore the member of every tag. -/
theorem exists_restored {tags all : List UInt16} {output wire : W}
    (distinct : (fields.map (·.field.tag)).Nodup) (named : (fields.map (·.field.name)).Nodup)
    (readable : ∀ tag ∈ tags, ∃ bound ∈ fields, bound.field.tag = tag ∧
      bound.binding.read.run library wire tag = some (source.members bound.field.name))
    (round : Nat) (start : Instance Ω) :
    ∃ out, (tags.zipIdx round).foldlM (fun state step =>
        runCase ((decodeFrame library (structClass name fields) wire).atWireTag all step.1 step.2)
          (fields.map BoundField.readCase) step.1 state) ⟨start, output⟩ = some ⟨out, output⟩ ∧
      Restored fields source start out tags := by
  -- `Restored` compares the end with the start of the rounds that remain
  induction tags generalizing round start with
  | nil => exact ⟨start, rfl, by simp, by simp, fun _ _ _ => rfl⟩
  | cons tag tags inductionHypothesis =>
    obtain ⟨bound, member, rfl, found⟩ := readable _ List.mem_cons_self
    obtain ⟨out, run, rest⟩ := inductionHypothesis
      (fun tag later => readable tag (List.mem_cons_of_mem _ later)) (round + 1)
      ((start.assign bound.field.name (source.members bound.field.name)).mark bound.field.tag)
    refine ⟨out, ?_, rest.cons distinct named member⟩
    rw [List.zipIdx_cons, List.foldlM_cons, runCase_read distinct member found]
    exact run

/-- An object that reads recorded calls has the members of their tags restored. -/
theorem exists_decoded (lawful : library.Lawful) {calls : List (UInt16 × Payload Ω)}
    (distinct : (fields.map (·.field.tag)).Nodup) (named : (fields.map (·.field.name)).Nodup)
    (called : (calls.map Prod.fst).Nodup)
    (recorded : ∀ call ∈ calls, Recorded library fields source call) (start : Instance Ω) :
    ∃ out, (structClass name fields).decode library start (library.written calls) = some out ∧
      Restored fields source start out (library.tags (library.written calls)) := by
  have readable : ∀ tag ∈ library.tags (library.written calls), ∃ bound ∈ fields,
      bound.field.tag = tag ∧ bound.binding.read.run library (library.written calls) tag =
        some (source.members bound.field.name) := by
    intro tag listed
    rw [lawful.mem_tags calls called] at listed
    obtain ⟨call, member, rfl⟩ := List.mem_map.mp listed
    obtain ⟨bound, listed, same, back⟩ := recorded call member
    exact ⟨bound, listed, same, back _ (lawful.reads calls called call member)⟩
  obtain ⟨out, loop, restored⟩ := exists_restored distinct named readable 0 start
  refine ⟨out, ?_, restored⟩
  rw [decode_eq, loop]
  rfl

/-! ## The round trip -/

/-- What an instance of a struct's class writes about itself, a fresh instance reads back: the
    same tags are present, and the members of present tags hold the same values.  Tags and names
    have to be distinct, no member may be named like a variable around its name, references have
    to lead to declarations of their fields' kinds, and every present member has to hold a value
    of its type, the objects of a map under their own keys. -/
theorem decode_encode {struct : StructDecl} {decl : ClassDecl} (lawful : library.Lawful)
    (generated : (scope.classOf viewpoint struct).outcome = .ok decl)
    (distinctTags : (struct.fields.map (·.tag)).Nodup)
    (distinctNames : (struct.fields.map (·.name)).Nodup)
    (free : ∀ field ∈ struct.fields, field.name ∉ ["tag", "encoder", presenceMember])
    (leads : ∀ field ∈ struct.fields, scope.Leads field)
    (compiled : ∀ field ∈ struct.fields, scope.Compiled viewpoint library field)
    (source : Instance Ω) (present : ∀ tag ∈ source.present, tag ∈ struct.fields.map (·.tag))
    (fits : ∀ field ∈ struct.fields, field.tag ∈ source.present → ∀ member ∈ decl.members,
      member.name = field.name → library.Fits member.type (source.members field.name))
    (stored : ∀ field ∈ struct.fields, field.tag ∈ source.present →
      scope.StoredByKey library field (source.members field.name)) :
    ∃ wire out, decl.encode library source = some wire ∧
      decl.decode library decl.fresh wire = some out ∧ out.present = source.present ∧
      ∀ field ∈ struct.fields, field.tag ∈ source.present →
        out.members field.name = source.members field.name := by
  obtain ⟨fields, declared, admitted, rfl⟩ := Scope.classOf_outcome_ok.mp generated
  have ofField {field : Field} (member : field ∈ struct.fields) :
      ∃ bound ∈ fields, bound.field = field := by
    rwa [← declared, List.mem_map] at member
  have toField {bound : BoundField} (member : bound ∈ fields) : bound.field ∈ struct.fields := by
    rw [← declared]
    exact List.mem_map_of_mem member
  have tags : (fields.map (·.field.tag)).Nodup := by
    rwa [← declared, List.map_map] at distinctTags
  have names : (fields.map (·.field.name)).Nodup := by
    rwa [← declared, List.map_map] at distinctNames
  -- every present tag belongs to a field, and whatever its binding, the field is restored
  have restores : ∀ tag ∈ source.present, ∃ bound ∈ fields, bound.field.tag = tag ∧
      bound.binding.Restores library tag (source.members bound.field.name) := by
    intro tag marked
    obtain ⟨field, member, rfl⟩ := List.mem_map.mp (present tag marked)
    obtain ⟨bound, listed, rfl⟩ := ofField member
    have links := (leads _ member).links (compiled _ member)
    refine ⟨bound, listed, rfl, (admitted bound listed).binds.restores lawful links ?_
      (stored _ member marked)⟩
    exact fits _ member marked bound.member
      (List.mem_cons_of_mem _ (List.mem_map_of_mem listed)) rfl
  obtain ⟨calls, called, callTags, recorded, encoded⟩ := exists_written lawful tags
    (fun bound member => free _ (toField member))
    (fun bound member => (admitted bound member).binds.write_eq) restores
  obtain ⟨out, decoded, restored⟩ := exists_decoded lawful tags names called recorded
    (structClass struct.name fields).fresh
  have onWire (tag : UInt16) :
      tag ∈ library.tags (library.written calls) ↔ tag ∈ source.present := by
    rw [lawful.mem_tags calls called, callTags]
  refine ⟨library.written calls, out, encoded, decoded, ?_, ?_⟩
  · -- a fresh instance has no tags, so all present tags come from the wire
    rw [restored.present]
    ext tag
    rw [Finset.mem_union, List.mem_toFinset, onWire]
    simp [ClassDecl.fresh]
  · intro field member marked
    obtain ⟨bound, listed, rfl⟩ := ofField member
    exact restored.read bound listed ((onWire _).mpr marked)

namespace Sample

/-- A crate counts its items, and keeps colors and items by their color. -/
def crateStruct : StructDecl :=
  ⟨"Crate", [.scalar "count" 1 .int32, (Field.enumRef "colors" 2 "Color").asRepeated,
    (Field.structRef "items" 3 "Item").keyedBy "color"], .blank⟩

def crate : Module := ⟨"crate.sp", "crate", [crateStruct], []⟩

def colorType : Declared := ⟨item, .enum (.ofMembers "Color" ["Green"])⟩

def itemType : Declared := ⟨item, .struct ⟨"Item", [.enumRef "color" 1 "Color"], .blank⟩⟩

def green : Single Unit := .constant colorType "Green"

def classPath (name : String) : Option Declared :=
  [("item.Color", colorType), ("item.Item", itemType)].lookup name

/-- A library that keeps records and knows one item, which is green. -/
noncomputable def crateLibrary : Library Unit (List (UInt16 × Payload Unit)) :=
  .ofRecords classPath (fun _ _ => True) fun _ _ => green

def oneItem : ObjectMap Unit := Finmap.singleton green ()

/-- A crate with a color and an item, and without a count. -/
def fullCrate : Instance Unit where
  present := {2, 3}
  members name :=
    if name = "colors" then .list [green]
    else if name = "items" then .map oneItem
    else .single .null

def crateClass : ClassDecl :=
  structClass "Crate"
    [⟨.scalar "count" 1 .int32,
      .of (.scalar "count" 1 .int32) .int (.narrowNumber 1) .number .itself⟩,
     ⟨(Field.enumRef "colors" 2 "Color").asRepeated,
      .of (Field.enumRef "colors" 2 "Color").asRepeated (.list (.named "item.Color"))
        (.enumMembers "item.Color") .numbers (.ordinals "item.Color")⟩,
     ⟨(Field.structRef "items" 3 "Item").keyedBy "color",
      .of ((Field.structRef "items" 3 "Item").keyedBy "color")
        (.map (.named "item.Color") (.named "item.Item"))
        (.objectMap "item.Item" "getColor") .objects .values⟩]

theorem holds_green : crateLibrary.Holds "item.Color" green :=
  .constant (show crateLibrary.enum? "item.Color" = some (colorType, ⟨"Color", ["Green"]⟩) from rfl)
    (show _ = some 0 from rfl) (by decide)

theorem eq_green_of_lookup {key : Single Unit} {object : Unit}
    (found : oneItem.lookup key = some object) : key = green := by
  by_contra other
  have absent : key ∉ oneItem := by rwa [oneItem, Finmap.mem_singleton]
  rw [Finmap.lookup_eq_none.mpr absent] at found
  cases found

theorem fullCrate_fits {field : Field} {member : Member} (listed : field ∈ crateStruct.fields)
    (marked : field.tag ∈ fullCrate.present) (declared : member ∈ crateClass.members)
    (named : member.name = field.name) :
    crateLibrary.Fits member.type (fullCrate.members field.name) := by
  have cases : ∀ field ∈ crateStruct.fields, ∀ member ∈ crateClass.members,
      field.tag ∈ fullCrate.present → member.name = field.name →
        (field.name = "colors" ∧ member.type = .list (.named "item.Color")) ∨
        (field.name = "items" ∧
          member.type = .map (.named "item.Color") (.named "item.Item")) := by decide
  obtain ⟨name, type⟩ | ⟨name, type⟩ := cases field listed member declared marked named
  · rw [name, type]
    refine .list fun element listed => ?_
    cases List.mem_singleton.mp listed
    exact holds_green
  · rw [name, type]
    refine .map (fun key object found => ?_) (fun key object _ => ?_)
    · rw [eq_green_of_lookup found]
      exact .named holds_green
    · exact .object (show crateLibrary.struct? "item.Item" = some itemType from rfl) trivial

end Sample

open Sample in
/-- A crate with a list of constants and with a map comes back with both, and without a count. -/
theorem decode_encode_crate :
    ((Scope.ofModule [crate, item] .default crate).classOf "crate" crateStruct).outcome =
      .ok crateClass ∧
    ∃ wire out, crateClass.encode crateLibrary fullCrate = some wire ∧
      crateClass.decode crateLibrary crateClass.fresh wire = some out ∧
      out.present = fullCrate.present ∧
      ∀ field ∈ crateStruct.fields, field.tag ∈ fullCrate.present →
        out.members field.name = fullCrate.members field.name := by
  have generated : ((Scope.ofModule [crate, item] .default crate).classOf "crate"
      crateStruct).outcome = .ok crateClass := rfl
  have leads : ∀ field ∈ crateStruct.fields,
      (Scope.ofModule [crate, item] .default crate).Leads field := by
    intro field listed ref reference target
    have resolved : ∀ field ∈ crateStruct.fields, field.kind.isReference → ∀ ref ∈ field.target,
        ∃ declared ∈ [colorType, itemType],
          (Scope.ofModule [crate, item] .default crate).resolve ref = some declared ∧
            declared.declaration.kind = field.kind := by decide
    obtain ⟨declared, _, found⟩ := resolved field listed reference ref target
    exact ⟨declared, found⟩
  have compiled : ∀ field ∈ crateStruct.fields,
      (Scope.ofModule [crate, item] .default crate).Compiled "crate" crateLibrary field := by
    intro field listed ref declared target resolved
    have found : ∀ field ∈ crateStruct.fields, ∀ ref ∈ field.target,
        ∀ declared ∈ (Scope.ofModule [crate, item] .default crate).resolve ref,
          classPath ((Scope.ofModule [crate, item] .default crate).nameOf "crate" ref) =
            some declared := by decide
    exact ⟨declared, found field listed ref target declared resolved, rfl⟩
  have present : ∀ tag ∈ fullCrate.present, tag ∈ crateStruct.fields.map (·.tag) := by
    intro tag marked
    simp only [fullCrate, Finset.mem_insert, Finset.mem_singleton] at marked
    obtain rfl | rfl := marked <;> decide
  refine ⟨generated, ?_⟩
  refine decode_encode (Library.lawful_ofRecords _ _ _) generated (by decide) (by decide)
    (by decide) leads compiled fullCrate present ?_ ?_
  · intro field listed marked member declared named
    exact fullCrate_fits listed marked declared named
  · intro field listed marked key entries _ value under object found
    have cases : ∀ field ∈ crateStruct.fields, field.tag ∈ fullCrate.present →
        field.name = "colors" ∨ field.name = "items" := by decide
    obtain name | name := cases field listed marked
    · rw [name] at value
      cases value
    · rw [name] at value
      cases value
      exact (eq_green_of_lookup found).symm

end WireSchema
