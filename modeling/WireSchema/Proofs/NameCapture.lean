import WireSchema.Proofs.Bindings

/-! # What the names in methods refer to

Getters, and the method that writes an object, mention a member by its bare name.  In a method
such a name stands for a variable of the method, if there is one of that name, and for the
member only if there is none.

* `Statement.names` are the names that a statement mentions as values.
* `ValueSite` are the places where the name of a field is mentioned, and `eq_of_mentioned` says
  that there are no others.
* `valueSites_readMember_iff` says which fields can be mentioned by their bare name.
-/

namespace WireSchema.Output

/-! ## Mentioned names -/

/-- The names that an expression mentions as values, leaving out members that are qualified. -/
def Expression.names : Expression → List String
  | name id | scaled id _ | truncated _ id _ => [id]
  | isPresent _ => [presenceMember]
  | read _ => ["decoder"]

def Statement.names : Statement → List String
  | answer value | assign _ value => value.names
  | markPresent _ => [presenceMember]
  | write call => ["encoder", call.member]

/-- The statements of a body, in all its cases. -/
def Body.all : Body → List Statement
  | statements list => list
  | eachWireTag cases | eachPresentTag cases => cases.flatMap Case.statements

/-- The variables that a body declares around its statements. -/
def Body.variables : Body → List String
  | statements _ => []
  | eachWireTag _ => ["present", "i"]
  | eachPresentTag _ => ["tag"]

/-- The variables of a method, its parameters among them. -/
def Method.variables (method : Method) : List String :=
  method.parameters.map (·.name) ++ method.body.variables

/-- In a method, a name stands for the member of that name. -/
def Method.ReadsMember (method : Method) (name : String) : Prop := name ∉ method.variables

/-! ## Places where a field is mentioned -/

/-- The statements of methods that mention the member of a field by its bare name. -/
inductive ValueSite (fields : List BoundField) (bound : BoundField) : Method → Statement → Prop
  | getter : ValueSite fields bound bound.getter (.answer (.name bound.field.name))
  | fractionGetter {fixed : FixedPoint} : bound.field.fixedPoint = some fixed →
      ValueSite fields bound (bound.fractionGetter fixed)
        (.answer (.scaled bound.field.name fixed.scale))
  | encode : ValueSite fields bound (encodeMethod fields) (.write bound.binding.write)

/-- The names that the class mentions for its own purposes. -/
def ownNames : List String := ["val", "decoder", "encoder", presenceMember]

namespace ValueSite

variable {fields : List BoundField} {bound : BoundField} {method : Method}
  {statement : Statement}

/-- A place is in the class of the field. -/
theorem mem_class (site : ValueSite fields bound method statement) (name : String)
    (member : bound ∈ fields) :
    method ∈ (structClass name fields).methods ∧ statement ∈ method.body.all := by
  have accessor {method : Method} (listed : method ∈ bound.accessors) :
      method ∈ (structClass name fields).methods := mem_methods.mpr (.inl ⟨bound, member, listed⟩)
  cases site with
  | getter => exact ⟨accessor (BoundField.mem_accessors.mpr (.inl rfl)), List.mem_cons_self⟩
  | @fractionGetter fixed scaled =>
    have listed : bound.fractionGetter fixed ∈ bound.accessors :=
      BoundField.mem_accessors.mpr (.inr (.inr (.inr ⟨fixed, scaled, .inr rfl⟩)))
    exact ⟨accessor listed, List.mem_cons_self⟩
  | encode =>
    have cased : .write bound.binding.write ∈ (encodeMethod fields).body.all :=
      List.mem_flatMap.mpr ⟨bound.writeCase, List.mem_map_of_mem member, List.mem_cons_self⟩
    exact ⟨mem_methods.mpr (.inr (.inr rfl)), cased⟩

theorem mem_names (site : ValueSite fields bound method statement)
    (written : bound.binding.write.member = bound.field.name) :
    bound.field.name ∈ statement.names := by
  cases site with
  | getter | fractionGetter _ => exact List.mem_cons_self
  | encode =>
    rw [← written]
    exact List.mem_cons_of_mem _ List.mem_cons_self

/-- Only where the object is written, a variable can stand in front of the member. -/
theorem readsMember_iff (site : ValueSite fields bound method statement) :
    method.ReadsMember bound.field.name ↔
      (method = encodeMethod fields → bound.field.name ≠ "encoder" ∧ bound.field.name ≠ "tag") := by
  -- getters have no variables, and the method that writes has two
  have apart {accessor : Method} (single : accessor.parameters = []) :
      accessor ≠ encodeMethod fields := by
    rintro rfl
    cases single
  cases site with
  | getter =>
    have noVariables : bound.getter.ReadsMember bound.field.name := List.not_mem_nil
    exact iff_of_true noVariables fun same => absurd same (apart rfl)
  | @fractionGetter fixed scaled =>
    have noVariables : (bound.fractionGetter fixed).ReadsMember bound.field.name :=
      List.not_mem_nil
    exact iff_of_true noVariables fun same => absurd same (apart rfl)
  | encode =>
    have declared : (encodeMethod fields).variables = ["encoder", "tag"] := rfl
    simp [Method.ReadsMember, declared]

end ValueSite

/-! ## All mentions -/

/-- An accessor mentions its field only at the places of the field. -/
theorem eq_of_mentioned_accessor (fields : List BoundField) {bound : BoundField} {method : Method}
    {statement : Statement} {mentioned : String} (accessor : method ∈ bound.accessors)
    (stated : statement ∈ method.body.all) (named : mentioned ∈ statement.names) :
    mentioned ∈ ownNames ∨
      mentioned = bound.field.name ∧ ValueSite fields bound method statement := by
  obtain rfl | rfl | rfl | ⟨fixed, scaled, rfl | rfl⟩ := BoundField.mem_accessors.mp accessor
  · cases List.mem_singleton.mp stated
    exact .inr ⟨List.mem_singleton.mp named, .getter⟩
  · simp only [BoundField.setter, Body.all, List.mem_cons, List.not_mem_nil, or_false] at stated
    obtain rfl | rfl := stated
    · exact .inl (by simp_all [Statement.names, Expression.names, ownNames])
    · exact .inl (by simp_all [Statement.names, ownNames])
  · cases List.mem_singleton.mp stated
    exact .inl (by simp_all [Statement.names, Expression.names, ownNames])
  · simp only [BoundField.fractionSetter, Body.all, List.mem_cons, List.not_mem_nil,
      or_false] at stated
    obtain rfl | rfl := stated
    · exact .inl (by simp_all [Statement.names, Expression.names, ownNames])
    · exact .inl (by simp_all [Statement.names, ownNames])
  · cases List.mem_singleton.mp stated
    exact .inr ⟨List.mem_singleton.mp named, .fractionGetter scaled⟩

/-- Every name that a class mentions is one of its own, or the name of a field at one of the
    places of the field. -/
theorem eq_of_mentioned {name : String} {fields : List BoundField} {method : Method}
    {statement : Statement} {mentioned : String}
    (written : ∀ bound ∈ fields, bound.binding.write.member = bound.field.name)
    (listed : method ∈ (structClass name fields).methods)
    (stated : statement ∈ method.body.all) (named : mentioned ∈ statement.names) :
    mentioned ∈ ownNames ∨
      ∃ bound ∈ fields, mentioned = bound.field.name ∧
        ValueSite fields bound method statement := by
  obtain ⟨bound, member, accessor⟩ | rfl | rfl := mem_methods.mp listed
  · obtain own | site := eq_of_mentioned_accessor fields accessor stated named
    · exact .inl own
    · exact .inr ⟨bound, member, site⟩
  · obtain ⟨case, listed, stated⟩ := List.mem_flatMap.mp stated
    obtain ⟨bound, _, rfl⟩ := List.mem_map.mp listed
    simp only [BoundField.readCase, List.mem_cons, List.not_mem_nil, or_false] at stated
    obtain rfl | rfl := stated
    · exact .inl (by simp_all [Statement.names, Expression.names, ownNames])
    · exact .inl (by simp_all [Statement.names, ownNames])
  · obtain ⟨case, listed, stated⟩ := List.mem_flatMap.mp stated
    obtain ⟨bound, member, rfl⟩ := List.mem_map.mp listed
    cases List.mem_singleton.mp stated
    simp only [Statement.names, List.mem_cons, List.not_mem_nil, or_false] at named
    obtain rfl | rfl := named
    · exact .inl (by simp [ownNames])
    · exact .inr ⟨bound, member, written bound member, .encode⟩

end WireSchema.Output

namespace WireSchema

open Output

/-- In the class of a struct, the places that mention a field by its bare name are the value of
    its getter, the value of its fraction's getter, and the call that writes it.  All of them
    mean the member exactly if the field is named neither `encoder` nor `tag`. -/
theorem valueSites_readMember_iff {scope : Scope} {viewpoint : String} {struct : StructDecl}
    {decl : ClassDecl} (generated : (scope.classOf viewpoint struct).outcome = .ok decl) :
    ∃ fields : List BoundField, fields.map (·.field) = struct.fields ∧
      (∀ method ∈ decl.methods, ∀ statement ∈ method.body.all, ∀ name ∈ statement.names,
        name ∈ ownNames ∨
          ∃ bound ∈ fields, name = bound.field.name ∧ ValueSite fields bound method statement) ∧
      ∀ bound ∈ fields, bound.member ∈ decl.members ∧
        (∀ method statement, ValueSite fields bound method statement →
          method ∈ decl.methods ∧ statement ∈ method.body.all ∧
            bound.field.name ∈ statement.names) ∧
        ((∀ method statement, ValueSite fields bound method statement →
            method.ReadsMember bound.field.name) ↔
          bound.field.name ≠ "encoder" ∧ bound.field.name ≠ "tag") := by
  obtain ⟨fields, declared, admitted, rfl⟩ := Scope.classOf_outcome_ok.mp generated
  have written : ∀ bound ∈ fields, bound.binding.write.member = bound.field.name :=
    fun bound member => (admitted bound member).binds.write_eq.2
  refine ⟨fields, declared, ?_, fun bound member => ⟨?_, ?_, ?_⟩⟩
  · intro method listed statement stated name named
    exact eq_of_mentioned written listed stated named
  · exact List.mem_cons_of_mem _ (List.mem_map_of_mem member)
  · intro method statement site
    obtain ⟨listed, stated⟩ := site.mem_class struct.name member
    exact ⟨listed, stated, site.mem_names (written bound member)⟩
  · constructor
    · intro readsMember
      have site : ValueSite fields bound _ _ := .encode
      exact site.readsMember_iff.mp (readsMember _ _ site) rfl
    · intro free method statement site
      exact site.readsMember_iff.mpr fun _ => free

/-- A struct with a number that is named like the variable of the loop over its tags. -/
def Sample.tagged : StructDecl := ⟨"Tagged", [.scalar "tag" 7 .int32], .blank⟩

/-- The number is mentioned in the loop over the tags, and not meant there. -/
theorem valueSites_readMember_tagged :
    ∃ decl, ((Scope.global [] "javaPackage").classOf "game" Sample.tagged).outcome = .ok decl ∧
      ∃ method ∈ decl.methods, ∃ statement ∈ method.body.all,
        "tag" ∈ statement.names ∧ "tag" ∉ ownNames ∧ ¬ method.ReadsMember "tag" := by
  obtain ⟨decl, generated⟩ : ∃ decl,
      ((Scope.global [] "javaPackage").classOf "game" Sample.tagged).outcome = .ok decl :=
    ⟨_, rfl⟩
  obtain ⟨fields, declared, _, sites⟩ := valueSites_readMember_iff generated
  obtain ⟨bound, rfl⟩ : ∃ bound, fields = [bound] := by
    rw [← List.length_eq_one_iff, ← List.length_map (·.field), declared]
    rfl
  have named : bound.field.name = "tag" := congrArg Field.name (List.cons.inj declared).1
  obtain ⟨_, mentions, meant⟩ := sites bound List.mem_cons_self
  have captured := mt meant.mp fun free => free.2 named
  simp only [not_forall] at captured
  obtain ⟨method, statement, site, captured⟩ := captured
  obtain ⟨listed, stated, mentioned⟩ := mentions method statement site
  rw [named] at mentioned captured
  exact ⟨decl, generated, method, listed, statement, stated, mentioned, by decide, captured⟩

end WireSchema
