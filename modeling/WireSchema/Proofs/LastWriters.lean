import WireSchema.Proofs.Denotation
import WireSchema.Proofs.Runs

/-! # What remains of a run

A run writes the file of every type, also where it has written another type's file before.  At the
end, a place holds what was written to it last.

* `IsLast` — an element is the last of a list with a property.
* `WritesAll.exists_last` — a place that is written to holds the file of its last writer.
* `generate_keeps_last` — what the paths of a report lead to when the run is over.
-/

namespace WireSchema

/-! ## Last elements -/

/-- `x` is the last element of `xs` with the property `p`. -/
def IsLast {α : Type} (p : α → Prop) (xs : List α) (x : α) : Prop :=
  p x ∧ ∃ before after, xs = before ++ x :: after ∧ ∀ y ∈ after, ¬ p y

namespace IsLast

variable {α : Type} {p : α → Prop} {xs later : List α} {x y : α}

theorem head (holds : p x) (none : ∀ y ∈ xs, ¬ p y) : IsLast p (x :: xs) x :=
  ⟨holds, [], xs, rfl, none⟩

theorem cons (last : IsLast p xs x) : IsLast p (y :: xs) x := by
  obtain ⟨holds, before, after, split, none⟩ := last
  exact ⟨holds, y :: before, after, by rw [split, List.cons_append], none⟩

/-- An element that no other one with the property follows is the last one. -/
theorem eq_of_later (last : IsLast p (xs ++ y :: later) x) (holds : p y)
    (none : ∀ z ∈ later, ¬ p z) : x = y := by
  induction xs with
  | nil =>
    obtain ⟨here, before, after, split, _⟩ := last
    cases before with
    | nil => exact (List.cons.inj split).1.symm
    | cons head before =>
      have follows : x ∈ later := by
        rw [(List.cons.inj split).2]
        exact List.mem_append_right _ List.mem_cons_self
      exact absurd here (none x follows)
  | cons head xs inductionHypothesis =>
    obtain ⟨here, before, after, split, rest⟩ := last
    cases before with
    | nil =>
      have follows : y ∈ after := by
        rw [← (List.cons.inj split).2]
        exact List.mem_append_right _ List.mem_cons_self
      exact absurd holds (rest y follows)
    | cons other before =>
      exact inductionHypothesis ⟨here, before, after, (List.cons.inj split).2, rest⟩

end IsLast

/-! ## Places -/

variable {modules : List Module} {config : Config} {types : List Declared}
  {before after tree : FileTree} {files : List WrittenFile} {written : WrittenFile}

/-- A written file leads to a place. -/
theorem WritesAll.exists_place (writes : WritesAll modules config types files before after)
    (member : written ∈ files) :
    Path.endsInSlash written.path = false ∧ ∃ place, after.locate written.path = .ok place := by
  induction writes with
  | nil => cases member
  | @cons _ _ head _ _ between _ wrote rest inductionHypothesis =>
    rcases List.mem_cons.mp member with rfl | member
    · obtain ⟨noSlash, place, located, _⟩ := wrote.saved.exists_place
      exact ⟨noSlash, place, rest.changes.locate located⟩
    · exact inductionHypothesis member

/-- A place that is written to holds the file that was written to it last. -/
theorem WritesAll.exists_last {place : Location}
    (writes : WritesAll modules config types files before after) (member : written ∈ files)
    (located : after.locate written.path = .ok place) :
    ∃ last, IsLast (fun other => after.locate other.path = .ok place) files last ∧
      after.find? place = some (.file last.contents) := by
  induction writes generalizing written with
  | nil => cases member
  | @cons _ _ head tail _ between after wrote rest inductionHypothesis =>
    by_cases again : ∃ other ∈ tail, after.locate other.path = .ok place
    · obtain ⟨other, listed, same⟩ := again
      obtain ⟨last, isLast, there⟩ := inductionHypothesis listed same
      exact ⟨last, isLast.cons, there⟩
    · -- nothing is written there after the first file, which is the one that leads there
      have none : ∀ other ∈ tail, ¬ after.locate other.path = .ok place :=
        fun other listed same => again ⟨other, listed, same⟩
      have here : written = head :=
        (List.mem_cons.mp member).resolve_right fun listed => none written listed located
      subst here
      obtain ⟨_, own, ownLocated, there⟩ := wrote.saved.exists_place
      have same : place = own :=
        Except.ok.inj (located.symm.trans (rest.changes.locate ownLocated))
      subst same
      refine ⟨written, .head located none, rest.changes.file there ?_⟩
      rintro ⟨other, listed, again⟩
      exact none other listed again

/-! ## Runs -/

/-- After a run that succeeds, the path of every type leads to the source of the last type of the
    run whose path leads to the same place: to its own source, unless a later type was written
    there. -/
theorem generate_keeps_last {events : List Event} {report : Report}
    (finished : (generate modules config).run tree = ⟨after, events, .ok report⟩) :
    ∃ files : List WrittenFile, report = files.map WrittenFile.path ∧
      ∀ (position : Nat) declared, (Declared.all modules)[position]? = some declared →
        ∃ written place last, files[position]? = some written ∧
          RendersTo modules config declared.home declared.declaration written.file ∧
          after.locate written.path = .ok place ∧
          IsLast (fun other => after.locate other.path = .ok place) files last ∧
          after.readFile written.path = .ok last.contents ∧
          ((∀ other ∈ files.drop (position + 1), after.locate other.path ≠ .ok place) →
            last = written) := by
  have ends := ends_generate modules config tree
  rw [finished] at ends
  cases ends with
  | @finished files _ _ writes _ =>
    refine ⟨files, rfl, fun position declared there => ?_⟩
    obtain ⟨written, listed, renders⟩ := exists_getElem?_of_forall₂ writes.rendered.flip there
    obtain ⟨noSlash, place, located⟩ := writes.exists_place (List.mem_of_getElem? listed)
    obtain ⟨last, isLast, held⟩ := writes.exists_last (List.mem_of_getElem? listed) located
    refine ⟨written, place, last, listed, renders, located, isLast,
      FileTree.readFile_of_find? noSlash located held, fun none => ?_⟩
    obtain ⟨inside, rfl⟩ := List.getElem?_eq_some_iff.mp listed
    have split : files = files.take position ++ files[position] :: files.drop (position + 1) := by
      rw [← List.drop_eq_getElem_cons inside, List.take_append_drop]
    rw [split] at isLast
    exact isLast.eq_of_later located none

namespace Sample

/-- The depot declares a struct and an enum of one name, and both are written to one path. -/
theorem generate_depot : ((generate [depot] .default).run (.empty [])).outcome =
    .ok ["./depot/Crate.java", "./depot/Crate.java"] := by decide +kernel

end Sample

open Sample in
/-- The path of the struct leads to the source of the last type that was written there. -/
theorem generate_keeps_last_depot :
    ∃ (after : FileTree) (events : List Event) (files : List WrittenFile),
      (generate [depot] .default).run (.empty []) =
        ⟨after, events, .ok (files.map WrittenFile.path)⟩ ∧
      (Declared.all [depot])[0]? = some ⟨depot, .struct (.empty "Crate")⟩ ∧
      ∃ written place last, files[0]? = some written ∧ written.path = "./depot/Crate.java" ∧
        RendersTo [depot] .default depot (.struct (.empty "Crate")) written.file ∧
        after.locate written.path = .ok place ∧
        IsLast (fun other => after.locate other.path = .ok place) files last ∧
        after.readFile written.path = .ok last.contents := by
  have outcome := generate_depot
  rcases ran : (generate [depot] .default).run (.empty []) with ⟨after, events, ended⟩
  rw [ran] at outcome
  dsimp only at outcome
  subst outcome
  have first : (Declared.all [depot])[0]? = some ⟨depot, .struct (.empty "Crate")⟩ := rfl
  obtain ⟨files, paths, kept⟩ := generate_keeps_last ran
  obtain ⟨written, place, last, listed, renders, located, isLast, held, _⟩ := kept 0 _ first
  have path : some written.path = some "./depot/Crate.java" := by
    rw [← Option.map_some, ← listed, ← List.getElem?_map, ← paths]
    rfl
  exact ⟨after, events, files, by rw [paths], first, written, place, last, listed,
    Option.some.inj path, renders, located, isLast, held⟩

open Sample in
/-- The struct of the depot is rendered and written, and its path leads to something else. -/
theorem generate_overwrites_crate :
    ((generate [depot] .default).run (.empty [])).outcome =
        .ok ["./depot/Crate.java", "./depot/Crate.java"] ∧
      (Declared.all [depot])[0]? = some ⟨depot, .struct (.empty "Crate")⟩ ∧
      ∃ file, RendersTo [depot] .default depot (.struct (.empty "Crate")) file ∧
        ((generate [depot] .default).run (.empty [])).tree.readFile "./depot/Crate.java" ≠
          .ok file.contents.toUTF8 :=
  ⟨generate_depot, rfl, _, rfl, by decide +kernel⟩

end WireSchema
