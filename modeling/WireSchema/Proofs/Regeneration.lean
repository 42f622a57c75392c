import WireSchema.Proofs.LastWriters
import WireSchema.Proofs.RepeatedWrites

/-! # Running again

A run that is repeated on the tree it has left behind writes the same files in the same order, and
where several types are written to one place, the last one is written last again.

* `Writes.unique`, `Writes.not_fails` — a declaration is written in one way, or it fails.
* `Ends.of_writesAll` — a run whose declarations can all be written has no other end.
* `WritesAll.again` — what has been written can be written again, over itself.
* `generate_again` — a second run gives the same report and the same tree.
-/

namespace WireSchema

/-! ## Runs that go the same way -/

variable {modules : List Module} {config : Config} {declared next : Declared}
  {types done later : List Declared} {written : WrittenFile} {files others : List WrittenFile}
  {before after other settled tree : FileTree} {events : List Event} {e : GenerateError}

theorem Writes.unique {written' : WrittenFile}
    (writes : Writes modules config declared written before after)
    (writes' : Writes modules config declared written' before other) :
    written = written' ∧ after = other := by
  obtain ⟨path, file⟩ := written
  obtain ⟨path', file'⟩ := written'
  have sameFile : file = file' := Except.ok.inj (writes.rendered.symm.trans writes'.rendered)
  have samePath : path = path' := Except.ok.inj (writes.placed.symm.trans writes'.placed)
  subst sameFile samePath
  exact ⟨rfl, writes.saved.unique writes'.saved⟩

/-- A declaration that is written does not fail. -/
theorem Writes.not_fails (writes : Writes modules config declared written before after) :
    ¬ Fails modules config declared before e other := by
  intro fails
  obtain ⟨made, around, saved⟩ := writes.saved
  cases fails with
  | rendering refused =>
    rw [writes.rendered] at refused
    cases refused
  | emitting rendered fails =>
    obtain rfl := Except.ok.inj (writes.rendered.symm.trans rendered)
    have placed : outputPath config.outDir config.extension written.file.placement
        written.file.typeName = .ok written.path := by
      rw [rendered.labels.1, rendered.labels.2]
      exact writes.placed
    cases fails with
    | placing refused =>
      rw [placed] at refused
      cases refused
    | makingDirectories placed' parent refused =>
      obtain rfl := Except.ok.inj (placed.symm.trans placed')
      unfold FileTree.MakesAround at around
      rw [parent] at around
      cases around.symm.trans refused
    | writing placed' around' refused =>
      obtain rfl := Except.ok.inj (placed.symm.trans placed')
      rw [← around.unique around'] at refused
      cases saved.symm.trans refused

theorem WritesAll.unique (writes : WritesAll modules config types files before after)
    (writes' : WritesAll modules config types others before other) :
    files = others ∧ after = other := by
  induction writes generalizing others with
  | nil =>
    cases writes'
    exact ⟨rfl, rfl⟩
  | cons first _ inductionHypothesis =>
    cases writes' with
    | cons first' rest' =>
      obtain ⟨rfl, rfl⟩ := first.unique first'
      obtain ⟨rfl, rfl⟩ := inductionHypothesis rest'
      exact ⟨rfl, rfl⟩

/-- Of declarations that are written, the ones after a first part are written after it. -/
theorem WritesAll.split (writes : WritesAll modules config (done ++ later) files before after) :
    ∃ first rest between, WritesAll modules config done first before between ∧
      WritesAll modules config later rest between after ∧ files = first ++ rest := by
  induction done generalizing files before with
  | nil => exact ⟨[], files, before, .nil, writes, rfl⟩
  | cons declared done inductionHypothesis =>
    cases writes with
    | cons head tail =>
      obtain ⟨first, rest, between, doneWrites, laterWrites, rfl⟩ := inductionHypothesis tail
      exact ⟨_ :: first, rest, between, .cons head doneWrites, laterWrites, rfl⟩

/-- A walk through declarations that can be written ends with all of them written. -/
theorem Ends.of_writesAll {run : FileProgram.Run GenerateError Report}
    (ends : Ends modules config types before run)
    (writes : WritesAll modules config types files before after) :
    ∃ events, run = ⟨after, events, .ok (files.map WrittenFile.path)⟩ ∧
      events.filterMap Event.written? = files.map WrittenFile.entry := by
  cases ends with
  | finished writes' logged =>
    obtain ⟨rfl, rfl⟩ := writes.unique writes'
    exact ⟨_, rfl, logged⟩
  | stopped split doneWrites fails _ =>
    subst split
    obtain ⟨_, _, _, doneWrites', laterWrites, _⟩ := writes.split
    obtain ⟨_, rfl⟩ := doneWrites.unique doneWrites'
    cases laterWrites with
    | cons head _ => exact absurd fails head.not_fails

/-- The places that files have been written to. -/
def FileTree.Targets (tree : FileTree) (files : List WrittenFile) (place : Location) : Prop :=
  ∃ written ∈ files, tree.locate written.path = .ok place

/-- What has been written in one tree is written in the same way over what it has left behind, and
    over every tree in which some of its files have been written over. -/
theorem WritesAll.again (writes : WritesAll modules config types files before settled)
    (rewritten : settled.Rewritten (settled.Targets files) tree) :
    WritesAll modules config types files tree settled := by
  induction writes generalizing tree with
  | @nil settled =>
    have none : ∀ place, ¬ settled.Targets [] place := by simp [FileTree.Targets]
    rw [rewritten.eq_settled none]
    exact .nil
  | @cons declared types written files before between settled wrote rest inductionHypothesis =>
    have onward : between.Changes tree (fun _ => True) :=
      (rest.changes.mono fun _ _ => trivial).trans (rewritten.changes.mono fun _ _ => trivial)
    obtain ⟨_, target, ownLocated, own⟩ := wrote.saved.exists_place
    obtain ⟨place, _, located, _, saves⟩ := wrote.saved.again onward
    obtain rfl : target = place := Except.ok.inj ((onward.locate ownLocated).symm.trans located)
    refine .cons ⟨wrote.rendered, wrote.placed, saves _⟩ (inductionHypothesis ?_)
    by_cases again : settled.Targets files target
    · -- a later file of the run is written to this place and differs from this one, or not
      obtain ⟨held, there⟩ := rest.changes.exists_file own
      refine .put (rewritten.mono ?_) again there
      rintro elsewhere ⟨other, listed, leads⟩
      rcases List.mem_cons.mp listed with rfl | listed
      · rw [rest.changes.locate ownLocated] at leads
        cases leads
        exact again
      · exact ⟨other, listed, leads⟩
    · -- this file is what the run has left at its place
      refine (rewritten.restore (rest.changes.file own again)).mono ?_
      rintro elsewhere ⟨⟨other, listed, leads⟩, apart⟩
      rcases List.mem_cons.mp listed with rfl | listed
      · rw [rest.changes.locate ownLocated] at leads
        cases leads
        exact absurd rfl apart
      · exact ⟨other, listed, leads⟩

/-! ## Regenerating -/

/-- A run that has succeeded succeeds again on the tree that it has left behind.  It gives the same
    report and logs the same files, and the tree stays as it is. -/
theorem generate_again {report : Report}
    (finished : (generate modules config).run tree = ⟨after, events, .ok report⟩) :
    ∃ again, (generate modules config).run after = ⟨after, again, .ok report⟩ ∧
      again.filterMap Event.written? = events.filterMap Event.written? := by
  have ends := ends_generate modules config tree
  rw [finished] at ends
  cases ends with
  | @finished files _ _ writes logged =>
    obtain ⟨again, ran, loggedAgain⟩ :=
      (ends_generate modules config after).of_writesAll (writes.again .same)
    exact ⟨again, ran, loggedAgain.trans logged.symm⟩

open Sample in
/-- The depot declares a struct and an enum that are written to one path.  The second run puts the
    struct there once more, and then the enum again. -/
theorem generate_again_depot :
    let paths := ["./depot/Crate.java", "./depot/Crate.java"]
    ∃ after events again, (generate [depot] .default).run (.empty []) = ⟨after, events, .ok paths⟩ ∧
      (generate [depot] .default).run after = ⟨after, again, .ok paths⟩ ∧
      again.filterMap Event.written? = events.filterMap Event.written? := by
  intro paths
  have outcome := generate_depot
  rcases ran : (generate [depot] .default).run (.empty []) with ⟨after, events, ended⟩
  rw [ran] at outcome
  dsimp only at outcome
  subst outcome
  obtain ⟨again, ranAgain, logged⟩ := generate_again ran
  exact ⟨after, events, again, rfl, ranAgain, logged⟩

end WireSchema
