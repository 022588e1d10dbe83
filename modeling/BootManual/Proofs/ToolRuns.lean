import BootManual.Tool
import BootManual.Proofs.DatabaseRuns
import BootManual.Proofs.Streams

/-!
# What a run of the tool does

A script that can fail at its end has no tasks, since its end is that of the manual.  A
script with tasks shows what it shows before the first of them.  So a run shows nothing
and changes nothing unless the manual has been read to its end, and from there on what
it shows does not depend on what becomes of the tasks.
-/

namespace BootManual.Tool

open Database (Task)

/-! ## Carrying out actions -/

variable {files : FileSystem} {failure : Option Text} {options : Options}

section

variable (listener level : LogLevel) (target message : Text)

end

/-- The text that is due for the entries of a manual: none, their listing or the text of
their tree. -/
def due (options : Options) (entries : Catalogue Entry) : Text :=
  match options.listing with
  | none => []
  | some .text => Listing.render entries
  | some .yaml => (CatalogueTree.ofCatalogue entries).render

/-- The manual of a run is a file, the bytes of the file are a text, and the text is
read into entries. -/
def Reads (files : FileSystem) (options : Options) (entries : Catalogue Entry) : Prop :=
  ∃ bytes text, files.openFile options.parameters = .ok (.file bytes) ∧
    Utf8.decode bytes = some text ∧
    (Manual.ofText (contextOf options) text).result = .ok entries

variable {entries : Catalogue Entry}

section

variable {arguments : List Text} (accepted : CommandLine.parse arguments = .run options)

include accepted

end

end BootManual.Tool
