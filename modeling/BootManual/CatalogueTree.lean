import BootManual.Entry
import BootManual.Yaml.Node

/-!
# Catalogues as YAML trees

A catalogue is a mapping from names to entries, and an entry is a mapping from
field names to values.  Flags appear if a header had brackets, values if the
format lists some, and sub-parameters if there are any.
-/

namespace BootManual.CatalogueTree

/-- The pairs of an entry in front of its sub-parameters. -/
def fields (flags : Option (List Text)) (format : Format) (description : Text) :
    List (Text × Yaml.Node) :=
  [("format".toList, .scalar format.marker)] ++
    flags.toList.map (fun flags => ("flags".toList, .sequence flags)) ++
    (if format.values.isEmpty then [] else [("values".toList, .sequence format.values)]) ++
    [("description".toList, .scalar description)]

mutual

/-- The tree of an entry. -/
def ofEntry : Entry → Yaml.Node
  | ⟨_, flags, format, description, ⟨slots, _⟩⟩ =>
    .mapping (fields flags format description ++
      (if slots.isEmpty then [] else [("children".toList, .mapping (insertEntries [] slots))]))

/-- The pairs of a mapping after the trees of entries have been inserted in order, each
under the name of its entry. -/
def insertEntries (pairs : List (Text × Yaml.Node)) : List Entry → List (Text × Yaml.Node)
  | [] => pairs
  | entry :: rest => insertEntries (Yaml.Node.insertPair entry.name (ofEntry entry) pairs) rest

end

/-- The tree of a catalogue. -/
def ofCatalogue (catalogue : Catalogue Entry) : Yaml.Node :=
  .mapping (insertEntries [] catalogue.slots)

end BootManual.CatalogueTree
