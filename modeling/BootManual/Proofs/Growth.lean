import BootManual.Proofs.FileChanges

/-!
# What operations on files add

Besides the documents that were written, one says of several operations in a row which
directories they made.  That determines what stands at every place.  An operation in a
directory that is there adds what it was asked for, or fails and changes nothing.
-/

namespace BootManual.FileSystem

variable {files between after : FileSystem} {directory name : Text} {place : Place}

/-- One file system comes from another one by making directories and by writing
documents in order, each at its place. -/
structure Grows (files after : FileSystem) (directories : List Place)
    (documents : List (Place × List UInt8)) : Prop extends Gains files after documents where
  longestPath : after.longestPath = files.longestPath
  directory : ∀ place, after.node? place = some .directory ↔
    files.node? place = some .directory ∨ place ∈ directories

theorem Grows.refl (files : FileSystem) : Grows files files [] [] :=
  ⟨Gains.refl files, rfl, by simp⟩

theorem Grows.trans {directories others : List Place} {documents more : List (Place × List UInt8)}
    (first : Grows files between directories documents) (second : Grows between after others more) :
    Grows files after (directories ++ others) (documents ++ more) where
  toGains := first.toGains.trans second.toGains
  longestPath := second.longestPath.trans first.longestPath
  directory place := by rw [second.directory, first.directory, List.mem_append, or_assoc]

/-- What stands at a place is a file or a directory. -/
theorem node?_eq_file_iff {content : List UInt8} :
    files.node? place = some (.file content) ↔ files.content? place = some content := by
  rw [content?]
  cases files.node? place with
  | none => simp
  | some node => cases node <;> simp [FileNode.content?]

theorem node?_eq_none_iff :
    files.node? place = none ↔
      files.node? place ≠ some .directory ∧ files.content? place = none := by
  rw [content?]
  cases files.node? place with
  | none => simp
  | some node => cases node <;> simp [FileNode.content?]

/-- Where nothing stands afterwards, nothing stood before. -/
theorem Grows.node?_eq_none {directories : List Place} {documents : List (Place × List UInt8)}
    (grows : Grows files after directories documents) (missing : after.node? place = none) :
    files.node? place = none := by
  rw [node?_eq_none_iff, Ne, grows.directory, grows.content, Option.or_eq_none_iff] at missing
  exact node?_eq_none_iff.mpr ⟨fun known => missing.1 (.inl known), missing.2.2⟩

/-! ## Operations in a directory that is there -/

section Route

variable {route : List Text} (arrives : files.Arrives route place)

include arrives

theorem grows_put_directory (missing : files.node? (place ++ [name]) = none) :
    Grows files (files.put (place ++ [name]) (.directory [])) [place ++ [name]] [] where
  toGains := arrives.gains_put_directory missing
  longestPath := rfl
  directory other := by
    rw [arrives.node?_put (by simp [missing]) FileTree.isLeaf_directory_nil, Function.update_apply]
    by_cases same : other = place ++ [name] <;> simp [same, FileTree.top]

theorem grows_put_file (free : files.node? (place ++ [name]) ≠ some .directory)
    (content : List UInt8) :
    Grows files (files.put (place ++ [name]) (.file content)) [] [(place ++ [name], content)] where
  toGains := arrives.gains_put_file free content
  longestPath := rfl
  directory other := by
    rw [arrives.node?_put free (FileTree.isLeaf_file content), Function.update_apply]
    by_cases same : other = place ++ [name] <;> simp [same, FileTree.top, free]

end Route

section Member

variable (leads : files.LeadsTo directory place) (plain : Path.IsPlain name)

include leads plain

/-- Creating a directory that does not fail makes sure that the directory is there. -/
theorem grows_makeDirectories_join
    (done : (files.makeDirectories (Path.join directory name)).failure = none) :
    Grows files (files.makeDirectories (Path.join directory name)).files [place ++ [name]] [] := by
  rcases makeDirectories_join_cases plain leads with ⟨error, failed⟩ | ⟨_, there | missing⟩
  · rw [failed] at done
    contradiction
  · rw [there.2]
    refine ⟨Gains.refl files, rfl, ?_⟩
    intro other
    rw [List.mem_singleton]
    exact ⟨.inl, fun known => known.elim id fun same => same ▸ there.1⟩
  · rw [missing.2]
    exact grows_put_directory leads missing.1

/-- The path leads to it then. -/
theorem leadsTo_makeDirectories_join
    (done : (files.makeDirectories (Path.join directory name)).failure = none) :
    (files.makeDirectories (Path.join directory name)).files.LeadsTo (Path.join directory name)
      (place ++ [name]) := by
  have grows := grows_makeDirectories_join leads plain done
  have short : Utf8.size name ≤ longestName := by
    rcases makeDirectories_join_cases plain leads with ⟨error, failed⟩ | ⟨short, _⟩
    · rw [failed] at done
      contradiction
    · exact short
  rw [leadsTo_join_iff plain (leads.gains grows.toGains), grows.directory]
  exact ⟨rfl, short, .inr List.mem_cons_self⟩

/-- Creating a directory that fails changes nothing. -/
theorem files_makeDirectories_join
    (failed : (files.makeDirectories (Path.join directory name)).failure ≠ none) :
    (files.makeDirectories (Path.join directory name)).files = files := by
  rcases makeDirectories_join_cases plain leads with ⟨error, same⟩ | ⟨_, there | missing⟩
  · rw [same]
  · rw [there.2]
  · rw [missing.2] at failed
    contradiction

/-- Writing a document fails and changes nothing, or writes it. -/
theorem grows_writeFile_join {content : List UInt8}
    (written : files.writeFile (Path.join directory name) content = .ok after) :
    Grows files after [] [(place ++ [name], content)] := by
  rw [writeFile_join_eq plain leads] at written
  split at written
  · contradiction
  split at written
  · contradiction
  split at written
  · contradiction
  · next free =>
    obtain rfl := Except.ok.inj written
    exact grows_put_file leads free content

end Member

end BootManual.FileSystem
