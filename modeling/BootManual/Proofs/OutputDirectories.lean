import BootManual.Proofs.Growth

/-!
# How a directory comes to be there

Creating a directory creates the missing ones that lead to it first.  Whatever it comes
to, all that is made are directories where nothing stood, and the path leads to each of
them or through it.
-/

namespace BootManual.FileSystem

variable {files between after : FileSystem} {path name : Text} {place : Place}

/-! ## Names that stay -/

/-- A walk to a directory may stay where it is at any time. -/
theorem walk_of_walk_filter {spot last : Spot} {names : List Text}
    (walked : walk spot (names.filter fun name => name ≠ Path.stay) = .ok last)
    (isDirectory : last.tree.isDirectory) : walk spot names = .ok last := by
  induction names generalizing spot with
  | nil => exact walked
  | cons name rest inductionHypothesis =>
      by_cases stays : name = Path.stay
      · rw [List.filter_cons_of_neg (by simp [stays])] at walked
        have onward := inductionHypothesis walked
        have begins := isDirectory_of_walk onward isDirectory
        rw [walk, if_neg (by simp [begins]), if_pos stays, onward]
      · rw [List.filter_cons_of_pos (by simp [stays]), ← List.singleton_append, walk_append]
          at walked
        obtain ⟨next, entered, onward⟩ := except_bind_eq_ok_iff.mp walked
        rw [← List.singleton_append, walk_append, entered]
        exact inductionHypothesis onward

theorem route_eq_append (files : FileSystem) (path : Text) (names : List Text) :
    files.route path names = files.route path [] ++ names := by
  rw [route, route]
  split <;> simp

theorem arrives_of_filter {names : List Text}
    (arrives : files.Arrives (files.route path (names.filter fun name => name ≠ Path.stay)) place) :
    files.Arrives (files.route path names) place := by
  obtain ⟨last, walked, isDirectory, same⟩ := arrives
  rw [route_eq_append, walk_append] at walked
  obtain ⟨first, begun, onward⟩ := except_bind_eq_ok_iff.mp walked
  refine ⟨last, ?_, isDirectory, same⟩
  rw [route_eq_append, walk_append, begun]
  exact walk_of_walk_filter onward isDirectory

/-! ## Directories on the way -/

/-- A path leads to a directory, or through it. -/
def LeadsThrough (files : FileSystem) (path : Text) (place : Place) : Prop :=
  ∃ front, front <+: Path.names path ∧ files.Arrives (files.route path front) place

/-- Directories have been made to which a path leads, or through which, and nothing else
has changed. -/
def MakesWay (files after : FileSystem) (path : Text) : Prop :=
  ∃ made, Grows files after made [] ∧ ∀ place ∈ made, after.LeadsThrough path place

theorem LeadsThrough.gains {documents : List (Place × List UInt8)}
    (leads : files.LeadsThrough path place) (gains : Gains files after documents) :
    after.LeadsThrough path place := by
  obtain ⟨front, first, arrives⟩ := leads
  refine ⟨front, first, ?_⟩
  rw [gains.route_eq]
  exact arrives.gains gains

/-- A route along the names that do not stay is one on which directories are made. -/
theorem leadsThrough_of_steps {front : List Text} (first : front <+: Path.steps path)
    (arrives : files.Arrives (files.route path front) place) : files.LeadsThrough path place := by
  obtain ⟨names, before, rfl⟩ := List.prefix_filter_iff.mp first
  exact ⟨names, before, arrives_of_filter arrives⟩

theorem MakesWay.refl (files : FileSystem) (path : Text) : MakesWay files files path :=
  ⟨[], Grows.refl files, by simp⟩

theorem MakesWay.trans (first : MakesWay files between path)
    (second : MakesWay between after path) : MakesWay files after path := by
  obtain ⟨made, grows, leads⟩ := first
  obtain ⟨more, growsAgain, leadsAgain⟩ := second
  refine ⟨made ++ more, grows.trans growsAgain, ?_⟩
  intro place listed
  rcases List.mem_append.mp listed with before | later
  · exact (leads place before).gains growsAgain.toGains
  · exact leadsAgain place later

theorem walk_of_parent {route : List Text} {spot : Spot} (found : files.parent route = .ok spot) :
    walk (Spot.top files.root) route.dropLast = .ok spot ∧ spot.tree.isDirectory := by
  rw [parent] at found
  split at found
  · contradiction
  · next last walked =>
    split at found
    · next isDirectory =>
      obtain rfl := Except.ok.inj found
      exact ⟨walked, isDirectory⟩
    · contradiction

/-- Creating one directory makes a directory at the place to which the route leads then. -/
theorem grows_makeDirectory {route : List Text} (made : files.makeDirectory route = .ok after) :
    ∃ place, Grows files after [place] [] ∧ after.Arrives route place := by
  rcases List.eq_nil_or_concat' route with rfl | ⟨front, name, rfl⟩
  · contradiction
  cases parent : files.parent (front ++ [name]) with
  | error error => simp [makeDirectory, parent] at made
  | ok spot =>
      obtain ⟨walked, isDirectory⟩ := walk_of_parent parent
      rw [List.dropLast_concat] at walked
      by_cases special : name = Path.stay ∨ name = Path.up
      · simp [makeDirectory, parent, special] at made
      · rw [not_or] at special
        rw [makeDirectory_concat walked isDirectory special.1 special.2] at made
        split at made
        · contradiction
        split at made
        · contradiction
        · next short free =>
          obtain rfl := Except.ok.inj made
          have arrives : files.Arrives front spot.place := ⟨spot, walked, isDirectory, rfl⟩
          have missing : files.node? (spot.place ++ [name]) = none := by
            rw [node?_concat (isIn_of_walk .top walked), Option.map_eq_none_iff]
            simpa using free
          have grows := grows_put_directory arrives missing
          refine ⟨_, grows, ?_⟩
          rw [arrives_concat_iff (arrives.gains grows.toGains) special.1 special.2]
          refine ⟨rfl, Nat.le_of_not_lt short, ?_⟩
          rw [grows.directory]
          exact .inr List.mem_cons_self

/-- What comes of making sure that a front part of a path leads to a directory. -/
structure MakesSure (files : FileSystem) (change : Change) (path : Text) (front : List Text) :
    Prop where
  way : MakesWay files change.files path
  arrives : change.failure = none →
    ∃ place, change.files.Arrives (change.files.route path front) place

section Ensure

variable {front : List Text}
  (through : ∀ {after : FileSystem} {place : Place},
    after.Arrives (after.route path front) place → after.LeadsThrough path place)

include through

theorem makesSure_of_makeDirectory
    (made : files.makeDirectory (files.route path front) = .ok after) :
    MakesSure files ⟨after, none⟩ path front := by
  obtain ⟨place, grows, arrives⟩ := grows_makeDirectory made
  rw [← grows.route_eq] at arrives
  refine ⟨⟨[place], grows, ?_⟩, fun _ => ⟨place, arrives⟩⟩
  intro other listed
  obtain rfl := List.mem_singleton.mp listed
  exact through arrives

omit through in
/-- Where the directory cannot be created, it is there or the change fails. -/
theorem makesSure_of_there (error : FileError) :
    MakesSure files
      (if files.leadsToDirectory (files.route path front) then ⟨files, none⟩
        else ⟨files, some error⟩) path front := by
  split
  · next there => exact ⟨MakesWay.refl files path, fun _ => leadsToDirectory_iff_arrives.mp there⟩
  · exact ⟨MakesWay.refl files path, fun done => by contradiction⟩

theorem makesSure_ensureDirectory (leading : Unit → Change)
    (led : MakesWay files (leading ()).files path) :
    MakesSure files (files.ensureDirectory (files.route path front) leading) path front := by
  have route : files.route path front = (leading ()).files.route path front := by
    obtain ⟨_, grows, _⟩ := led
    exact (grows.route_eq path front).symm
  rw [ensureDirectory]
  split
  · next made => exact makesSure_of_makeDirectory through made
  · dsimp only
    split
    · exact ⟨led, fun done => by contradiction⟩
    · -- What led to the directory is there now, so it is tried once more.
      rw [route]
      split
      · next made =>
        have sure := makesSure_of_makeDirectory through made
        exact ⟨led.trans sure.way, sure.arrives⟩
      · next error _ =>
        have sure : MakesSure (leading ()).files _ path front := makesSure_of_there error
        exact ⟨led.trans sure.way, sure.arrives⟩
  · exact makesSure_of_there _

end Ensure

/-- The directories on the way are made in turn, each after those that lead to it. -/
theorem makesWay_makeLeading {names : List Text} (first : names.reverse <+: Path.steps path) :
    MakesWay files (files.makeLeading path names).files path := by
  induction names with
  | nil => exact MakesWay.refl files path
  | cons name before inductionHypothesis =>
      have shorter : before.reverse <+: Path.steps path := by
        rw [List.reverse_cons] at first
        exact (List.prefix_append before.reverse [name]).trans first
      rw [makeLeading]
      exact (makesSure_ensureDirectory (leadsThrough_of_steps first) _
        (inductionHypothesis shorter)).way

/-- Creating a directory makes nothing but directories on the way, and unless it fails
the path leads to a directory afterwards; the empty path need not lead anywhere. -/
theorem makesSure_makeDirectories (files : FileSystem) (path : Text) :
    MakesWay files (files.makeDirectories path).files path ∧
      ((files.makeDirectories path).failure = none → path ≠ [] →
        ∃ place, (files.makeDirectories path).files.LeadsTo path place) := by
  rw [makeDirectories]
  split
  · next empty =>
    exact ⟨MakesWay.refl files path, fun _ named => absurd (List.isEmpty_iff.mp empty) named⟩
  split
  · exact ⟨MakesWay.refl files path, fun done => by contradiction⟩
  · have before : (Path.steps path).reverse.tail.reverse <+: Path.steps path := by
      rw [List.tail_reverse, List.reverse_reverse]
      exact List.dropLast_prefix _
    have led : MakesWay files (files.makeLeading path (Path.steps path).reverse.tail).files path :=
      makesWay_makeLeading before
    have sure := makesSure_ensureDirectory
      (fun arrives => ⟨Path.names path, List.prefix_rfl, arrives⟩)
      (fun _ => files.makeLeading path (Path.steps path).reverse.tail) led
    exact ⟨sure.way, fun done _ => sure.arrives done⟩

/-! ## Where no directory stands -/

section Nowhere

variable (nowhere : ¬ ∃ place, files.LeadsTo [] place)

include nowhere

theorem makeDirectory_ne_ok_of_nowhere (name : Text) (made : FileSystem) :
    files.makeDirectory (files.route [] (Path.names []) ++ [name]) ≠ .ok made := by
  intro done
  cases parent : files.parent (files.route [] (Path.names []) ++ [name]) with
  | error error => simp [makeDirectory, parent] at done
  | ok spot =>
      obtain ⟨walked, isDirectory⟩ := walk_of_parent parent
      rw [List.dropLast_concat] at walked
      exact nowhere ⟨spot.place, spot, walked, isDirectory, rfl⟩

theorem leadsToDirectory_eq_false_of_nowhere (name : Text) :
    files.leadsToDirectory (files.route [] (Path.names []) ++ [name]) = false := by
  rw [Bool.eq_false_iff, Ne, leadsToDirectory_iff_arrives]
  rintro ⟨_, spot, walked, isDirectory, _⟩
  rw [walk_append] at walked
  obtain ⟨between, begun, onward⟩ := except_bind_eq_ok_iff.mp walked
  exact nowhere ⟨between.place, between, begun, isDirectory_of_walk onward isDirectory, rfl⟩

/-- Where the working directory is missing, the empty path leads nowhere, and nothing
is created in it. -/
theorem makeDirectories_of_nowhere (plain : Path.IsPlain name) :
    ∃ error, files.makeDirectories (Path.join [] name) = ⟨files, some error⟩ := by
  have alone : (Path.steps (Path.join [] name)).reverse.tail = [] := by
    have kept : Path.steps (Path.join [] name) = [name] := by
      rw [Path.steps, Path.names_join [] plain]
      exact List.filter_cons_of_pos (by simp [plain.ne_stay])
    rw [kept]
    rfl
  rw [makeDirectories, alone, if_neg (by simp [Path.join_ne_nil [] plain])]
  split
  · exact ⟨_, rfl⟩
  · have unmade := makeDirectory_ne_ok_of_nowhere nowhere name
    have nothing := leadsToDirectory_eq_false_of_nowhere nowhere name
    rw [ensureDirectory, FileSystem.route_join files [] plain]
    cases made : files.makeDirectory (files.route [] (Path.names []) ++ [name]) with
    | ok after => exact absurd made (unmade after)
    | error error => cases error <;> simp [makeLeading, made, nothing]

end Nowhere

end BootManual.FileSystem
