import BootManual.Proofs.LineNumbers
import BootManual.Proofs.Locations
import BootManual.Proofs.Renumbering

/-!
# Noise

Some lines of a manual have no effect: lines without a role wherever they stand, lines
in front of the first parameter, and lines with four tabs or more where no sub-parameter
is open yet.  Any of them can be deleted.  What is open tells where a line stands: there
is nothing open in front of the first parameter, and nothing but the parameter between
its header and the first of a sub-parameter.
-/

namespace BootManual

namespace Lines

/-! ## Deleting lines -/

variable (deleted : Nat → Bool)

/-- The lines that stay if those at some positions are deleted, under their old
numbers. -/
def kept (lines : List Text) : List NumberedLine :=
  lines.zipIdx.filter fun line => !deleted line.2

/-- The lines that stay if those at some positions are deleted. -/
def delete (lines : List Text) : List Text :=
  (kept deleted lines).map Prod.fst

/-- The number that a line has after the deletion: as many lines stay in front of it. -/
def newNumber (number : Nat) : Nat :=
  (List.range number).countP fun other => !deleted other

theorem newNumber_succ (number : Nat) :
    newNumber deleted (number + 1) =
      newNumber deleted number + if deleted number then 0 else 1 := by
  rw [newNumber, List.range_succ, List.countP_append, newNumber]
  cases gone : deleted number <;> simp [gone]

/-- The lines that stay move up. -/
theorem zipIdx_filter (number : Nat) (lines : List Text) :
    (((lines.zipIdx number).filter fun line => !deleted line.2).map Prod.fst).zipIdx
        (newNumber deleted number) =
      ((lines.zipIdx number).filter fun line => !deleted line.2).map
        (NumberedLine.renumber (newNumber deleted)) := by
  induction lines generalizing number with
  | nil => rfl
  | cons line rest inductionHypothesis =>
      have later := inductionHypothesis (number + 1)
      rw [newNumber_succ] at later
      rw [List.zipIdx_cons]
      cases gone : deleted number with
      | true =>
          simp only [gone, if_true, Nat.add_zero] at later
          rwa [List.filter_cons_of_neg (by simp [gone])]
      | false =>
          simp only [gone, Bool.false_eq_true, if_false] at later
          rw [List.filter_cons_of_pos (by simp [gone]), List.map_cons, List.map_cons,
            List.zipIdx_cons, later]
          rfl

theorem zipIdx_delete (lines : List Text) :
    (delete deleted lines).zipIdx =
      (kept deleted lines).map (NumberedLine.renumber (newNumber deleted)) :=
  zipIdx_filter deleted 0 lines

/-- A line that stays is found under both of its numbers. -/
theorem getElem?_of_mem_kept {lines : List Text} {line : NumberedLine}
    (stays : line ∈ kept deleted lines) :
    lines[line.2]? = some line.1 ∧
      (delete deleted lines)[newNumber deleted line.2]? = some line.1 := by
  have moved : line.renumber (newNumber deleted) ∈ (delete deleted lines).zipIdx := by
    rw [zipIdx_delete]
    exact List.mem_map_of_mem stays
  exact ⟨List.mem_zipIdx_iff_getElem?.mp (List.mem_filter.mp stays).1,
    List.mem_zipIdx_iff_getElem?.mp moved⟩

end Lines

/-! ## Lines without effect -/

/-- A line that stands behind these lines is noise if it has no role, if it stands in
front of the first header of a parameter, or if it has four tabs or more and no header
of a sub-parameter stands between it and a header of a parameter. -/
inductive IsNoise (front : List Text) (line : Text) : Prop
  | ignored (role : Line.classify line = .ignored)
  | outside (noTop : ∀ other ∈ front ++ [line], (Line.classify other).isTopHeader = false)
  | deep {before behind : List Text} {header text : Text}
      (role : Line.classify line = .continuation .four text)
      (split : front = before ++ header :: behind)
      (opens : (Line.classify header).isTopHeader)
      (noNested : ∀ other ∈ behind, (Line.classify other).isNestedHeader = false)

/-- What is open behind some lines, as far as it tells where noise is: nothing if no
parameter has been opened, and no sub-parameter if none has been opened since. -/
structure State.Fits (front : List Text) (state : State) : Prop where
  outside : (∀ other ∈ front, (Line.classify other).isTopHeader = false) → state = .idle
  own : ∀ before header behind, front = before ++ header :: behind →
    (Line.classify header).isTopHeader →
    (∀ other ∈ behind, (Line.classify other).isNestedHeader = false) →
    ∃ top, state = .parameter top

namespace Reader

variable {context : Context} {reader : Reader} {front : List Text} {line : Text}
  {entries : Catalogue Entry} {state : State}

/-- A parameter is the innermost open entry from its header to that of a
sub-parameter. -/
theorem exists_parameter_of_advance
    (own : (Line.classify line).isTopHeader ∨
      (∃ top, reader.state = .parameter top) ∧ (Line.classify line).isNestedHeader = false)
    (advanced : (reader.advance line).result = .ok (entries, state)) :
    ∃ top, state = .parameter top := by
  cases advances_of_result advanced with
  | topHeader role closed => exact ⟨_, rfl⟩
  | nestedHeader role opened =>
      rw [role] at own
      rcases own with opens | ⟨-, noNested⟩
      · contradiction
      · contradiction
  | heard role =>
      rcases own with opens | ⟨⟨top, isOpen⟩, -⟩
      · rw [Line.isTopHeader_eq_false_of_plain role] at opens
        contradiction
      · rw [isOpen]
        exact ⟨_, rfl⟩

theorem fits_start : State.Fits [] .idle :=
  ⟨fun _ => rfl, fun before header behind split => absurd split (by simp)⟩

/-- A line leaves open what has to be open behind it. -/
theorem fits_advance (fits : reader.state.Fits front)
    (advanced : (reader.advance line).result = .ok (entries, state)) :
    state.Fits (front ++ [line]) := by
  constructor
  · intro noTop
    rw [List.forall_mem_append, List.forall_mem_singleton] at noTop
    exact (idle_advance_iff advanced).mpr ⟨fits.outside noTop.1, noTop.2⟩
  · intro before header behind split opens noNested
    -- Either the line is the header or it stands behind it.
    rcases List.eq_nil_or_concat behind with rfl | ⟨others, last, rfl⟩
    · obtain ⟨-, same⟩ := List.append_inj' split rfl
      obtain rfl := List.singleton_inj.mp same
      exact exists_parameter_of_advance (.inl opens) advanced
    · rw [List.concat_eq_append, ← List.cons_append, ← List.append_assoc] at split
      obtain ⟨splitFront, same⟩ := List.append_inj' split rfl
      obtain rfl := List.singleton_inj.mp same
      rw [List.concat_eq_append, List.forall_mem_append, List.forall_mem_singleton] at noNested
      have own := fits.own before header others splitFront opens noNested.1
      exact exists_parameter_of_advance (.inr ⟨own, noNested.2⟩) advanced

/-- Noise changes nothing. -/
theorem result_advance_of_isNoise (fits : reader.state.Fits front) (noise : IsNoise front line) :
    (reader.advance line).result = .ok (reader.entries, reader.state) := by
  cases noise with
  | ignored role =>
      have plain : (Line.classify line).isHeader = false := by
        rw [role]
        rfl
      have heard : reader.state.hear line = reader.state := by
        cases reader.state with
        | idle => rfl
        | parameter top => simp only [State.hear, Draft.hear, role]
        | subparameter top sub => simp only [State.hear, OpenSubparameter.hear, role]
      rw [result_advance_of_not_isHeader plain, heard]
  | outside noTop =>
      rw [List.forall_mem_append, List.forall_mem_singleton] at noTop
      have idle := fits.outside noTop.1
      rcases Line.role_cases (Line.classify line) with top | nested | plain
      · rw [Line.isTopHeader_iff.mpr top] at noTop
        exact absurd noTop.2 (by decide)
      · rw [result_advance_of_nestedHeader nested, idle]
        rfl
      · rw [result_advance_of_not_isHeader plain, idle]
        rfl
  | @deep before behind header text role split opens noNested =>
      have plain : (Line.classify line).isHeader = false := by
        rw [role]
        rfl
      obtain ⟨top, isOpen⟩ := fits.own before header behind split opens noNested
      rw [result_advance_of_not_isHeader plain, isOpen]
      simp only [State.hear, Draft.hear, role]

/-- A manual is read as if its noise were not there. -/
theorem outcome_filter_noise {deleted : Nat → Bool} {lines : List Text}
    (noise : ∀ number line, lines[number]? = some line → deleted number →
      IsNoise (lines.take number) line)
    {rest : List Text} (split : lines = front ++ rest) (fits : state.Fits front) :
    outcome context entries state
        ((rest.zipIdx front.length).filter fun line => !deleted line.2) =
      outcome context entries state (rest.zipIdx front.length) := by
  -- What is open fits all the lines in front, also those that are deleted.
  induction rest generalizing front entries state with
  | nil => rfl
  | cons line others inductionHypothesis =>
      have here : lines[front.length]? = some line ∧ lines.take front.length = front := by
        simp [split]
      have splitNext : lines = (front ++ [line]) ++ others := by simp [split]
      have later {entries : Catalogue Entry} {state : State} (fits : state.Fits (front ++ [line])) :
          outcome context entries state
              ((others.zipIdx (front.length + 1)).filter fun line => !deleted line.2) =
            outcome context entries state (others.zipIdx (front.length + 1)) := by
        simpa using inductionHypothesis splitNext fits
      let reader : Reader := ⟨context, state, entries, front.length⟩
      have step {next : Catalogue Entry × State}
          (advanced : (reader.advance line).result = .ok next) :
          next.2.Fits (front ++ [line]) :=
        fits_advance fits advanced
      rw [List.zipIdx_cons, outcome]
      cases gone : deleted front.length with
      | true =>
          have silent : (reader.advance line).result = .ok (entries, state) :=
            result_advance_of_isNoise fits (here.2 ▸ noise _ _ here.1 gone)
          rw [List.filter_cons_of_neg (by simp [gone]), silent]
          exact later (step silent)
      | false =>
          rw [List.filter_cons_of_pos (by simp [gone]), outcome]
          cases advanced : (reader.advance line).result with
          | error error => rfl
          | ok next => exact later (step advanced)

/-- The error of a manual points to one of its lines. -/
theorem exists_of_outcome_eq_error {lines : List NumberedLine} {error : ParseError}
    (failed : outcome context entries state lines = .error error) :
    ∃ name number, (number ∈ state.headerLines ∨ number ∈ lines.map Prod.snd) ∧
      error = .duplicateName name (context.place number) := by
  induction lines generalizing entries state with
  | nil =>
      obtain ⟨-, name, number, listed, rfl⟩ := Commit.isRejection_of_close failed
      exact ⟨name, number, .inl listed, rfl⟩
  | cons line rest inductionHypothesis =>
      rcases except_bind_eq_error_iff.mp failed with early | ⟨next, advanced, late⟩
      · obtain ⟨-, name, number, listed, rfl⟩ := isRejection_of_advance early
        exact ⟨name, number, .inl listed, rfl⟩
      · obtain ⟨name, number, listed | listed, rfl⟩ := inductionHypothesis late
        · rcases mem_headerLines_advance advanced listed with rfl | listed
          · exact ⟨name, _, .inr List.mem_cons_self, rfl⟩
          · exact ⟨name, number, .inl listed, rfl⟩
        · exact ⟨name, number, .inr (List.mem_cons_of_mem _ listed), rfl⟩

end Reader

namespace Manual

open Lines

/-- A manual whose noise is deleted comes to what it came to before. -/
theorem renumbers_delete (context : Context) {lines : List Text} {deleted : Nat → Bool}
    (noise : ∀ number line, lines[number]? = some line → deleted number →
      IsNoise (lines.take number) line) :
    Reader.outcome context Catalogue.empty .idle (kept deleted lines) =
        (ofLines context lines).result ∧
      Renumbers context (newNumber deleted) id (ofLines context lines).result
        (ofLines context (delete deleted lines)).result := by
  have silent : Reader.outcome context Catalogue.empty .idle (kept deleted lines) =
      (ofLines context lines).result := by
    rw [ofLines, Reader.result_conclude_feedAll]
    exact Reader.outcome_filter_noise noise rfl Reader.fits_start
  refine ⟨silent, ?_⟩
  rw [← silent, ofLines, Reader.result_conclude_feedAll]
  change Renumbers context (newNumber deleted) id _
    (Reader.outcome context Catalogue.empty .idle (delete deleted lines).zipIdx)
  rw [zipIdx_delete]
  exact Reader.renumbers_outcome Catalogue.empty .idle (kept deleted lines)

/-- Noise is inert.  If any of it is deleted, the same entries are read where later ones
replace earlier ones.  Where duplicates are rejected, either both manuals are read and the
entries are the same, or both are refused for the same name and at the same header, which
has another number if noise in front of it was deleted. -/
theorem result_ofLines_delete (file : Option Text) (lines : List Text) (deleted : Nat → Bool)
    (noise : ∀ number line, lines[number]? = some line → deleted number →
      IsNoise (lines.take number) line) :
    let replace := Context.mk file .replace
    let reject := Context.mk file .reject
    (ofLines replace (delete deleted lines)).result = (ofLines replace lines).result ∧
    ((∃ entries, (ofLines reject lines).result = .ok entries ∧
        (ofLines reject (delete deleted lines)).result = .ok entries) ∨
      ∃ name number header,
        (ofLines reject lines).result = .error (.duplicateName name (reject.place number)) ∧
        (ofLines reject (delete deleted lines)).result =
          .error (.duplicateName name (reject.place (newNumber deleted number))) ∧
        lines[number]? = some header ∧ deleted number = false ∧
        (delete deleted lines)[newNumber deleted number]? = some header) := by
  intro replace reject
  constructor
  · obtain ⟨entries, succeeds⟩ : ∃ entries, (ofLines replace lines).result = .ok entries :=
      ⟨_, result_ofLines_of_replace rfl lines⟩
    have same := (renumbers_delete replace noise).2
    rw [succeeds] at same ⊢
    generalize (ofLines replace (delete deleted lines)).result = reduced at same
    cases same
    rfl
  · obtain ⟨silent, same⟩ := renumbers_delete reject noise
    generalize (ofLines reject (delete deleted lines)).result = reduced at same
    generalize (ofLines reject lines).result = whole at same silent
    cases same with
    | ok entries => exact .inl ⟨entries, rfl, rfl⟩
    | refused name number =>
        obtain ⟨name', number', listed, located⟩ := Reader.exists_of_outcome_eq_error silent
        simp only [ParseError.duplicateName.injEq] at located
        obtain rfl := Context.place_inj located.2
        have stays : number ∈ (kept deleted lines).map Prod.snd := by
          simpa [State.headerLines] using listed
        obtain ⟨line, isKept, rfl⟩ := List.mem_map.mp stays
        have notDeleted : deleted line.2 = false := by
          simpa using (List.mem_filter.mp isKept).2
        have places := getElem?_of_mem_kept deleted isKept
        exact .inr ⟨name, line.2, line.1, rfl, rfl, places.1, notDeleted, places.2⟩

/-- Noise of every kind in a manual that is refused for its last line: prose and a header
of a sub-parameter in front of the first parameter, a line with four tabs behind it, and
prose inside a block. -/
theorem result_ofLines_delete_refused :
    let lines := ["prose".toList, "\t\tstray".toList, "\ta".toList, "\t\t\t\tdeep".toList,
      "\t\t\t\x7b".toList, "  prose".toList, "\t\t\ton | off \x7d".toList, "\tb".toList,
      "\ta".toList]
    let deleted := fun number => number == 0 || number == 1 || number == 3 || number == 5
    let left := ["\ta".toList, "\t\t\t\x7b".toList, "\t\t\ton | off \x7d".toList,
      "\tb".toList, "\ta".toList]
    delete deleted lines = left ∧
      (ofLines ⟨none, .replace⟩ left).result = (ofLines ⟨none, .replace⟩ lines).result ∧
      (ofLines ⟨none, .reject⟩ lines).result =
        .error (.duplicateName "a".toList " at line 9".toList) ∧
      (ofLines ⟨none, .reject⟩ left).result =
        .error (.duplicateName "a".toList " at line 5".toList) := by
  intro lines deleted left
  have noise : ∀ number line, lines[number]? = some line → deleted number →
      IsNoise (lines.take number) line := by
    intro number line found gone
    simp only [deleted, Bool.or_eq_true, beq_iff_eq] at gone
    rcases gone with ((rfl | rfl) | rfl) | rfl
    · obtain rfl := Option.some.inj found
      exact .ignored rfl
    · obtain rfl := Option.some.inj found
      exact .outside (by decide)
    · obtain rfl := Option.some.inj found
      have split : lines.take 3 = lines.take 2 ++ "\ta".toList :: [] := rfl
      exact .deep rfl split rfl (List.forall_mem_nil _)
    · obtain rfl := Option.some.inj found
      exact .ignored rfl
  have remains : delete deleted lines = left := rfl
  have refused : (ofLines ⟨none, .reject⟩ lines).result =
      .error (.duplicateName "a".toList " at line 9".toList) := rfl
  have place8 : (Context.mk none .reject).place 8 = " at line 9".toList := by decide
  have place4 : (Context.mk none .reject).place 4 = " at line 5".toList := by decide
  have moved : newNumber deleted 8 = 4 := by decide
  obtain ⟨replaced, rejected⟩ := result_ofLines_delete none lines deleted noise
  rw [remains] at replaced rejected
  refine ⟨remains, replaced, refused, ?_⟩
  rcases rejected with ⟨entries, succeeds, -⟩ | ⟨name, number, header, whole, reduced, -⟩
  · rw [refused] at succeeds
    cases succeeds
  · rw [refused] at whole
    have located := Except.error.inj whole
    simp only [ParseError.duplicateName.injEq] at located
    obtain ⟨rfl, place⟩ := located
    have number_eq : 8 = number := Context.place_inj (place8.trans place)
    rw [reduced, ← number_eq, moved, place4]

end Manual

end BootManual
