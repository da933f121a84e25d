import GoCoverage.Pattern.Reader
import GoCoverage.Proofs.Outcome
import GoCoverage.Proofs.Pattern.Generated

/-! # Patterns that are read

A pattern that is read from a text asks in none of its repetitions for more matches than it allows
(`bounded_of_ofText?`).  The reader of counts sees to it where they are written, and all other
readers put together what they were given.  So matching finds what matches for every pattern that a
file can be left out by (`leavesOut_iff`).  The pattern for generated files is one of them: reading
its text gives a pattern that finds the same (`isIn_generated_of_text`). -/

namespace GoCoverage

namespace Pattern

/-! ## What a reading gives -/

namespace Reading

variable {α β : Type} {reading : Reading α} {next : α → Reading β} {given : α → Prop}
  {wanted : β → Prop}

/-- Whatever a reading gives has a property. -/
def Gives (reading : Reading α) (given : α → Prop) : Prop :=
  ∀ text a rest, reading.run text = some (a, rest) → given a

theorem Gives.anything (reading : Reading α) : reading.Gives fun _ => True :=
  fun _ _ _ _ => trivial

theorem Gives.pure {a : α} (h : given a) : (Pure.pure a : Reading α).Gives given := by
  rintro _ _ _ ⟨⟩
  exact h

theorem Gives.failure : (failure : Reading α).Gives given := by
  rintro _ _ _ ⟨⟩

theorem Gives.bind (first : reading.Gives given) (rest : ∀ a, given a → (next a).Gives wanted) :
    (reading >>= next).Gives wanted := by
  intro text b others run
  rw [StateT.run_bind] at run
  obtain ⟨⟨a, left⟩, ran, run⟩ := Option.bind_eq_some_iff.mp run
  exact rest a (first text a left ran) left b others run

/-- What is read before does not matter. -/
theorem Gives.after (reading : Reading α) (rest : ∀ a, (next a).Gives wanted) :
    (reading >>= next).Gives wanted :=
  (anything reading).bind fun a _ => rest a

theorem gives_require (condition : Bool) : (require condition).Gives fun _ => condition = true := by
  cases condition with
  | true => exact .pure rfl
  | false => exact .failure

end Reading

open Reading

/-! ## The readers of parts -/

/-- A count does not ask for more than it allows. -/
def Count.Bounded (count : Count) : Prop := ∀ m, count.most = some m → count.least ≤ m

theorem gives_counted (flags : Flags) : (counted flags).Gives Count.Bounded := by
  refine .after _ fun _ => .after _ fun least => .after _ fun next => ?_
  extract_lets finish
  have ending : ∀ most, (finish most).Gives Count.Bounded := by
    intro most
    refine .after _ fun _ => .after _ fun _ => .after _ fun _ => .after _ fun _ => ?_
    cases most with
    | none => exact .pure nofun
    | some most =>
      refine (gives_require _).bind fun _ allowed => .pure ?_
      rintro _ ⟨⟩
      simpa using allowed
  split
  · refine .after _ fun _ => .after _ fun _ => ?_
    split
    · exact ending none
    · exact .after _ fun most => ending (some most)
  · exact ending (some least)

theorem Count.bounded_of_ofSign? {c : Char} {count : Count} (h : ofSign? c = some count) :
    count.Bounded := by
  unfold ofSign? at h
  split at h <;> cases h <;> rintro _ ⟨⟩
  exact Nat.zero_le 1

theorem gives_ofPrimitive (flags : Flags) (primitive : Primitive) :
    (ofPrimitive flags primitive).Gives Bounded := by
  cases primitive with
  | literal c isByte => exact .after _ fun _ => .pure trivial
  | set _ | place _ => exact .pure trivial

theorem gives_primitive (flags : Flags) : (primitive flags).Gives Bounded := by
  refine .after _ fun _ => .after _ fun c => .after _ fun _ => ?_
  split
  · exact .after _ fun _ => gives_ofPrimitive flags _
  · exact .after _ fun _ => .pure trivial
  · exact .pure trivial
  · exact .pure trivial
  · exact gives_ofPrimitive flags _

/-! ## The reader of patterns -/

/-- The pattern of the part is bounded. -/
def Part.Bounded (part : Part) : Prop := part.pattern.Bounded

theorem Part.bounded_combineAll {combine : Pattern → Pattern → Pattern} {parts : List Part}
    (kept : ∀ first second : Pattern, first.Bounded → second.Bounded →
      (combine first second).Bounded)
    (h : ∀ part ∈ parts, part.Bounded) : (combineAll combine parts).Bounded := by
  have folded : ∀ (parts : List Part) (after : Part), (∀ part ∈ parts, part.Bounded) →
      after.Bounded →
      (parts.foldl (fun after part => join combine part after) after).Bounded := by
    intro parts
    induction parts with
    | nil => exact fun _ _ isBounded => isBounded
    | cons part parts ih =>
      intro after h isBounded
      obtain ⟨ofPart, ofParts⟩ := List.forall_mem_cons.mp h
      exact ih _ ofParts (kept _ _ ofPart isBounded)
  match parts, h with
  | [], _ => exact trivial
  | [part], h => exact h part (List.mem_singleton_self part)
  | part :: next :: parts, h =>
    obtain ⟨ofPart, ofParts⟩ := List.forall_mem_cons.mp h
    exact folded (next :: parts) part ofParts ofPart

theorem gives_repeatLast {count : Count} {parts : List Part} (isBounded : count.Bounded)
    (h : ∀ part ∈ parts, part.Bounded) :
    (repeatLast count parts).Gives fun parts => ∀ part ∈ parts, part.Bounded := by
  cases parts with
  | nil => exact .failure
  | cons part parts =>
    obtain ⟨ofPart, ofParts⟩ := List.forall_mem_cons.mp h
    exact .after _ fun _ => .pure (List.forall_mem_cons.mpr ⟨⟨ofPart, isBounded⟩, ofParts⟩)

/-- **What is read from bounded parts is bounded.** -/
theorem gives_body (flags : Flags) (fuel : Nat) {parts branches : List Part}
    (ofParts : ∀ part ∈ parts, part.Bounded) (ofBranches : ∀ branch ∈ branches, branch.Bounded) :
    (body flags fuel parts branches).Gives Part.Bounded := by
  induction fuel generalizing flags parts branches with
  | zero => exact .failure
  | succ fuel ih =>
    have ofBranch : (Part.combineAll .sequence parts).Bounded :=
      Part.bounded_combineAll (fun _ _ h h' => ⟨h, h'⟩) ofParts
    have ofAll : ∀ branch ∈ Part.combineAll .sequence parts :: branches, branch.Bounded :=
      List.forall_mem_cons.mpr ⟨ofBranch, ofBranches⟩
    have ending : (Part.combineAll .choice (Part.combineAll .sequence parts :: branches)).Bounded :=
      Part.bounded_combineAll (fun _ _ h h' => ⟨h, h'⟩) ofAll
    have going : ∀ (flags : Flags) (part : Part), part.Bounded →
        (body flags fuel (part :: parts) branches).Gives Part.Bounded :=
      fun flags _ ofPart => ih flags (List.forall_mem_cons.mpr ⟨ofPart, ofParts⟩) ofBranches
    have inside : ∀ flags : Flags, (body flags fuel [] []).Gives Part.Bounded :=
      fun flags => ih flags nofun nofun
    refine .after _ fun _ => .after _ fun next => ?_
    dsimp only
    -- one case for each character that a pattern can go on with
    split
    · exact .pure ending
    · exact .pure ending
    · exact .after _ fun _ => ih flags nofun ofAll
    · refine .after _ fun _ => .after _ fun head => ?_
      cases head with
      | switched flags => exact going flags _ trivial
      | marked name? =>
        exact (inside flags).bind fun _ ofGroup => .after _ fun _ => going flags _ ofGroup
      | opened inner =>
        exact (inside inner).bind fun _ ofGroup => .after _ fun _ => going flags _ ofGroup
    · exact .after _ fun _ => .after _ fun _ => going flags _ trivial
    · refine .after _ fun _ => (gives_counted flags).bind fun _ ofCount => ?_
      exact (gives_repeatLast ofCount ofParts).bind fun _ ofParts => ih flags ofParts ofBranches
    · split
      · rename_i sign
        refine .after _ fun _ => .after _ fun _ => ?_
        exact (gives_repeatLast (Count.bounded_of_ofSign? sign) ofParts).bind fun _ ofParts =>
          ih flags ofParts ofBranches
      · exact (gives_primitive flags).bind fun _ ofPattern => going flags _ ofPattern

/-- **No pattern that a text stands for asks for more matches than it allows.** -/
theorem bounded_of_ofText? {text : String} {pattern : Pattern} (h : ofText? text = some pattern) :
    pattern.Bounded := by
  obtain ⟨⟨part, rest⟩, ran, h⟩ := Option.bind_eq_some_iff.mp h
  obtain ⟨_, _, h⟩ := Option.bind_eq_some_iff.mp h
  obtain ⟨_, _, h⟩ := Option.bind_eq_some_iff.mp h
  obtain ⟨_, _, h⟩ := Option.bind_eq_some_iff.mp h
  obtain ⟨_, _, same⟩ := Option.bind_eq_some_iff.mp h
  cases same
  have read : (body .default (text.toList.length + 1) [] []).Gives Part.Bounded :=
    gives_body _ _ nofun nofun
  exact read _ _ _ ran

/-- **The pattern for generated files is the one that its text stands for**, but for the grouping of
its parts. -/
theorem isIn_generated_of_text : ∃ read,
    ofText? "(?m)^// Code generated .* DO NOT EDIT\\.$" = some read ∧
      ∀ text, read.isIn text = generated.isIn text := by
  let letters (word : List Char) : List Pattern := word.map fun c => one (.single c)
  let rows : List (List Pattern) := [[nothing], [place .startOfLine], letters bannerStart,
    [repeated (one notLineFeed) 0 none], letters bannerEnd, [place .endOfLine]]
  have read : ofText? "(?m)^// Code generated .* DO NOT EDIT\\.$" =
      some (sequenceOf rows.flatten) := by
    decide +kernel
  -- switching letters on is a part that matches the empty text
  have same : ∀ text i j,
      (sequenceOf rows.flatten).Matches text i j ↔ generated.Matches text i j := by
    intro text i j
    rw [matches_sequenceOf_flatten]
    show (sequenceOf (nothing :: _)).Matches text i j ↔ _
    rw [matches_sequenceOf_cons]
    exact exists_eq_left'
  refine ⟨_, read, fun text => Bool.eq_iff_iff.mpr ?_⟩
  rw [isIn_iff_occursIn (bounded_of_ofText? read), isIn_iff_occursIn bounded_generated]
  simp only [OccursIn, same]

end Pattern

namespace Ignore

variable {settings : Settings} {ignore : Ignore}

/-- A pattern is asked for, and it occurs in the text. -/
def Finds (text? : Option String) (text : String) : Prop :=
  ∃ asked, text? = some asked ∧
    ∃ pattern, Pattern.ofText? asked = some pattern ∧ pattern.OccursIn text.toList

theorem matchesIn_iff {text? : Option String} {pattern? : Option Pattern}
    (h : compile text? = .ok pattern?) (text : String) :
    matchesIn pattern? text = true ↔ Finds text? text := by
  cases text? with
  | none =>
    cases h
    simp [matchesIn, Finds]
  | some asked =>
    rw [compile] at h
    split at h <;> cases h
    rename_i pattern read
    simp [matchesIn, Finds, read, Pattern.isIn_iff_occursIn (Pattern.bounded_of_ofText? read)]

/-- The patterns are those that the texts stand for. -/
theorem compile_of_ofSettings (h : ofSettings settings = .ok ignore) :
    compile settings.paths = .ok ignore.paths ∧
      compile settings.directories = .ok ignore.directories ∧
      compile settings.names = .ok ignore.names ∧ compile settings.content = .ok ignore.content ∧
      settings.generated = ignore.generated := by
  obtain ⟨_, paths, h⟩ := bind_eq_ok.mp h
  obtain ⟨_, directories, h⟩ := bind_eq_ok.mp h
  obtain ⟨_, names, h⟩ := bind_eq_ok.mp h
  obtain ⟨_, content, h⟩ := bind_eq_ok.mp h
  cases h
  exact ⟨paths, directories, names, content, rfl⟩

/-- **A file is left out exactly if a pattern that was asked for occurs where it is looked for, or
if generated files were asked for and a line says that the file is one.** -/
theorem leavesOut_iff (h : ofSettings settings = .ok ignore) (path content : String) :
    ignore.leavesOut path content = true ↔
      Finds settings.paths path ∨ Finds settings.directories (splitPath path).1 ∨
        Finds settings.names (splitPath path).2 ∨ Finds settings.content content ∨
        settings.generated = true ∧
          ∃ line ∈ Text.linesOf '\n' content.toList, Pattern.SaysGenerated line := by
  obtain ⟨paths, directories, names, inContent, generated⟩ := compile_of_ofSettings h
  simp only [leavesOut, matchesPath, matchesContent, Bool.or_eq_true, Bool.and_eq_true,
    matchesIn_iff paths, matchesIn_iff directories, matchesIn_iff names, matchesIn_iff inContent,
    Pattern.isIn_generated_iff, generated, or_assoc]
  rw [or_comm (a := _ ∧ _)]

end Ignore

end GoCoverage
