import GoCoverage.Proofs.Profile.Grammar
import GoCoverage.Proofs.Text.EncodedLines

/-! # Profiles that are read as bytes

The lines of a sequence of bytes are decoded one by one, each when it is its turn.  If the bytes are
the encoding of a text, their lines are those of the text, and the two readings are the same.  If
they are not, there is a first line that is no text.  The lines above it are read as they would be
in any text: if one of them does not fit, it is refused before the reading comes to that line, and
otherwise the reading ends there, since a line that is no text is no blank line and no mode is
missed before the end. -/

namespace GoCoverage.Profile

open Text

variable {bytes : List UInt8} {lines above : List (List Char)} {line : List Char}

/-- Encoded bytes are read as the text. -/
theorem parseBytes_encode (text : String) : parseBytes (encode text) = parse text := by
  have decoded : (linesOf lineBreakByte (encode text)).map
      (fun line => (decode? line).map String.toList) = (linesOf '\n' text.toList).map some := by
    rw [linesOf_encode, List.map_map]
    exact List.map_congr_left fun line _ => decode?_encodeLine line
  exact congrArg ofLines decoded

/-- The lines above the first one that is no text are read, and then the reading ends. -/
theorem parseBytes_eq_readFrom (h : UndecodableAfter lines (linesOf lineBreakByte bytes)) :
    parseBytes bytes = readFrom 1 Reading.start lines >>= fun _ => .error .undecodable := by
  obtain ⟨bad, after, split, isBad⟩ := h
  have decoded : (linesOf lineBreakByte bytes).map (fun line => (decode? line).map String.toList) =
      lines.map some ++ none :: after.map fun line => (decode? line).map String.toList := by
    rw [split, List.map_append, List.map_map, List.map_cons, isBad]
    exact congrArg (· ++ _) (List.map_congr_left fun line _ => decode?_encodeLine line)
  show ofLines ((linesOf lineBreakByte bytes).map _) = _
  rw [decoded, ofLines, List.zipIdx_append, List.foldlM_append]
  show (readFrom 1 Reading.start lines >>= _) >>= _ = _
  cases readFrom 1 Reading.start lines <;> rfl

theorem parseBytes_of_allFit (h : UndecodableAfter lines (linesOf lineBreakByte bytes))
    (fit : AllFit lines) : parseBytes bytes = .error .undecodable := by
  obtain ⟨reading, read, _⟩ := readFrom_of_allFit fit 1
  rw [parseBytes_eq_readFrom h, read]
  rfl

/-- A line that does not fit is refused before a line that is no text is come to, just as it is in a
text. -/
theorem parseBytes_of_not_fits {below : List (List Char)}
    (h : UndecodableAfter (above ++ line :: below) (linesOf lineBreakByte bytes))
    (fit : AllFit above) (unfit : ¬ Fits above line) :
    ∃ cause, parseBytes bytes = .error (.malformed (above.length + 1) cause) ∧
      ∀ text below', linesIn text = above ++ line :: below' → parse text = parseBytes bytes := by
  obtain ⟨cause, refused⟩ := readFrom_of_not_fits fit unfit
  have malformed : parseBytes bytes = .error (.malformed (above.length + 1) cause) := by
    rw [parseBytes_eq_readFrom h, refused]
    rfl
  refine ⟨cause, malformed, fun text below' split => ?_⟩
  rw [malformed, parse_eq, split, refused]
  rfl

/-- **Bytes are read as the text that they encode, and a line that is no text ends the reading when
it is come to.**  If the bytes are no text, there is a first line that is none.  If the lines above
it fit, that line is the fault, whatever it holds and whatever stands below it.  If one of them does
not fit, it is blamed by its number, with the same fault as in any text that begins with these
lines. -/
theorem parseBytes_follows_lines (bytes : List UInt8) :
    (∀ text, decode? bytes = some text → parseBytes bytes = parse text) ∧
      (decode? bytes = none →
        ∃ lines, UndecodableAfter lines (linesOf lineBreakByte bytes)) ∧
      ∀ lines, UndecodableAfter lines (linesOf lineBreakByte bytes) →
        (AllFit lines → parseBytes bytes = .error .undecodable) ∧
          ∀ above line below, lines = above ++ line :: below → AllFit above → ¬ Fits above line →
            ∃ cause, parseBytes bytes = .error (.malformed (above.length + 1) cause) ∧
              ∀ text below', linesIn text = above ++ line :: below' →
                parse text = parseBytes bytes := by
  refine ⟨?_, exists_undecodableAfter, fun lines h => ⟨parseBytes_of_allFit h, ?_⟩⟩
  · intro text decoded
    rw [← decode?_eq_some_iff.mp decoded]
    exact parseBytes_encode text
  · rintro above line below rfl fit unfit
    exact parseBytes_of_not_fits h fit unfit

/-- A character that is cut off is no text, wherever its line stands: below lines that fit it ends
the reading, and below one that does not it is not come to. -/
theorem parseBytes_follows_lines_truncated :
    let header := "mode: set".toList
    let fine := encode "mode: set\n\nm/" ++ [0xC3]
    let spoilt := encode "mode: set\nm/\n" ++ [0xC3]
    decode? fine = none ∧ UndecodableAfter [header, []] (linesOf lineBreakByte fine) ∧
      AllFit [header, []] ∧ parseBytes fine = .error .undecodable ∧
      UndecodableAfter [header, "m/".toList] (linesOf lineBreakByte spoilt) ∧
      AllFit [header] ∧ ¬ Fits [header] "m/".toList ∧
      (∃ cause, parseBytes spoilt = .error (.malformed 2 cause)) ∧
      parse "mode: set\nm/" = parseBytes spoilt ∧
      decode? (encode "mode: é") = some "mode: é" ∧
      parseBytes (encode "mode: é") = parse "mode: é" := by
  intro header fine spoilt
  have isHeader : Fits [] header :=
    .header (by decide) ⟨.set, " set".toList, rfl, by decide +kernel⟩
  have fit : AllFit [header] := allFit_concat.mpr ⟨allFit_nil, isHeader⟩
  have fit' : AllFit [header, []] := allFit_concat.mpr ⟨fit, .blank (by decide)⟩
  have unfit : ¬ Fits [header] "m/".toList := by
    intro fits
    have knows : Reading.Knows ⟨some .set, []⟩ ([] ++ [header]) :=
      Reading.knows_concat_of_filled (by decide +kernel) (by decide)
    obtain ⟨next, read⟩ : ∃ next, Reading.line ⟨some .set, []⟩ (some "m/".toList, 2) = .ok next :=
      let ⟨next, read, _⟩ := line_of_fits knows fits
      ⟨next, read⟩
    have refused : Reading.line ⟨some .set, []⟩ (some "m/".toList, 2) =
        .error (.malformed 2 (.notABlock "m/")) := by decide +kernel
    rw [refused] at read
    cases read
  have first : UndecodableAfter [header, []] (linesOf lineBreakByte fine) :=
    ⟨[0x6D, 0x2F, 0xC3], [], by decide +kernel, by decide +kernel⟩
  have first' : UndecodableAfter [header, "m/".toList] (linesOf lineBreakByte spoilt) :=
    ⟨[0xC3], [], by decide +kernel, by decide +kernel⟩
  obtain ⟨_, _, reads⟩ := parseBytes_follows_lines fine
  obtain ⟨_, _, reads'⟩ := parseBytes_follows_lines spoilt
  obtain ⟨cause, malformed, same⟩ := (reads' _ first').2 [header] _ [] rfl fit unfit
  have decoded := decode?_encode "mode: é"
  exact ⟨by decide +kernel, first, fit', (reads _ first).1 fit', first', fit, unfit,
    ⟨cause, malformed⟩, same _ [] (by decide +kernel), decoded,
    (parseBytes_follows_lines _).1 _ decoded⟩

end GoCoverage.Profile
