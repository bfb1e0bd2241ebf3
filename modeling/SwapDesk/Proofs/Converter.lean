import SwapDesk.Converter
import SwapDesk.Proofs.Amount.Canonical
import SwapDesk.Proofs.Amount.Refusal
import SwapDesk.Proofs.Amount.RoundTrip
import SwapDesk.Proofs.Json.RoundTrip
import SwapDesk.Proofs.Text.Line

/-!
# Lists of amounts

The converter answers each line that is not blank for itself. The records and the rows of the
table are written apart from each other, yet both tell the same of a line, and what is read off
them is what the conversion of the line gives. An output is again a line, and it goes back to the
number that the line has written.
-/

namespace SwapDesk.Converter

open Decimal (Denotes IsDigits IsCanonical places unitsText)

variable {reverse : Bool} {line output : List Char}

/-! ## Lines -/

private theorem inputs_append (a b : List Char) :
    inputs (a ++ '\n' :: b) = inputs a ++ inputs b := by
  simp only [inputs, Text.splitAt_eq_splitOn, List.splitOn_append_cons_self, List.map_append,
    List.filter_append]

private theorem mem_inputs {text : List Char} (h : line ∈ inputs text) :
    Text.trim line = line ∧ '\n' ∉ line := by
  rw [inputs, Text.splitAt_eq_splitOn, List.mem_filter, List.mem_map] at h
  obtain ⟨⟨piece, hpiece, rfl⟩, -⟩ := h
  exact ⟨Text.trim_trim piece,
    fun hmem => Text.not_mem_of_mem_splitOn hpiece (Text.mem_of_mem_trim hmem)⟩

private theorem inputs_of_lines (text : List Char) :
    ∃ lines, ['\n'].intercalate lines = text ∧ (∀ line ∈ lines, '\n' ∉ line) ∧
      inputs text = (lines.map Text.trim).filter (· ≠ []) :=
  ⟨text.splitOn '\n', List.intercalate_splitOn '\n',
    fun _ hline => Text.not_mem_of_mem_splitOn hline, by rw [inputs, Text.splitAt_eq_splitOn]⟩

/-! ## Outputs -/

private theorem unitsText_ne_nil (n : Nat) : unitsText n ≠ [] := by
  intro hnil
  have hlength := congrArg List.length hnil
  rw [unitsText] at hlength
  split at hlength
  · simp at hlength
  · rw [Decimal.length_padLeft, List.length_nil, places] at hlength
    omega

private theorem convert_reverse_eq_ok_iff :
    convert true line = .ok output ↔ IsDigits (Text.trim line) ∧ Text.trim line ≠ [] ∧
      output = Decimal.pointed .full (Text.trim line) := by
  have hshown : ∀ a : Amount, IsDigits (Text.trim line) →
      a.digits = Decimal.canonical (Text.trim line) →
      Decimal.pointed .full a.digits = Decimal.pointed .full (Text.trim line) := by
    intro a hdigits ha
    rw [ha, Decimal.canonical_eq_digits hdigits, Decimal.pointed_full (Decimal.isDigits_digits _),
      Decimal.pointed_full hdigits, Decimal.value_digits]
  have hiff := @Amount.ofText_eq_ok_iff (String.ofList line)
  rw [String.toList_ofList] at hiff
  rw [convert, if_pos rfl]
  constructor
  · intro h
    cases hread : Amount.ofText (String.ofList line) with
    | error e =>
      rw [hread] at h
      contradiction
    | ok a =>
      rw [hread] at h
      cases h
      obtain ⟨hdigits, hne, ha⟩ := hiff.mp hread
      exact ⟨hdigits, hne, hshown a hdigits ha⟩
  · rintro ⟨hdigits, hne, rfl⟩
    have ha : (Amount.mk (Decimal.value (Text.trim line))).digits =
        Decimal.canonical (Text.trim line) :=
      (Amount.digits_eq_canonical_iff hdigits).mpr rfl
    rw [hiff.mpr ⟨hdigits, hne, ha⟩]
    exact congrArg Except.ok (hshown _ hdigits ha)

private theorem denotes_of_convert (h : convert reverse line = .ok output) :
    output ≠ [] ∧ ∃ q, Denotes output q := by
  cases reverse with
  | false =>
    obtain ⟨_, _, n, _, rfl⟩ := (Decimal.scale_eq_ok_iff _ _).mp h
    exact ⟨unitsText_ne_nil n, _, .whole (Decimal.isDigits_unitsText n)⟩
  | true =>
    obtain ⟨hdigits, -, rfl⟩ := convert_reverse_eq_ok_iff.mp h
    refine ⟨?_, _, Decimal.denotes_pointed_full hdigits⟩
    rw [Decimal.pointed_full hdigits]
    exact List.append_ne_nil_of_right_ne_nil _ (List.cons_ne_nil _ _)

private theorem output_chars (h : convert reverse line = .ok output) {c : Char} (hc : c ∈ output) :
    c.isDigit ∨ c = '.' := by
  obtain ⟨-, q, hq⟩ := denotes_of_convert h
  exact hq.digit_or_point hc

theorem newline_not_mem_output (h : convert reverse line = .ok output) : '\n' ∉ output :=
  fun hmem => absurd (output_chars h hmem) (by decide)

private theorem inputs_output (h : convert reverse line = .ok output) :
    inputs output = [output] := by
  obtain ⟨hne, q, hq⟩ := denotes_of_convert h
  rw [inputs, Text.splitAt_eq_splitOn, List.splitOn_eq_singleton (newline_not_mem_output h),
    List.map_singleton, hq.trim]
  simpa using hne

private theorem input_of_convert {e : AmountError} (h : convert reverse line = .error e) :
    e.input = String.ofList (Text.trim line) := by
  cases reverse with
  | false => exact (Decimal.scale_error_cases h).1
  | true =>
    rw [convert, if_pos rfl, Amount.ofText, String.toList_ofList] at h
    dsimp only at h
    split at h
    · cases h
      rfl
    · split at h
      · contradiction
      · cases h
        rfl

/-! ## What is told of a line -/

/-- What comes of a line: its conversion, or the reason why there is none. -/
abbrev Outcome := Except (List Char) (List Char)

def outcome (reverse : Bool) (line : List Char) : Outcome :=
  (convert reverse line).mapError fun e => e.fault.message.toList

/-- What a record tells: a line and what came of it. The message of a refusal repeats the line in
front of the reason. -/
def readRecord? : Json.Written → Option (List Char × Outcome)
  | .object [(first, .string line), (second, .string shown)] =>
    let told := "invalid amount ".toList ++ Text.quoted line.toList ++ ": ".toList
    if first ≠ "input" then none
    else if second = "output" then some (line.toList, .ok shown.toList)
    else if second = "error" then
      (shown.toList.dropPrefix? told).map fun reason => (line.toList, .error reason)
    else none
  | _ => none

/-- What a row tells: the cells of a line and, in the last cell, what came of it. -/
def readRow (row : Text.Columns.Row) : List Char × Outcome :=
  let shown := row.getLastD []
  let came : Outcome := match shown.dropPrefix? "error: ".toList with
    | some reason => .error reason
    | none => .ok shown
  (['\t'].intercalate row.dropLast, came)

private theorem dropPrefix?_append (mark rest : List Char) :
    (mark ++ rest).dropPrefix? mark = some rest :=
  List.dropPrefix?_append_of_beq rest BEq.rfl

private theorem toList_message (e : AmountError) :
    e.message.toList = "invalid amount ".toList ++ Text.quoted e.input.toList ++ ": ".toList ++
      e.fault.message.toList := by
  have hquoted : ("invalid amount " ++ String.ofList (Text.quoted e.input.toList)).toList =
      "invalid amount ".toList ++ Text.quoted e.input.toList :=
    String.toList_append.trans (congrArg _ String.toList_ofList)
  change ("invalid amount " ++ String.ofList (Text.quoted e.input.toList) ++ ": " ++
    e.fault.message).toList = _
  rw [String.toList_append, String.toList_append, hquoted]

private theorem readRecord?_record (h : Text.trim line = line) :
    readRecord? (record reverse line).written = some (line, outcome reverse line) := by
  rw [record, outcome]
  cases hconvert : convert reverse line with
  | ok output =>
    simp only [Json.written, Json.writtenFields, readRecord?, String.toList_ofList]
    rfl
  | error e =>
    have hinput : e.input.toList = line := by
      rw [input_of_convert hconvert, String.toList_ofList, h]
    have hother : "error" ≠ "output" := by decide
    simp only [Json.written, Json.writtenFields, readRecord?, String.toList_ofList, ne_eq,
      not_true, if_false, hother, if_true]
    rw [toList_message, hinput, dropPrefix?_append]
    rfl

private theorem readRow_row (reverse : Bool) (line : List Char) :
    readRow (row reverse line) = (line, outcome reverse line) := by
  have hcells : ∀ shown,
      ['\t'].intercalate (Text.splitAt '\t' line ++ [shown]).dropLast = line := by
    intro shown
    rw [List.dropLast_concat, Text.splitAt_eq_splitOn, List.intercalate_splitOn]
  rw [readRow, row, outcome]
  cases hconvert : convert reverse line with
  | ok output =>
    have hplain : output.dropPrefix? "error: ".toList = none := by
      by_contra hsome
      obtain ⟨reason, hreason⟩ := Option.ne_none_iff_exists'.mp hsome
      obtain ⟨mark, rfl, hmark⟩ := List.dropPrefix?_eq_some_iff.mp hreason
      rw [beq_iff_eq] at hmark
      have hmem : 'e' ∈ mark ++ reason := by
        rw [hmark]
        exact List.mem_append_left reason (by decide)
      have hchar := output_chars hconvert hmem
      exact absurd hchar (by decide)
    simp only [hcells, List.getLastD_concat, hplain]
    rfl
  | error e =>
    have hmarked : (refusal e).dropPrefix? "error: ".toList = some e.fault.message.toList :=
      dropPrefix?_append ..
    simp only [hcells, List.getLastD_concat, hmarked]
    rfl

/-! ## What is written -/

private theorem record_eq (reverse : Bool) (line : List Char) :
    ∃ name shown, record reverse line =
      .object [("input", .string (String.ofList line)), (name, .string shown)] := by
  rw [record]
  cases convert reverse line with
  | ok output => exact ⟨"output", String.ofList output, rfl⟩
  | error e => exact ⟨"error", e.message, rfl⟩

private theorem newline_not_mem_record (reverse : Bool) (line : List Char) :
    '\n' ∉ (record reverse line).chars := by
  obtain ⟨name, shown, hrecord⟩ := record_eq reverse line
  simp [hrecord, Json.chars, Json.moreFields, Json.Grammar.newline_not_mem_quote]

private theorem isExact_record (reverse : Bool) (line : List Char) :
    (record reverse line).IsExact := by
  obtain ⟨name, shown, hrecord⟩ := record_eq reverse line
  simp [hrecord]

private theorem newline_not_mem_row (h : '\n' ∉ line) : ∀ cell ∈ row reverse line, '\n' ∉ cell := by
  intro cell hcell hmem
  rw [row, List.mem_append, List.mem_singleton, Text.splitAt_eq_splitOn] at hcell
  rcases hcell with hcell | rfl
  · exact h (Text.mem_of_mem_splitOn hcell hmem).1
  · cases hconvert : convert reverse line with
    | ok output =>
      rw [hconvert] at hmem
      exact newline_not_mem_output hconvert hmem
    | error e =>
      rw [hconvert] at hmem
      obtain hmark | hreason := List.mem_append.mp hmem
      · exact absurd hmark (by decide)
      · exact Text.newline_not_mem_message e.fault hreason

private theorem splitAt_run_json (reverse : Bool) (text : String) :
    Text.splitAt '\n' (run true reverse text).toList =
      (inputs text.toList).map (fun line => (record reverse line).chars) ++ [[]] := by
  rw [run, String.toList_ofList, if_pos rfl, Text.splitAt_eq_splitOn, Text.splitOn_lines]
  intro shown hshown
  obtain ⟨line, -, rfl⟩ := List.mem_map.mp hshown
  exact newline_not_mem_record reverse line

private theorem splitAt_run_table (reverse : Bool) (text : String) :
    Text.splitAt '\n' (run false reverse text).toList =
      Text.Columns.align ((inputs text.toList).map (row reverse)) ++ [[]] := by
  rw [run, String.toList_ofList, if_neg Bool.false_ne_true, Text.splitAt_eq_splitOn,
    Text.splitOn_lines]
  apply Text.Columns.newline_not_mem_align
  intro cells hcells
  obtain ⟨line, hline, rfl⟩ := List.mem_map.mp hcells
  exact newline_not_mem_row (mem_inputs hline).2

private theorem readRecord?_parse (h : Text.trim line = line) :
    (Json.Written.parse? (String.ofList (record reverse line).chars)).bind readRecord? =
      some (line, outcome reverse line) := by
  have hparse := Json.Written.parse?_render (isExact_record reverse line)
  rw [Json.render] at hparse
  rw [hparse, Option.bind_some, readRecord?_record h]

private theorem run_append (reverse : Bool) (text more : String) :
    run true reverse (text ++ "\n" ++ more) = run true reverse text ++ run true reverse more := by
  have hinputs : inputs (text ++ "\n" ++ more).toList =
      inputs text.toList ++ inputs more.toList := by
    rw [String.toList_append, String.toList_append, List.append_assoc]
    exact inputs_append text.toList more.toList
  rw [run, run, run, hinputs, ← String.ofList_append]
  simp only [if_true, List.map_append, List.flatMap_append]

/-! ## There and back -/

/-- The text shows the number with all places after the point and no needless zero before it. -/
def ShowsAll (shown : List Char) (q : ℚ) : Prop :=
  ∃ whole fraction, shown = whole ++ '.' :: fraction ∧ IsCanonical whole ∧ IsDigits fraction ∧
    fraction.length = places ∧ Denotes shown q

private theorem showsAll_pointed {y : List Char} (hy : IsDigits y) :
    ShowsAll (Decimal.pointed .full y) (Decimal.value y / 10 ^ places) :=
  ⟨_, _, Decimal.pointed_full hy, Decimal.isCanonical_digits _, Decimal.isDigits_fractionText _,
    Decimal.length_fractionText _, Decimal.denotes_pointed_full hy⟩

/-- What a line comes to in units is shown as the number of the line. -/
theorem convert_back {units : List Char} (h : convert false line = .ok units) :
    ∃ q shown, Denotes (Text.trim line) q ∧ convert true units = .ok shown ∧ ShowsAll shown q := by
  obtain ⟨q, hq, n, hn, rfl⟩ := (Decimal.scale_eq_ok_iff _ _).mp h
  have hdigits := Decimal.isDigits_unitsText n
  have htrim := (Denotes.whole hdigits).trim
  have hall := showsAll_pointed hdigits
  rw [Decimal.value_unitsText, ← hn, mul_div_cancel_right₀ _ (pow_ne_zero _ (by decide))] at hall
  refine ⟨q, _, hq, ?_, hall⟩
  rw [convert_reverse_eq_ok_iff, htrim]
  exact ⟨hdigits, unitsText_ne_nil n, rfl⟩

theorem convert_forth {shown : List Char} (h : convert true line = .ok shown) :
    IsDigits (Text.trim line) ∧ ∃ units, convert false shown = .ok units ∧
      Decimal.canonical units = Decimal.canonical (Text.trim line) := by
  obtain ⟨hdigits, -, rfl⟩ := convert_reverse_eq_ok_iff.mp h
  refine ⟨hdigits, unitsText (Decimal.value (Text.trim line)), ?_, ?_⟩
  · rw [convert, if_neg Bool.false_ne_true, Decimal.scale_pointed_full hdigits]
  · rw [Decimal.canonical_eq_digits (Decimal.isDigits_unitsText _), Decimal.value_unitsText,
      Decimal.canonical_eq_digits hdigits]

private theorem outcome_eq_ok_iff :
    outcome reverse line = .ok output ↔ convert reverse line = .ok output := by
  rw [outcome]
  cases convert reverse line <;> simp [Except.mapError]

/-- Every line that is not blank is answered once, for itself and in its place, whatever the other
lines are. The records, one a line, and the rows of the table, before they are aligned, tell the
same: the conversion of each line, or the reason why it is refused. More lines add their records to
those of the lines before. An output is a line again: one in units goes back to the number that the
line writes, with all places, and one in whole tokens goes back to the count of units that the line
is, but for zeros in front. -/
theorem answers_each_line (reverse : Bool) (text : String) :
    let lines := inputs text.toList
    let told := lines.map fun line => (line, outcome reverse line)
    let rows := lines.map (row reverse)
    (∃ pieces, ['\n'].intercalate pieces = text.toList ∧ (∀ piece ∈ pieces, '\n' ∉ piece) ∧
      lines = (pieces.map Text.trim).filter (· ≠ [])) ∧
    (∃ records, Text.splitAt '\n' (run true reverse text).toList = records ++ [[]] ∧
      records.map (fun shown => (Json.Written.parse? (String.ofList shown)).bind readRecord?) =
        told.map some) ∧
    Text.splitAt '\n' (run false reverse text).toList = Text.Columns.align rows ++ [[]] ∧
    (Text.Columns.align rows).length = lines.length ∧ rows.map readRow = told ∧
    (∀ more, run true reverse (text ++ "\n" ++ more) =
      run true reverse text ++ run true reverse more) ∧
    (∀ line units, outcome false line = .ok units → inputs units = [units] ∧
      ∃ q shown, Denotes (Text.trim line) q ∧ outcome true units = .ok shown ∧ ShowsAll shown q) ∧
    ∀ line shown, outcome true line = .ok shown → inputs shown = [shown] ∧
      IsDigits (Text.trim line) ∧ ∃ units, outcome false shown = .ok units ∧
        Decimal.canonical units = Decimal.canonical (Text.trim line) := by
  intro lines told rows
  simp only [outcome_eq_ok_iff]
  refine ⟨inputs_of_lines text.toList, ⟨_, splitAt_run_json reverse text, ?_⟩,
    splitAt_run_table reverse text, ?_, ?_, run_append reverse text, ?_, ?_⟩
  · rw [List.map_map, List.map_map]
    apply List.map_congr_left
    intro line hline
    rw [Function.comp_apply, Function.comp_apply]
    exact readRecord?_parse (mem_inputs hline).1
  · rw [Text.Columns.length_align, List.length_map]
  · rw [List.map_map]
    apply List.map_congr_left
    intro line _
    rw [Function.comp_apply]
    exact readRow_row reverse line
  · exact fun line units h => ⟨inputs_output h, convert_back h⟩
  · exact fun line shown h => ⟨inputs_output h, convert_forth h⟩

/-- Half a token between blanks, and seven units with zeros in front. -/
theorem answers_each_line_halves :
    outcome false [' ', '.', '5'] = .ok ('5' :: List.replicate 23 '0') ∧
    inputs ('5' :: List.replicate 23 '0') = ['5' :: List.replicate 23 '0'] ∧
    (∃ q shown, Denotes ['.', '5'] q ∧
      outcome true ('5' :: List.replicate 23 '0') = .ok shown ∧ ShowsAll shown q) ∧
    outcome true ['0', '7'] = .ok ('0' :: '.' :: (List.replicate 23 '0' ++ ['7'])) ∧
    ∃ units, outcome false ('0' :: '.' :: (List.replicate 23 '0' ++ ['7'])) = .ok units ∧
      Decimal.canonical units = ['7'] := by
  have hunits : outcome false [' ', '.', '5'] = .ok ('5' :: List.replicate 23 '0') := rfl
  have hshown : outcome true ['0', '7'] =
    .ok ('0' :: '.' :: (List.replicate 23 '0' ++ ['7'])) := rfl
  obtain ⟨-, -, -, -, -, -, back, forth⟩ := answers_each_line false ""
  exact ⟨hunits, (back _ _ hunits).1, (back _ _ hunits).2, hshown, (forth _ _ hshown).2.2⟩

end SwapDesk.Converter
