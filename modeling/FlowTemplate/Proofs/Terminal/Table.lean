import FlowTemplate.Proofs.Terminal.Cells
import FlowTemplate.Terminal.Table
import Mathlib.Algebra.GroupWithZero.Nat
/-!
# Tables for which there is room

A line that is too wide for its column is broken, and the columns of a table that is too wide give
way. If there is room for every column to be as wide as its widest cell, and the lines of the cells
hold nothing that is expanded or cut off, the table shows each row as the lines of its cells beside
one another, with blanks up to the widths of the columns. Such a table can be printed.
-/

namespace FlowTemplate

/-! ## Lines that stay whole -/

namespace Text

/-- A line of whole characters that stays as it is where there is room for it: there is no tab to
expand in it and no blank to cut off at its end. -/
structure IsSteady (line : List Char) : Prop where
  printable : IsPrintable line
  noTab : '\t' ∉ line
  noBlankEnd : ∀ c ∈ line.getLast?, isBlank c = false

/-- A line of blanks has no parts. Any other one starts with a part, which a blank ends if something
is behind it. -/
theorem wordParts_succ (fuel : Nat) (s : List Char) :
    (wordParts (fuel + 1) s = [] ∧ ∀ c ∈ s, isBlank c = true) ∨
      ∃ part rest, s = part ++ rest ∧ wordParts (fuel + 1) s = part :: wordParts fuel rest ∧
        part ≠ [] ∧ (rest = [] ∨ ∃ start c, part = start ++ [c] ∧ isBlank c = true) := by
  obtain ⟨before, s₁, hbefore⟩ : ∃ before s₁, s.span isBlank = (before, s₁) := ⟨_, _, rfl⟩
  obtain ⟨word, s₂, hword⟩ : ∃ word s₂, s₁.span (!isBlank ·) = (word, s₂) := ⟨_, _, rfl⟩
  obtain ⟨after, rest, hafter⟩ : ∃ after rest, s₂.span isBlank = (after, rest) := ⟨_, _, rfl⟩
  have hparts : wordParts (fuel + 1) s =
      if word.isEmpty then [] else (before ++ word ++ after) :: wordParts fuel rest := by
    simp only [wordParts, hbefore, hword, hafter]
  obtain ⟨rfl, hblanks, hstart⟩ := of_span hbefore
  obtain ⟨rfl, -, hend⟩ := of_span hword
  obtain ⟨rfl, hgap, hnext⟩ := of_span hafter
  cases word with
  | nil =>
    -- what is behind the blanks neither is a word nor starts with a blank, so it is nothing
    have hnothing : after ++ rest = [] := by
      cases hhead : after ++ rest with
      | nil => rfl
      | cons c behind =>
        rw [hhead] at hstart hend
        have hblank := hend c rfl
        rw [hstart c rfl] at hblank
        cases hblank
    left
    refine ⟨hparts, ?_⟩
    rw [hnothing, List.append_nil, List.append_nil]
    exact hblanks
  | cons c word =>
    right
    refine ⟨before ++ c :: word ++ after, rest, by simp, hparts, by simp, ?_⟩
    rcases List.eq_nil_or_concat after with rfl | ⟨start, d, rfl⟩
    · left
      cases rest with
      | nil => rfl
      | cons d behind =>
        have hblank := hend d rfl
        rw [hnext d rfl] at hblank
        cases hblank
    · exact .inr ⟨before ++ c :: word ++ start, d, by simp, hgap d (by simp)⟩

/-- The parts of a line take no more columns than the line. -/
theorem wordParts_fit (fuel : Nat) {s : List Char} (hs : IsPrintable s) :
    (∀ part ∈ wordParts fuel s, IsPrintable part) ∧
      ((wordParts fuel s).map cellsOf).sum ≤ cellsOf s := by
  induction fuel generalizing s with
  | zero => simp [wordParts]
  | succ fuel ih =>
    rcases wordParts_succ fuel s with ⟨hparts, -⟩ | ⟨part, rest, rfl, hparts, -, hdivided⟩
    · simp [hparts]
    · rw [hparts, List.forall_mem_cons, List.map_cons, List.sum_cons]
      rcases hdivided with rfl | ⟨start, c, rfl, hc⟩
      · have hnone := ih IsPrintable.nil
        have hempty : cellsOf [] = 0 := rfl
        rw [List.append_nil] at hs ⊢
        exact ⟨⟨hs, hnone.1⟩, by omega⟩
      · rw [List.append_assoc, List.singleton_append] at hs
        obtain ⟨hstart, hrest⟩ := hs.split (ne_mark_of_isBlank hc)
        have hpart : IsPrintable (start ++ [c]) :=
          hstart.append (.singleton (ne_mark_of_isBlank hc))
        obtain ⟨hlater, hsum⟩ := ih hrest
        have hge := cellsOf_append_ge (t := rest) hc hpart
        exact ⟨⟨hpart, hlater⟩, by omega⟩

theorem flatten_wordParts {fuel : Nat} {s : List Char} (hfuel : s.length ≤ fuel)
    (hend : ∀ c ∈ s.getLast?, isBlank c = false) : (wordParts fuel s).flatten = s := by
  induction fuel generalizing s with
  | zero =>
    obtain rfl := List.length_eq_zero_iff.mp (Nat.le_zero.mp hfuel)
    rfl
  | succ fuel ih =>
    rcases wordParts_succ fuel s with ⟨hparts, hblanks⟩ | ⟨part, rest, rfl, hparts, hpart, -⟩
    · rcases List.eq_nil_or_concat s with rfl | ⟨start, c, rfl⟩
      · rw [hparts]
        rfl
      · have hblank := hend c (by simp)
        rw [hblanks c (by simp)] at hblank
        cases hblank
    · have hlength : rest.length ≤ fuel := by
        have hpos := List.length_pos_iff.mpr hpart
        rw [List.length_append] at hfuel
        omega
      have hlast : ∀ c ∈ rest.getLast?, isBlank c = false := by
        intro c hc
        refine hend c ?_
        rw [List.getLast?_append, hc]
        rfl
      rw [hparts, List.flatten_cons, ih hlength hlast]

/-- Parts that fit a width all together are put on one line. -/
theorem fill_of_fit {overflow : Overflow} {width used : Nat} {parts : List (List Char)}
    (hparts : ∀ part ∈ parts, IsPrintable part) (line : List Char)
    (hfit : used + (parts.map cellsOf).sum ≤ width) :
    fill overflow width line used parts = [line ++ parts.flatten] := by
  induction parts generalizing line used with
  | nil => simp [fill]
  | cons part rest ih =>
    obtain ⟨hpart, hrest⟩ := List.forall_mem_cons.mp hparts
    rw [List.map_cons, List.sum_cons] at hfit
    have htrimmed := hpart.cellsOf_trimEnd_le
    have hroom : used + cellsOf (trimEnd part) ≤ width := by omega
    have hbehind : used + cellsOf part + (rest.map cellsOf).sum ≤ width := by omega
    unfold fill
    rw [if_pos hroom, ih hrest (line ++ part) hbehind, List.flatten_cons, List.append_assoc]

theorem wrapLine_of_isSteady {overflow : Overflow} {width : Nat} {line : List Char}
    (h : IsSteady line) (hfit : cellsOf line ≤ width) : wrapLine overflow width line = [line] := by
  have htabs : expandTabs 0 (line.splitOn '\t') = line := by
    rw [List.splitOn_eq_singleton h.noTab]
    rfl
  have hlines : (if (wordParts line.length line).isEmpty then [line]
      else fill overflow width [] 0 (wordParts line.length line)) = [line] := by
    split
    · rfl
    · obtain ⟨hparts, hsum⟩ := wordParts_fit line.length h.printable
      rw [fill_of_fit hparts [] (by omega), flatten_wordParts (Nat.le_refl _) h.noBlankEnd,
        List.nil_append]
  have hcut : cutLine overflow width (trimBeyond width line) = line := by
    simp [cutLine, trimBeyond, trimEnd_eq_self h.noBlankEnd, hfit]
  unfold wrapLine
  dsimp only
  rw [htabs, hlines, List.map_singleton, hcut]

theorem wrap_of_isSteady {overflow : Overflow} {width : Nat} {s : String}
    (h : ∀ line ∈ s.toList.splitOn '\n', IsSteady line ∧ cellsOf line ≤ width) :
    wrap overflow width s = s.toList.splitOn '\n' := by
  have hlines : ∀ line ∈ s.toList.splitOn '\n', wrapLine overflow width line = [line] :=
    fun line hline => wrapLine_of_isSteady (h line hline).1 (h line hline).2
  rw [wrap, List.flatMap_def, List.map_congr_left hlines, ← List.flatMap_def]
  exact List.flatMap_singleton' _

end Text

/-! ## Widths -/

namespace Table

theorem foldl_max_le_iff {widths : List Nat} {start bound : Nat} :
    widths.foldl max start ≤ bound ↔ start ≤ bound ∧ ∀ width ∈ widths, width ≤ bound := by
  induction widths generalizing start with
  | nil => simp
  | cons width widths ih =>
    rw [List.foldl_cons, ih, List.forall_mem_cons, Nat.max_le, and_assoc]

/-- A cell whose lines stay whole, and in which nothing but line feeds ends a line. -/
structure IsSteady (cell : String) : Prop where
  lines : ∀ line ∈ cell.toList.splitOn '\n', Text.IsSteady line
  ends : ∀ c ∈ cell.toList, endsLine c = true → c = '\n'

/-- Whether a cell is one line without tabs, blanks at its end, or the mark. -/
def isLine (cell : String) : Bool :=
  cell.toList.all (fun c => !endsLine c && c != '\t' && c != Text.mark) &&
    !cell.toList.getLast?.any Text.isBlank

section Line

variable {cell : String} (h : isLine cell = true)
include h

theorem forall_mem_of_isLine :
    ∀ c ∈ cell.toList, endsLine c = false ∧ c ≠ '\t' ∧ c ≠ Text.mark := by
  rw [isLine, Bool.and_eq_true] at h
  simpa [and_assoc] using h.1

theorem IsSteady.of_isLine : IsSteady cell := by
  have hplain := forall_mem_of_isLine h
  have hend : ∀ c ∈ cell.toList.getLast?, Text.isBlank c = false := by
    rw [isLine, Bool.and_eq_true, Bool.not_eq_true'] at h
    simpa [Option.any_eq_false] using h.2
  have hbreak : '\n' ∉ cell.toList := fun hmem => by
    have hends : endsLine '\n' = false := (hplain '\n' hmem).1
    revert hends
    decide
  refine ⟨?_, fun c hc hends => ?_⟩
  · rw [List.splitOn_eq_singleton hbreak, List.forall_mem_singleton]
    exact ⟨.of_mark_notMem fun hmem => (hplain _ hmem).2.2 rfl,
      fun hmem => (hplain '\t' hmem).2.1 rfl, hend⟩
  · rw [(hplain c hc).1] at hends
    cases hends

theorem cellWidth_of_isLine : cellWidth cell = Text.cellsOf cell.toList := by
  rw [cellWidth, List.splitOnP_eq_singleton fun c hc => (forall_mem_of_isLine h c hc).1]
  exact Nat.zero_max _

end Line

theorem splitOnP_congr {α : Type} {p q : α → Bool} {s : List α} (h : ∀ a ∈ s, p a = q a) :
    s.splitOnP p = s.splitOnP q := by
  induction s with
  | nil => rfl
  | cons a s ih =>
    obtain ⟨ha, hs⟩ := List.forall_mem_cons.mp h
    rw [List.splitOnP_cons_eq_if_modifyHead, List.splitOnP_cons_eq_if_modifyHead, ha, ih hs]

theorem IsSteady.cellsOf_le {cell : String} (h : IsSteady cell) :
    ∀ line ∈ cell.toList.splitOn '\n', Text.cellsOf line ≤ cellWidth cell := by
  intro line hline
  have hsplit : cell.toList.splitOnP endsLine = cell.toList.splitOn '\n' := by
    refine splitOnP_congr fun c hc => Bool.eq_iff_iff.mpr ⟨?_, ?_⟩
    · exact fun hends => beq_iff_eq.mpr (h.ends c hc hends)
    · intro hbreak
      obtain rfl := beq_iff_eq.mp hbreak
      rfl
  rw [cellWidth, hsplit]
  exact (foldl_max_le_iff.mp (Nat.le_refl _)).2 _ (List.mem_map_of_mem hline)

/-- The cells of a column, its heading first. -/
def column (t : Table) (i : Nat) : List String :=
  (t.columns.map (·.heading) :: t.rows).map fun row => (row[i]?).getD ""

/-- The width of the widest cell of a column. -/
def widest (t : Table) (i : Nat) : Nat := ((t.column i).map cellWidth).foldl max 0

theorem widest_le_iff {t : Table} {i bound : Nat} :
    t.widest i ≤ bound ↔ ∀ cell ∈ t.column i, cellWidth cell ≤ bound := by
  rw [widest, foldl_max_le_iff, List.forall_mem_map]
  exact and_iff_right (Nat.zero_le bound)

/-- The columns of a table and how wide they are when nothing keeps them from it. -/
def natural (t : Table) : List (Column × Nat) :=
  t.columns.zip ((List.range t.columns.length).map t.widest)

theorem le_totalWidth {widths : List Nat} {width : Nat} (h : width ∈ widths) :
    width ≤ totalWidth widths := by
  obtain ⟨before, behind, rfl⟩ := List.append_of_mem h
  rw [totalWidth, ← List.sum_eq_foldl, List.sum_append, List.sum_cons]
  omega

theorem fitWidths_of_le {room : Nat} {widths : List Nat} (h : totalWidth widths ≤ room) :
    fitWidths room widths = widths := by
  have hexcess : totalWidth widths - room = 0 := Nat.sub_eq_zero_of_le h
  unfold fitWidths
  cases totalWidth widths with
  | zero => rfl
  | succ fuel => simp [shrink, hexcess]

/-! ## Rows -/

/-- How a column places a line. -/
def place (column : Column) (width : Nat) : List Char → List Char :=
  if column.centred then padCentre width else padLeft width

/-- What a column shows in the `n`th line of a row: that line of its cell, or blanks below the last
one. -/
def part (entry : (Column × Nat) × String) (n : Nat) : List Char :=
  ((entry.2.toList.splitOn '\n')[n]?.map (place entry.1.1 entry.1.2)).getD (spaces entry.1.2)

/-- How many lines the cells of a row have at most. -/
def height (entries : List ((Column × Nat) × String)) : Nat :=
  (entries.map fun entry => (entry.2.toList.splitOn '\n').length).foldl max 0

/-- A row of cells that stay whole. -/
theorem rowLines_of_isSteady {columns : List (Column × Nat)} {cells : List String}
    (h : ∀ entry ∈ columns.zip cells, IsSteady entry.2 ∧ cellWidth entry.2 ≤ entry.1.2) :
    rowLines columns cells = (List.range (height (columns.zip cells))).map fun n =>
      barLine ((columns.zip cells).map fun entry => part entry n) := by
  have hlines : ∀ entry ∈ columns.zip cells, cellLines entry.1.1 entry.1.2 entry.2 =
      (entry.2.toList.splitOn '\n').map (place entry.1.1 entry.1.2) := by
    intro entry hentry
    obtain ⟨hsteady, hwidth⟩ := h entry hentry
    have hwrap : Text.wrap .ellipsis entry.1.2 entry.2 = entry.2.toList.splitOn '\n' :=
      Text.wrap_of_isSteady fun line hline =>
        ⟨hsteady.lines line hline, (hsteady.cellsOf_le line hline).trans hwidth⟩
    rw [cellLines, hwrap]
    rfl
  have hblocks : ((columns.zip cells).map fun entry =>
      (entry.1.2, cellLines entry.1.1 entry.1.2 entry.2)) = (columns.zip cells).map fun entry =>
        (entry.1.2, (entry.2.toList.splitOn '\n').map (place entry.1.1 entry.1.2)) :=
    List.map_congr_left fun entry hentry => by rw [hlines entry hentry]
  unfold rowLines
  dsimp only
  rw [hblocks]
  simp [height, part, List.map_map, Function.comp_def]

theorem padLeft_eq (width : Nat) (line : List Char) :
    ∃ count, padLeft width line = line ++ spaces count := by
  have hfill (line : List Char) : ∃ count, fillUp width line = line ++ spaces count := ⟨_, rfl⟩
  obtain ⟨first, hfirst⟩ := hfill line
  obtain ⟨second, hsecond⟩ := hfill (fillUp width line)
  refine ⟨first + second, ?_⟩
  rw [padLeft, hsecond, hfirst, List.append_assoc, spaces, spaces, List.replicate_append_replicate,
    ← spaces]

/-- The `n`th line of a cell, which is empty below the last one. -/
def lineOf (cell : String) (n : Nat) : List Char := ((cell.toList.splitOn '\n')[n]?).getD []

theorem part_of_left (column : Column) (width : Nat) (hleft : column.centred = false)
    (cell : String) (n : Nat) :
    ∃ count, part ((column, width), cell) n = lineOf cell n ++ spaces count := by
  unfold part lineOf place
  rw [hleft]
  cases (cell.toList.splitOn '\n')[n]? with
  | none => exact ⟨width, rfl⟩
  | some line => exact padLeft_eq width line

theorem padCentre_eq (width : Nat) {line : List Char} (h : Text.trimEnd line = line) :
    ∃ before behind, padCentre width line = spaces before ++ line ++ spaces behind := by
  obtain ⟨behind, hbehind⟩ :=
    padLeft_eq width (spaces ((width - Text.cellsOf line) / 2) ++ line)
  refine ⟨(width - Text.cellsOf line) / 2, behind, ?_⟩
  rw [padCentre, h, hbehind]

theorem part_of_centred (column : Column) (width : Nat) (hcentred : column.centred = true)
    {cell : String} (h : IsSteady cell) (n : Nat) : ∃ before behind,
      part ((column, width), cell) n = spaces before ++ lineOf cell n ++ spaces behind := by
  unfold part lineOf place
  rw [hcentred]
  cases hline : (cell.toList.splitOn '\n')[n]? with
  | none => exact ⟨0, width, rfl⟩
  | some line =>
    have hsteady := h.lines line (List.mem_of_getElem? hline)
    exact padCentre_eq width (Text.trimEnd_eq_self hsteady.noBlankEnd)

/-! ## Whole tables -/

/-- A table for which there is room: its cells stay whole, and all columns fit a width. -/
structure Fits (room : Nat) (t : Table) : Prop where
  title : ∀ title ∈ t.title, Text.IsPrintable title.toList
  cells : ∀ i < t.columns.length, ∀ cell ∈ t.column i, IsSteady cell
  widths : totalWidth ((List.range t.columns.length).map fun i => t.widest i + padding) ≤
    room - (t.columns.length + 1)

variable {t : Table} {room : Nat}

theorem Fits.entry (h : t.Fits room) {row : List String}
    (hrow : row ∈ t.columns.map (·.heading) :: t.rows) :
    ∀ entry ∈ t.natural.zip row, IsSteady entry.2 ∧ cellWidth entry.2 ≤ entry.1.2 := by
  intro entry hentry
  obtain ⟨i, hi, rfl⟩ := List.getElem_of_mem hentry
  have hcell : i < row.length := by
    rw [List.length_zip] at hi
    omega
  have hcolumn : i < t.columns.length := by
    rw [natural, List.length_zip, List.length_zip] at hi
    omega
  have hmem : row[i] ∈ t.column i := by
    refine List.mem_map.mpr ⟨row, hrow, ?_⟩
    rw [List.getElem?_eq_getElem hcell, Option.getD_some]
  refine ⟨by simpa using h.cells i hcolumn row[i] hmem, ?_⟩
  simpa [natural] using widest_le_iff.mp (Nat.le_refl (t.widest i)) row[i] hmem

/-- What stands above the rows of a table for which there is room. -/
def above (t : Table) : List (List Char) :=
  let padded := (List.range t.columns.length).map fun i => t.widest i + padding
  let title := t.title.map fun title =>
    padCentre (totalWidth padded + (t.columns.length + 1)) title.toList
  title.toList ++ [rule '╭' '┬' '╮' ((List.range t.columns.length).map t.widest)]
    ++ rowLines t.natural (t.columns.map (·.heading))
    ++ [rule '├' '┼' '┤' ((List.range t.columns.length).map t.widest)]

/-- What stands below the rows of a table for which there is room. -/
def below (t : Table) : List (List Char) :=
  [rule '╰' '┴' '╯' ((List.range t.columns.length).map t.widest)]

theorem Fits.render (h : t.Fits room) : t.render room =
    String.ofList ((t.above ++ t.rows.flatMap (rowLines t.natural) ++ t.below).flatMap
      (· ++ ['\n'])) := by
  have hpadded : ((List.range t.columns.length).map fun i => columnWidth
      (room - (t.columns.length + 1)) (t.column i)) =
        (List.range t.columns.length).map fun i => t.widest i + padding := by
    refine List.map_congr_left fun i hi => Nat.min_eq_left ?_
    exact (le_totalWidth (List.mem_map_of_mem hi)).trans h.widths
  have hfitted := fitWidths_of_le h.widths
  have hwidths : ((List.range t.columns.length).map fun i => t.widest i + padding).map
      (· - padding) = (List.range t.columns.length).map t.widest := by
    simp [Function.comp_def]
  unfold Table.render
  dsimp only
  have hcells : ∀ i, (t.columns.map (·.heading) :: t.rows).map (fun row => (row[i]?).getD "") =
      t.column i := fun i => rfl
  simp only [hcells]
  rw [hpadded, hfitted, hwidths]
  cases htitle : t.title <;> simp [above, below, htitle, natural]

/-! ## Printing -/

open Text (IsPrintable)

theorem isPrintable_spaces (count : Nat) : IsPrintable (spaces count) := by
  refine .of_mark_notMem fun hmark => ?_
  have hspace : Text.mark = ' ' := List.eq_of_mem_replicate hmark
  revert hspace
  decide

theorem isPrintable_rule {left middle right : Char} (hframe : Text.mark ∉ [left, middle, right])
    (widths : List Nat) : IsPrintable (rule left middle right widths) := by
  simp only [List.mem_cons, List.not_mem_nil, or_false, not_or] at hframe
  obtain ⟨hleft, hmiddle, hright⟩ := hframe
  have hruns : ∀ run ∈ widths.map fun width => List.replicate (width + 2) '─',
      IsPrintable run := by
    refine List.forall_mem_map.mpr fun width _ => .of_mark_notMem fun hmark => ?_
    have hline : Text.mark = '─' := List.eq_of_mem_replicate hmark
    revert hline
    decide
  have hbetween := (IsPrintable.singleton (Ne.symm hmiddle)).intercalate hruns
  exact .cons (Ne.symm hleft) (hbetween.append (.singleton (Ne.symm hright)))

theorem isPrintable_padLeft (width : Nat) {line : List Char} (h : IsPrintable line) :
    IsPrintable (padLeft width line) := by
  obtain ⟨count, heq⟩ := padLeft_eq width line
  rw [heq]
  exact h.append (isPrintable_spaces count)

theorem isPrintable_padCentre (width : Nat) {line : List Char} (h : IsPrintable line) :
    IsPrintable (padCentre width line) :=
  isPrintable_padLeft width ((isPrintable_spaces _).append h.trimEnd)

theorem isPrintable_place (column : Column) (width : Nat) {line : List Char}
    (h : IsPrintable line) : IsPrintable (place column width line) := by
  unfold place
  split
  · exact isPrintable_padCentre width h
  · exact isPrintable_padLeft width h

theorem isPrintable_part {entry : (Column × Nat) × String} (h : IsSteady entry.2) (n : Nat) :
    IsPrintable (part entry n) := by
  unfold part
  cases hline : (entry.2.toList.splitOn '\n')[n]? with
  | none => exact isPrintable_spaces _
  | some line =>
    exact isPrintable_place _ _ (h.lines line (List.mem_of_getElem? hline)).printable

theorem isPrintable_barLine {parts : List (List Char)} (h : ∀ part ∈ parts, IsPrintable part) :
    IsPrintable (barLine parts) := by
  refine .cons (by decide) (.flatMap fun part hpart => ?_)
  exact .cons (by decide) ((h part hpart).append (.of_mark_notMem (by decide)))

theorem Fits.isPrintable_rowLines (h : t.Fits room) {row : List String}
    (hrow : row ∈ t.columns.map (·.heading) :: t.rows) :
    ∀ line ∈ rowLines t.natural row, IsPrintable line := by
  rw [rowLines_of_isSteady (h.entry hrow)]
  refine List.forall_mem_map.mpr fun n _ => isPrintable_barLine ?_
  exact List.forall_mem_map.mpr fun entry hentry => isPrintable_part (h.entry hrow entry hentry).1 n

theorem Fits.isPrintable_render (h : t.Fits room) : IsPrintable (t.render room).toList := by
  rw [h.render, String.toList_ofList]
  have hlines : ∀ line ∈ t.above ++ t.rows.flatMap (rowLines t.natural) ++ t.below,
      IsPrintable line := by
    intro line hline
    simp only [above, below, List.mem_append, List.mem_singleton, List.mem_flatMap,
      Option.mem_toList, Option.map_eq_some_iff] at hline
    rcases hline with ((((⟨title, htitle, rfl⟩ | rfl) | hheading) | rfl) | ⟨row, hrow, hline⟩) | rfl
    · exact isPrintable_padCentre _ (h.title title htitle)
    · exact isPrintable_rule (by decide) _
    · exact h.isPrintable_rowLines List.mem_cons_self line hheading
    · exact isPrintable_rule (by decide) _
    · exact h.isPrintable_rowLines (List.mem_cons_of_mem _ hrow) line hline
    · exact isPrintable_rule (by decide) _
  exact .flatMap fun line hline => (hlines line hline).append (.of_mark_notMem (by decide))

end Table

end FlowTemplate
