import FlowTemplate.Proofs.Compile.Linting
import FlowTemplate.Proofs.Load
import FlowTemplate.Proofs.Terminal.Markup
import FlowTemplate.Proofs.Terminal.Table
/-!
# The report of the linter

The command that lints a service prints a table: a row for each state machine, with its name, a
mark, and what there is to say about its definition. Names and texts come from the service, and the
table takes them for markup. So it shows what their markup says, and there is no table at all if one
of them is no markup. A text that is verbatim is shown line by line where there is room for it.
-/

namespace FlowTemplate

open FlowTemplate.Computation

/-- A list has results exactly if they are those of its items, one by one. -/
theorem Computation.mapM_eq_ok_iff {ε α β : Type} {f : α → Except ε β} {as : List α}
    {bs : List β} : as.mapM f = .ok bs ↔ List.Forall₂ (fun a b => f a = .ok b) as bs := by
  refine ⟨forall₂_of_mapM, fun h => ?_⟩
  induction h with
  | nil => rfl
  | cons hb _ ih =>
    rw [List.mapM_cons, bind_of_ok hb, bind_of_ok ih]
    rfl

namespace Command

/-! ## Rows -/

/-- What the report says about a machine. -/
def complaint (machine : Value) : Except Json.Excess String :=
  match declaredDefinition machine with
  | none => .ok "missing definition"
  | some definition => (Lint.report definition).map fun found =>
    "\n".intercalate (found.map fun f => f.path ++ ": " ++ f.message)

/-- The mark of a machine about which the report says a text. -/
def statusMark (text : String) : String := if text.isEmpty then "✓" else "✕"

def statusMarkup (text : String) : String :=
  if text.isEmpty then "[green]✓[/green]" else "[red]✕[/red]"

theorem plain_statusMarkup (text : String) :
    Markup.plain (statusMarkup text) = .ok (statusMark text) := by
  unfold statusMarkup statusMark
  split
  · exact Markup.plain_enclosed "[green]✓[/green]" "green" "green".toList ['✓'] (by decide +kernel)
      (by decide +kernel) (by decide +kernel) (by decide +kernel) (by decide +kernel)
      (by decide +kernel) (by decide +kernel)
  · exact Markup.plain_enclosed "[red]✕[/red]" "red" "red".toList ['✕'] (by decide +kernel)
      (by decide +kernel) (by decide +kernel) (by decide +kernel) (by decide +kernel)
      (by decide +kernel) (by decide +kernel)

/-- The text of a finding has a colon at least, so that of several findings is not empty. -/
theorem isEmpty_intercalate (finding : Lint.Finding) (rest : List Lint.Finding) :
    ("\n".intercalate ((finding :: rest).map fun f => f.path ++ ": " ++ f.message)).isEmpty =
      false := by
  rw [String.isEmpty_eq_false_iff]
  cases rest with
  | nil => simp [String.intercalate_singleton]
  | cons next rest => simp [String.intercalate_cons_cons]

theorem lintRow_eq (name : String) (machine : Value) : lintRow name machine =
    (complaint machine).map fun text => ([name, statusMarkup text, text], text.isEmpty) := by
  unfold lintRow complaint
  cases declaredDefinition machine with
  | none => rfl
  | some definition =>
    dsimp only
    rcases Lint.report definition with e | _ | ⟨finding, rest⟩
    · rfl
    · rfl
    · simp only [Except.map, statusMarkup, isEmpty_intercalate, Bool.false_eq_true, if_false]

theorem isValid_iff_complaint (machine : Value) :
    Machine.IsValid machine ↔ complaint machine = .ok "" := by
  rw [← lintRow_iff "", lintRow_eq]
  cases complaint machine with
  | error e => simp [Except.map]
  | ok text => simp [Except.map, String.isEmpty_iff]

/-- The row of the table that shows a machine: what shows of its name and of what the report says
about it, read as markup, and the mark between the two. -/
def ShowsAs (entry : String × Value) (row : List String) : Prop :=
  ∃ text name shown, complaint entry.2 = .ok text ∧ Markup.plain entry.1 = .ok name ∧
    Markup.plain text = .ok shown ∧ row = [name, statusMark text, shown]

theorem showsAs_iff (entry : String × Value) (row : List String) : ShowsAs entry row ↔
    ∃ cells, lintRow entry.1 entry.2 = .ok cells ∧ cells.1.mapM Markup.plain = .ok row := by
  constructor
  · rintro ⟨text, name, shown, htext, hname, hshown, rfl⟩
    rw [lintRow_eq, htext]
    refine ⟨_, rfl, mapM_eq_ok_iff.mpr ?_⟩
    exact .cons hname (.cons (plain_statusMarkup text) (.cons hshown .nil))
  · rintro ⟨cells, hcells, hrow⟩
    rw [lintRow_eq] at hcells
    cases htext : complaint entry.2 with
    | error e =>
      rw [htext] at hcells
      cases hcells
    | ok text =>
      rw [htext] at hcells
      cases hcells
      cases mapM_eq_ok_iff.mp hrow with
      | cons hname hrest => cases hrest with
        | cons hstatus hrest => cases hrest with
          | cons hshown hnil =>
            cases hnil
            cases hstatus.symm.trans (plain_statusMarkup text)
            exact ⟨text, _, _, htext, hname, hshown, rfl⟩

/-- The table of the report with given rows. -/
def lintTable (rows : List (List String)) : Table :=
  { title := some "State machine definitions", columns := lintColumns, rows }

theorem forall₂_showsAs_iff {f : String × Value → Except Json.Excess (List String × Bool)}
    (hf : ∀ entry, f entry = lintRow entry.1 entry.2) {machines : List (String × Value)}
    {rows : List (List String)} : List.Forall₂ ShowsAs machines rows ↔
      ∃ cells, machines.mapM f = .ok cells ∧
        ((cells.map (·.1)).mapM fun row => row.mapM Markup.plain) = .ok rows := by
  simp only [mapM_eq_ok_iff, hf]
  constructor
  · intro h
    induction h with
    | nil => exact ⟨[], .nil, .nil⟩
    | cons hentry _ ih =>
      obtain ⟨cell, hcell, hrow⟩ := (showsAs_iff _ _).mp hentry
      obtain ⟨cells, hcells, hrows⟩ := ih
      exact ⟨cell :: cells, .cons hcell hcells, .cons (mapM_eq_ok_iff.mp hrow) hrows⟩
  · rintro ⟨cells, hcells, hrows⟩
    induction hcells generalizing rows with
    | nil =>
      cases hrows
      exact .nil
    | cons hcell _ ih =>
      cases hrows with
      | cons hrow hrest =>
        exact .cons ((showsAs_iff _ _).mpr ⟨_, hcell, mapM_eq_ok_iff.mpr hrow⟩) (ih hrest)

/-! ## The run -/

/-- What comes of linting a service: exit code 0 exactly if the run comes to its end and all
definitions are valid, and exit code 1 otherwise. The run comes to its end if all machines have
rows, which takes readable definitions and names and texts that are markup, and the table of these
rows can be printed, and that table is what it prints. -/
structure IsReport (service : Service) (outcome : Outcome) : Prop where
  exitCode : outcome.exitCode = 0 ∨ outcome.exitCode = 1
  exitCode_eq_zero : outcome.exitCode = 0 ↔
    outcome.crash = none ∧ ∀ entry ∈ service.machines, Machine.IsValid entry.2
  crash_eq_none : outcome.crash = none ↔ ∃ rows, List.Forall₂ ShowsAs service.machines rows ∧
    Outcome.isEncodable ((lintTable rows).render terminalWidth) = true
  stdout : outcome.crash = none → ∀ rows, List.Forall₂ ShowsAs service.machines rows →
    outcome.stdout = (lintTable rows).render terminalWidth

theorem IsReport.withPlainErrors {service : Service} {outcome : Outcome}
    (h : IsReport service outcome) : IsReport service outcome.withPlainErrors :=
  ⟨h.exitCode, h.exitCode_eq_zero, h.crash_eq_none, h.stdout⟩

theorem IsReport.of_crash {service : Service} {outcome : Outcome} {e : Crash}
    (hexit : outcome.exitCode = 1) (hcrash : outcome.crash = some e)
    (h : ∀ rows, List.Forall₂ ShowsAs service.machines rows →
      Outcome.isEncodable ((lintTable rows).render terminalWidth) = false) :
    IsReport service outcome := by
  refine ⟨.inr hexit, iff_of_false (by simp [hexit]) (by simp [hcrash]),
    iff_of_false (by simp [hcrash]) ?_, fun hnone => by simp [hcrash] at hnone⟩
  rintro ⟨rows, hrows, hencodable⟩
  rw [h rows hrows] at hencodable
  cases hencodable

theorem printTable_of_ok {rows shown : List (List String)}
    (h : (rows.mapM fun row => row.mapM Markup.plain) = .ok shown) :
    printTable (some "State machine definitions") lintColumns rows =
      .print ((lintTable shown).render terminalWidth) := by
  unfold printTable
  rw [h]
  rfl

theorem printTable_of_error {rows : List (List String)} {e : Markup.Fault}
    (h : (rows.mapM fun row => row.mapM Markup.plain) = .error e) (title : Option String)
    (columns : List Table.Column) : printTable title columns rows = .ofCrash (.markup e) := by
  unfold printTable
  rw [h]

/-- Where the rows are shown, the run ends well unless some machine is not valid. -/
theorem IsReport.of_rows {service : Service} {fine : Bool} {shown : List (List String)}
    (hfine : fine = true ↔ ∀ entry ∈ service.machines, Machine.IsValid entry.2)
    (hshown : ∀ rows, List.Forall₂ ShowsAs service.machines rows ↔ rows = shown)
    (hencodable : Outcome.isEncodable ((lintTable shown).render terminalWidth) = true) :
    IsReport service (if fine then .shown ((lintTable shown).render terminalWidth)
      else { Outcome.shown ((lintTable shown).render terminalWidth) with exitCode := 1 }) := by
  have hrows : ∃ rows, List.Forall₂ ShowsAs service.machines rows ∧
      Outcome.isEncodable ((lintTable rows).render terminalWidth) = true :=
    ⟨shown, (hshown shown).mpr rfl, hencodable⟩
  cases fine with
  | true =>
    refine ⟨.inl rfl, iff_of_true rfl ⟨rfl, hfine.mp rfl⟩, iff_of_true rfl hrows, ?_⟩
    intro _ rows h
    rw [(hshown rows).mp h]
    rfl
  | false =>
    refine ⟨.inr rfl, iff_of_false (by simp) fun h => ?_, iff_of_true rfl hrows, ?_⟩
    · cases hfine.mpr h.2
    · intro _ rows h
      rw [(hshown rows).mp h]
      rfl

theorem isReport_runLint {around : Surroundings} (call : Call) {service : Service}
    (hload : Load.service around.folder (call.arguments.headD "") = .ok service) :
    IsReport service (runLint around call) := by
  unfold runLint
  rw [hload]
  dsimp only
  split
  · rename_i e hcells
    refine .of_crash rfl rfl fun rows hrows => ?_
    obtain ⟨cells, hok, -⟩ := (forall₂_showsAs_iff fun _ => rfl).mp hrows
    cases hcells.symm.trans hok
  · rename_i cells hcells
    have hfine : cells.all (·.2) = true ↔ ∀ entry ∈ service.machines, Machine.IsValid entry.2 := by
      refine Iff.trans ⟨fun h => ⟨cells, hcells, h⟩, ?_⟩ ((exists_mapM_all_iff _).trans
        (forall₂_congr fun entry _ => lintRow_iff entry.1 entry.2))
      rintro ⟨others, hothers, hall⟩
      cases hcells.symm.trans hothers
      exact hall
    have hshown (rows : List (List String)) : List.Forall₂ ShowsAs service.machines rows ↔
        ((cells.map (·.1)).mapM fun row => row.mapM Markup.plain) = .ok rows := by
      refine (forall₂_showsAs_iff fun _ => rfl).trans ⟨?_, fun hrows => ⟨cells, hcells, hrows⟩⟩
      rintro ⟨others, hothers, hrows⟩
      cases hcells.symm.trans hothers
      exact hrows
    cases hrows : (cells.map (·.1)).mapM fun row => row.mapM Markup.plain with
    | error e =>
      rw [printTable_of_error hrows]
      refine .of_crash (by split <;> rfl) (by split <;> rfl) fun rows h => ?_
      cases hrows.symm.trans ((hshown rows).mp h)
    | ok shown =>
      have honly (rows : List (List String)) :
          List.Forall₂ ShowsAs service.machines rows ↔ rows = shown := by
        rw [hshown rows, hrows, Except.ok.injEq, eq_comm]
      rw [printTable_of_ok hrows]
      cases hencodable : Outcome.isEncodable ((lintTable shown).render terminalWidth) with
      | true =>
        rw [Outcome.print, if_pos hencodable]
        exact .of_rows hfine honly hencodable
      | false =>
        rw [Outcome.print, hencodable]
        refine .of_crash (by split <;> rfl) (by split <;> rfl) fun rows h => ?_
        rw [(honly rows).mp h]
        exact hencodable

/-- Whether an argument is read as options and not as a path. -/
def isOption (argument : String) : Bool := argument.startsWith "-" && argument.length > 1

theorem readCall_of_argument {argument : String} (h : isOption argument = false) (s : Spec)
    (fuel : Nat) (rest : List String) : readCall s (fuel + 1) (argument :: rest) =
      if s.isGroup then .ok ⟨[], argument :: rest⟩
      else (readCall s fuel rest).map fun call =>
        { call with arguments := argument :: call.arguments } := by
  have hdashes : (argument == "--") = false := by
    rw [beq_eq_false_iff_ne]
    rintro rfl
    revert h
    decide +kernel
  have hoption : (argument.startsWith "-" && argument.length > 1) = false := h
  simp only [readCall, hdashes, hoption, Bool.false_eq_true, if_false]
  rfl

theorem check_lint {folder : Folder} {path : String} {data : List UInt8}
    (hfault : Path.fault? path = none) (hfile : folder.find path = .file data) :
    Call.check ⟨[], [path]⟩ lint folder = .ok () := by
  have hcheck : checkFile folder ["SERVICE_FILE"] true path = .ok () := by
    unfold checkFile
    rw [hfault, hfile]
  have harguments : lint.arguments.zipIdx = [("SERVICE_FILE", 0)] := rfl
  have hpath : [path][0]? = some path := rfl
  simp only [Call.check, harguments, List.forIn_cons, hpath, hcheck]
  rfl

theorem run_lint_eq {around : Surroundings} {path : String} {data : List UInt8}
    (hpath : isOption path = false) (hfault : Path.fault? path = none)
    (hfile : around.folder.find path = .file data) :
    run around ["lint", path] = (runLint around ⟨[], [path]⟩).withPlainErrors := by
  have hroot : root.read ["lint", path] = .ok ⟨[], ["lint", path]⟩ :=
    readCall_of_argument (by decide +kernel) root 1 [path]
  have hread : lint.read [path] = .ok ⟨[], [path]⟩ := readCall_of_argument hpath lint 0 []
  have hrun : runSpec lint runLint around [path] = runLint around ⟨[], [path]⟩ := by
    unfold runSpec
    have hshows : Call.shows? ⟨[], [path]⟩ = none := rfl
    rw [hread]
    dsimp only
    rw [hshows, if_neg (by decide), if_neg (by decide), check_lint hfault hfile]
  unfold run
  rw [hroot, ← hrun]
  rfl

theorem isReport_run {around : Surroundings} {path : String} {data : List UInt8} {service : Service}
    (hpath : isOption path = false) (hfile : around.folder.find path = .file data)
    (hload : Load.service around.folder path = .ok service) :
    IsReport service (run around ["lint", path]) := by
  have hfault : Path.fault? path = none := by
    cases hpath : Path.fault? path with
    | none => rfl
    | some e =>
      rw [Load.service, Load.document_of_fault hpath] at hload
      cases hload
  rw [run_lint_eq hpath hfault hfile]
  exact (isReport_runLint ⟨[], [path]⟩ hload).withPlainErrors

/-! ## Rows that are shown as they are -/

/-- A text that so many columns show as it is. -/
structure IsVerbatim (room : Nat) (text : String) : Prop where
  markup : Markup.IsVerbatim text
  steady : Table.IsSteady text
  fits : Table.cellWidth text ≤ room

/-- A row for a machine whose name has `first` columns, and what the report says about it `last`. -/
def IsVerbatimRow (first last : Nat) (row : List String) : Prop :=
  ∃ name text, row = [name, statusMark text, text] ∧ IsVerbatim first name ∧ IsVerbatim last text

/-- A cell that stays whole where there are so many columns for it. -/
def IsWhole (room : Nat) (cell : String) : Prop :=
  Table.IsSteady cell ∧ Table.cellWidth cell ≤ room

theorem IsWhole.of_isLine {room : Nat} {cell : String} (h : Table.isLine cell = true)
    (hfit : Text.cellsOf cell.toList ≤ room) : IsWhole room cell :=
  ⟨.of_isLine h, (Table.cellWidth_of_isLine h).trans_le hfit⟩

theorem isWhole_statusMark (text : String) : IsWhole 6 (statusMark text) := by
  have hmark : statusMark text = "✓" ∨ statusMark text = "✕" := ite_eq_or_eq _ _ _
  have hwidth (c : Char) : Text.cellsOf [c] ≤ 6 := (Text.cellsOf_singleton_le c).trans (by decide)
  rcases hmark with hmark | hmark <;> rw [hmark]
  · exact .of_isLine (by decide +kernel) (hwidth '✓')
  · exact .of_isLine (by decide +kernel) (hwidth '✕')

/-- Lines of the table that show a name and a text line by line beside one another, and the mark
between them in the first line. -/
structure IsBlock (name text : String) (block : List (List Char)) : Prop where
  height : block.length =
    max (name.toList.splitOn '\n').length (text.toList.splitOn '\n').length
  lines : ∀ n < block.length, ∃ left before behind right, block[n]? = some (Table.barLine
    [Table.lineOf name n ++ Table.spaces left,
      Table.spaces before ++ Table.lineOf (statusMark text) n ++ Table.spaces behind,
      Table.lineOf text n ++ Table.spaces right])

section

variable {first last : Nat} {rows : List (List String)} (hfirst : 13 ≤ first) (hlast : 6 ≤ last)
  (hrows : ∀ row ∈ rows, IsVerbatimRow first last row)
include hfirst hlast hrows

/-- The cells of the three columns, their headings included, stay whole. -/
theorem isWhole_of_mem_column : ∀ i < 3, ∀ cell ∈ (lintTable rows).column i,
    IsWhole ([first, 6, last].getD i 0) cell := by
  have hheadings : ∀ i < 3, IsWhole ([first, 6, last].getD i 0)
      ((["State machine", "Status", "Errors"][i]?).getD "") := by
    intro i hi
    have hname : Text.cellsOf "State machine".toList = 13 := by decide +kernel
    have hmark : Text.cellsOf "Status".toList = 6 := by decide +kernel
    have htext : Text.cellsOf "Errors".toList = 6 := by decide +kernel
    rcases i with _ | _ | _ | i
    · exact .of_isLine (by decide +kernel) (hname.trans_le hfirst)
    · exact .of_isLine (by decide +kernel) hmark.le
    · exact .of_isLine (by decide +kernel) (htext.trans_le hlast)
    · omega
  intro i hi cell hcell
  obtain ⟨row, hrow, rfl⟩ := List.mem_map.mp hcell
  rcases List.mem_cons.mp hrow with rfl | hrow
  · exact hheadings i hi
  · obtain ⟨name, text, rfl, hname, htext⟩ := hrows row hrow
    rcases i with _ | _ | _ | i
    · exact ⟨hname.steady, hname.fits⟩
    · exact isWhole_statusMark text
    · exact ⟨htext.steady, htext.fits⟩
    · omega

/-- The table has a frame of four bars and two blanks beside each cell. -/
theorem fits_lintTable (hroom : first + last + 16 ≤ terminalWidth) :
    (lintTable rows).Fits terminalWidth := by
  have hwhole := isWhole_of_mem_column hfirst hlast hrows
  have hwidest (i : Nat) (hi : i < 3) : (lintTable rows).widest i ≤ [first, 6, last].getD i 0 :=
    Table.widest_le_iff.mpr fun cell hcell => (hwhole i hi cell hcell).2
  have hnames := hwidest 0 (by decide)
  have hmarks := hwidest 1 (by decide)
  have htexts := hwidest 2 (by decide)
  refine ⟨?_, fun i hi cell hcell => (hwhole i hi cell hcell).1, ?_⟩
  · intro title htitle
    cases htitle
    exact .of_mark_notMem (by decide +kernel)
  · have htotal : Table.totalWidth ((List.range 3).map fun i =>
        (lintTable rows).widest i + Table.padding) = (lintTable rows).widest 0 + 2 +
          ((lintTable rows).widest 1 + 2) + ((lintTable rows).widest 2 + 2) := by
      simp [Table.totalWidth, List.range_succ, Table.padding]
    have hcolumns : (lintTable rows).columns.length = 3 := rfl
    rw [hcolumns, htotal]
    simp only [List.getD_cons_zero, List.getD_cons_succ] at hnames hmarks htexts
    omega

/-- The lines of a row: those of the name and of what the report says, side by side with the mark
between them. -/
theorem isBlock_rowLines (hroom : first + last + 16 ≤ terminalWidth) {name text : String}
    (hrow : [name, statusMark text, text] ∈ rows) :
    IsBlock name text (Table.rowLines (lintTable rows).natural [name, statusMark text, text]) := by
  have hfits := fits_lintTable hfirst hlast hrows hroom
  have hmark := isWhole_statusMark text
  have hlines := Table.rowLines_of_isSteady (hfits.entry (List.mem_cons_of_mem _ hrow))
  have hsplit : ((statusMark text).toList.splitOn '\n').length = 1 := by
    unfold statusMark
    split <;> decide
  rw [hlines]
  constructor
  · have hname := List.length_pos_iff.mpr (List.splitOn_ne_nil '\n' name.toList)
    have hentries : Table.height ((lintTable rows).natural.zip [name, statusMark text, text]) =
        max (max (max 0 (name.toList.splitOn '\n').length)
          ((statusMark text).toList.splitOn '\n').length) (text.toList.splitOn '\n').length := rfl
    rw [List.length_map, List.length_range, hentries, hsplit]
    omega
  · intro n hn
    obtain ⟨left, hleft⟩ := Table.part_of_left { heading := "State machine" }
      ((lintTable rows).widest 0) rfl name n
    obtain ⟨before, behind, hmiddle⟩ := Table.part_of_centred
      { heading := "Status", centred := true } ((lintTable rows).widest 1) rfl hmark.1 n
    obtain ⟨right, hright⟩ := Table.part_of_left { heading := "Errors" }
      ((lintTable rows).widest 2) rfl text n
    refine ⟨left, before, behind, right, ?_⟩
    rw [List.length_map, List.length_range] at hn
    rw [List.getElem?_map, List.getElem?_range hn, Option.map_some, ← hleft, ← hmiddle, ← hright]
    rfl

end

/-! ## The command -/

/-- A row that shows a machine as it is. -/
def IsRowOf (first last : Nat) (entry : String × Value) (row : List String) : Prop :=
  ∃ text, complaint entry.2 = .ok text ∧ row = [entry.1, statusMark text, text] ∧
    IsVerbatim first entry.1 ∧ IsVerbatim last text

section

variable {first last : Nat} {entry : String × Value} {row : List String}

theorem exists_isRowOf (h : ∃ text, complaint entry.2 = .ok text ∧ IsVerbatim first entry.1 ∧
    IsVerbatim last text) : ∃ row, IsRowOf first last entry row := by
  obtain ⟨text, htext, hverbatim⟩ := h
  exact ⟨_, text, htext, rfl, hverbatim⟩

theorem IsRowOf.isVerbatimRow (h : IsRowOf first last entry row) :
    IsVerbatimRow first last row := by
  obtain ⟨text, -, hrow, hverbatim⟩ := h
  exact ⟨entry.1, text, hrow, hverbatim⟩

theorem IsRowOf.showsAs (h : IsRowOf first last entry row) : ShowsAs entry row := by
  obtain ⟨text, htext, hrow, hname, hverbatim⟩ := h
  exact ⟨text, _, _, htext, hname.markup.plain, hverbatim.markup.plain, hrow⟩

end

theorem forall_mem_of_forall₂ {α β : Type} {r : α → β → Prop} {p : β → Prop} {as : List α}
    {bs : List β} (h : List.Forall₂ r as bs) (hp : ∀ a b, r a b → p b) : ∀ b ∈ bs, p b := by
  induction h with
  | nil => exact fun b hb => absurd hb List.not_mem_nil
  | cons hab _ ih => exact List.forall_mem_cons.mpr ⟨hp _ _ hab, ih⟩

theorem exists_forall₂ {α β : Type} {r : α → β → Prop} {as : List α} (h : ∀ a ∈ as, ∃ b, r a b) :
    ∃ bs, List.Forall₂ r as bs := by
  induction as with
  | nil => exact ⟨[], .nil⟩
  | cons a as ih =>
    obtain ⟨⟨b, hb⟩, has⟩ := List.forall_mem_cons.mp h
    obtain ⟨bs, hbs⟩ := ih has
    exact ⟨b :: bs, .cons hb hbs⟩

/-- Linting a service ends with exit code 0 if it comes to its end and all definitions are valid,
else with 1. It comes to its end exactly if every definition can be read, every name and every text
about a machine is markup, and no half of a surrogate pair is in the table; then it prints what
shows of the names and texts as markup. If they are all verbatim and there is room for them, it
does come to its end, and for each machine in turn the table shows all lines of the name and of
the text. -/
theorem run_lint_shows {around : Surroundings} {path : String} {data : List UInt8}
    {service : Service} (hpath : isOption path = false)
    (hfile : around.folder.find path = .file data)
    (hload : Load.service around.folder path = .ok service) :
    IsReport service (run around ["lint", path]) ∧
      ∀ first last, 13 ≤ first → 6 ≤ last → first + last + 16 ≤ terminalWidth →
        (∀ entry ∈ service.machines, ∃ text, complaint entry.2 = .ok text ∧
          IsVerbatim first entry.1 ∧ IsVerbatim last text) →
        (run around ["lint", path]).crash = none ∧
          ∃ above blocks below, (run around ["lint", path]).stdout =
            String.ofList ((above ++ blocks.flatten ++ below).flatMap (· ++ ['\n'])) ∧
            List.Forall₂ (fun entry block => ∃ text, complaint entry.2 = .ok text ∧
              IsBlock entry.1 text block) service.machines blocks := by
  have hreport := isReport_run hpath hfile hload
  refine ⟨hreport, fun first last hfirst hlast hroom hverbatim => ?_⟩
  obtain ⟨rows, hrows⟩ := exists_forall₂ fun entry hentry =>
    exists_isRowOf (hverbatim entry hentry)
  have hverbatim : ∀ row ∈ rows, IsVerbatimRow first last row :=
    forall_mem_of_forall₂ hrows fun entry row h => h.isVerbatimRow
  have hshown : List.Forall₂ ShowsAs service.machines rows := hrows.imp fun entry row h => h.showsAs
  have hfits := fits_lintTable hfirst hlast hverbatim hroom
  have hcrash : (run around ["lint", path]).crash = none :=
    hreport.crash_eq_none.mpr ⟨rows, hshown, hfits.isPrintable_render.isSome_plain?⟩
  refine ⟨hcrash, (lintTable rows).above, rows.map (Table.rowLines (lintTable rows).natural),
    (lintTable rows).below, ?_, List.forall₂_map_right_iff.mpr (List.forall₂_iff_zip.mpr ?_)⟩
  · rw [hreport.stdout hcrash rows hshown, hfits.render, ← List.flatMap_def]
    rfl
  · refine ⟨hrows.length_eq, fun hentry => ?_⟩
    obtain ⟨text, htext, hrow, -, -⟩ := (List.forall₂_iff_zip.mp hrows).2 hentry
    refine ⟨text, htext, ?_⟩
    rw [hrow]
    exact isBlock_rowLines hfirst hlast hverbatim hroom (hrow ▸ (List.of_mem_zip hentry).2)

/-- A run over a folder with a document at `s.json`, under the usual settings. -/
def aroundText (text : String) : Surroundings where
  folder := ⟨[(["s.json"], text.toList.map fun c => UInt8.ofNat c.toNat)], []⟩
  settings := {}
  stream := fun _ => '0'

/-- Whether machines have one name only and the report says one thing only about each. -/
def saysOf (name text : String) (service : Service) : Bool :=
  service.machines.all fun entry => entry.1 == name && (complaint entry.2).toOption == some text

theorem exists_of_okWith_saysOf {name text : String} {loaded : Except LoadFailure Service}
    (h : okWith (fun service => service.machines.length == 1 && saysOf name text service) loaded =
      true) :
    ∃ service, loaded = .ok service ∧ ∃ entry, service.machines = [entry] ∧ entry.1 = name ∧
      complaint entry.2 = .ok text := by
  obtain ⟨service, hload, hservice⟩ := exists_of_okWith h
  rw [Bool.and_eq_true, beq_iff_eq, List.length_eq_one_iff] at hservice
  obtain ⟨⟨entry, hentry⟩, hsays⟩ := hservice
  rw [saysOf, hentry, List.all_cons, List.all_nil, Bool.and_true, Bool.and_eq_true, beq_iff_eq,
    beq_iff_eq] at hsays
  refine ⟨service, hload, entry, hentry, hsays.1, ?_⟩
  cases hcomplaint : complaint entry.2 with
  | error e => simp [hcomplaint, Except.toOption] at hsays
  | ok said => simpa [hcomplaint, Except.toOption] using hsays.2

theorem exists_file_of_read {folder : Folder} {path : String}
    (h : okWith (fun _ => true) (folder.read path) = true) :
    ∃ data, folder.find path = .file data := by
  unfold Folder.read at h
  split at h
  · rename_i data hfile
    exact ⟨data, hfile⟩
  · cases h
  · cases h

/-- A service with a machine that has no definition. -/
def undefinedFlow : Surroundings :=
  aroundText "\x7b\"stepFunctions\": \x7b\"stateMachines\": \x7b\"flow\": \x7b\x7d\x7d\x7d\x7d"

theorem run_lint_shows_undefinedFlow : (run undefinedFlow ["lint", "s.json"]).crash = none ∧
    (run undefinedFlow ["lint", "s.json"]).exitCode = 1 ∧
    ∃ above block below, (run undefinedFlow ["lint", "s.json"]).stdout =
      String.ofList ((above ++ block ++ below).flatMap (· ++ ['\n'])) ∧
      IsBlock "flow" "missing definition" block := by
  have hservice : okWith (fun service => service.machines.length == 1 &&
      saysOf "flow" "missing definition" service)
      (Load.service undefinedFlow.folder "s.json") = true := by decide +kernel
  obtain ⟨service, hload, entry, hentry, hname, htext⟩ := exists_of_okWith_saysOf hservice
  have hfile : ∃ data, undefinedFlow.folder.find "s.json" = .file data :=
    exists_file_of_read (by decide +kernel)
  obtain ⟨data, hfile⟩ := hfile
  obtain ⟨hreport, hshown⟩ := run_lint_shows (by decide +kernel) hfile hload
  have hflow : IsVerbatim 13 "flow" :=
    ⟨.of_notMem (by decide +kernel) (by decide +kernel) (by decide +kernel),
      .of_isLine (by decide +kernel), by decide +kernel⟩
  have hmissing : IsVerbatim 18 "missing definition" :=
    ⟨.of_notMem (by decide +kernel) (by decide +kernel) (by decide +kernel),
      .of_isLine (by decide +kernel), by decide +kernel⟩
  have hverbatim : ∀ entry ∈ service.machines, ∃ text, complaint entry.2 = .ok text ∧
      IsVerbatim 13 entry.1 ∧ IsVerbatim 18 text := by
    rw [hentry, List.forall_mem_singleton, hname]
    exact ⟨_, htext, hflow, hmissing⟩
  obtain ⟨hcrash, above, blocks, below, hstdout, hblocks⟩ :=
    hshown 13 18 (by decide) (by decide) (by decide) hverbatim
  have hinvalid : (run undefinedFlow ["lint", "s.json"]).exitCode ≠ 0 := by
    intro hexit
    have hvalid := (hreport.exitCode_eq_zero.mp hexit).2 entry (by simp [hentry])
    have hempty := htext.symm.trans ((isValid_iff_complaint entry.2).mp hvalid)
    simp at hempty
  rw [hentry] at hblocks
  cases hblocks with
  | cons hblock hnil =>
    cases hnil
    obtain ⟨text, hsame, hblock⟩ := hblock
    cases htext.symm.trans hsame
    rw [List.flatten_singleton] at hstdout
    exact ⟨hcrash, hreport.exitCode.resolve_left hinvalid, above, _, below, hstdout,
      hname ▸ hblock⟩

/-- A service with a machine whose name is a closing tag and whose definition is valid. -/
def bracketed : Surroundings :=
  aroundText ("\x7b\"stepFunctions\": \x7b\"stateMachines\": \x7b\"[/flow]\": "
    ++ "\x7b\"definition\": \x7b\"StartAt\": \"A\", "
    ++ "\"States\": \x7b\"A\": \x7b\"Type\": \"Succeed\"\x7d\x7d\x7d\x7d\x7d\x7d\x7d")

/-- A run over valid definitions does not end well if the name of a machine is no markup. -/
theorem not_reported_bracketed : ¬ ∀ around path data service, isOption path = false →
    around.folder.find path = .file data → Load.service around.folder path = .ok service →
    (∀ entry ∈ service.machines, Machine.IsValid entry.2) →
    (run around ["lint", path]).exitCode = 0 ∧ (run around ["lint", path]).crash = none := by
  intro h
  have hservice : okWith (fun service => service.machines.length == 1 &&
      saysOf "[/flow]" "" service) (Load.service bracketed.folder "s.json") = true := by
    decide +kernel
  obtain ⟨service, hload, entry, hentry, hname, htext⟩ := exists_of_okWith_saysOf hservice
  have hfile : ∃ data, bracketed.folder.find "s.json" = .file data :=
    exists_file_of_read (by decide +kernel)
  obtain ⟨data, hfile⟩ := hfile
  have hvalid : ∀ entry ∈ service.machines, Machine.IsValid entry.2 := by
    rw [hentry, List.forall_mem_singleton]
    exact (isValid_iff_complaint entry.2).mpr htext
  obtain ⟨-, hcrash⟩ := h bracketed "s.json" data service (by decide +kernel) hfile hload hvalid
  obtain ⟨rows, hrows, -⟩ :=
    (isReport_run (by decide +kernel) hfile hload).crash_eq_none.mp hcrash
  rw [hentry] at hrows
  cases hrows with
  | cons hrow _ =>
    obtain ⟨_, name, _, _, hplain, -, -⟩ := hrow
    obtain ⟨e, he⟩ := Markup.plain_unmatched "[/flow]" "/flow".toList "flow".toList [] [.text []]
      (by decide +kernel) (by decide +kernel) (by decide +kernel)
    rw [hname, he] at hplain
    cases hplain

end Command

end FlowTemplate
