import TableQuery.Sql.Clause

/-!
# Wrapping — how long the lines of a select list are

A select list is divided into lines, each of which holds some of the items behind a margin. A line
ends where there is no room for the next item, and it keeps to the width up to its last item, unless
it holds one item only. But the comma that stands behind the last item of a line, where another line
follows, has no room reserved for it: a line that is filled to the last column is one byte too long
with its comma, and these are the only lines that are too long without need (`lines_selectText`).
-/

namespace TableQuery

/-! ## Lines of a text -/

namespace Text

theorem splitLines_append_break {cs : List Char} (hBreak : '\n' ∉ cs)
    (hReturn : cs.getLast? ≠ some '\r') (rest : List Char) :
    splitLines (cs ++ '\n' :: rest) = cs :: splitLines rest := by
  induction cs with
  | nil => rfl
  | cons c cs ih =>
      have hTail : '\n' ∉ cs := fun h => hBreak (List.mem_cons_of_mem c h)
      have hHead : c ≠ '\n' := by
        rintro rfl
        exact hBreak List.mem_cons_self
      -- a carriage return is no part of the break, since it is not the last character
      have hPair (ds : List Char) : c = '\r' → cs ++ '\n' :: rest = '\n' :: ds → False := by
        rintro rfl hNext
        cases cs with
        | nil => exact hReturn rfl
        | cons d cs =>
            rw [List.cons_append, List.cons.injEq] at hNext
            rw [hNext.1] at hTail
            exact hTail List.mem_cons_self
      have hEnd : cs.getLast? ≠ some '\r' := by
        cases cs with
        | nil => simp
        | cons d cs => rwa [List.getLast?_cons_cons] at hReturn
      rw [List.cons_append, splitLines, ih hTail hEnd]
      · exact hHead
      · exact hPair

theorem splitLines_of_notMem {cs : List Char} (hSome : cs ≠ []) (hBreak : '\n' ∉ cs) :
    splitLines cs = [cs] := by
  induction cs with
  | nil => exact absurd rfl hSome
  | cons c cs ih =>
      have hTail : '\n' ∉ cs := fun h => hBreak (List.mem_cons_of_mem c h)
      have hHead : c ≠ '\n' := by
        rintro rfl
        exact hBreak List.mem_cons_self
      have hPair (ds : List Char) : c = '\r' → cs = '\n' :: ds → False := by
        rintro - rfl
        exact hTail List.mem_cons_self
      rw [splitLines]
      · cases cs with
        | nil => rfl
        | cons d cs => rw [ih (List.cons_ne_nil d cs) hTail]
      · exact hHead
      · exact hPair

theorem lines_append_break {s : String} (hBreak : '\n' ∉ s.toList)
    (hReturn : s.toList.getLast? ≠ some '\r') (rest : String) :
    lines (s ++ "\n" ++ rest) = s :: lines rest := by
  have hText : (s ++ "\n" ++ rest).toList = s.toList ++ '\n' :: rest.toList := by simp
  rw [lines, hText, splitLines_append_break hBreak hReturn, List.map_cons, String.ofList_toList]
  rfl

theorem lines_of_notMem {s : String} (hSome : s ≠ "") (hBreak : '\n' ∉ s.toList) :
    lines s = [s] := by
  have hChars : s.toList ≠ [] := by simpa using hSome
  rw [lines, splitLines_of_notMem hChars hBreak, List.map_singleton, String.ofList_toList]

end Text

/-! ## Lines of a select list -/

/-- A line of a select list: what stands in front of its items, the items, and whether another line
follows. -/
structure SelectLine where
  margin : String
  items : List String
  continued : Bool

namespace SelectLine

/-- The line up to its last item. -/
def body (l : SelectLine) : String :=
  l.margin ++ ", ".intercalate l.items

/-- The line as it is written, with a comma where another line follows. -/
def text (l : SelectLine) : String :=
  if l.continued then l.body ++ "," else l.body

/-- The line holds a single item, which is too long for it. -/
def IsOverfull (l : SelectLine) : Prop :=
  ∃ item, l.items = [item] ∧ lineWidth < l.margin.utf8ByteSize + item.utf8ByteSize

/-- The line keeps to the width, unless it is overfull. -/
def Fits (l : SelectLine) : Prop :=
  l.text.utf8ByteSize ≤ lineWidth ∨ l.IsOverfull

/-- The same up to the last item of the line. -/
def Holds (l : SelectLine) : Prop :=
  l.body.utf8ByteSize ≤ lineWidth ∨ l.IsOverfull

/-- There is no room on the line for one more item, with the comma and the blank in front of it. -/
def IsFull (l : SelectLine) (item : String) : Prop :=
  lineWidth < l.body.utf8ByteSize + 2 + item.utf8ByteSize

end SelectLine

open SelectLine

/-- The lines hold the items in order: the first line behind the margin that is given, and the
others behind that of continuation lines. A line ends in front of an item as `Ends` says. -/
inductive Divided (Ends : SelectLine → String → Prop) :
    String → List String → List SelectLine → Prop where
  | last {margin : String} {row : List String} : row ≠ [] →
      Divided Ends margin row [⟨margin, row, false⟩]
  | wrap {margin item : String} {row rest : List String} {lines : List SelectLine} : row ≠ [] →
      Ends ⟨margin, row, true⟩ item →
      Divided Ends (Text.spaces continuationIndent) (item :: rest) lines →
      Divided Ends margin (row ++ item :: rest) (⟨margin, row, true⟩ :: lines)

/-- What stands in front of the first item. -/
def selectOpening (distinct : Bool) : String :=
  if distinct then "SELECT DISTINCT " else "SELECT "

/-- The items that are written: no items stand for all columns. -/
def shownItems (items : List String) : List String :=
  if items.isEmpty then ["*"] else items

section Lines

variable {Ends : SelectLine → String → Prop} {margin : String} {items : List String}
  {line : SelectLine} {lines : List SelectLine}

theorem Divided.ne_nil (h : Divided Ends margin items lines) : lines ≠ [] := by
  cases h with
  | last => exact List.cons_ne_nil _ _
  | wrap => exact List.cons_ne_nil _ _

theorem Divided.head (h : Divided Ends margin items (line :: lines)) :
    line.margin = margin ∧ ∀ item ∈ line.items, item ∈ items := by
  cases h with
  | last => exact ⟨rfl, fun item hItem => hItem⟩
  | wrap => exact ⟨rfl, fun item hItem => List.mem_append_left _ hItem⟩

theorem SelectLine.body_single (margin item : String) (continued : Bool) :
    body ⟨margin, [item], continued⟩ = margin ++ item := by
  rw [body, String.intercalate_singleton]

theorem SelectLine.body_append {row : List String} (hRow : row ≠ []) (margin item : String)
    (continued : Bool) :
    body ⟨margin, row ++ [item], continued⟩ =
      body ⟨margin, row, continued⟩ ++ (", " ++ item) := by
  rw [body, body, String.intercalate_append_of_ne_nil hRow (List.cons_ne_nil item []),
    String.intercalate_singleton]
  simp only [String.append_assoc]

/-- An item that stands alone on its line is too long for it, or not. -/
theorem SelectLine.holds_single (margin item : String) (continued : Bool) :
    (⟨margin, [item], continued⟩ : SelectLine).Holds := by
  by_cases hLong : lineWidth < margin.utf8ByteSize + item.utf8ByteSize
  · exact .inr ⟨item, rfl, hLong⟩
  · refine .inl ?_
    rw [body_single, String.utf8ByteSize_append]
    exact Nat.not_lt.1 hLong

theorem SelectLine.utf8ByteSize_text (l : SelectLine) :
    l.text.utf8ByteSize = l.body.utf8ByteSize + if l.continued = true then 1 else 0 := by
  have hComma : ",".utf8ByteSize = 1 := by decide
  cases hMore : l.continued with
  | true => simp [text, hMore, hComma]
  | false => simp [text, hMore]

/-- A line that holds its items has room for the comma behind them, unless it is filled to the last
column. -/
theorem SelectLine.Holds.fits_iff (h : line.Holds) :
    line.Fits ↔ (line.continued = true → line.body.utf8ByteSize ≠ lineWidth) := by
  -- an overfull line is longer than the width even without its comma
  have hOver : line.IsOverfull → line.body.utf8ByteSize ≠ lineWidth := by
    rintro ⟨item, hItem, hLong⟩
    rw [body, hItem, String.intercalate_singleton, String.utf8ByteSize_append]
    exact Nat.ne_of_gt hLong
  constructor
  · rintro (hText | hLong) hMore
    · rw [SelectLine.utf8ByteSize_text, if_pos hMore] at hText
      exact Nat.ne_of_lt hText
    · exact hOver hLong
  · intro hColumn
    rcases h with hBody | hLong
    · refine .inl ?_
      rw [SelectLine.utf8ByteSize_text]
      split
      · next hMore => exact Nat.lt_of_le_of_ne hBody (hColumn hMore)
      · exact hBody
    · exact .inr hLong

/-- Commas and blanks between the items bring no line break, and neither does the margin. -/
theorem SelectLine.break_notMem_body (hMargin : '\n' ∉ line.margin.toList)
    (hItems : ∀ item ∈ line.items, '\n' ∉ item.toList) : '\n' ∉ line.body.toList := by
  have hJoined {row : List String} (hRow : ∀ item ∈ row, '\n' ∉ item.toList) :
      '\n' ∉ (", ".intercalate row).toList := by
    induction row with
    | nil => simp
    | cons item row ih =>
        have hItem := hRow item List.mem_cons_self
        have hRest := ih fun later h => hRow later (List.mem_cons_of_mem item h)
        cases row with
        | nil => simpa using hItem
        | cons next row =>
            rw [String.intercalate_cons_cons]
            simp only [String.toList_append, List.mem_append, not_or]
            exact ⟨⟨hItem, by decide⟩, hRest⟩
  rw [body, String.toList_append, List.mem_append, not_or]
  exact ⟨hMargin, hJoined hItems⟩

/-- The lines of the text are those that the items are divided into. -/
theorem Divided.lines_eq (h : Divided Ends margin items lines) (hMargin : '\n' ∉ margin.toList)
    (hSome : margin ≠ "") (hItems : ∀ item ∈ items, '\n' ∉ item.toList) :
    Text.lines ("\n".intercalate (lines.map SelectLine.text)) = lines.map SelectLine.text := by
  induction h with
  | @last margin row hRow =>
      have hBody : '\n' ∉ (body ⟨margin, row, false⟩).toList :=
        SelectLine.break_notMem_body hMargin hItems
      have hNe : body ⟨margin, row, false⟩ ≠ "" := by
        simp [body, hSome]
      rw [List.map_singleton, String.intercalate_singleton]
      exact Text.lines_of_notMem hNe hBody
  | @wrap margin item row rest lines hRow hEnds hRest ih =>
      have hBody : '\n' ∉ (body ⟨margin, row, true⟩).toList :=
        SelectLine.break_notMem_body hMargin fun item h => hItems item (List.mem_append_left _ h)
      have hText :
          (text ⟨margin, row, true⟩).toList = (body ⟨margin, row, true⟩).toList ++ [','] := by
        simp [text]
      have hLine : '\n' ∉ (text ⟨margin, row, true⟩).toList := by
        rw [hText, List.mem_append, not_or]
        exact ⟨hBody, by decide⟩
      have hEnd : (text ⟨margin, row, true⟩).toList.getLast? ≠ some '\r' := by
        simp [hText]
      have hTail := ih (by decide) (by decide) fun later h =>
        hItems later (List.mem_append_right _ h)
      have hMore : lines.map SelectLine.text ≠ [] := by simpa using hRest.ne_nil
      rw [List.map_cons, String.intercalate_cons_of_ne_nil hMore,
        Text.lines_append_break hLine hEnd, hTail]

end Lines

/-! ## Wrapping -/

theorem firstLineLength_of_notMem {item : String} (h : '\n' ∉ item.toList) :
    firstLineLength item = item.utf8ByteSize := by
  by_cases hEmpty : item = ""
  · subst hEmpty
    rfl
  · rw [firstLineLength, Text.lines_of_notMem hEmpty h]

theorem lengthAfter_of_notMem {item : String} (h : '\n' ∉ item.toList) (length : Nat) :
    lengthAfter length item = length + item.utf8ByteSize := by
  have hNone : Text.afterLastBreak? item.toList = none := by
    simp [Text.afterLastBreak?, h]
  rw [lengthAfter, hNone]

/-- Behind some items on a line the other items go on it as long as there is room for them, and
then on new lines. -/
theorem exists_divided (rest : List String) {margin : String} {row : List String}
    (hRow : row ≠ []) (hHolds : (⟨margin, row, false⟩ : SelectLine).Holds)
    (hRest : ∀ item ∈ rest, '\n' ∉ item.toList) :
    ∃ lines, Divided IsFull margin (row ++ rest) lines ∧ (∀ line ∈ lines, line.Holds) ∧
      body ⟨margin, row, false⟩ ++ moreItems (body ⟨margin, row, false⟩).utf8ByteSize rest =
        "\n".intercalate (lines.map SelectLine.text) := by
  -- along the items that are left, for every line so far that holds its own items
  induction rest generalizing margin row with
  | nil =>
      refine ⟨[⟨margin, row, false⟩], ?_, by simpa using hHolds, by simp [moreItems, text]⟩
      rw [List.append_nil]
      exact .last hRow
  | cons item rest ih =>
      have hItem : '\n' ∉ item.toList := hRest item List.mem_cons_self
      have hLater : ∀ later ∈ rest, '\n' ∉ later.toList := fun later h =>
        hRest later (List.mem_cons_of_mem item h)
      rw [moreItems, firstLineLength_of_notMem hItem, lengthAfter_of_notMem hItem,
        lengthAfter_of_notMem hItem]
      split
      · next hFull =>
        -- the line ends with a comma, and the item opens one of its own
        let indent := Text.spaces continuationIndent
        rcases ih (List.cons_ne_nil item []) (SelectLine.holds_single indent item false) hLater with
          ⟨lines, hDivided, hAll, hText⟩
        refine ⟨⟨margin, row, true⟩ :: lines, .wrap hRow hFull hDivided, ?_, ?_⟩
        · exact List.forall_mem_cons.2 ⟨hHolds, hAll⟩
        · have hMore : lines.map SelectLine.text ≠ [] := by simpa using hDivided.ne_nil
          have hLength : (body ⟨indent, [item], false⟩).utf8ByteSize =
              continuationIndent + item.utf8ByteSize := by
            have hIndent : indent.utf8ByteSize = continuationIndent := by decide
            rw [SelectLine.body_single, String.utf8ByteSize_append, hIndent]
          have hBreak : ",\n" = "," ++ "\n" := by decide
          rw [List.map_cons, String.intercalate_cons_of_ne_nil hMore, ← hText, hLength,
            SelectLine.body_single, hBreak]
          simp only [text, if_true, String.append_assoc]
          rfl
      · next hRoom =>
        -- the item joins the line, which still has no comma behind it
        have hBody := SelectLine.body_append hRow margin item false
        have hLength : (body ⟨margin, row ++ [item], false⟩).utf8ByteSize =
            (body ⟨margin, row, false⟩).utf8ByteSize + 2 + item.utf8ByteSize := by
          have hComma : ", ".utf8ByteSize = 2 := by decide
          rw [hBody, String.utf8ByteSize_append, String.utf8ByteSize_append, hComma, Nat.add_assoc]
        have hHolds' : (⟨margin, row ++ [item], false⟩ : SelectLine).Holds := by
          refine .inl ?_
          rw [hLength]
          exact Nat.not_lt.1 hRoom
        rcases ih (by simp) hHolds' hLater with ⟨lines, hDivided, hAll, hText⟩
        refine ⟨lines, ?_, hAll, ?_⟩
        · rwa [List.append_assoc] at hDivided
        · rw [← hText, hLength, hBody]
          simp only [String.append_assoc]

theorem selectText_nil (distinct : Bool) : selectText distinct [] = selectText distinct ["*"] := by
  simp [selectText, moreItems]

/-- A select list whose items have no line breaks is divided into lines, in order: each line but the
first starts with seven spaces, each but the last ends with a comma, and a line ends only where the
next item has no room on it. No line is longer than the width by more than its comma, unless it
holds a single item that is too long for it. But a line may be longer by its comma: lines keep to
the width exactly if they are not filled to the last column when another line follows. -/
theorem lines_selectText (distinct : Bool) {items : List String}
    (hItems : ∀ item ∈ items, '\n' ∉ item.toList) :
    ∃ lines, Divided IsFull (selectOpening distinct) (shownItems items) lines ∧
      selectText distinct items = "\n".intercalate (lines.map SelectLine.text) ∧
      Text.lines (selectText distinct items) = lines.map SelectLine.text ∧
      (∀ line ∈ lines, line.text.utf8ByteSize ≤ lineWidth + 1 ∨ line.IsOverfull) ∧
      ∀ line ∈ lines,
        line.Fits ↔ (line.continued = true → line.body.utf8ByteSize ≠ lineWidth) := by
  have hShown : ∀ item ∈ shownItems items, '\n' ∉ item.toList := by
    unfold shownItems
    split
    · simp
    · exact hItems
  have hText : selectText distinct items = selectText distinct (shownItems items) := by
    cases items with
    | nil => exact selectText_nil distinct
    | cons => rfl
  have hSome : shownItems items ≠ [] := by
    cases items with
    | nil => exact List.cons_ne_nil _ _
    | cons => exact List.cons_ne_nil _ _
  rw [hText]
  cases hItem : shownItems items with
  | nil => exact absurd hItem hSome
  | cons item rest =>
      rw [hItem] at hShown
      let opening := selectOpening distinct
      rcases exists_divided rest (List.cons_ne_nil item [])
        (SelectLine.holds_single opening item false)
        (fun later h => hShown later (List.mem_cons_of_mem item h)) with
        ⟨lines, hDivided, hAll, hJoined⟩
      have hOpening : '\n' ∉ opening.toList ∧ opening ≠ "" := by
        cases distinct <;> decide
      have hSelect : selectText distinct (item :: rest) =
          "\n".intercalate (lines.map SelectLine.text) := by
        rw [← hJoined, SelectLine.body_single, String.utf8ByteSize_append, selectText,
          lengthAfter_of_notMem (hShown item List.mem_cons_self)]
        rfl
      refine ⟨lines, hDivided, hSelect, ?_, ?_, ?_⟩
      · rw [hSelect]
        exact hDivided.lines_eq hOpening.1 hOpening.2 hShown
      · intro line hLine
        rcases hAll line hLine with hBody | hLong
        · refine .inl ?_
          rw [SelectLine.utf8ByteSize_text]
          split <;> omega
        · exact .inr hLong
      · intro line hLine
        exact (hAll line hLine).fits_iff

/-- Two items fill the first line to the last column, and a third one follows. -/
theorem lines_selectText_lastColumn :
    let items := ["arrival_delay_in_whole_minutes", "departure_delay_in_half_minutes", "carrier"]
    (∀ item ∈ items, '\n' ∉ item.toList) ∧
    ∃ lines, Divided IsFull "SELECT " items lines ∧
      lines.map SelectLine.text =
        ["SELECT arrival_delay_in_whole_minutes, departure_delay_in_half_minutes,",
          "       carrier"] := by
  intro items
  have hItems : ∀ item ∈ items, '\n' ∉ item.toList := by decide
  rcases lines_selectText false hItems with ⟨lines, hDivided, -, hLines, -, -⟩
  refine ⟨hItems, lines, hDivided, ?_⟩
  rw [← hLines]
  decide +kernel

/-- The first of these lines has 71 bytes and two items. However the text is divided into lines with
these items, not every line keeps to the width or holds a single item that is too long for it. -/
theorem selectText_overlong :
    let items := ["arrival_delay_in_whole_minutes", "departure_delay_in_half_minutes", "carrier"]
    ¬ ∃ lines, Divided (fun _ _ => True) (selectOpening false) items lines ∧
      Text.lines (selectText false items) = lines.map SelectLine.text ∧
      ∀ line ∈ lines, line.Fits := by
  rintro items ⟨lines, hDivided, hLines, hFits⟩
  have hWritten : Text.lines (selectText false items) =
      ["SELECT arrival_delay_in_whole_minutes, departure_delay_in_half_minutes,",
        "       carrier"] := by decide +kernel
  cases lines with
  | nil => exact hDivided.ne_nil rfl
  | cons line lines =>
      rw [hWritten, List.map_cons, List.cons.injEq] at hLines
      rcases hFits line List.mem_cons_self with hText | ⟨item, hItem, hLong⟩
      · rw [← hLines.1] at hText
        exact absurd hText (by decide +kernel)
      · -- none of the items is too long for the line that starts with `SELECT`
        rcases hDivided.head with ⟨hMargin, hMem⟩
        have hShort : ∀ short ∈ items, ¬ lineWidth <
            (selectOpening false).utf8ByteSize + short.utf8ByteSize := by decide +kernel
        rw [hMargin] at hLong
        exact hShort item (hMem item (by rw [hItem]; exact List.mem_cons_self)) hLong

end TableQuery
