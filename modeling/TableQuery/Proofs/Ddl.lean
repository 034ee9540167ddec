import Mathlib.Data.List.TakeWhile
import TableQuery.Ddl
import TableQuery.Proofs.Sql.Separable

/-!
# Ddl — what the text of a definition says

The statement that adds columns is taken apart from the left: a name ends at the blank behind it, a
type at the blank, comma or parenthesis behind it, and whether a default and an encoding follow is
seen from the word in front of them. So no name, string or encoding passes for another column or for
the end of the list, and the statement tells the columns it adds (`addColumns_injective`).
-/

namespace TableQuery

open Reader

/-- The column with its encoding in capital letters, which is how it is written. -/
def ColumnSpec.inCapitals (c : ColumnSpec) : ColumnSpec :=
  { c with encoding := c.encoding.map Text.upperAscii }

/-- The column brings no quotes of its own, and its default is told by its text. -/
structure ColumnSpec.IsPlain (c : ColumnSpec) : Prop where
  name : c.name.toList.head? ≠ some '"'
  default : ∀ v ∈ c.default, v.IsWhole

namespace Ddl

/-! ## Encodings -/

/-- A text in which no parenthesis closes, and the parenthesis that closes behind it. -/
def Parenthesised (inner text : String) : Prop :=
  text = inner ++ ")" ∧ ')' ∉ inner.toList

/-- An encoding is written as it is: as letters, possibly with a text in parentheses behind them. -/
def Encodes (encoding text : String) : Prop :=
  text = encoding ∧ ∃ letters number inner, text = letters ++ number ∧
    (∀ c ∈ letters.toList, c.isAlpha = true) ∧ Optionally "(" Parenthesised inner number

/-- Some digits in parentheses. -/
def IsNumber (isDigit : Char → Bool) (cs : List Char) : Prop :=
  ∃ digits, digits ≠ [] ∧ (∀ c ∈ digits, isDigit c = true) ∧ cs = '(' :: (digits ++ [')'])

/-- Some letters, and possibly some digits in parentheses behind them. -/
def IsEncodingOf (isLetter isDigit : Char → Bool) (cs : List Char) : Prop :=
  ∃ letters number, cs = letters ++ number ∧ letters ≠ [] ∧
    (∀ c ∈ letters, isLetter c = true) ∧ (number = [] ∨ IsNumber isDigit number)

theorem isParenthesisedNumber_iff {cs : List Char} :
    isParenthesisedNumber cs = true ↔ IsNumber Text.isDecimalDigit cs := by
  constructor
  · intro h
    unfold isParenthesisedNumber at h
    split at h
    · next rest =>
      simp only [Bool.and_eq_true, Bool.not_eq_true', List.isEmpty_eq_false_iff, beq_iff_eq] at h
      refine ⟨_, h.1, fun c hc => List.mem_takeWhile_imp hc, ?_⟩
      rw [← h.2, List.takeWhile_append_dropWhile]
    · cases h
  · rintro ⟨digits, hSome, hDigits, rfl⟩
    have hStops : Stops Text.isDecimalDigit [')'] := stops_cons (by decide) []
    rcases Reader.span_append hDigits hStops with ⟨hTake, hDrop⟩
    simp [isParenthesisedNumber, hTake, hDrop, hSome]

/-- No letter starts what stands behind the letters. -/
theorem stops_number {isDigit : Char → Bool} {number : List Char}
    (h : number = [] ∨ IsNumber isDigit number) : Stops Char.isAlpha number := by
  rcases h with rfl | ⟨digits, -, -, rfl⟩
  · simp [Stops]
  · exact stops_cons (by decide) _

theorem isEncoding_iff {s : String} :
    isEncoding s = true ↔ IsEncodingOf Char.isAlpha Text.isDecimalDigit s.toList := by
  constructor
  · intro h
    simp only [isEncoding, Bool.and_eq_true, Bool.or_eq_true, Bool.not_eq_true',
      List.isEmpty_eq_false_iff, List.isEmpty_iff, isParenthesisedNumber_iff] at h
    exact ⟨_, _, List.takeWhile_append_dropWhile.symm, h.1,
      fun c hc => List.mem_takeWhile_imp hc, h.2⟩
  · rintro ⟨letters, number, hText, hSome, hLetters, hNumber⟩
    rcases Reader.span_append hLetters (stops_number hNumber) with ⟨hTake, hDrop⟩
    simp only [isEncoding, hText, hTake, hDrop, Bool.and_eq_true, Bool.or_eq_true,
      Bool.not_eq_true', List.isEmpty_eq_false_iff, List.isEmpty_iff, isParenthesisedNumber_iff]
    exact ⟨hSome, hNumber⟩

theorem encodingText_eq_ok_iff {s text : String} :
    encodingText s = .ok text ↔
      IsEncodingOf Char.isAlpha Text.isDecimalDigit s.toList ∧ text = Text.upperAscii s := by
  rw [← isEncoding_iff, encodingText]
  split
  · next h => simp [h, eq_comm]
  · next h => simp [h]

/-- Characters that take letters to letters and digits to digits keep an encoding one. -/
theorem IsEncodingOf.map {isLetter isLetter' isDigit isDigit' : Char → Bool} {f : Char → Char}
    {cs : List Char} (h : IsEncodingOf isLetter isDigit cs)
    (hLetters : ∀ c ∈ cs, isLetter c = true → isLetter' (f c) = true)
    (hDigits : ∀ c ∈ cs, isDigit c = true → isDigit' (f c) = true)
    (hSigns : f '(' = '(' ∧ f ')' = ')') : IsEncodingOf isLetter' isDigit' (cs.map f) := by
  rcases h with ⟨letters, number, rfl, hSome, hAll, hNumber⟩
  refine ⟨letters.map f, number.map f, List.map_append, by simpa using hSome, ?_, ?_⟩
  · rw [List.forall_mem_map]
    exact fun c hc => hLetters c (List.mem_append_left _ hc) (hAll c hc)
  · rcases hNumber with rfl | ⟨digits, hSome, hAll, rfl⟩
    · exact .inl rfl
    · refine .inr ⟨digits.map f, by simpa using hSome, ?_, by simp [hSigns]⟩
      rw [List.forall_mem_map]
      exact fun c hc => hDigits c (by simp [hc]) (hAll c hc)

/-- What holds of the first 128 characters, which are those of ASCII. -/
theorem ascii_forall (P : Char → Prop) (h : ∀ n < 128, P (Char.ofNat n)) {c : Char}
    (hc : c.toNat < 128) : P c := by
  have hAt := h c.toNat hc
  rwa [Char.ofNat_toNat] at hAt

theorem toNat_lt_of_isAlpha {c : Char} (h : c.isAlpha = true) : c.toNat < 128 := by
  have hLast : c.val ≤ 'z'.val := by
    rcases Bool.or_eq_true_iff.1 h with hUpper | hLower
    · exact UInt32.le_trans (of_decide_eq_true hUpper).2 (by decide)
    · exact of_decide_eq_true (Bool.and_eq_true_iff.1 hLower).2
  exact Nat.lt_of_le_of_lt (UInt32.le_iff_toNat_le.1 hLast) (by decide)

theorem isUpper_toUpper {c : Char} (h : c.isAlpha = true) : c.toUpper.isUpper = true := by
  exact ascii_forall (fun c => c.isAlpha = true → c.toUpper.isUpper = true) (by decide)
    (toNat_lt_of_isAlpha h) h

/-- No digit of any script is a letter, so it stays as it is. -/
theorem toUpper_of_isDecimalDigit {c : Char} (h : Text.isDecimalDigit c = true) :
    c.toUpper = c := by
  refine toUpper_of_not_isAlpha (Bool.eq_false_iff.2 fun hLetter => ?_)
  exact ascii_forall (fun c => Text.isDecimalDigit c = true → ¬c.isAlpha = true)
    (by decide +kernel) (toNat_lt_of_isAlpha hLetter) h hLetter

/-- In capitals, an encoding is one of capital letters with the same digits. -/
theorem IsEncodingOf.upperAscii {s : String}
    (h : IsEncodingOf Char.isAlpha Text.isDecimalDigit s.toList) :
    IsEncodingOf Char.isUpper Text.isDecimalDigit (Text.upperAscii s).toList := by
  rw [Text.upperAscii, String.toList_ofList]
  refine h.map (fun c _ hLetter => isUpper_toUpper hLetter) (fun c _ hDigit => ?_) (by decide)
  rwa [toUpper_of_isDecimalDigit hDigit]

theorem of_encodingText {encoding text : String} (h : encodingText encoding = .ok text) :
    Encodes (Text.upperAscii encoding) text := by
  rcases encodingText_eq_ok_iff.1 h with ⟨hEncoding, rfl⟩
  rcases hEncoding.upperAscii with ⟨letters, number, hText, -, hLetters, hNumber⟩
  have hParts : Text.upperAscii encoding = String.ofList letters ++ String.ofList number := by
    rw [← String.toList_inj, hText, String.toList_append, String.toList_ofList,
      String.toList_ofList]
  have hAlpha : ∀ c ∈ (String.ofList letters).toList, c.isAlpha = true := by
    rw [String.toList_ofList]
    exact fun c hc => Bool.or_eq_true_iff.2 (.inl (hLetters c hc))
  rcases hNumber with rfl | ⟨digits, -, hDigits, rfl⟩
  · exact ⟨rfl, _, _, none, hParts, hAlpha, rfl⟩
  · refine ⟨rfl, _, _, some (String.ofList digits), hParts, hAlpha, String.ofList digits ++ ")",
      ⟨rfl, fun hMem => ?_⟩, ?_⟩
    · rw [String.toList_ofList] at hMem
      exact absurd (hDigits _ hMem) (by decide)
    · rw [← String.toList_inj]
      simp

theorem separable_parenthesised : Separable Parenthesised fun _ => True := by
  rintro s t _ _ cs ds ⟨rfl, hs⟩ ⟨rfl, ht⟩ - - hSame
  have hInner {u : String} (hu : ')' ∉ u.toList) : ∀ c ∈ u.toList, (c != ')') = true := by
    intro c hc
    rw [bne_iff_ne]
    rintro rfl
    exact hu hc
  rw [String.toList_append, String.toList_append, List.append_assoc, List.append_assoc] at hSame
  rcases eq_of_run_eq (hInner hs) (hInner ht) (stops_cons (by decide) cs)
    (stops_cons (by decide) ds) hSame with ⟨hText, hRest⟩
  exact ⟨String.toList_inj.1 hText, (List.cons.inj hRest).2⟩

theorem separable_encoding : Separable Encodes Bounded := by
  -- the letters end where a parenthesis opens, or with the encoding itself
  have hStops {inner : Option String} {number : String} {cs : List Char}
      (h : Optionally "(" Parenthesised inner number) (hcs : Bounded cs) :
      Stops Char.isAlpha (number.toList ++ cs) := by
    cases inner with
    | none =>
        obtain rfl : number = "" := h
        intro c hc
        have hBound := hcs c hc
        simp only [isBound, Bool.or_eq_true, beq_iff_eq] at hBound
        rcases hBound with (rfl | rfl) | rfl <;> decide
    | some inner =>
        rcases h with ⟨text, -, rfl⟩
        rw [String.toList_append, List.append_assoc]
        exact stops_cons (by decide) _
  rintro e f _ _ cs ds ⟨rfl, letters, number, inner, rfl, hLetters, hNumber⟩
    ⟨rfl, letters', number', inner', rfl, hLetters', hNumber'⟩ hcs hds hSame
  rw [String.toList_append, String.toList_append, List.append_assoc, List.append_assoc] at hSame
  rcases eq_of_run_eq hLetters hLetters' (hStops hNumber hcs) (hStops hNumber' hds) hSame with
    ⟨hWord, hRest⟩
  rcases separable_parenthesised.optionally "(" hNumber hNumber' ⟨trivial, hcs.after_paren⟩
    ⟨trivial, hds.after_paren⟩ hRest with ⟨-, rfl⟩
  have hEnd := String.toList_inj.1 (List.append_cancel_right hRest)
  exact ⟨by rw [String.toList_inj.1 hWord, hEnd], rfl⟩

/-! ## Columns -/

/-- What is written for a column with its encoding in capital letters. -/
structure Defines (c : ColumnSpec) (name type default encoding : String) : Prop where
  name : c.name.toList.head? ≠ some '"' ∧ Identifier.safe c.name = .ok name
  type : c.dataType.sqlName? = some type
  default : Optionally " DEFAULT " (fun v text => v.IsWhole ∧ Literal.sql v = .ok text) c.default
    default
  encoding : Optionally " ENCODING " Encodes c.encoding encoding

/-- The parts of a column in the order in which they stand. -/
def IsDefinition (c : ColumnSpec) (text : String) : Prop :=
  ∃ name type default encoding, Defines c name type default encoding ∧
    text = name ++ " " ++ type ++ (if c.nullable = true then "" else " NOT NULL") ++ default ++
      encoding

/-- Behind a column stands a comma or a parenthesis, or nothing. -/
def Closed (cs : List Char) : Prop :=
  ∀ c ∈ cs.head?, c = ',' ∨ c = ')'

theorem of_ident {name text : String} (h : ident name = .ok text) :
    Identifier.safe name = .ok text :=
  of_mapError_ok h

theorem of_defaultText {d : Dialect} {value : Option Literal} {text : String}
    (hWhole : ∀ v ∈ value, v.IsWhole) (h : defaultText d value = .ok text) :
    Optionally " DEFAULT " (fun v text => v.IsWhole ∧ Literal.sql v = .ok text) value text := by
  cases value with
  | none =>
      cases h
      rfl
  | some v =>
      rcases of_bind_ok h with ⟨s, hText, hDone⟩
      cases hDone
      have hSql := of_mapError_ok hText
      rw [Dialect.literalText_eq] at hSql
      exact ⟨s, ⟨hWhole v rfl, hSql⟩, rfl⟩

theorem of_encodingClause {encoding : Option String} {text : String}
    (h : encodingClause encoding = .ok text) :
    Optionally " ENCODING " Encodes (encoding.map Text.upperAscii) text := by
  cases encoding with
  | none =>
      cases h
      rfl
  | some encoding =>
      rcases of_bind_ok h with ⟨s, hText, hDone⟩
      cases hDone
      exact ⟨s, of_encodingText hText, rfl⟩

theorem of_columnDefinition {d : Dialect} {c : ColumnSpec} (hPlain : c.IsPlain) {text : String}
    (h : columnDefinition d c = .ok text) : IsDefinition c.inCapitals text := by
  rcases of_bind_ok h with ⟨name, hName, h⟩
  rcases of_bind_ok h with ⟨type, hType, h⟩
  rcases of_bind_ok h with ⟨default, hDefault, h⟩
  rcases of_bind_ok h with ⟨encoding, hEncoding, h⟩
  cases h
  refine ⟨name, type, default, encoding, ?_, rfl⟩
  exact {
    name := ⟨hPlain.name, of_ident hName⟩
    type := DataType.of_sqlName (of_mapError_ok hType)
    default := of_defaultText hPlain.default hDefault
    encoding := of_encodingClause hEncoding }

theorem closed_cons {c : Char} (h : c = ',' ∨ c = ')') (cs : List Char) : Closed (c :: cs) := by
  intro d hd
  obtain rfl : c = d := by simpa using hd
  exact h

theorem Closed.bounded {cs : List Char} (h : Closed cs) : Bounded cs := by
  intro c hc
  rcases h c hc with rfl | rfl <;> rfl

/-- No word that starts with a blank stands where a column ends. -/
theorem Closed.after_eq_none {cs : List Char} (h : Closed cs) {keyword : String}
    (hKeyword : keyword.toList.head? = some ' ') : after keyword cs = none := by
  cases hAfter : after keyword cs with
  | none => rfl
  | some rest =>
      rcases List.dropPrefix?_eq_some_iff.1 hAfter with ⟨start, rfl, hStart⟩
      rw [eq_of_beq hStart] at h
      have hBlank := h ' ' (by rw [List.head?_append, hKeyword]; rfl)
      simp at hBlank

/-- Each part of a column ends where the next one starts: none of those that may follow starts as
the part itself could go on. -/
theorem Defines.behind {c : ColumnSpec} {name type default encoding : String}
    (h : Defines c name type default encoding) {cs : List Char} (hcs : Closed cs) :
    Bounded ((if c.nullable = true then "" else " NOT NULL").toList ++
      (default.toList ++ (encoding.toList ++ cs))) ∧
    after " NOT NULL" (default.toList ++ (encoding.toList ++ cs)) = none ∧
    Bounded (encoding.toList ++ cs) ∧ after " DEFAULT " (encoding.toList ++ cs) = none := by
  have hEncoding := h.encoding.bounded (by decide) hcs.bounded
  have hDefault := h.default.bounded (by decide) hEncoding
  refine ⟨?_, ?_, hEncoding, ?_⟩
  · split
    · exact hDefault
    · exact bounded_append (by decide) _
  · refine h.default.after_eq_none (by decide) (h.encoding.after_eq_none (by decide) ?_)
    exact hcs.after_eq_none (by decide)
  · exact h.encoding.after_eq_none (by decide) (hcs.after_eq_none (by decide))

theorem separable_definition : Separable IsDefinition Closed := by
  rintro c c' s t cs ds ⟨name, type, default, encoding, hc, rfl⟩
    ⟨name', type', default', encoding', hc', rfl⟩ hcs hds hSame
  rcases hc.behind hcs with ⟨hType, hFlag, hDefault⟩
  rcases hc'.behind hds with ⟨hType', hFlag', hDefault'⟩
  simp only [String.toList_append, List.append_assoc] at hSame
  rcases separable_name hc.name hc'.name (bounded_append (by decide) _)
    (bounded_append (by decide) _) hSame with ⟨hSameName, hSame⟩
  rcases separable_type hc.type hc'.type hType hType' (List.append_cancel_left hSame) with
    ⟨hSameType, hSame⟩
  rcases separable_unless " NOT NULL" rfl rfl hFlag hFlag' hSame with ⟨hSameFlag, hSame⟩
  rcases separable_literal.optionally " DEFAULT " hc.default hc'.default hDefault hDefault'
    hSame with ⟨hSameDefault, hSame⟩
  rcases separable_encoding.optionally " ENCODING " hc.encoding hc'.encoding
    ⟨hcs.bounded, hcs.after_eq_none (by decide)⟩ ⟨hds.bounded, hds.after_eq_none (by decide)⟩
    hSame with ⟨hSameEncoding, hRest⟩
  refine ⟨?_, hRest⟩
  cases c
  cases c'
  rw [ColumnSpec.mk.injEq]
  exact ⟨hSameName, hSameType, hSameFlag, hSameDefault, hSameEncoding⟩

/-! ## The statement -/

/-- The texts of columns follow one another, and a parenthesis closes behind the last one. -/
theorem separable_definitions :
    Separable (Listed IsDefinition) fun cs => cs.head? = some ')' := by
  have hComma (cs : List Char) : Closed (", ".toList ++ cs) := closed_cons (.inl rfl) _
  have hClosing {cs : List Char} (h : cs.head? = some ')') :
      Closed cs ∧ after ", " cs = none := by
    rcases List.head?_eq_some_iff.1 h with ⟨rest, rfl⟩
    exact ⟨closed_cons (.inr rfl) rest, after_of_apart (t := ")") (by decide) rest⟩
  intro as bs s t cs ds hAs hBs hcs hds hSame
  exact separable_definition.listed hComma hAs hBs (hClosing hcs) (hClosing hds) hSame

/-- The text of a statement that adds columns, in its parts. -/
theorem of_addColumns {d : Dialect} {table text : String} {columns : List ColumnSpec}
    (hPlain : ∀ c ∈ columns, c.IsPlain) (h : addColumns d table columns = .ok text) :
    ∃ name definitions, Identifier.safe table = .ok name ∧
      Listed IsDefinition (columns.map (·.inCapitals)) definitions ∧
      text = "ALTER TABLE " ++ name ++ " ADD (" ++ definitions ++ ")" := by
  unfold addColumns at h
  split at h
  · cases h
  · next hSome =>
    rcases of_bind_ok h with ⟨definitions, hDefinitions, h⟩
    rcases of_bind_ok h with ⟨name, hName, h⟩
    cases h
    have hAll : List.Forall₂ (fun text c => IsDefinition c text) definitions
        (columns.map (·.inCapitals)) :=
      forall₂_map_of_mapM hDefinitions fun c hc text hText =>
        of_columnDefinition (hPlain c hc) hText
    have hListed := listed_intercalate (by simpa using hSome) hAll.flip
    exact ⟨name, _, of_ident hName, hListed, rfl⟩

/-- The text of a statement that adds columns tells the table and the columns: as many as there are,
and for each its name and type, whether it may be null, its default and its encoding, up to the
case of the letters in the encoding. Names with quotes of their own are left out, and so are
defaults that their text does not tell: floating-point numbers and fractions of a second. -/
theorem addColumns_injective (d : Dialect) {table table' text : String}
    {columns columns' : List ColumnSpec} (hTable : table.toList.head? ≠ some '"')
    (hTable' : table'.toList.head? ≠ some '"') (hPlain : ∀ c ∈ columns, c.IsPlain)
    (hPlain' : ∀ c ∈ columns', c.IsPlain) (h : addColumns d table columns = .ok text)
    (h' : addColumns d table' columns' = .ok text) :
    table = table' ∧ columns.map (·.inCapitals) = columns'.map (·.inCapitals) := by
  rcases of_addColumns hPlain h with ⟨name, definitions, hName, hListed, hText⟩
  rcases of_addColumns hPlain' h' with ⟨name', definitions', hName', hListed', hText'⟩
  have hSame := congrArg String.toList (hText.symm.trans hText')
  simp only [String.toList_append, List.append_assoc] at hSame
  rcases separable_name ⟨hTable, hName⟩ ⟨hTable', hName'⟩ (bounded_append (by decide) _)
    (bounded_append (by decide) _) (List.append_cancel_left hSame) with ⟨hSameTable, hSame⟩
  have hColumns := separable_definitions hListed hListed' rfl rfl (List.append_cancel_left hSame)
  exact ⟨hSameTable, hColumns.1⟩

/-- Two spellings of one encoding, behind a default that imitates the end of its column and the
start of another one. -/
theorem addColumns_injective_imitation :
    let columns (encoding : String) : List ColumnSpec :=
      [⟨"a", .string, false, some (.string "x', b TEXT DEFAULT 'y"), some encoding⟩]
    let text := "ALTER TABLE t ADD " ++
      "(a TEXT NOT NULL DEFAULT 'x'', b TEXT DEFAULT ''y' ENCODING DICT(32))"
    (∀ encoding, ∀ c ∈ columns encoding, c.IsPlain) ∧
    addColumns .standard "t" (columns "dict(32)") = .ok text ∧
    addColumns .standard "t" (columns "Dict(32)") = .ok text ∧
    (columns "dict(32)").map (·.inCapitals) = (columns "Dict(32)").map (·.inCapitals) := by
  intro columns text
  have hPlain : ∀ encoding, ∀ c ∈ columns encoding, c.IsPlain := by
    intro encoding c hc
    obtain rfl := List.mem_singleton.1 hc
    refine ⟨by simp, ?_⟩
    rintro v hv
    obtain rfl : Literal.string "x', b TEXT DEFAULT 'y" = v := Option.some.inj hv
    trivial
  have hSmall : addColumns .standard "t" (columns "dict(32)") = .ok text := by decide +kernel
  have hCapital : addColumns .standard "t" (columns "Dict(32)") = .ok text := by decide +kernel
  have hColumns := (addColumns_injective .standard (by decide) (by decide) (hPlain _) (hPlain _)
    hSmall hCapital).2
  exact ⟨hPlain, hSmall, hCapital, hColumns⟩

end Ddl
end TableQuery
