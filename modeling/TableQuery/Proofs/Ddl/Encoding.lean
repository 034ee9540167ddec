import TableQuery.Pattern.Reader
import TableQuery.Proofs.Ddl
import TableQuery.Proofs.Pattern.Matches

/-!
# Encoding — which encodings a column may have

The encoding of a column is the only text of a user that stands in a statement without quotes. It
is accepted if it is some letters, possibly with digits in parentheses behind them, and then written
in capital letters. The letters are those of ASCII, but the digits are those of every script, as in
the pattern `^[A-Za-z]+(\(\d+\))?$`, which matches the same texts (`encoding_grammar`).
-/

namespace TableQuery
namespace Ddl

/-! ## The pattern -/

/-- Letters of ASCII, as a class of characters. -/
def letterTest : CharTest :=
  .ranges false [('A', 'Z'), ('a', 'z')]

/-- The pattern `(\(\d+\))?`. -/
def numberPattern : Pattern :=
  .times (.group (.seq (.seq (.seq .empty (.one false (.literal '(')))
    (.times (.one false .digit) 1 none)) (.one false (.literal ')')))) 0 (some 1)

/-- The pattern `^[A-Za-z]+(\(\d+\))?$`. -/
def encodingPattern : Pattern :=
  .seq (.seq (.seq (.seq .empty .start) (.times (.one false letterTest) 1 none)) numberPattern)
    .finish

theorem read?_encodingPattern :
    Pattern.read? "^[A-Za-z]+(\\(\\d+\\))?$" = some encodingPattern := by
  decide +kernel

theorem passes_letterTest (c : Char) : letterTest.passes false c = c.isAlpha := by
  have hUpper : c.isUpper = (decide ('A' ≤ c) && decide (c ≤ 'Z')) := Bool.decide_and _ _
  have hLower : c.isLower = (decide ('a' ≤ c) && decide (c ≤ 'z')) := rfl
  have hAlpha : c.isAlpha = (c.isUpper || c.isLower) := rfl
  simp [letterTest, CharTest.passes, CharTest.inRange, hAlpha, hUpper, hLower]

section Matching

open Pattern

variable {before inside behind : List Char}

theorem matches_numberPattern_iff :
    numberPattern.Matches before inside behind ↔
      inside = [] ∨ IsNumber Text.isDecimalDigit inside := by
  refine matches_optional_iff.trans (or_congr_right ?_)
  constructor
  · rintro ⟨_, closing, rfl, ⟨opening, digits, rfl, hOpening, hDigits⟩, hClosing⟩
    rw [matches_seq_empty_iff, matches_sign_iff] at hOpening
    rw [matches_sign_iff] at hClosing
    rcases matches_many_iff.1 hDigits with ⟨hSome, hAll⟩
    exact ⟨digits, hSome, hAll, by simp [hOpening, hClosing]⟩
  · rintro ⟨digits, hSome, hAll, rfl⟩
    refine ⟨'(' :: digits, [')'], rfl, ⟨['('], digits, rfl, ?_, ?_⟩, matches_sign_iff.2 rfl⟩
    · exact matches_seq_empty_iff.2 (matches_sign_iff.2 rfl)
    · exact matches_many_iff.2 ⟨hSome, hAll⟩

theorem matches_encodingPattern_iff :
    encodingPattern.Matches before inside behind ↔
      before = [] ∧ behind = [] ∧ IsEncodingOf Char.isAlpha Text.isDecimalDigit inside := by
  constructor
  · -- the anchors leave nothing before the letters and nothing behind the number
    rintro ⟨_, _, rfl, ⟨_, number, rfl, ⟨start, letters, rfl, hStart, hLetters⟩, hNumber⟩, rfl, rfl⟩
    rcases matches_seq_empty_iff.1 hStart with ⟨rfl, rfl⟩
    rcases matches_many_iff.1 hLetters with ⟨hSome, hAll⟩
    simp only [passes_letterTest] at hAll
    exact ⟨rfl, rfl, letters, number, by simp, hSome, hAll, matches_numberPattern_iff.1 hNumber⟩
  · rintro ⟨rfl, rfl, letters, number, rfl, hSome, hAll, hNumber⟩
    refine ⟨letters ++ number, [], by simp, ⟨letters, number, rfl, ⟨[], letters, rfl, ?_, ?_⟩, ?_⟩,
      rfl, rfl⟩
    · exact matches_seq_empty_iff.2 ⟨rfl, rfl⟩
    · exact matches_many_iff.2 ⟨hSome, by simpa only [passes_letterTest] using hAll⟩
    · exact matches_numberPattern_iff.2 hNumber

end Matching

/-- The test is the pattern. -/
theorem isEncoding_eq_matchesIn (s : String) : isEncoding s = encodingPattern.matchesIn s := by
  rw [Bool.eq_iff_iff, isEncoding_iff, Pattern.matchesIn_iff]
  simp only [matches_encodingPattern_iff]
  constructor
  · intro h
    exact ⟨[], s.toList, [], by simp, rfl, rfl, h⟩
  · rintro ⟨_, inside, _, hText, rfl, rfl, h⟩
    rw [List.nil_append, List.append_nil] at hText
    rwa [hText]

/-! ## Digits of other scripts -/

section Ascii

variable {isLetter isDigit : Char → Bool} {cs : List Char}

theorem isDigit_eq_isDecimalDigit {c : Char} (hc : c.toNat < 128) :
    c.isDigit = Text.isDecimalDigit c :=
  ascii_forall (fun c => c.isDigit = Text.isDecimalDigit c) (by decide +kernel) hc

theorem toNat_lt_of_isDigit {c : Char} (h : c.isDigit = true) : c.toNat < 128 := by
  have hLast : c.val ≤ '9'.val := of_decide_eq_true (Bool.and_eq_true_iff.1 h).2
  exact Nat.lt_of_le_of_lt (UInt32.le_iff_toNat_le.1 hLast) (by decide)

theorem toNat_lt_of_isUpper {c : Char} (h : c.isUpper = true) : c.toNat < 128 :=
  toNat_lt_of_isAlpha (Bool.or_eq_true_iff.2 (.inl h))

theorem toNat_toUpper_lt_iff (c : Char) : c.toUpper.toNat < 128 ↔ c.toNat < 128 := by
  cases hLetter : c.isAlpha with
  | true =>
      exact iff_of_true (toNat_lt_of_isUpper (isUpper_toUpper hLetter))
        (toNat_lt_of_isAlpha hLetter)
  | false => rw [toUpper_of_not_isAlpha hLetter]

theorem IsEncodingOf.isAscii (h : IsEncodingOf isLetter isDigit cs)
    (hLetter : ∀ c, isLetter c = true → c.toNat < 128)
    (hDigit : ∀ c, isDigit c = true → c.toNat < 128) : ∀ c ∈ cs, c.toNat < 128 := by
  rcases h with ⟨letters, number, rfl, -, hLetters, hNumber⟩
  rw [List.forall_mem_append]
  refine ⟨fun c hc => hLetter c (hLetters c hc), ?_⟩
  rcases hNumber with rfl | ⟨digits, -, hDigits, rfl⟩
  · exact List.forall_mem_nil _
  · rw [List.forall_mem_cons, List.forall_mem_append, List.forall_mem_singleton]
    exact ⟨by decide, fun c hc => hDigit c (hDigits c hc), by decide⟩

/-- Digits of ASCII are asked for exactly if the whole text is of ASCII. -/
theorem isEncodingOf_isDigit_iff (hLetter : ∀ c, isLetter c = true → c.toNat < 128) :
    IsEncodingOf isLetter Char.isDigit cs ↔
      IsEncodingOf isLetter Text.isDecimalDigit cs ∧ ∀ c ∈ cs, c.toNat < 128 := by
  constructor
  · intro h
    have hAscii := h.isAscii hLetter fun c hc => toNat_lt_of_isDigit hc
    have hMap : IsEncodingOf isLetter Text.isDecimalDigit (cs.map id) := h.map (fun _ _ hc => hc)
      (fun c hc hDigit => (isDigit_eq_isDecimalDigit (hAscii c hc)).symm.trans hDigit) ⟨rfl, rfl⟩
    rw [List.map_id] at hMap
    exact ⟨hMap, hAscii⟩
  · rintro ⟨h, hAscii⟩
    have hMap : IsEncodingOf isLetter Char.isDigit (cs.map id) := h.map (fun _ _ hc => hc)
      (fun c hc hDigit => (isDigit_eq_isDecimalDigit (hAscii c hc)).trans hDigit) ⟨rfl, rfl⟩
    rwa [List.map_id] at hMap

/-- What is written has digits of ASCII exactly if the encoding has. -/
theorem isEncodingOf_upperAscii_iff {s : String}
    (h : IsEncodingOf Char.isAlpha Text.isDecimalDigit s.toList) :
    IsEncodingOf Char.isUpper Char.isDigit (Text.upperAscii s).toList ↔
      ∀ c ∈ s.toList, c.toNat < 128 := by
  rw [isEncodingOf_isDigit_iff fun _ hc => toNat_lt_of_isUpper hc, and_iff_right h.upperAscii,
    Text.upperAscii, String.toList_ofList, List.forall_mem_map]
  simp only [toNat_toUpper_lt_iff]

end Ascii

/-! ## Columns -/

/-- The text of a column is that of the column without its encoding, and then the encoding: capital
letters of ASCII, possibly with digits in parentheses. -/
def EndsInEncoding (d : Dialect) (c : ColumnSpec) (text : String) : Prop :=
  ∃ front, columnDefinition d { c with encoding := none } = .ok front ∧
    match c.encoding with
    | none => text = front
    | some e =>
      text = front ++ " ENCODING " ++ Text.upperAscii e ∧
        IsEncodingOf Char.isUpper Text.isDecimalDigit (Text.upperAscii e).toList ∧
        (IsEncodingOf Char.isUpper Char.isDigit (Text.upperAscii e).toList ↔
          ∀ ch ∈ e.toList, ch.toNat < 128)

theorem endsInEncoding_columnDefinition {d : Dialect} {c : ColumnSpec} {text : String}
    (h : columnDefinition d c = .ok text) : EndsInEncoding d c text := by
  rcases of_bind_ok h with ⟨name, hName, h⟩
  rcases of_bind_ok h with ⟨type, hType, h⟩
  rcases of_bind_ok h with ⟨default, hDefault, h⟩
  rcases of_bind_ok h with ⟨encoding, hEncoding, h⟩
  cases h
  refine ⟨name ++ " " ++ type ++ (if c.nullable then "" else " NOT NULL") ++ default, ?_, ?_⟩
  · simp only [columnDefinition, hName, hType, hDefault, encodingClause]
    exact congrArg Except.ok String.append_empty
  · cases hGiven : c.encoding with
    | none =>
        rw [hGiven] at hEncoding
        cases hEncoding
        simp
    | some e =>
        rw [hGiven] at hEncoding
        rcases of_bind_ok hEncoding with ⟨written, hWritten, hDone⟩
        cases hDone
        rcases encodingText_eq_ok_iff.1 hWritten with ⟨hGrammar, rfl⟩
        exact ⟨by simp only [String.append_assoc], hGrammar.upperAscii,
          isEncodingOf_upperAscii_iff hGrammar⟩

theorem of_addColumns_encodings {d : Dialect} {table text : String} {columns : List ColumnSpec}
    (h : addColumns d table columns = .ok text) :
    ∃ name definitions, ident table = .ok name ∧
      List.Forall₂ (EndsInEncoding d) columns definitions ∧
      text = "ALTER TABLE " ++ name ++ " ADD (" ++ ", ".intercalate definitions ++ ")" := by
  unfold addColumns at h
  split at h
  · cases h
  · rcases of_bind_ok h with ⟨definitions, hDefinitions, h⟩
    rcases of_bind_ok h with ⟨name, hName, h⟩
    cases h
    exact ⟨name, definitions, hName,
      (forall₂_of_mapM hDefinitions).imp fun c text => endsInEncoding_columnDefinition, rfl⟩

/-- An encoding is accepted exactly if the pattern matches it, that is, if it is one or more letters
of ASCII, possibly with one or more digits in parentheses behind them. Then it is written in
capitals; all else is refused. The digits are those of every script: with those of ASCII alone the
same texts would be accepted, but for those that hold a character beyond ASCII. What stands behind
`ENCODING` in a statement that adds columns is such a text, at the end of its column. -/
theorem encoding_grammar (s : String) :
    (∃ pattern, Pattern.read? "^[A-Za-z]+(\\(\\d+\\))?$" = some pattern ∧
      isEncoding s = pattern.matchesIn s) ∧
    (∀ text, encodingText s = .ok text ↔
      IsEncodingOf Char.isAlpha Text.isDecimalDigit s.toList ∧ text = Text.upperAscii s) ∧
    (¬IsEncodingOf Char.isAlpha Text.isDecimalDigit s.toList →
      encodingText s = .error (.invalidEncoding s)) ∧
    (((∃ text, encodingText s = .ok text) ↔ IsEncodingOf Char.isAlpha Char.isDigit s.toList) ↔
      (IsEncodingOf Char.isAlpha Text.isDecimalDigit s.toList → ∀ c ∈ s.toList, c.toNat < 128)) ∧
    ∀ d table columns text, addColumns d table columns = .ok text →
      ∃ name definitions, ident table = .ok name ∧
        List.Forall₂ (EndsInEncoding d) columns definitions ∧
        text = "ALTER TABLE " ++ name ++ " ADD (" ++ ", ".intercalate definitions ++ ")" := by
  refine ⟨⟨encodingPattern, read?_encodingPattern, isEncoding_eq_matchesIn s⟩,
    fun text => encodingText_eq_ok_iff, fun h => ?_, ?_,
    fun d table columns text h => of_addColumns_encodings h⟩
  · rw [← isEncoding_iff] at h
    rw [encodingText, if_neg h]
  · have hAccepted : (∃ text, encodingText s = .ok text) ↔
        IsEncodingOf Char.isAlpha Text.isDecimalDigit s.toList := by
      simp only [encodingText_eq_ok_iff, exists_and_left, exists_eq, and_true]
    rw [hAccepted, isEncodingOf_isDigit_iff fun _ hc => toNat_lt_of_isAlpha hc, iff_self_and]

/-- A column with an encoding beside one without, and an encoding that would end the statement. -/
theorem encoding_grammar_dict :
    let columns : List ColumnSpec :=
      [⟨"c", .string, true, none, some "dict(16)"⟩, ⟨"d", .string, false, none, none⟩]
    let text := "ALTER TABLE t ADD (c TEXT ENCODING DICT(16), d TEXT NOT NULL)"
    addColumns .standard "t" columns = .ok text ∧
    (∃ name definitions, ident "t" = .ok name ∧
      List.Forall₂ (EndsInEncoding .standard) columns definitions ∧
      text = "ALTER TABLE " ++ name ++ " ADD (" ++ ", ".intercalate definitions ++ ")") ∧
    encodingText "DICT) --" = .error (.invalidEncoding "DICT) --") := by
  intro columns text
  have hText : addColumns .standard "t" columns = .ok text := by decide +kernel
  have hRefused : ¬IsEncodingOf Char.isAlpha Text.isDecimalDigit "DICT) --".toList := by
    rw [← isEncoding_iff]
    decide
  rcases encoding_grammar "DICT) --" with ⟨-, -, hOther, -, hColumns⟩
  exact ⟨hText, hColumns _ _ _ _ hText, hOther hRefused⟩

/-- The digits of another script pass, and are written into the statement. -/
theorem encodingText_foreignDigits :
    let encoding := "dict(\u0663\u0662)"
    encodingText encoding = .ok "DICT(\u0663\u0662)" ∧
    ¬IsEncodingOf Char.isAlpha Char.isDigit encoding.toList ∧
    addColumns .standard "t" [⟨"c", .string, true, none, some encoding⟩] =
      .ok "ALTER TABLE t ADD (c TEXT ENCODING DICT(\u0663\u0662))" := by
  intro encoding
  refine ⟨by decide +kernel, ?_, by decide +kernel⟩
  rw [isEncodingOf_isDigit_iff fun _ hc => toNat_lt_of_isAlpha hc]
  rintro ⟨-, hAscii⟩
  exact absurd (hAscii '\u0663' (by decide)) (by decide)

end Ddl
end TableQuery
