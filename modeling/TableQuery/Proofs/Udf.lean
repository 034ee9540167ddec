import TableQuery.Proofs.Sql.Separable
import TableQuery.Udf

/-!
# Udf — what the text of a signature says

The name of a type is a word, and a decimal has its two numbers in parentheses behind it. So each
name in a signature tells where it ends, although the comma between inputs stands in decimals too
and some names start as others do, and the text of a signature tells its types
(`signature_injective`). There is such a text unless a type has no name on the server.
-/

namespace TableQuery

open Reader

namespace DataType

/-! ## Names of types -/

/-- The server has no name for binary data, intervals and arrays. -/
def IsNameless (t : DataType) : Prop :=
  t = .binary ∨ t = .interval ∨ ∃ element, t = .array element

/-- The types whose name in a signature is one word. -/
def plainTypes : List DataType :=
  .null :: simpleTypes

/-- The word that the name of a type starts with. -/
def leadingWord : DataType → String
  | .decimal _ _ => "decimal"
  | t => t.hostName

/-- What stands behind the word in the name of a type. -/
def argumentText : DataType → String
  | .decimal precision scale => "(" ++ toString precision ++ ", " ++ toString scale ++ ")"
  | _ => ""

theorem ofDataType?_eq_none_iff {t : DataType} : TypeName.ofDataType? t = none ↔ t.IsNameless := by
  cases t <;> simp [TypeName.ofDataType?, IsNameless]

theorem mem_plainTypes_or {t : DataType} (h : ¬ t.IsNameless) :
    t ∈ plainTypes ∨ ∃ precision scale, t = .decimal precision scale := by
  cases t with
  | decimal precision scale => exact .inr ⟨precision, scale, rfl⟩
  | binary => exact absurd (.inl rfl) h
  | interval => exact absurd (.inr (.inl rfl)) h
  | array element => exact absurd (.inr (.inr ⟨element, rfl⟩)) h
  | _ => exact .inl (by decide)

theorem hostName_eq_append (t : DataType) : t.hostName = t.leadingWord ++ t.argumentText := by
  cases t with
  | decimal precision scale =>
      have hOpening : "decimal(" = "decimal" ++ "(" := by decide
      rw [hostName, hOpening, leadingWord, argumentText]
      simp only [String.append_assoc]
  | _ => simp [leadingWord, argumentText]

theorem plainTypes_words : ∀ t ∈ plainTypes,
    (isWord t.leadingWord && t.leadingWord != "decimal" && t.argumentText == "") = true := by
  decide +kernel

/-- No two types of one word have the same one. -/
theorem plainTypes_apart : ∀ t ∈ plainTypes, ∀ u ∈ plainTypes,
    t.leadingWord = u.leadingWord → t = u := by
  decide +kernel

theorem isWord_leadingWord {t : DataType} (h : ¬ t.IsNameless) : isWord t.leadingWord = true := by
  rcases mem_plainTypes_or h with hPlain | ⟨precision, scale, rfl⟩
  · have hName := plainTypes_words t hPlain
    simp only [Bool.and_eq_true] at hName
    exact hName.1.1
  · show isWord "decimal" = true
    decide

/-- Behind the word stands a parenthesis, or what follows the name. -/
theorem stops_argumentText (t : DataType) {cs : List Char} (hcs : Stops Identifier.isWordChar cs) :
    Stops Identifier.isWordChar (t.argumentText.toList ++ cs) := by
  cases t with
  | decimal precision scale =>
      simp only [argumentText, String.toList_append, List.append_assoc]
      exact stops_cons (by decide) _
  | _ => exact hcs

/-- The numbers of a decimal stand between signs that are no digits. -/
theorem decimal_eq_of_append_eq {p s p' s' : Nat} {cs ds : List Char}
    (h : (argumentText (.decimal p s)).toList ++ cs =
      (argumentText (.decimal p' s')).toList ++ ds) :
    p = p' ∧ s = s' ∧ cs = ds := by
  have hComma (rest : List Char) : Stops Char.isDigit (", ".toList ++ rest) :=
    stops_cons (by decide) _
  have hClosing (rest : List Char) : Stops Char.isDigit (")".toList ++ rest) :=
    stops_cons (by decide) _
  simp only [argumentText, String.toList_append, List.append_assoc] at h
  rcases separable_nat rfl rfl (hComma _) (hComma _) (List.append_cancel_left h) with ⟨hFirst, h⟩
  rcases separable_nat rfl rfl (hClosing _) (hClosing _) (List.append_cancel_left h) with
    ⟨hSecond, h⟩
  exact ⟨hFirst, hSecond, List.append_cancel_left h⟩

/-- The name of a type is told by its text, where no letter, digit or underscore follows. -/
theorem separable_hostName :
    Separable (fun t text => ¬ IsNameless t ∧ text = t.hostName) (Stops Identifier.isWordChar) := by
  rintro t u _ _ cs ds ⟨ht, rfl⟩ ⟨hu, rfl⟩ hcs hds hSame
  rw [hostName_eq_append, hostName_eq_append, String.toList_append, String.toList_append,
    List.append_assoc, List.append_assoc] at hSame
  rcases eq_of_run_eq (List.all_eq_true.1 (isWord_leadingWord ht))
    (List.all_eq_true.1 (isWord_leadingWord hu)) (stops_argumentText t hcs)
    (stops_argumentText u hds) hSame with ⟨hWords, hRest⟩
  have hWord := String.toList_inj.1 hWords
  have hPlainWord {v : DataType} (hv : v ∈ plainTypes) :
      v.leadingWord ≠ "decimal" ∧ v.argumentText = "" := by
    have hName := plainTypes_words v hv
    simp only [Bool.and_eq_true, bne_iff_ne, beq_iff_eq] at hName
    exact ⟨hName.1.2, hName.2⟩
  -- with the same word, both are decimals or neither is
  rcases mem_plainTypes_or ht with hPlain | ⟨p, s, rfl⟩
  · rcases mem_plainTypes_or hu with hPlain' | ⟨p', s', rfl⟩
    · rw [(hPlainWord hPlain).2, (hPlainWord hPlain').2] at hRest
      exact ⟨plainTypes_apart t hPlain u hPlain' hWord, hRest⟩
    · exact absurd hWord (hPlainWord hPlain).1
  · rcases mem_plainTypes_or hu with hPlain' | ⟨p', s', rfl⟩
    · exact absurd hWord.symm (hPlainWord hPlain').1
    · rcases decimal_eq_of_append_eq hRest with ⟨rfl, rfl, hEnd⟩
      exact ⟨rfl, hEnd⟩

/-- A name starts with a letter. -/
theorem head?_hostName_append_ne {t : DataType} (h : ¬ t.IsNameless) (cs : List Char) :
    (t.hostName.toList ++ cs).head? ≠ some ')' := by
  have hNames : ∀ u ∈ plainTypes, u.hostName.toList.head?.any (· != ')') = true := by
    decide +kernel
  have hHead : t.hostName.toList.head?.any (· != ')') = true := by
    rcases mem_plainTypes_or h with hPlain | ⟨precision, scale, rfl⟩
    · exact hNames t hPlain
    · simp [hostName]
  cases hText : t.hostName.toList with
  | nil => simp [hText] at hHead
  | cons c rest => simpa [hText] using hHead

end DataType

namespace UdfSignature

open DataType

/-! ## Signatures -/

/-- The names of these types, which all have one on the server, with commas between them. -/
def NamesInputs (ts : List DataType) (text : String) : Prop :=
  (∀ t ∈ ts, ¬ IsNameless t) ∧ text = ", ".intercalate (ts.map hostName)

theorem NamesInputs.listed {t : DataType} {ts : List DataType} {text : String}
    (h : NamesInputs (t :: ts) text) :
    Listed (fun t text => ¬ IsNameless t ∧ text = t.hostName) (t :: ts) text := by
  rcases h with ⟨hNames, rfl⟩
  refine listed_intercalate (by simp) (List.forall₂_map_right_iff.2 (List.forall₂_same.2 ?_))
  intro u hu
  exact ⟨hNames u hu, rfl⟩

/-- Inputs do not start with the parenthesis that closes behind them. -/
theorem NamesInputs.head?_append_ne {t : DataType} {ts : List DataType} {text : String}
    (h : NamesInputs (t :: ts) text) (cs : List Char) : (text.toList ++ cs).head? ≠ some ')' := by
  cases h.listed with
  | single hName =>
      rcases hName with ⟨hNamed, rfl⟩
      exact head?_hostName_append_ne hNamed cs
  | cons hName _ =>
      rcases hName with ⟨hNamed, rfl⟩
      rw [String.toList_append, List.append_assoc]
      exact head?_hostName_append_ne hNamed _

/-- The inputs are told by their text, where a parenthesis closes behind them. -/
theorem separable_namesInputs : Separable NamesInputs fun cs => cs.head? = some ')' := by
  have hComma (cs : List Char) : Stops Identifier.isWordChar (", ".toList ++ cs) :=
    stops_cons (by decide) _
  have hClosing {cs : List Char} (h : cs.head? = some ')') :
      Stops Identifier.isWordChar cs ∧ after ", " cs = none := by
    rcases List.head?_eq_some_iff.1 h with ⟨rest, rfl⟩
    exact ⟨stops_cons (by decide) rest, after_of_apart (t := ")") (by decide) rest⟩
  intro ts us s t cs ds hts hus hcs hds hSame
  -- no inputs are told from some by the parenthesis, which starts no name
  cases ts with
  | nil =>
      obtain rfl : s = "" := hts.2
      cases us with
      | nil =>
          obtain rfl : t = "" := hus.2
          exact ⟨rfl, hSame⟩
      | cons u us => exact absurd (hSame ▸ hcs) (hus.head?_append_ne ds)
  | cons v ts =>
      cases us with
      | nil =>
          obtain rfl : t = "" := hus.2
          exact absurd (hSame ▸ hds) (hts.head?_append_ne cs)
      | cons u us =>
          exact separable_hostName.listed hComma hts.listed hus.listed (hClosing hcs)
            (hClosing hds) hSame

/-- A signature has a text, or one of its types has no name on the server and is reported. -/
theorem text_cases (s : UdfSignature) :
    (∃ t ∈ s.inputs ++ [s.output], t.IsNameless ∧
      s.text = .error (.unsupportedType t.hostName)) ∨
    ((∀ t ∈ s.inputs ++ [s.output], ¬ t.IsNameless) ∧
      s.text =
        .ok (s.output.hostName ++ "(" ++ ", ".intercalate (s.inputs.map hostName) ++ ")")) := by
  unfold text
  cases hFind : (s.inputs ++ [s.output]).find? fun t => (TypeName.ofDataType? t).isNone with
  | some t =>
      have hNone := List.find?_some hFind
      exact .inl ⟨t, List.mem_of_find?_eq_some hFind,
        ofDataType?_eq_none_iff.1 (Option.isNone_iff_eq_none.1 hNone), rfl⟩
  | none =>
      refine .inr ⟨fun t ht hNameless => ?_, rfl⟩
      have hNamed := List.find?_eq_none.1 hFind t ht
      rw [ofDataType?_eq_none_iff.2 hNameless] at hNamed
      exact hNamed rfl

/-- A text is the name of the output, and in parentheses those of the inputs. -/
theorem of_text {s : UdfSignature} {text : String} (h : s.text = .ok text) :
    ¬ s.output.IsNameless ∧ ∃ inputs, NamesInputs s.inputs inputs ∧
      text = s.output.hostName ++ "(" ++ inputs ++ ")" := by
  rcases s.text_cases with ⟨t, -, -, hError⟩ | ⟨hNamed, hText⟩
  · rw [hError] at h
    cases h
  · rw [hText, Except.ok.injEq] at h
    exact ⟨hNamed _ (by simp), _, ⟨fun t ht => hNamed t (by simp [ht]), rfl⟩, h.symm⟩

theorem eq_of_text_eq {s s' : UdfSignature} {text : String} (h : s.text = .ok text)
    (h' : s'.text = .ok text) : s = s' := by
  rcases of_text h with ⟨hOutput, inputs, hInputs, hText⟩
  rcases of_text h' with ⟨hOutput', inputs', hInputs', hText'⟩
  have hSame := congrArg String.toList (hText.symm.trans hText')
  simp only [String.toList_append, List.append_assoc] at hSame
  have hOpening (cs : List Char) : Stops Identifier.isWordChar ("(".toList ++ cs) :=
    stops_cons (by decide) cs
  rcases separable_hostName ⟨hOutput, rfl⟩ ⟨hOutput', rfl⟩ (hOpening _) (hOpening _) hSame with
    ⟨hSameOutput, hBehind⟩
  rcases separable_namesInputs hInputs hInputs' rfl rfl (List.append_cancel_left hBehind) with
    ⟨hSameInputs, -⟩
  cases s
  cases s'
  rw [UdfSignature.mk.injEq]
  exact ⟨hSameInputs, hSameOutput⟩

/-- A signature has no text exactly if one of its types has no name on the server, and then this is
reported of such a type. Two signatures with the same text are the same: they have as many inputs,
of the same types in the same order, decimals with their precision and scale, and the same output.
-/
theorem signature_injective :
    (∀ s : UdfSignature, (∃ name, s.text = .error (.unsupportedType name)) ↔
      ∃ t ∈ s.inputs ++ [s.output], t.IsNameless) ∧
    (∀ (s : UdfSignature) (e : ClientError), s.text = .error e →
      ∃ t ∈ s.inputs ++ [s.output], t.IsNameless ∧ e = .unsupportedType t.hostName) ∧
    ∀ (s s' : UdfSignature) (text : String), s.text = .ok text → s'.text = .ok text → s = s' := by
  refine ⟨?_, ?_, ?_⟩
  · intro s
    rcases s.text_cases with ⟨t, ht, hNameless, hError⟩ | ⟨hNamed, hText⟩
    · exact ⟨fun _ => ⟨t, ht, hNameless⟩, fun _ => ⟨t.hostName, hError⟩⟩
    · constructor
      · rintro ⟨name, hError⟩
        rw [hText] at hError
        cases hError
      · rintro ⟨t, ht, hNameless⟩
        exact absurd hNameless (hNamed t ht)
  · intro s e h
    rcases s.text_cases with ⟨t, ht, hNameless, hError⟩ | ⟨-, hText⟩
    · rw [hError, Except.error.injEq] at h
      exact ⟨t, ht, hNameless, h.symm⟩
    · rw [hText] at h
      cases h
  · intro s s' text h h'
    exact eq_of_text_eq h h'

/-- The comma in a decimal is not the one between inputs, and a name may start as another one
does. -/
theorem signature_injective_decimal :
    (⟨[.decimal 5 2, .time], .timestamp⟩ : UdfSignature).text =
      .ok "timestamp(decimal(5, 2), time)" ∧
    (∀ s : UdfSignature, s.text = .ok "timestamp(decimal(5, 2), time)" →
      s = ⟨[.decimal 5 2, .time], .timestamp⟩) ∧
    ∃ name, (⟨[.int8, .array .time], .binary⟩ : UdfSignature).text =
      .error (.unsupportedType name) := by
  have hText : (⟨[.decimal 5 2, .time], .timestamp⟩ : UdfSignature).text =
      .ok "timestamp(decimal(5, 2), time)" := by decide +kernel
  rcases signature_injective with ⟨hFails, -, hSame⟩
  refine ⟨hText, ?_, ?_⟩
  · intro s hs
    exact hSame s _ _ hs hText
  · exact (hFails _).2 ⟨.array .time, by simp, .inr (.inr ⟨.time, rfl⟩)⟩

end UdfSignature
end TableQuery
