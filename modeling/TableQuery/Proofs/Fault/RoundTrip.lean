import TableQuery.Fault.Basic
import TableQuery.Proofs.Fault.Code
import TableQuery.Proofs.Json.Decode
import TableQuery.Proofs.Json.Readback

/-!
# Round trips — a fault is read back from its texts

A fault is written as an object, with what it is about as an object inside it, and read back from
the text of that object. Encoder and decoder agree on every kind of context, and on every field that
is left out or null (`Fault.isReadFrom_texts`). A generic context is written under names and with
values of any kind, and there they agree as long as no value takes the name of the kind, and the
reader of texts gives back the values: it stops at a depth, and can miss the last place of a
floating-point number (`Fault.not_isReadFrom_texts`).
-/

namespace TableQuery

open Json

/-! ## Contexts -/

namespace FaultContext

/-- What holds of a context by the kinds of its fields: numbers are words of so many bits, a map has
each of its names once, and the values in it are such that no name is in an object twice and that
their numbers are numbers of the data format. -/
def Valid : FaultContext → Prop
  | .arity _ _ actual => actual ≤ Word.greatest 64
  | .connection _ port _ _ => ∀ n ∈ port, n ≤ Word.greatest 16
  | .generic data => (data.map (·.1)).Nodup ∧ ∀ m ∈ data, m.2.canonical = m.2 ∧
      ∀ n, .whole n ∈ m.2.numbers → Word.leastSigned 63 ≤ n ∧ n ≤ Word.greatest 64
  | _ => True

/-- What the reader asks of a generic context besides: no name that is taken for the kind, values
that nest no deeper than it goes, and floating-point numbers that it reads back. -/
def Restorable : FaultContext → Prop
  | .generic data => ∀ m ∈ data, m.1 ≠ "type" ∧ m.2.nesting ≤ maxDepth - 2 ∧
      ∀ x, .float x ∈ m.2.numbers → ReadsBack (.float x)
  | _ => True

/-- Contexts that say the same. The values of a generic context are in no order. -/
inductive Same : FaultContext → FaultContext → Prop where
  | refl (c : FaultContext) : Same c c
  | generic {data data' : List (String × Json)} :
      data.Perm data' → Same (.generic data) (.generic data')

variable {c : FaultContext}

/-- The names of a context are different from one another, and none names the kind. -/
theorem names_apart (hValid : c.Valid) (hReads : c.Restorable) :
    ("type" :: c.members.map (·.1)).Nodup := by
  cases c with
  | generic data =>
      refine List.nodup_cons.2 ⟨fun hMem => ?_, hValid.1⟩
      rcases List.mem_map.1 hMem with ⟨m, hm, hName⟩
      exact (hReads m hm).1 hName
  | _ => simp [members]

theorem ofFields?_members (hValid : c.Valid) (hReads : c.Restorable) :
    ∃ c', ofFields? c.tag (.object c.members) = some c' ∧ c.Same c' := by
  have hNames := (List.nodup_cons.1 (names_apart hValid hReads)).2
  have hFields := fields?_object hNames
  cases c with
  | generic data =>
      -- a map of values keeps them in the order of their names
      have hPerm := perm_canonicalMembers (fun m hm => (hValid.2 m hm).1) [] hNames
      exact ⟨_, rfl, .generic hPerm.symm⟩
  | arity function expected actual =>
      have hWord : actual ≤ Word.greatest 64 := hValid
      refine ⟨_, ?_, .refl _⟩
      simp only [tag, ofFields?, hFields]
      simp [members, Fields.required?, member?, asString?, asWord?_nat hWord]
  | connection host port protocol database =>
      have hWord : ∀ n ∈ port, n ≤ Word.greatest 16 := hValid
      refine ⟨_, ?_, .refl _⟩
      simp only [tag, ofFields?, hFields]
      simp [members, Fields.optional?, Fields.withDefault?, member?, asOptional?_string,
        asOptional?_nat hWord]
  | _ =>
      refine ⟨_, ?_, .refl _⟩
      simp only [tag, ofFields?, hFields]
      simp [members, Fields.required?, Fields.optional?, Fields.withDefault?, member?, asString?,
        asOptional?_string, asStrings?_strings]

/-- A context is read back from the value that it is written as. -/
theorem ofJson?_toJson (hValid : c.Valid) (hReads : c.Restorable) :
    ∃ c', ofJson? c.toJson = some c' ∧ c.Same c' := by
  have hNames := names_apart hValid hReads
  have hOthers : c.members.filter (·.1 != "type") = c.members := by
    refine List.filter_eq_self.2 fun m hm => ?_
    have hApart := (List.nodup_cons.1 hNames).1
    simp only [bne_iff_ne]
    rintro hType
    exact hApart (List.mem_map.2 ⟨m, hm, hType⟩)
  have hAll : ((("type", Json.string c.tag) :: c.members).map (·.1)).Nodup := hNames
  -- the kind is named once, and what is left without it are the members of the context
  have hOnce := repeats_eq_false hAll ["type"]
  have hBody : (("type", Json.string c.tag) :: c.members).filter (·.1 != "type") = c.members := by
    rw [List.filter_cons_of_neg (by simp), hOthers]
  rcases ofFields?_members hValid hReads with ⟨c', hRead, hSame⟩
  refine ⟨c', ?_, hSame⟩
  rw [toJson, ofJson?, hOnce, hBody]
  exact hRead

/-- A reader of faults goes deep enough for a context. -/
theorem readable_toJson (hValid : c.Valid) (hReads : c.Restorable) :
    Readable (maxDepth - 1) c.toJson := by
  refine readable_object_iff.2 ⟨by decide, List.forall_mem_cons.2 ⟨readable_string _, ?_⟩⟩
  have hString : ∀ {s : String}, Readable (maxDepth - 1 - 1) (.string s) := readable_string _
  have hOptional : ∀ {o : Option String},
      Readable (maxDepth - 1 - 1) (Json.optional .string o) :=
    readable_optional fun s _ => readable_string s
  have hStrings : ∀ {xs : List String}, Readable (maxDepth - 1 - 1) (strings xs) :=
    readable_strings (by decide) _
  cases c with
  | generic data =>
      intro m hm
      rcases hReads m hm with ⟨-, hNesting, hFloats⟩
      refine ⟨hNesting, fun n hn => ?_⟩
      cases n with
      | whole n =>
          rcases (hValid.2 m hm).2 n hn with ⟨hLow, hHigh⟩
          exact readNumber_whole hLow hHigh
      | float x => exact hFloats x hn
  | arity function expected actual =>
      have hWord : Readable (maxDepth - 1 - 1) (.nat actual) := readable_nat hValid
      simp [members, hString, hWord]
  | connection host port protocol database =>
      have hPort : Readable (maxDepth - 1 - 1) (Json.optional nat port) :=
        readable_optional fun n hn => readable_nat ((hValid n hn).trans (by decide))
      simp [members, hOptional, hPort]
  | _ => simp [members, hString, hOptional, hStrings]

end FaultContext

/-! ## Faults -/

namespace Fault

/-- Faults that say the same. -/
structure Same (f f' : Fault) : Prop where
  code : f'.code = f.code
  message : f'.message = f.message
  context : Option.Rel FaultContext.Same f.context f'.context
  hint : f'.hint = f.hint
  traceId : f'.traceId = f.traceId

variable {f : Fault}

/-- The members that a fault is written with. -/
def members (f : Fault) : List (String × Json) :=
  [("code", .string f.code.text), ("message", .string f.message)]
    ++ presentMember "context" (f.context.map FaultContext.toJson)
    ++ presentMember "hint" (f.hint.map .string)
    ++ presentMember "trace_id" (f.traceId.map .string)

theorem members_cases (f : Fault) : ∀ m ∈ f.members,
    (m.1 ∈ fieldNames ∧ ∃ s, m.2 = .string s) ∨
      m.1 = "context" ∧ ∃ c ∈ f.context, m.2 = c.toJson := by
  rcases f with ⟨code, message, _ | context, _ | hint, _ | traceId⟩ <;>
    simp [members, presentMember, fieldNames]

theorem nodup_names (f : Fault) : (f.members.map (·.1)).Nodup := by
  rcases f with ⟨code, message, _ | context, _ | hint, _ | traceId⟩ <;>
    simp [members, presentMember]

theorem member?_members (f : Fault) :
    member? f.members "code" = some (.string f.code.text) ∧
      member? f.members "message" = some (.string f.message) ∧
      member? f.members "context" = f.context.map FaultContext.toJson ∧
      member? f.members "hint" = f.hint.map .string ∧
      member? f.members "trace_id" = f.traceId.map .string := by
  rcases f with ⟨code, message, _ | context, _ | hint, _ | traceId⟩ <;>
    simp [members, presentMember, member?]

/-- A field that was left out if it had no value. -/
theorem optional?_of_member {fs : Fields} {name : String} {o : Option String}
    (h : member? fs name = o.map .string) : fs.optional? name asString? = some o := by
  rw [Fields.optional?, Fields.withDefault?, h]
  cases o <;> rfl

theorem optional?_context (hValid : ∀ c ∈ f.context, c.Valid)
    (hReads : ∀ c ∈ f.context, c.Restorable) :
    ∃ context, Fields.optional? f.members "context" FaultContext.ofJson? = some context ∧
      Option.Rel FaultContext.Same f.context context := by
  rw [Fields.optional?, Fields.withDefault?, f.member?_members.2.2.1]
  cases hContext : f.context with
  | none => exact ⟨none, rfl, .none⟩
  | some c =>
      rcases FaultContext.ofJson?_toJson (hValid c hContext) (hReads c hContext) with
        ⟨c', hRead, hSame⟩
      refine ⟨some c', ?_, .some hSame⟩
      rw [Option.map_some]
      simp only
      rw [asOptional?_of_ne_null (by simp [FaultContext.toJson]), hRead, Option.map_some]

/-- A fault is read back from the value that it is written as. -/
theorem ofJson?_toJson (hValid : ∀ c ∈ f.context, c.Valid)
    (hReads : ∀ c ∈ f.context, c.Restorable) : ∃ f', ofJson? f.toJson = some f' ∧ f.Same f' := by
  have hFields : fields? fieldNames true f.toJson = some f.members :=
    fields?_object f.nodup_names fieldNames true
  rcases f.member?_members with ⟨hCode, hMessage, -, hHint, hTraceId⟩
  rcases optional?_context hValid hReads with ⟨context, hContext, hSame⟩
  refine ⟨⟨f.code, f.message, context, f.hint, f.traceId⟩, ?_, ⟨rfl, rfl, hSame, rfl, rfl⟩⟩
  rw [ofJson?, hFields]
  simp [Fields.required?, hCode, hMessage, asString?, FaultCode.parse_text, Except.toOption, hContext,
    optional?_of_member hHint, optional?_of_member hTraceId]

/-- What is read from the text says the same as the fault. -/
def IsReadFrom (f : Fault) (text : String) : Prop :=
  ∃ f', read? text = some f' ∧ f.Same f'

/-- A fault is read back from any text in which it is laid out. -/
theorem isReadFrom_spaced (w : Spacing) {level : Nat} {text : String}
    (hText : text.toList = spaced w level f.toJson) (hValid : ∀ c ∈ f.context, c.Valid)
    (hReads : ∀ c ∈ f.context, c.Restorable) : f.IsReadFrom text := by
  have hMembers : ∀ m ∈ f.members, m.1 ∈ fieldNames ∧ Readable (maxDepth - 1) m.2 := by
    intro m hm
    rcases f.members_cases m hm with ⟨hName, s, hs⟩ | ⟨hName, c, hc, hs⟩
    · exact ⟨hName, hs ▸ readable_string s⟩
    · rw [hName, hs]
      exact ⟨by decide, FaultContext.readable_toJson (hValid c hc) (hReads c hc)⟩
  -- all members are fields of a fault, so that none is passed over
  have hRead : readKnown? fieldNames text = some f.toJson :=
    readKnown?_spaced w hText (fun m hm => (hMembers m hm).1) fun m hm => (hMembers m hm).2
  rcases ofJson?_toJson hValid hReads with ⟨f', hFault, hSame⟩
  refine ⟨f', ?_, hSame⟩
  rw [read?, hRead, Option.bind_some, hFault]

/-- A fault is read back from its text on one line and from its text on many lines, with its code,
message, context, hint and number for tracing. Its context may be of any kind, with any values that
fields of their kinds can have. In a generic context no value may be named like the kind, values may
nest as deep as the reader goes, and floating-point numbers have to be read back from their
texts. -/
theorem isReadFrom_texts (hValid : ∀ c ∈ f.context, c.Valid)
    (hReads : ∀ c ∈ f.context, c.Restorable) :
    f.IsReadFrom f.toJson.compact ∧ f.IsReadFrom f.toJson.pretty :=
  ⟨isReadFrom_spaced .none (f.toJson.toList_compact 0) hValid hReads,
    isReadFrom_spaced .lines (f.toJson.toList_prettyFrom 0) hValid hReads⟩

/-- A failed statement, with values under any names. -/
def withData (data : List (String × Json)) : Fault :=
  (new .executionFailed "m").withContext (.generic data)

/-- Values of each kind, under names that are in no order. -/
def sampleData : List (String × Json) :=
  [("b", .object [("x", .number (.float (.finite false 6755399441055744 (-52))))]),
    ("a", .array [.null, .bool true, .string "\n", .int (-3)])]

theorem isReadFrom_texts_sampleData :
    (∀ c ∈ (withData sampleData).context, c.Valid) ∧
      (∀ c ∈ (withData sampleData).context, c.Restorable) ∧
      (withData sampleData).IsReadFrom (withData sampleData).toJson.compact ∧
      (withData sampleData).IsReadFrom (withData sampleData).toJson.pretty := by
  have hValid : ∀ c ∈ (withData sampleData).context, c.Valid := by
    rintro c ⟨⟩
    refine ⟨by decide, ?_⟩
    simp [sampleData, canonical, canonicalMembers, canonicalItems, insertMember, numbers,
      numbersOfItems, numbersOfMembers, Json.int]
    decide
  have hHalf : ReadsBack (.float (.finite false 6755399441055744 (-52))) := by
    unfold ReadsBack
    decide +kernel
  have hReads : ∀ c ∈ (withData sampleData).context, c.Restorable := by
    rintro c ⟨⟩
    simp [FaultContext.Restorable, sampleData, nesting, nestingOfItems, nestingOfMembers, numbers,
      numbersOfItems, numbersOfMembers, Json.int, hHalf, maxDepth]
  exact ⟨hValid, hReads, isReadFrom_texts hValid hReads⟩

/-- Arrays that hold nothing but one another. -/
def stacked : Nat → Json
  | 0 => .array []
  | n + 1 => .array [stacked n]

theorem stacked_plain (n : Nat) : (stacked n).canonical = stacked n ∧ (stacked n).numbers = [] := by
  induction n with
  | zero => exact ⟨rfl, rfl⟩
  | succ n ih => simp [stacked, canonical, canonicalItems, numbers, numbersOfItems, ih]

/-- A number whose last place the reader misses. -/
def missed : Json :=
  .number (.float (.finite false 8794761699453570 (-48)))

/-- A single value has only one order. -/
theorem eq_of_same_withData {m : String × Json} {f' : Fault} (h : (withData [m]).Same f') :
    f' = withData [m] := by
  rcases f' with ⟨code, message, context, hint, traceId⟩
  rcases h with ⟨rfl, rfl, hContext, rfl, rfl⟩
  cases hContext with
  | some hSame =>
    cases hSame with
    | refl => rfl
    | generic hPerm =>
      rw [List.singleton_perm.1 hPerm]
      rfl

/-- A context with one value is of proper kinds if the value is. -/
theorem valid_withData {m : String × Json} (hCanonical : m.2.canonical = m.2)
    (hWhole : ∀ n, .whole n ∉ m.2.numbers) : ∀ c ∈ (withData [m]).context, c.Valid := by
  rintro c ⟨⟩
  refine ⟨by simp, fun m' hm => ?_⟩
  rw [List.mem_singleton.1 hm]
  exact ⟨hCanonical, fun n hn => absurd hn (hWhole n)⟩

/-- A fault of proper kinds that is not read back from its text. -/
def Lost (f : Fault) : Prop :=
  (∀ c ∈ f.context, c.Valid) ∧ ¬f.IsReadFrom f.toJson.compact

theorem lost_of_isNone (hValid : ∀ c ∈ f.context, c.Valid)
    (hNone : (read? f.toJson.compact).isNone = true) : f.Lost := by
  refine ⟨hValid, ?_⟩
  rintro ⟨f', hRead, -⟩
  rw [hRead] at hNone
  cases hNone

/-- Not every fault is read back: not where a value is named like the kind of the context, nor where
values nest deeper than the reader goes, nor where it misses a number. -/
theorem not_isReadFrom_texts :
    (withData [("type", .string "x")]).Lost ∧ (withData [("k", stacked 125)]).Lost ∧
      (withData [("k", missed)]).Lost := by
  refine ⟨lost_of_isNone (valid_withData rfl (by simp [numbers])) ?_,
    lost_of_isNone (valid_withData (stacked_plain 125).1 (by simp [(stacked_plain 125).2])) ?_,
    valid_withData rfl (by simp [missed, numbers]), ?_⟩
  · -- the kind is named twice
    rw [read?, readKnown?, toList_compact _ 0]
    decide +kernel
  · rw [read?, readKnown?, toList_compact _ 0]
    decide +kernel
  · rintro ⟨f', hRead, hSame⟩
    rw [eq_of_same_withData hSame] at hRead
    -- the number that is read has another text
    have hText : (read? (withData [("k", missed)]).toJson.compact).map (·.toJson.compact) ≠
        some (withData [("k", missed)]).toJson.compact := by
      rw [read?, readKnown?, toList_compact _ 0]
      decide +kernel
    rw [hRead] at hText
    exact hText rfl

end Fault

end TableQuery
