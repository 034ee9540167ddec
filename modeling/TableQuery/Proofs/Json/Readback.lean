import TableQuery.Proofs.Json.Spaced

/-!
# Readback — a value is read back from its texts

However a value is laid out, the reader finds it again in front of whatever follows, if the value
nests no deeper than the reader goes and each of its numbers is read back from its own text
(`readValue_spaced`). So both texts of a value are documents of it (`read?_compact`,
`read?_pretty`).
-/

namespace TableQuery.Json

/-! ## What is asked of a value -/

/-- The number is read back from its text. All whole numbers are, and most floating-point numbers:
the reader scales their digits in steps that are rounded, and can miss the last place. -/
def ReadsBack (n : JsonNumber) : Prop :=
  readNumber (numberText n).toList = some (n, [])

mutual

/-- How deep arrays and objects stand in one another. -/
def nesting : Json → Nat
  | .array items => nestingOfItems items + 1
  | .object members => nestingOfMembers members + 1
  | _ => 0

def nestingOfItems : List Json → Nat
  | [] => 0
  | x :: xs => Nat.max x.nesting (nestingOfItems xs)

def nestingOfMembers : List (String × Json) → Nat
  | [] => 0
  | (_, value) :: ms => Nat.max value.nesting (nestingOfMembers ms)

end

mutual

/-- The numbers anywhere in a value. -/
def numbers : Json → List JsonNumber
  | .number n => [n]
  | .array items => numbersOfItems items
  | .object members => numbersOfMembers members
  | _ => []

def numbersOfItems : List Json → List JsonNumber
  | [] => []
  | x :: xs => x.numbers ++ numbersOfItems xs

def numbersOfMembers : List (String × Json) → List JsonNumber
  | [] => []
  | (_, value) :: ms => value.numbers ++ numbersOfMembers ms

end

/-- A reader that goes to a depth reads the value back. -/
structure Readable (depth : Nat) (j : Json) : Prop where
  nesting : j.nesting ≤ depth
  numbers : ∀ n ∈ j.numbers, ReadsBack n

section Lists

variable {depth : Nat} {n : JsonNumber} {items : List Json} {members : List (String × Json)}

theorem nestingOfItems_le_iff : nestingOfItems items ≤ depth ↔ ∀ x ∈ items, x.nesting ≤ depth := by
  induction items with
  | nil => simp [nestingOfItems]
  | cons x xs ih => rw [nestingOfItems, Nat.max_le, ih, List.forall_mem_cons]

theorem nestingOfMembers_le_iff :
    nestingOfMembers members ≤ depth ↔ ∀ m ∈ members, m.2.nesting ≤ depth := by
  induction members with
  | nil => simp [nestingOfMembers]
  | cons m ms ih => rw [nestingOfMembers, Nat.max_le, ih, List.forall_mem_cons]

theorem mem_numbersOfItems : n ∈ numbersOfItems items ↔ ∃ x ∈ items, n ∈ x.numbers := by
  induction items with
  | nil => simp [numbersOfItems]
  | cons x xs ih => simp [numbersOfItems, ih]

theorem mem_numbersOfMembers : n ∈ numbersOfMembers members ↔ ∃ m ∈ members, n ∈ m.2.numbers := by
  induction members with
  | nil => simp [numbersOfMembers]
  | cons m ms ih => simp [numbersOfMembers, ih]

theorem readable_array_iff :
    Readable depth (.array items) ↔ 0 < depth ∧ ∀ x ∈ items, Readable (depth - 1) x := by
  constructor
  · intro h
    have hNesting := h.nesting
    rw [nesting] at hNesting
    refine ⟨by omega, fun x hx => ⟨?_, fun n hn => ?_⟩⟩
    · exact nestingOfItems_le_iff.1 (by omega) x hx
    · exact h.numbers n (mem_numbersOfItems.2 ⟨x, hx, hn⟩)
  · rintro ⟨hDepth, hItems⟩
    refine ⟨?_, fun n hn => ?_⟩
    · have hLe := nestingOfItems_le_iff.2 fun x hx => (hItems x hx).nesting
      rw [nesting]
      omega
    · rcases mem_numbersOfItems.1 hn with ⟨x, hx, hn⟩
      exact (hItems x hx).numbers n hn

theorem readable_object_iff :
    Readable depth (.object members) ↔ 0 < depth ∧ ∀ m ∈ members, Readable (depth - 1) m.2 := by
  constructor
  · intro h
    have hNesting := h.nesting
    rw [nesting] at hNesting
    refine ⟨by omega, fun m hm => ⟨?_, fun n hn => ?_⟩⟩
    · exact nestingOfMembers_le_iff.1 (by omega) m hm
    · exact h.numbers n (mem_numbersOfMembers.2 ⟨m, hm, hn⟩)
  · rintro ⟨hDepth, hMembers⟩
    refine ⟨?_, fun n hn => ?_⟩
    · have hLe := nestingOfMembers_le_iff.2 fun m hm => (hMembers m hm).nesting
      rw [nesting]
      omega
    · rcases mem_numbersOfMembers.1 hn with ⟨m, hm, hn⟩
      exact (hMembers m hm).numbers n hn

theorem readable_null : Readable depth .null :=
  ⟨Nat.zero_le _, by simp [numbers]⟩

theorem readable_string (s : String) : Readable depth (.string s) :=
  ⟨Nat.zero_le _, by simp [numbers]⟩

theorem readable_nat {n : Nat} (h : n ≤ Word.greatest 64) : Readable depth (.nat n) := by
  refine ⟨Nat.zero_le _, ?_⟩
  have hBack : ReadsBack (.whole n) := readNumber_whole (by simp [Word.leastSigned]) (by omega)
  simpa [nat, numbers] using hBack

theorem readable_optional {α : Type} {encode : α → Json} {o : Option α}
    (h : ∀ a ∈ o, Readable depth (encode a)) : Readable depth (Json.optional encode o) := by
  cases o with
  | none => exact readable_null
  | some a => exact h a rfl

theorem readable_strings (hDepth : 0 < depth) (xs : List String) : Readable depth (strings xs) := by
  refine readable_array_iff.2 ⟨hDepth, fun x hx => ?_⟩
  rcases List.mem_map.1 hx with ⟨s, -, rfl⟩
  exact readable_string s

end Lists

/-! ## Blanks -/

section Blanks

variable {bs cs : List Char}

theorem skipSpace_append (h : ∀ c ∈ bs, isSpace c = true) (cs : List Char) :
    skipSpace (bs ++ cs) = skipSpace cs := by
  rw [skipSpace, List.dropWhile_append_of_pos h, skipSpace]

theorem skipSpace_cons {c : Char} (h : isSpace c = false) (cs : List Char) :
    skipSpace (c :: cs) = c :: cs := by
  simp [skipSpace, h]

theorem ends_blanks (h : ∀ c ∈ bs, isSpace c = true) (hEnds : Ends cs) : Ends (bs ++ cs) := by
  cases bs with
  | nil => exact hEnds
  | cons b bs =>
      rintro c ⟨⟩
      have hBlank := h b (by simp)
      simp only [isSpace, Bool.or_eq_true, beq_iff_eq] at hBlank
      rcases hBlank with ((rfl | rfl) | rfl) | rfl <;> decide

theorem readValue_blanks {size depth : Nat} {leaves : Leaves} (h : ∀ c ∈ bs, isSpace c = true)
    (cs : List Char) : readValue size leaves depth (bs ++ cs) = readValue size leaves depth cs := by
  cases depth <;> simp only [readValue, skipSpace_append h]

end Blanks

/-! ## Scalars -/

section Scalars

variable {size depth : Nat} {leaves : Leaves} {c : Char}

/-- What starts like no array and no object is read as a scalar. -/
theorem readValue_scalar (hSpace : isSpace c = false) (hArray : c ≠ '[') (hObject : c ≠ '\x7b')
    (cs : List Char) : readValue size leaves depth (c :: cs) = readScalar leaves (c :: cs) := by
  cases depth with
  | zero => rw [readValue, skipSpace_cons hSpace]
  | succ depth =>
      simp only [readValue, skipSpace_cons hSpace]
      split
      · next h => exact absurd (List.cons.inj h).1 hArray
      · next h => exact absurd (List.cons.inj h).1 hObject
      · rfl

/-- Nothing else starts like a number. -/
theorem exists_head_number {n : JsonNumber} (h : ReadsBack n) :
    ∃ c tail, (numberText n).toList = c :: tail ∧ isSpace c = false ∧
      c ∉ ['n', 't', 'f', '"', '[', '\x7b', ']'] := by
  rcases head?_of_readNumber h with ⟨c, tail, hText, hc⟩
  refine ⟨c, tail, hText, ?_⟩
  have hOther : ∀ b : Char, b ≠ '-' → b.isDigit = false → c ≠ b := by
    rintro b hMinus hDigit rfl
    rcases hc with hc | hc
    · exact hMinus hc
    · rw [hDigit] at hc
      cases hc
  constructor
  · simp [isSpace, hOther]
  · simp [hOther]

theorem readValue_number {n : JsonNumber} (h : ReadsBack n) {rest : List Char}
    (hEnds : Ends rest) : readValue size (.exact size) depth ((numberText n).toList ++ rest) =
      some (.number n, rest) := by
  have hNumber := readNumber_append h hEnds
  rcases exists_head_number h with ⟨c, tail, hText, hSpace, hOther⟩
  simp only [List.mem_cons, List.not_mem_nil, not_or] at hOther
  rcases hOther with ⟨hNull, hTrue, hFalse, hQuote, hArray, hObject, -⟩
  rw [hText, List.cons_append] at hNumber ⊢
  rw [readValue_scalar hSpace hArray hObject]
  -- the reader looks at the first character for a word or a quote before it tries a number
  unfold readScalar
  split
  · next hStart => exact absurd (List.cons.inj hStart).1 hNull
  · next hStart => exact absurd (List.cons.inj hStart).1 hTrue
  · next hStart => exact absurd (List.cons.inj hStart).1 hFalse
  · next hStart => exact absurd (List.cons.inj hStart).1 hQuote
  · simp only [Leaves.exact, hNumber, Option.map_some]

theorem readValue_string {s : String} (h : s.toList.length < size) (rest : List Char) :
    readValue size (.exact size) depth ((quote s).toList ++ rest) = some (.string s, rest) := by
  have hText := readString_quote h rest
  rw [toList_quote, List.cons_append, List.append_assoc, List.singleton_append,
    readValue_scalar rfl (by decide) (by decide)]
  simp only [readScalar, Leaves.exact, hText, Option.map_some]

end Scalars

/-! ## Items and members -/

section Lists

variable {w : Spacing} {size level : Nat} {rest bs : List Char}

/-- Behind a value there is a comma, blanks or a closing bracket. -/
theorem ends_cons {c : Char} (h : c ∈ [',', ']', '\x7d']) (cs : List Char) : Ends (c :: cs) := by
  rintro b ⟨⟩
  simp only [List.mem_cons, List.not_mem_nil, or_false] at h
  rcases h with rfl | rfl | rfl <;> decide

theorem ends_items (w : Spacing) (level : Nat) (rest : List Char)
    (hClose : ∀ c ∈ bs, isSpace c = true) (xs : List Json) :
    Ends (spacedItems w level xs ++ (bs ++ ']' :: rest)) := by
  cases xs with
  | nil =>
      rw [spacedItems, List.nil_append]
      exact ends_blanks hClose (ends_cons (by decide) rest)
  | cons y ys => exact ends_cons (by decide) _

theorem ends_members (w : Spacing) (level : Nat) (rest : List Char)
    (hClose : ∀ c ∈ bs, isSpace c = true) (ms : List (String × Json)) :
    Ends (spacedMembers w level ms ++ (bs ++ '\x7d' :: rest)) := by
  cases ms with
  | nil =>
      rw [spacedMembers, List.nil_append]
      exact ends_blanks hClose (ends_cons (by decide) rest)
  | cons y ys => exact ends_cons (by decide) _

theorem readMoreItems_spaced {value : List Char → Reads Json} (rest : List Char)
    (hClose : ∀ c ∈ bs, isSpace c = true) {xs : List Json}
    (h : ∀ x ∈ xs, ∀ tail, Ends tail →
      value (w.line level ++ (spaced w level x ++ tail)) = some (x, tail)) :
    ∀ {fuel}, xs.length < fuel →
      readMoreItems value fuel (spacedItems w level xs ++ (bs ++ ']' :: rest)) =
        some (xs, rest) := by
  induction xs with
  | nil =>
      intro fuel hFuel
      cases fuel with
      | zero => cases hFuel
      | succ fuel =>
          rw [spacedItems, List.nil_append, readMoreItems, skipSpace_append hClose]
          rfl
  | cons x xs ih =>
      intro fuel hFuel
      cases fuel with
      | zero => cases hFuel
      | succ fuel =>
          have hRest := ih (fun y hy => h y (List.mem_cons_of_mem _ hy))
            (Nat.lt_of_succ_lt_succ hFuel)
          have hItem := h x (by simp) _ (ends_items w level rest hClose xs)
          simp only [spacedItems, List.cons_append, List.append_assoc, readMoreItems,
            skipSpace_cons (c := ',') rfl, hItem, hRest, Option.map_some]

/-- A member is read if its value is. -/
theorem readMember_spaced {value : String → List Char → Reads Json} {name : String} {x : Json}
    {tail : List Char} (hBlank : ∀ c ∈ bs, isSpace c = true) (hName : name.toList.length < size)
    (h : value name (w.colon ++ (spaced w level x ++ tail)) = some (x, tail)) :
    readMember (.exact size) value
      (bs ++ ((quote name).toList ++ ':' :: (w.colon ++ (spaced w level x ++ tail)))) =
        some ((name, x), tail) := by
  have hText := readString_quote hName (':' :: (w.colon ++ (spaced w level x ++ tail)))
  rw [toList_quote, List.cons_append, List.append_assoc, List.singleton_append, readMember,
    skipSpace_append hBlank, skipSpace_cons rfl]
  simp only [Leaves.exact, hText, skipSpace_cons (c := ':') rfl, h, Option.map_some]

theorem readMoreMembers_spaced {value : String → List Char → Reads Json} (rest : List Char)
    (hClose : ∀ c ∈ bs, isSpace c = true) {ms : List (String × Json)}
    (hNames : ∀ m ∈ ms, m.1.toList.length < size)
    (h : ∀ m ∈ ms, ∀ tail, Ends tail →
      value m.1 (w.colon ++ (spaced w level m.2 ++ tail)) = some (m.2, tail)) :
    ∀ {fuel}, ms.length < fuel →
      readMoreMembers (.exact size) value fuel
        (spacedMembers w level ms ++ (bs ++ '\x7d' :: rest)) = some (ms, rest) := by
  induction ms with
  | nil =>
      intro fuel hFuel
      cases fuel with
      | zero => cases hFuel
      | succ fuel =>
          rw [spacedMembers, List.nil_append, readMoreMembers, skipSpace_append hClose]
          rfl
  | cons m ms ih =>
      intro fuel hFuel
      cases fuel with
      | zero => cases hFuel
      | succ fuel =>
          have hRest := ih (fun y hy => hNames y (List.mem_cons_of_mem _ hy))
            (fun y hy => h y (List.mem_cons_of_mem _ hy)) (Nat.lt_of_succ_lt_succ hFuel)
          have hMember := readMember_spaced (w.line_blank level) (hNames m (by simp))
            (h m (by simp) _ (ends_members w level rest hClose ms))
          simp only [spacedMembers, List.cons_append, List.append_assoc, readMoreMembers,
            skipSpace_cons (c := ',') rfl, hMember, hRest, Option.map_some]

/-- The text of a value starts with something else than a blank or a closing bracket. -/
theorem exists_head_spaced (w : Spacing) (level : Nat) {x : Json}
    (h : ∀ n ∈ x.numbers, ReadsBack n) :
    ∃ c tail, spaced w level x = c :: tail ∧ isSpace c = false ∧ c ≠ ']' := by
  cases x with
  | null => exact ⟨_, _, rfl, by decide, by decide⟩
  | bool b => cases b <;> exact ⟨_, _, rfl, by decide, by decide⟩
  | number n =>
      rcases exists_head_number (h n (by simp [numbers])) with ⟨c, tail, hText, hSpace, hOther⟩
      exact ⟨c, tail, hText, hSpace, fun hc => hOther (by simp [hc])⟩
  | string s => exact ⟨'"', _, toList_quote s, rfl, by decide⟩
  | array items => cases items <;> exact ⟨'[', _, rfl, rfl, by decide⟩
  | object members =>
      rcases members with _ | ⟨⟨name, value⟩, ms⟩ <;> exact ⟨'\x7b', _, rfl, rfl, by decide⟩

theorem readItems_spaced {value : List Char → Reads Json} {x : Json} {xs : List Json}
    (rest : List Char) (hClose : ∀ c ∈ bs, isSpace c = true)
    (hNumbers : ∀ n ∈ x.numbers, ReadsBack n)
    (hBlanks : ∀ {bs}, (∀ c ∈ bs, isSpace c = true) → ∀ cs, value (bs ++ cs) = value cs)
    (h : ∀ y ∈ x :: xs, ∀ tail, Ends tail → value (spaced w level y ++ tail) = some (y, tail))
    (hSize : xs.length < size) :
    readItems size value
      (w.line level ++ (spaced w level x ++ (spacedItems w level xs ++ (bs ++ ']' :: rest)))) =
        some (x :: xs, rest) := by
  have hMore : ∀ y ∈ xs, ∀ tail, Ends tail →
      value (w.line level ++ (spaced w level y ++ tail)) = some (y, tail) := by
    intro y hy tail hTail
    rw [hBlanks (w.line_blank level)]
    exact h y (List.mem_cons_of_mem _ hy) tail hTail
  have hRest := readMoreItems_spaced rest hClose hMore hSize
  have hFirst := h x (by simp) _ (ends_items w level rest hClose xs)
  -- the first item is no closing bracket, so the reader does not take the array for an empty one
  rcases exists_head_spaced w level hNumbers with ⟨c, tail, hText, hSpace, hc⟩
  rw [hText, List.cons_append] at hFirst ⊢
  rw [readItems, skipSpace_append (w.line_blank level), skipSpace_cons hSpace]
  split
  · next hStart => exact absurd (List.cons.inj hStart).1 hc
  · simp only [hFirst, hRest, Option.map_some]

theorem readMembers_spaced {value : String → List Char → Reads Json} {name : String} {x : Json}
    {ms : List (String × Json)} (rest : List Char) (hClose : ∀ c ∈ bs, isSpace c = true)
    (hNames : ∀ m ∈ (name, x) :: ms, m.1.toList.length < size)
    (h : ∀ m ∈ (name, x) :: ms, ∀ tail, Ends tail →
      value m.1 (w.colon ++ (spaced w level m.2 ++ tail)) = some (m.2, tail))
    (hSize : ms.length < size) :
    readMembers size (.exact size) value
      (w.line level ++ ((quote name).toList ++ ':' :: (w.colon ++ (spaced w level x ++
        (spacedMembers w level ms ++ (bs ++ '\x7d' :: rest)))))) =
          some ((name, x) :: ms, rest) := by
  have hRest := readMoreMembers_spaced rest hClose
    (fun y hy => hNames y (List.mem_cons_of_mem _ hy))
    (fun y hy => h y (List.mem_cons_of_mem _ hy)) hSize
  have hNone : ∀ c ∈ ([] : List Char), isSpace c = true := by simp
  have hFirst := readMember_spaced hNone (hNames (name, x) (by simp))
    (h (name, x) (by simp) _ (ends_members w level rest hClose ms))
  have hQuote := toList_quote name
  rw [List.nil_append, hQuote, List.cons_append] at hFirst
  simp only at hFirst
  rw [hQuote, List.cons_append, readMembers, skipSpace_append (w.line_blank level),
    skipSpace_cons rfl]
  split
  · next hStart => exact absurd (List.cons.inj hStart).1 (by decide)
  · rw [hFirst]
    simp only [hRest, Option.map_some]

end Lists

/-! ## Sizes -/

section Sizes

variable (w : Spacing) (level : Nat)

/-- The text of a list is no shorter than the list and the texts in it. -/
theorem length_le_items (xs : List Json) : xs.length ≤ (spacedItems w level xs).length ∧
    ∀ x ∈ xs, (spaced w level x).length ≤ (spacedItems w level xs).length := by
  induction xs with
  | nil => exact ⟨Nat.le_refl _, by simp⟩
  | cons y ys ih =>
      rcases ih with ⟨hCount, hEach⟩
      simp only [spacedItems, List.length_cons, List.length_append]
      refine ⟨by omega, List.forall_mem_cons.2 ⟨by omega, fun x hx => ?_⟩⟩
      have hLe := hEach x hx
      omega

theorem length_le_members (ms : List (String × Json)) :
    ms.length ≤ (spacedMembers w level ms).length ∧
      ∀ m ∈ ms, m.1.toList.length ≤ (spacedMembers w level ms).length ∧
        (spaced w level m.2).length ≤ (spacedMembers w level ms).length := by
  induction ms with
  | nil => exact ⟨Nat.le_refl _, by simp⟩
  | cons m ms ih =>
      rcases ih with ⟨hCount, hEach⟩
      have hName := length_le_escaped m.1.toList
      simp only [spacedMembers, toList_quote, List.length_cons, List.length_append]
      refine ⟨by omega, List.forall_mem_cons.2 ⟨⟨by omega, by omega⟩, fun m' hm => ?_⟩⟩
      have hLe := hEach m' hm
      omega

/-- An array has the items after a first one in its text, and so has an object the members. -/
theorem length_items_lt (x : Json) (xs : List Json) :
    (spacedItems w (level + 1) (x :: xs)).length < (spaced w level (.array (x :: xs))).length := by
  simp only [spacedItems, spaced, List.length_cons, List.length_append]
  omega

theorem length_members_lt (m : String × Json) (ms : List (String × Json)) :
    (spacedMembers w (level + 1) (m :: ms)).length <
      (spaced w level (.object (m :: ms))).length := by
  simp only [spacedMembers, spaced, List.length_cons, List.length_append]
  omega

end Sizes

/-! ## Values -/

section Values

variable {w : Spacing} {size : Nat}

/-- The members of an object are read back from behind its opening brace, however their values are
read, if these are read back. -/
theorem readMembers_object {level : Nat} (value : String → List Char → Reads Json)
    {members : List (String × Json)} (hSize : (spaced w level (.object members)).length < size)
    (h : ∀ m ∈ members, (spaced w (level + 1) m.2).length < size → ∀ tail, Ends tail →
      value m.1 (w.colon ++ (spaced w (level + 1) m.2 ++ tail)) = some (m.2, tail)) :
    ∃ body, spaced w level (.object members) = '\x7b' :: body ∧
      ∀ rest, readMembers size (.exact size) value (body ++ rest) = some (members, rest) := by
  rcases members with _ | ⟨⟨name, x⟩, ms⟩
  · exact ⟨['\x7d'], rfl, fun rest => rfl⟩
  · refine ⟨_, rfl, fun rest => ?_⟩
    -- the bound is that of the whole text, and no name or value in it is as long
    have hAll := length_members_lt w level (name, x) ms
    rcases length_le_members w (level + 1) ((name, x) :: ms) with ⟨hCount, hEach⟩
    rw [List.length_cons] at hCount
    have hNames : ∀ m ∈ (name, x) :: ms, m.1.toList.length < size := fun m hm =>
      Nat.lt_of_le_of_lt (hEach m hm).1 (hAll.trans hSize)
    have hValues : ∀ m ∈ (name, x) :: ms, ∀ tail, Ends tail → _ := fun m hm =>
      h m hm (Nat.lt_of_le_of_lt (hEach m hm).2 (hAll.trans hSize))
    have hRead := readMembers_spaced rest (w.line_blank level) hNames hValues (by omega)
    simpa only [List.append_assoc, List.cons_append, List.nil_append] using hRead

theorem readItems_array {level : Nat} (value : List Char → Reads Json) {items : List Json}
    (hSize : (spaced w level (.array items)).length < size)
    (hNumbers : ∀ x ∈ items, ∀ n ∈ x.numbers, ReadsBack n)
    (hBlanks : ∀ {bs}, (∀ c ∈ bs, isSpace c = true) → ∀ cs, value (bs ++ cs) = value cs)
    (h : ∀ x ∈ items, (spaced w (level + 1) x).length < size → ∀ tail, Ends tail →
      value (spaced w (level + 1) x ++ tail) = some (x, tail)) :
    ∃ body, spaced w level (.array items) = '[' :: body ∧
      ∀ rest, readItems size value (body ++ rest) = some (items, rest) := by
  rcases items with _ | ⟨x, xs⟩
  · exact ⟨[']'], rfl, fun rest => rfl⟩
  · refine ⟨_, rfl, fun rest => ?_⟩
    have hAll := length_items_lt w level x xs
    rcases length_le_items w (level + 1) (x :: xs) with ⟨hCount, hEach⟩
    rw [List.length_cons] at hCount
    have hValues : ∀ y ∈ x :: xs, ∀ tail, Ends tail → _ := fun y hy =>
      h y hy (Nat.lt_of_le_of_lt (hEach y hy) (hAll.trans hSize))
    have hRead := readItems_spaced rest (w.line_blank level) (hNumbers x (by simp)) hBlanks hValues
      (Nat.lt_of_lt_of_le (by omega) hSize.le)
    simpa only [List.append_assoc, List.cons_append, List.nil_append] using hRead

/-- A value is read back from its text, in front of anything that does not go on with it. -/
theorem readValue_spaced {j : Json} : ∀ {depth level : Nat} {rest : List Char}, Readable depth j →
    (spaced w level j).length < size → Ends rest →
      readValue size (.exact size) depth (spaced w level j ++ rest) = some (j, rest) := by
  -- along the value, for all depths, since what is inside it is read one level less deep
  induction j with
  | null => exact fun _ _ _ => readValue_scalar rfl (by decide) (by decide) _
  | bool b =>
      intro depth level rest _ _ _
      cases b with
      | true => exact readValue_scalar rfl (by decide) (by decide) _
      | false => exact readValue_scalar rfl (by decide) (by decide) _
  | number n =>
      intro depth level rest h _ hEnds
      exact readValue_number (h.numbers n (by simp [numbers])) hEnds
  | string s =>
      intro depth level rest _ hSize _
      have hLe := length_le_escaped s.toList
      rw [spaced, toList_quote, List.length_cons, List.length_append] at hSize
      exact readValue_string (by omega) rest
  | array items ih =>
      intro depth level rest h hSize _
      rcases readable_array_iff.1 h with ⟨hDepth, hItems⟩
      obtain ⟨deep, rfl⟩ := Nat.exists_eq_succ_of_ne_zero hDepth.ne'
      rcases readItems_array (readValue size (.exact size) deep) hSize
        (fun x hx => (hItems x hx).numbers) readValue_blanks
        (fun x hx hLt tail hTail => ih x hx (hItems x hx) hLt hTail) with ⟨body, hText, hRead⟩
      rw [hText, List.cons_append, readValue, skipSpace_cons rfl]
      simp only [hRead, Option.map_some]
  | object members ih =>
      intro depth level rest h hSize _
      rcases readable_object_iff.1 h with ⟨hDepth, hMembers⟩
      obtain ⟨deep, rfl⟩ := Nat.exists_eq_succ_of_ne_zero hDepth.ne'
      rcases readMembers_object (fun _ => readValue size (.exact size) deep) hSize
        (fun m hm hLt tail hTail => by
          rw [readValue_blanks w.colon_blank]
          exact ih m hm (hMembers m hm) hLt hTail) with ⟨body, hText, hRead⟩
      rw [hText, List.cons_append, readValue, skipSpace_cons rfl]
      simp only [hRead, Option.map_some]

end Values

/-! ## Documents -/

theorem ends_nil : Ends [] := by
  intro c hc
  cases hc

/-- A text in which a value is laid out is a document of the value. -/
theorem readWithin?_spaced (w : Spacing) {depth level : Nat} {j : Json} {text : String}
    (hText : text.toList = spaced w level j) (h : Readable depth j) :
    readWithin? depth text = some j := by
  have hRead : readValue _ (.exact _) depth (spaced w level j ++ []) = _ :=
    readValue_spaced h (Nat.lt_succ_self (spaced w level j).length) ends_nil
  rw [List.append_nil] at hRead
  simp only [readWithin?, hText, hRead]
  rfl

theorem read?_compact {j : Json} (h : Readable maxDepth j) : read? j.compact = some j :=
  readWithin?_spaced .none (j.toList_compact 0) h

theorem read?_pretty {j : Json} (h : Readable maxDepth j) : read? j.pretty = some j :=
  readWithin?_spaced .lines (j.toList_prettyFrom 0) h

/-- Of an object the members that are wanted are read. Within an object a reader goes one level less
deep. -/
theorem readKnown?_spaced (w : Spacing) {level : Nat} {names : List String}
    {members : List (String × Json)} {text : String}
    (hText : text.toList = spaced w level (.object members)) (hNames : ∀ m ∈ members, m.1 ∈ names)
    (h : ∀ m ∈ members, Readable (maxDepth - 1) m.2) :
    readKnown? names text = some (.object members) := by
  let size := (spaced w level (.object members)).length + 1
  have hSize : (spaced w level (.object members)).length < size := Nat.lt_succ_self _
  rcases readMembers_object
    (fun name => if names.contains name then readValue size (.exact size) (maxDepth - 1)
      else readValue size (.passed size) size) hSize
    (fun m hm hLt tail hTail => by
      rw [if_pos (List.contains_iff_mem.2 (hNames m hm)), readValue_blanks w.colon_blank]
      exact readValue_spaced (h m hm) hLt hTail) with ⟨body, hBody, hRead⟩
  have hAll := hRead []
  rw [List.append_nil] at hAll
  have hLength : size = ('\x7b' :: body).length + 1 := by rw [← hBody]
  rw [hLength] at hAll
  rw [readKnown?, hText, hBody]
  simp only [skipSpace_cons (c := '\x7b') rfl]
  rw [hAll]
  rfl

end TableQuery.Json
