import TableQuery.Proofs.Json.Token

/-!
# Spaced — the two layouts of a value as one

The text of a value on one line and its text on many lines have the same tokens, and differ in the
blanks between them. Here a value is written with any blanks before its items, its closing brackets
and the values of its members (`Json.spaced`). Both layouts are of this form (`spaced_compact`,
`spaced_pretty`), so that reading needs to be looked at only once.
-/

namespace TableQuery.Json

/-- Induction over values: a property holds of a value if it holds of all that it directly holds. -/
@[elab_as_elim, induction_eliminator]
theorem inductionOn {P : Json → Prop} (null : P .null) (bool : ∀ b, P (.bool b))
    (number : ∀ n, P (.number n)) (string : ∀ s, P (.string s))
    (array : ∀ items, (∀ x ∈ items, P x) → P (.array items))
    (object : ∀ members, (∀ m ∈ members, P m.2) → P (.object members)) (j : Json) : P j := by
  refine @Json.rec P (fun items => ∀ x ∈ items, P x) (fun members => ∀ m ∈ members, P m.2)
    (fun m => P m.2) null bool number string array object ?_ ?_ ?_ ?_ ?_ j
  · simp
  · exact fun x xs hx hxs => List.forall_mem_cons.2 ⟨hx, hxs⟩
  · simp
  · exact fun m ms hm hms => List.forall_mem_cons.2 ⟨hm, hms⟩
  · exact fun _ _ hx => hx

/-- The blanks in a text: in front of the items and the closing brackets of a level, and in front of
the values of members. -/
structure Spacing where
  line : Nat → List Char
  colon : List Char
  line_blank : ∀ level, ∀ c ∈ line level, isSpace c = true
  colon_blank : ∀ c ∈ colon, isSpace c = true

namespace Spacing

/-- No blanks. -/
def none : Spacing where
  line _ := []
  colon := []
  line_blank := by simp
  colon_blank := by simp

/-- A line for each item and each closing bracket. -/
def lines : Spacing where
  line level := (newLine level).toList
  colon := [' ']
  line_blank level c hc := by
    rw [newLine, String.toList_ofList, List.mem_cons] at hc
    rcases hc with rfl | hc
    · rfl
    · rw [List.eq_of_mem_replicate hc]
      rfl
  colon_blank := by simp [isSpace]

end Spacing

section Spaced

variable (w : Spacing)

mutual

/-- The text of a value at a level. -/
def spaced (level : Nat) : Json → List Char
  | .null => "null".toList
  | .bool b => if b then "true".toList else "false".toList
  | .number n => (numberText n).toList
  | .string s => (quote s).toList
  | .array [] => ['[', ']']
  | .array (x :: xs) =>
    '[' :: (w.line (level + 1) ++ spaced (level + 1) x ++ spacedItems (level + 1) xs ++
      w.line level ++ [']'])
  | .object [] => ['\x7b', '\x7d']
  | .object ((name, value) :: ms) =>
    '\x7b' :: (w.line (level + 1) ++ (quote name).toList ++ ':' :: (w.colon ++
      spaced (level + 1) value ++ spacedMembers (level + 1) ms ++ w.line level ++ ['\x7d']))

/-- The items of an array after the first, each behind a comma. -/
def spacedItems (level : Nat) : List Json → List Char
  | [] => []
  | x :: xs => ',' :: (w.line level ++ spaced level x ++ spacedItems level xs)

/-- The members of an object after the first, each behind a comma. -/
def spacedMembers (level : Nat) : List (String × Json) → List Char
  | [] => []
  | (name, value) :: ms =>
    ',' :: (w.line level ++ (quote name).toList ++ ':' :: (w.colon ++ spaced level value ++
      spacedMembers level ms))

end

end Spaced

/-! ## One line -/

theorem toList_compactItems {level : Nat} (xs : List Json) : ∀ {x : Json},
    (∀ y ∈ x :: xs, y.compact.toList = y.spaced .none level) →
      (compactItems (x :: xs)).toList = x.spaced .none level ++ spacedItems .none level xs := by
  induction xs with
  | nil =>
      intro x h
      simp [compactItems, spacedItems, h x (by simp)]
  | cons y ys ih =>
      intro x h
      have hTail := ih fun z hz => h z (List.mem_cons_of_mem _ hz)
      simp [compactItems, spacedItems, h x (by simp), hTail, Spacing.none]

theorem toList_compactMembers {level : Nat} (ms : List (String × Json)) :
    ∀ {name : String} {value : Json},
      (∀ m ∈ (name, value) :: ms, m.2.compact.toList = m.2.spaced .none level) →
        (compactMembers ((name, value) :: ms)).toList = (quote name).toList ++
          ':' :: (value.spaced .none level ++ spacedMembers .none level ms) := by
  induction ms with
  | nil =>
      intro name value h
      have hValue := h (name, value) (by simp)
      simp [compactMembers, spacedMembers, hValue]
  | cons m ms ih =>
      rcases m with ⟨other, inner⟩
      intro name value h
      have hValue := h (name, value) (by simp)
      have hTail := ih fun z hz => h z (List.mem_cons_of_mem _ hz)
      simp [compactMembers, spacedMembers, hValue, hTail, Spacing.none]

/-- On one line there are no blanks. -/
theorem toList_compact (j : Json) : ∀ level, j.compact.toList = j.spaced .none level := by
  induction j with
  | array items ih =>
      intro level
      cases items with
      | nil => rfl
      | cons x xs =>
          have hItems := toList_compactItems xs fun y hy => ih y hy (level + 1)
          simp [compact, spaced, hItems, Spacing.none]
  | object members ih =>
      intro level
      cases members with
      | nil => rfl
      | cons m ms =>
          have hMembers := toList_compactMembers ms fun m' hm => ih m' hm (level + 1)
          simp [compact, spaced, hMembers, Spacing.none]
  | bool b => intro level; cases b <;> rfl
  | _ => intro level; rfl

/-! ## Many lines -/

theorem toList_prettyItems {level : Nat} (xs : List Json) : ∀ {x : Json},
    (∀ y ∈ x :: xs, (y.prettyFrom level).toList = y.spaced .lines level) →
      (prettyItems level (x :: xs)).toList = (newLine level).toList ++ x.spaced .lines level ++
        spacedItems .lines level xs := by
  induction xs with
  | nil =>
      intro x h
      simp [prettyItems, spacedItems, h x (by simp)]
  | cons y ys ih =>
      intro x h
      have hTail := ih fun z hz => h z (List.mem_cons_of_mem _ hz)
      simp [prettyItems, spacedItems, h x (by simp), hTail, Spacing.lines]

theorem toList_prettyMembers {level : Nat} (ms : List (String × Json)) :
    ∀ {name : String} {value : Json},
      (∀ m ∈ (name, value) :: ms, (m.2.prettyFrom level).toList = m.2.spaced .lines level) →
        (prettyMembers level ((name, value) :: ms)).toList = (newLine level).toList ++
          (quote name).toList ++
          ':' :: ' ' :: (value.spaced .lines level ++ spacedMembers .lines level ms) := by
  induction ms with
  | nil =>
      intro name value h
      have hValue := h (name, value) (by simp)
      simp [prettyMembers, spacedMembers, hValue]
  | cons m ms ih =>
      rcases m with ⟨other, inner⟩
      intro name value h
      have hValue := h (name, value) (by simp)
      have hTail := ih fun z hz => h z (List.mem_cons_of_mem _ hz)
      simp [prettyMembers, spacedMembers, hValue, hTail, Spacing.lines]

/-- On many lines items and closing brackets have lines of their own. -/
theorem toList_prettyFrom (j : Json) :
    ∀ level, (j.prettyFrom level).toList = j.spaced .lines level := by
  induction j with
  | array items ih =>
      intro level
      cases items with
      | nil => simp [prettyFrom, spaced]
      | cons x xs =>
          have hItems := toList_prettyItems xs fun y hy => ih y hy (level + 1)
          simp [prettyFrom, spaced, hItems, Spacing.lines]
  | object members ih =>
      intro level
      cases members with
      | nil => simp [prettyFrom, spaced]
      | cons m ms =>
          have hMembers := toList_prettyMembers ms fun m' hm => ih m' hm (level + 1)
          simp [prettyFrom, spaced, hMembers, Spacing.lines]
  | bool b => intro level; cases b <;> rfl
  | _ => intro level; rfl

end TableQuery.Json
