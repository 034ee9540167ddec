import TableQuery.Proofs.Scope.Select
import TableQuery.Proofs.Text.Numeral
import TableQuery.Text.Casing

/-!
# Numbered — texts in which only the numbers of aliases change

Aliases are numbered in the order in which they are drawn, so what is written depends on how many
have been drawn before. A text is looked at here as a family: one text for each number that the next
alias can have. Such a family is *numbered* if all its texts are written from the same marks, with
the aliases counted from that number (`Numbered`). What puts texts together makes numbered texts of
numbered texts.
-/

namespace TableQuery

/-- A character, or an alias with its distance from the first one, as it is drawn or in capitals. -/
inductive Mark where
  | char (c : Char)
  | alias (distance : Nat)
  | capital (distance : Nat)
  deriving DecidableEq

namespace Mark

/-- The characters of a mark, where the first alias has a given number. -/
def write (first : Nat) : Mark → List Char
  | .char c => [c]
  | .alias n => (aliasName (first + n)).toList
  | .capital n => 'T' :: (toString (first + n)).toList

/-- The mark in capitals. -/
def upper : Mark → Mark
  | .char c => .char c.toUpper
  | .alias n | .capital n => .capital n

end Mark

/-- The text with the number `first` of the first alias is written from marks that are the same for
all numbers. -/
def Numbered (t : Nat → String) : Prop :=
  ∃ marks : List Mark, ∀ first, (t first).toList = marks.flatMap (Mark.write first)

theorem toList_aliasName (n : Nat) : (aliasName n).toList = 't' :: (toString n).toList := by
  simp [aliasName]

/-! ## Putting numbered texts together -/

section Texts

variable {s t : Nat → String}

theorem numbered_const (text : String) : Numbered fun _ => text := by
  refine ⟨text.toList.map .char, fun first => ?_⟩
  rw [List.flatMap_map]
  exact (List.flatMap_singleton' _).symm

theorem numbered_alias (distance : Nat) : Numbered fun first => aliasName (first + distance) :=
  ⟨[.alias distance], fun _ => by simp [Mark.write]⟩

theorem Numbered.append (hs : Numbered s) (ht : Numbered t) :
    Numbered fun first => s first ++ t first := by
  rcases hs with ⟨marks, hMarks⟩
  rcases ht with ⟨more, hMore⟩
  exact ⟨marks ++ more, fun first => by simp [hMarks, hMore]⟩

/-- Two texts with a fixed one between them. -/
theorem Numbered.join (hs : Numbered s) (glue : String) (ht : Numbered t) :
    Numbered fun first => s first ++ glue ++ t first :=
  (hs.append (numbered_const glue)).append ht

theorem Numbered.enclosed (ht : Numbered t) (opening closing : String) :
    Numbered fun first => opening ++ t first ++ closing :=
  ((numbered_const opening).append ht).append (numbered_const closing)

theorem numbered_intercalate (separator : String) {ts : List (Nat → String)}
    (h : ∀ t ∈ ts, Numbered t) :
    Numbered fun first => separator.intercalate (ts.map (· first)) := by
  induction ts with
  | nil => exact numbered_const ""
  | cons t ts ih =>
      have ht := h t (by simp)
      have hRest := ih fun u hu => h u (List.mem_cons_of_mem _ hu)
      -- the separator stands behind an item only if there is another one
      cases ts with
      | nil => simpa using ht
      | cons u us => simpa using ht.join separator hRest

/-- A choice that is the same for all numbers. -/
theorem Numbered.ite {p : Nat → Prop} [DecidablePred p] (hp : (∀ k, p k) ∨ ∀ k, ¬p k)
    (hs : Numbered s) (ht : Numbered t) : Numbered fun k => if p k then s k else t k := by
  rcases hp with hp | hp
  · simpa only [hp, if_true] using hs
  · simpa only [hp, if_false] using ht

end Texts

end TableQuery
