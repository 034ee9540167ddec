import TableQuery.Identifier.Basic
import TableQuery.Proofs.Outcome

/-!
# Identifier — names and their spellings

A valid name has one spelling, and the spelling of a name that is no quoted identifier belongs to no
other such name.
-/

namespace TableQuery
namespace Identifier

theorem safe_eq_ok {name text : String} (h : safe name = .ok text) : text = quote name := by
  rcases of_map_ok h with ⟨u, -, hQuote⟩
  exact hQuote.symm

theorem eq_of_doubleQuotes_eq {cs ds : List Char} (h : doubleQuotes cs = doubleQuotes ds) :
    cs = ds := by
  induction cs generalizing ds with
  | nil =>
      cases ds with
      | nil => rfl
      | cons d ds => by_cases hd : d = '"' <;> simp [doubleQuotes, hd] at h
  | cons c cs ih =>
      cases ds with
      | nil => by_cases hc : c = '"' <;> simp [doubleQuotes, hc] at h
      | cons d ds =>
          by_cases hc : c = '"'
          · by_cases hd : d = '"'
            · simp only [doubleQuotes, hc, hd, if_true, List.cons.injEq, true_and] at h
              rw [hc, hd, ih h]
            · simp only [doubleQuotes, hc, hd, if_true, if_false, List.cons.injEq] at h
              exact absurd h.1.symm hd
          · by_cases hd : d = '"'
            · simp [doubleQuotes, hc, hd] at h
            · simp only [doubleQuotes, hc, hd, if_false, List.cons.injEq] at h
              rw [h.1, ih h.2]

/-- A name that opens with a quote is never written bare. -/
theorem needsQuotes_of_opening {cs : List Char} :
    needsQuotes (String.ofList ('"' :: cs)) = true := by
  have hQuote : isWordChar '"' = false := by decide
  simp [needsQuotes, hQuote]

/-- Names that are no quoted identifiers are written differently. -/
theorem eq_of_quote_eq {a b : String} (ha : isQuoted a = false) (hb : isQuoted b = false)
    (h : quote a = quote b) : a = b := by
  unfold quote at h
  rw [ha, hb] at h
  cases hNeedsA : needsQuotes a with
  | false =>
      cases hNeedsB : needsQuotes b with
      | false => simpa [hNeedsA, hNeedsB] using h
      | true =>
          -- one is written bare and the other in quotes, but a bare name opens with no quote
          have hBare : a = String.ofList ('"' :: (doubleQuotes b.toList ++ ['"'])) := by
            simpa [hNeedsA, hNeedsB] using h
          rw [hBare, needsQuotes_of_opening] at hNeedsA
          cases hNeedsA
  | true =>
      cases hNeedsB : needsQuotes b with
      | false =>
          have hBare : String.ofList ('"' :: (doubleQuotes a.toList ++ ['"'])) = b := by
            simpa [hNeedsA, hNeedsB] using h
          rw [← hBare, needsQuotes_of_opening] at hNeedsB
          cases hNeedsB
      | true =>
          -- both stand between quotes, and doubling the quotes inside loses nothing
          have hInner := congrArg String.toList (by simpa [hNeedsA, hNeedsB] using h)
          simp only [String.toList_ofList] at hInner
          exact String.toList_inj.1 (eq_of_doubleQuotes_eq hInner)

end Identifier
end TableQuery
