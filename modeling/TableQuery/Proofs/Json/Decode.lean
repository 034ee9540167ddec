import Mathlib.Data.List.Nodup
import TableQuery.Json.Decode

/-!
# Decoding — what was encoded is decoded

Each way of encoding a field is undone by the decoder for the field. A record that names its fields
once is taken as it is (`fields?_object`). Members with different names are only put in order where
an object is brought into its canonical form (`perm_canonicalMembers`).
-/

namespace TableQuery.Json

theorem asStrings?_strings (xs : List String) : asStrings? (strings xs) = some xs := by
  rw [strings, asStrings?, asArray?, Option.bind_some]
  induction xs with
  | nil => rfl
  | cons x xs ih => simp [asString?, ih]

theorem asWord?_nat {bits n : Nat} (h : n ≤ Word.greatest bits) :
    asWord? bits (nat n) = some n := by
  have hRange : (0 : Int) ≤ n ∧ (n : Int) ≤ (Word.greatest bits : Nat) := by omega
  simp [asWord?, nat, asInt?, hRange]

theorem asOptional?_of_ne_null {α : Type} {decode : Json → Option α} {j : Json} (h : j ≠ .null) :
    asOptional? decode j = (decode j).map some := by
  cases j with
  | null => exact absurd rfl h
  | _ => rfl

theorem asOptional?_string (o : Option String) :
    asOptional? asString? (Json.optional .string o) = some o := by
  cases o <;> rfl

theorem asOptional?_nat {bits : Nat} {o : Option Nat} (h : ∀ n ∈ o, n ≤ Word.greatest bits) :
    asOptional? (asWord? bits) (Json.optional nat o) = some o := by
  cases o with
  | none => rfl
  | some n =>
      rw [Json.optional, asOptional?_of_ne_null (by simp [nat]), asWord?_nat (h n rfl)]
      rfl

theorem repeats_eq_false {members : List (String × Json)} (h : (members.map (·.1)).Nodup)
    (names : List String) : repeats names members = false := by
  rw [repeats, List.any_eq_false]
  intro name _
  have hCount := List.nodup_iff_count_le_one.1 h name
  rw [List.count_eq_length_filter, List.filter_map, List.length_map] at hCount
  simpa [Function.comp_def] using hCount

/-- A record that names each field once is taken as it is. -/
theorem fields?_object {members : List (String × Json)} (h : (members.map (·.1)).Nodup)
    (names : List String) (complete : Bool) :
    fields? names complete (.object members) = some members := by
  rw [fields?, repeats_eq_false h]
  rfl

/-! ## Canonical members -/

theorem perm_insertMember {name : String} {members : List (String × Json)}
    (h : name ∉ members.map (·.1)) (value : Json) :
    (insertMember name value members).Perm ((name, value) :: members) := by
  induction members with
  | nil => exact .refl _
  | cons m ms ih =>
      rw [List.map_cons, List.mem_cons, not_or] at h
      rw [insertMember, if_neg h.1]
      split
      · exact .refl _
      · exact ((ih h.2).cons m).trans (.swap _ _ _)

/-- Members with different names, whose values are canonical, are only put in order. -/
theorem perm_canonicalMembers {members : List (String × Json)}
    (hCanonical : ∀ m ∈ members, m.2.canonical = m.2) :
    ∀ done : List (String × Json), ((done ++ members).map (·.1)).Nodup →
      (canonicalMembers done members).Perm (done ++ members) := by
  induction members with
  | nil =>
      intro done _
      rw [canonicalMembers, List.append_nil]
  | cons m ms ih =>
      intro done hNames
      -- a member with a new name goes among those done already and overwrites none of them
      have hPerm : ((m :: done) ++ ms).Perm (done ++ m :: ms) := List.perm_middle.symm
      have hNodup := (hPerm.map (·.1)).nodup_iff.2 hNames
      have hNew : m.1 ∉ done.map (·.1) := by
        rw [List.cons_append, List.map_cons, List.nodup_cons, List.map_append,
          List.mem_append] at hNodup
        exact fun hm => hNodup.1 (.inl hm)
      have hInsert := (perm_insertMember hNew m.2).append_right ms
      rw [canonicalMembers, hCanonical m (by simp)]
      exact ((ih (fun y hy => hCanonical y (List.mem_cons_of_mem _ hy)) _)
        ((hInsert.map (·.1)).nodup_iff.2 hNodup)).trans (hInsert.trans hPerm)

end TableQuery.Json
