import TableQuery.Session.Dialogue

/-!
# Exchanges — what is said in a dialogue

A dialogue can go on in as many ways as there are answers to its requests. `Dialogue.Ends` is the
relation between a dialogue, the exchanges in one such course of it, and the value in the end;
running a dialogue against a world gives one of them (`Dialogue.ends_run`). What never depends on
the answers is stated of the dialogue itself: that all its requests are of some kind
(`Dialogue.Only`).
-/

namespace TableQuery

/-- A request and its answer. -/
structure Exchange where
  request : Request
  answer : request.Answer

namespace Dialogue

variable {α β σ : Type}

/-- With these exchanges the dialogue ends in this value. -/
inductive Ends : Dialogue α → List Exchange → α → Prop where
  | done (value : α) : Ends (.done value) [] value
  | ask {request : Request} {next : request.Answer → Dialogue α} {answer : request.Answer}
      {es : List Exchange} {value : α} :
      Ends (next answer) es value → Ends (.ask request next) (⟨request, answer⟩ :: es) value

/-- The exchanges of a dialogue with a world. -/
def exchanges (world : (r : Request) → σ → r.Answer × σ) : Dialogue α → σ → List Exchange
  | .done _, _ => []
  | .ask r next, s => ⟨r, (world r s).1⟩ :: exchanges world (next (world r s).1) (world r s).2

variable {d : Dialogue α} {es : List Exchange} {value : α}

theorem ends_run (world : (r : Request) → σ → r.Answer × σ) (d : Dialogue α) (s : σ) :
    d.Ends (d.exchanges world s) (d.run world s).1 := by
  induction d generalizing s with
  | done value => exact .done value
  | ask r next ih => exact .ask (ih (world r s).1 (world r s).2)

/-! ## Courses of composed dialogues -/

@[simp] theorem ends_done_iff {v : α} :
    (Dialogue.done v).Ends es value ↔ es = [] ∧ value = v := by
  constructor
  · rintro ⟨⟩
    exact ⟨rfl, rfl⟩
  · rintro ⟨rfl, rfl⟩
    exact .done _

theorem ends_ask_iff {r : Request} {next : r.Answer → Dialogue α} :
    (Dialogue.ask r next).Ends es value ↔
      ∃ answer es', (next answer).Ends es' value ∧ es = ⟨r, answer⟩ :: es' := by
  constructor
  · rintro ⟨⟩
    exact ⟨_, _, ‹_›, rfl⟩
  · rintro ⟨answer, es', h, rfl⟩
    exact .ask h

theorem ends_request_iff {r : Request} {answer : r.Answer} :
    (Dialogue.request r).Ends es answer ↔ es = [⟨r, answer⟩] := by
  rw [Dialogue.request, ends_ask_iff]
  constructor
  · rintro ⟨_, _, hDone, rfl⟩
    rcases ends_done_iff.1 hDone with ⟨rfl, rfl⟩
    rfl
  · rintro rfl
    exact ⟨answer, [], .done answer, rfl⟩

theorem ends_bind_iff {f : α → Dialogue β} {v : β} :
    (d.bind f).Ends es v ↔
      ∃ es₁ u es₂, d.Ends es₁ u ∧ (f u).Ends es₂ v ∧ es = es₁ ++ es₂ := by
  -- along the first dialogue: the second one starts where the first has no request left
  induction d generalizing es with
  | done u =>
      constructor
      · intro h
        exact ⟨[], u, es, .done u, h, rfl⟩
      · rintro ⟨es₁, u', es₂, hDone, h, rfl⟩
        rcases ends_done_iff.1 hDone with ⟨rfl, rfl⟩
        exact h
  | ask r next ih =>
      simp only [Dialogue.bind, ends_ask_iff, ih]
      constructor
      · rintro ⟨answer, es', ⟨es₁, u, es₂, h₁, h₂, rfl⟩, rfl⟩
        exact ⟨_, u, es₂, ⟨answer, es₁, h₁, rfl⟩, h₂, rfl⟩
      · rintro ⟨-, u, es₂, ⟨answer, es₁, h₁, rfl⟩, h₂, rfl⟩
        exact ⟨answer, _, ⟨es₁, u, es₂, h₁, h₂, rfl⟩, rfl⟩

/-! ## Kinds of requests -/

/-- All requests of the dialogue are of a kind, whatever is answered. -/
def Only (p : Request → Prop) : Dialogue α → Prop
  | .done _ => True
  | .ask r next => p r ∧ ∀ answer, (next answer).Only p

variable {p : Request → Prop}

theorem only_request {r : Request} (h : p r) : (Dialogue.request r).Only p :=
  ⟨h, fun _ => trivial⟩

theorem Only.bind {f : α → Dialogue β} (h : d.Only p) (hf : ∀ u, (f u).Only p) :
    (d.bind f).Only p := by
  induction d with
  | done u => exact hf u
  | ask r next ih => exact ⟨h.1, fun answer => ih answer (h.2 answer)⟩

theorem Only.of_ends (h : d.Only p) (hEnds : d.Ends es value) : ∀ e ∈ es, p e.request := by
  induction hEnds with
  | done value => simp
  | ask hNext ih => exact List.forall_mem_cons.2 ⟨h.1, ih (h.2 _)⟩

end Dialogue

/-! ## Attempts -/

namespace Attempt

variable {α β : Type} {p : Request → Prop} {es : List Exchange}

theorem ends_ofReasons_iff {error : String → ClientError} {d : Dialogue (Except String α)}
    {result : Except ClientError α} :
    (ofReasons error d).run.Ends es result ↔
      ∃ answer, d.Ends es answer ∧ result = answer.mapError error := by
  simp only [ofReasons, ExceptT.run_mk, Dialogue.ends_bind_iff, Dialogue.ends_done_iff]
  constructor
  · rintro ⟨es₁, answer, -, h, ⟨rfl, rfl⟩, rfl⟩
    exact ⟨answer, by simpa using h, rfl⟩
  · rintro ⟨answer, h, rfl⟩
    exact ⟨es, answer, [], h, ⟨rfl, rfl⟩, by simp⟩

@[simp] theorem ends_ofResult_iff {result result' : Except ClientError α} :
    (ofResult result).run.Ends es result' ↔ es = [] ∧ result' = result :=
  Dialogue.ends_done_iff

@[simp] theorem ends_pure_iff {value : α} {result : Except ClientError α} :
    (pure value : Attempt α).run.Ends es result ↔ es = [] ∧ result = .ok value :=
  Dialogue.ends_done_iff

/-- An attempt followed by another one: the second takes place if the first succeeds, and an error
of the first is the error of both. -/
theorem ends_bind_iff {a : Attempt α} {f : α → Attempt β} {result : Except ClientError β} :
    (a >>= f).run.Ends es result ↔
      (∃ error, a.run.Ends es (.error error) ∧ result = .error error) ∨
      ∃ es₁ value es₂, a.run.Ends es₁ (.ok value) ∧ (f value).run.Ends es₂ result ∧
        es = es₁ ++ es₂ := by
  have hRun : (a >>= f).run = a.run.bind (ExceptT.bindCont f) := rfl
  rw [hRun, Dialogue.ends_bind_iff]
  constructor
  · rintro ⟨es₁, first, es₂, h₁, h₂, rfl⟩
    cases first with
    | error e =>
        rcases Dialogue.ends_done_iff.1 h₂ with ⟨rfl, rfl⟩
        exact .inl ⟨e, by simpa using h₁, rfl⟩
    | ok value => exact .inr ⟨es₁, value, es₂, h₁, h₂, rfl⟩
  · rintro (⟨e, h, rfl⟩ | ⟨es₁, value, es₂, h₁, h₂, rfl⟩)
    · exact ⟨es, .error e, [], h, .done _, by simp⟩
    · exact ⟨es₁, .ok value, es₂, h₁, h₂, rfl⟩

/-- A course of two attempts that succeeds is one of each that does. -/
theorem of_ends_bind {a : Attempt α} {f : α → Attempt β} {value : β}
    (h : (a >>= f).run.Ends es (.ok value)) :
    ∃ es₁ u es₂, a.run.Ends es₁ (.ok u) ∧ (f u).run.Ends es₂ (.ok value) ∧ es = es₁ ++ es₂ := by
  rcases ends_bind_iff.1 h with ⟨_, -, hError⟩ | hBoth
  · cases hError
  · exact hBoth

theorem only_ofReasons {error : String → ClientError} {d : Dialogue (Except String α)}
    (h : d.Only p) : (ofReasons error d).run.Only p :=
  h.bind fun _ => trivial

theorem only_ofResult (result : Except ClientError α) : (ofResult result).run.Only p :=
  trivial

theorem only_bind {a : Attempt α} {f : α → Attempt β} (h : a.run.Only p)
    (hf : ∀ value, (f value).run.Only p) : (a >>= f).run.Only p :=
  h.bind fun
    | .ok value => hf value
    | .error _ => trivial

end Attempt

end TableQuery
