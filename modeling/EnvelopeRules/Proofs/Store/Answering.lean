import EnvelopeRules.Store.Basic

/-!
# How a store answers

A query is answered from what the store remembers, or else by its backend, unless the backend takes
longer than the limit.
-/

namespace EnvelopeRules
namespace Store

/-- The answer to a query, or none if the limit is over before there is one. -/
inductive Answers (s : Store) (limit : Option Nat) (now : Nat) (q : Query) :
    Option (Except StoreError (Option String)) → Prop
  | remembered {member : Option String} : (s.consult now q).1 = some member →
      Answers s limit now q (some (.ok member))
  | asked : (s.consult now q).1 = none → inTime s.backend.delay limit →
      Answers s limit now q (some (s.backend.answer q))
  | late : (s.consult now q).1 = none → inTime s.backend.delay limit = false →
      Answers s limit now q none

variable {s : Store} {limit : Option Nat} {now : Nat} {q : Query}

@[simp] theorem consult_backend : (s.consult now q).2.backend = s.backend := by
  rw [consult]
  split <;> rfl

theorem ask_answer? :
    (s.ask limit now q).answer? =
      if inTime s.backend.delay limit then some (s.backend.answer q) else none := by
  rw [ask]
  dsimp only
  split
  · cases s.backend.answer q <;> rfl
  · rfl

theorem query_of_remembered {member : Option String} (h : (s.consult now q).1 = some member) :
    s.query limit now q = ⟨some (.ok member), (s.consult now q).2, now⟩ := by
  rw [query]
  split
  · rename_i member' s' hs
    rw [hs] at h ⊢
    cases h
    rfl
  · rename_i s' hs
    rw [hs] at h
    cases h

theorem query_of_forgotten (h : (s.consult now q).1 = none) :
    s.query limit now q = (s.consult now q).2.ask limit now q := by
  rw [query]
  split
  · rename_i member s' hs
    rw [hs] at h
    cases h
  · rename_i s' hs
    rw [hs]

theorem answers_query (s : Store) (limit : Option Nat) (now : Nat) (q : Query) :
    s.Answers limit now q (s.query limit now q).answer? := by
  cases h : (s.consult now q).1 with
  | some member =>
      rw [query_of_remembered h]
      exact .remembered h
  | none =>
      rw [query_of_forgotten h, ask_answer?, consult_backend]
      cases hin : inTime s.backend.delay limit with
      | true => exact .asked h hin
      | false => exact .late h hin

theorem query_answer?_eq_iff {answer : Option (Except StoreError (Option String))} :
    (s.query limit now q).answer? = answer ↔ s.Answers limit now q answer := by
  constructor
  · rintro rfl
    exact answers_query s limit now q
  · rintro (h | ⟨h, hin⟩ | ⟨h, hin⟩)
    · rw [query_of_remembered h]
    · rw [query_of_forgotten h, ask_answer?, consult_backend, if_pos hin]
    · rw [query_of_forgotten h, ask_answer?, consult_backend, hin]
      rfl

/-! ## Calls -/

/-- What the backend answers during a call, if it is asked and not too late. -/
def backendAnswer? (s : Store) (limit : Option Nat) (now : Nat) (q : Query) :
    Option (Except StoreError (Option String)) :=
  if (s.query limit now q).store.asked = s.asked then none
  else if inTime s.backend.delay limit then some (s.backend.answer q) else none

def asking (s : Store) : Store := { s with asked := s.asked + 1 }

/-- What comes of a query, with what the backend answers to it. -/
inductive Called (s : Store) (limit : Option Nat) (now : Nat) (q : Query) :
    Reply → Option (Except StoreError (Option String)) → Prop
  | remembered {answer : Option String} : (s.consult now q).1 = some answer →
      Called s limit now q ⟨some (.ok answer), (s.consult now q).2, now⟩ none
  | answered {answer : Option String} : s.backend.answer q = .ok answer → Called s limit now q
      ⟨some (.ok answer), (s.consult now q).2.asking.remember (now + s.backend.delay) q answer,
        now + s.backend.delay⟩ (some (.ok answer))
  | failed {err : StoreError} : s.backend.answer q = .error err → Called s limit now q
      ⟨some (.error err), (s.consult now q).2.asking, now + s.backend.delay⟩ (some (.error err))
  | late : Called s limit now q ⟨none, (s.consult now q).2.asking, now + limit.getD 0⟩ none

@[simp] theorem consult_asked : (s.consult now q).2.asked = s.asked := by
  rw [consult]
  split <;> rfl

theorem ask_of_ok {answer : Option String} (hin : inTime s.backend.delay limit)
    (h : s.backend.answer q = .ok answer) :
    s.ask limit now q = ⟨some (.ok answer),
      s.asking.remember (now + s.backend.delay) q answer, now + s.backend.delay⟩ := by
  rw [ask]
  simp only [hin, h]
  rfl

theorem ask_of_error {err : StoreError} (hin : inTime s.backend.delay limit)
    (h : s.backend.answer q = .error err) :
    s.ask limit now q = ⟨some (.error err), s.asking, now + s.backend.delay⟩ := by
  rw [ask]
  simp only [hin, h]
  rfl

theorem ask_of_late (hin : inTime s.backend.delay limit = false) :
    s.ask limit now q = ⟨none, s.asking, now + limit.getD 0⟩ := by
  rw [ask]
  simp only [hin]
  rfl

theorem ask_asked : (s.ask limit now q).store.asked = s.asked + 1 := by
  cases hin : inTime s.backend.delay limit with
  | false =>
      rw [ask_of_late hin]
      rfl
  | true =>
      cases hanswer : s.backend.answer q with
      | ok answer =>
          rw [ask_of_ok hin hanswer]
          rfl
      | error err =>
          rw [ask_of_error hin hanswer]
          rfl

theorem backendAnswer?_of_remembered {answer : Option String}
    (h : (s.consult now q).1 = some answer) : s.backendAnswer? limit now q = none := by
  rw [backendAnswer?, query_of_remembered h, if_pos consult_asked]

theorem backendAnswer?_of_forgotten (h : (s.consult now q).1 = none) :
    s.backendAnswer? limit now q =
      if inTime s.backend.delay limit then some (s.backend.answer q) else none := by
  rw [backendAnswer?, query_of_forgotten h, ask_asked, consult_asked, if_neg (Nat.succ_ne_self _)]

theorem called_query (s : Store) (limit : Option Nat) (now : Nat) (q : Query) :
    s.Called limit now q (s.query limit now q) (s.backendAnswer? limit now q) := by
  -- Only the cache may change before the backend is asked.
  have hbackend : (s.consult now q).2.backend = s.backend := consult_backend
  cases hconsult : (s.consult now q).1 with
  | some answer =>
      rw [query_of_remembered hconsult, backendAnswer?_of_remembered hconsult]
      exact .remembered hconsult
  | none =>
      rw [query_of_forgotten hconsult, backendAnswer?_of_forgotten hconsult]
      cases hin : inTime s.backend.delay limit with
      | false =>
          rw [ask_of_late (hbackend.symm ▸ hin)]
          exact .late
      | true =>
          cases hanswer : s.backend.answer q with
          | ok answer =>
              rw [ask_of_ok (hbackend.symm ▸ hin) (hbackend.symm ▸ hanswer), hbackend]
              exact .answered hanswer
          | error err =>
              rw [ask_of_error (hbackend.symm ▸ hin) (hbackend.symm ▸ hanswer), hbackend]
              exact .failed hanswer

end Store
end EnvelopeRules
