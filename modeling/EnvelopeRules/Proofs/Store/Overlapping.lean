import Mathlib.Logic.Function.Basic
import EnvelopeRules.Proofs.Store.Staleness

/-!
# Calls that overlap

Several callers use one store.  A call looks into the cache in one step and puts the answer of the
backend there in another; in between other calls go on, the backend changes and all answers may be
forgotten.  An answer that a call has then already received is remembered all the same.
-/

namespace EnvelopeRules
namespace Shared

/-! ## What happened -/

inductive Event where
  | received (caller : Nat) (q : Query) (answer : Option String)
  | kept (caller : Nat) (q : Query) (answer : Option String) (time : Nat)
  | dropped (caller : Nat)
  | forgotten
  deriving DecidableEq

namespace Event

def caller? : Event → Option Nat
  | received n _ _ => some n
  | kept n _ _ _ => some n
  | dropped n => some n
  | forgotten => none

/-- Whether what is remembered for a query outlasts an event. -/
def Spares (q : Query) : Event → Prop
  | received _ _ _ => True
  | kept _ q' _ _ => q' ≠ q
  | dropped _ => True
  | forgotten => False

end Event

/-- A caller has received an answer and done nothing since; the latest event comes first. -/
inductive Held (n : Nat) (q : Query) (answer : Option String) : List Event → Prop
  | received {log : List Event} : Held n q answer (.received n q answer :: log)
  | other {e : Event} {log : List Event} : e.caller? ≠ some n → Held n q answer log →
      Held n q answer (e :: log)

/-- What is remembered for a query is an answer that a caller held and put there at a time. -/
inductive Kept (n : Nat) (q : Query) (answer : Option String) (t : Nat) : List Event → Prop
  | kept {log : List Event} : Held n q answer log → Kept n q answer t (.kept n q answer t :: log)
  | other {e : Event} {log : List Event} : e.Spares q → Kept n q answer t log →
      Kept n q answer t (e :: log)

variable {n : Nat} {q : Query} {answer : Option String} {t : Nat} {e : Event}
  {log recent : List Event}

theorem held_cons_iff :
    Held n q answer (e :: log) ↔
      e = .received n q answer ∨ e.caller? ≠ some n ∧ Held n q answer log := by
  constructor
  · intro h
    cases h with
    | received => exact .inl rfl
    | other hcaller h => exact .inr ⟨hcaller, h⟩
  · rintro (rfl | ⟨hcaller, h⟩)
    · exact .received
    · exact .other hcaller h

/-- An answer that is held was received lately, or was held before and not let go. -/
theorem Held.of_append (h : Held n q answer (recent ++ log)) :
    Held n q answer recent ∨ Held n q answer log ∧ ∀ e ∈ recent, e.caller? ≠ some n := by
  induction recent with
  | nil => exact .inr ⟨h, by simp⟩
  | cons e recent ih =>
      rcases held_cons_iff.mp h with rfl | ⟨hcaller, h⟩
      · exact .inl .received
      · rcases ih h with hrecent | ⟨hlog, hothers⟩
        · exact .inl (.other hcaller hrecent)
        · exact .inr ⟨hlog, List.forall_mem_cons.mpr ⟨hcaller, hothers⟩⟩

theorem Held.mem (h : Held n q answer log) : .received n q answer ∈ log := by
  induction h with
  | received => exact List.mem_cons_self
  | other _ _ ih => exact List.mem_cons_of_mem _ ih

/-- What is remembered was put there after all answers were last forgotten. -/
theorem Kept.since (h : Kept n q answer t (recent ++ .forgotten :: log)) :
    ∃ later waiting, recent = later ++ .kept n q answer t :: waiting ∧
      (∀ e ∈ later, e.Spares q) ∧ Held n q answer (waiting ++ .forgotten :: log) := by
  induction recent with
  | nil =>
      cases h with
      | other hspares _ => cases hspares
  | cons e recent ih =>
      cases h with
      | kept hheld => exact ⟨[], recent, rfl, by simp, hheld⟩
      | other hspares h =>
          obtain ⟨later, waiting, rfl, hlater, hheld⟩ := ih h
          exact ⟨e :: later, waiting, rfl, List.forall_mem_cons.mpr ⟨hspares, hlater⟩, hheld⟩

/-! ## Calls -/

/-- How far a call has come that did not find its answer in the cache. -/
inductive Flight where
  | asking (q : Query)
  | holding (q : Query) (answer : Option String)

/-- What callers do, each in one step, and changes of their surroundings. -/
inductive Act where
  /-- Looks for an answer in the cache, and asks the backend if there is none. -/
  | look (caller : Nat) (q : Query)
  | receive (caller : Nat)
  /-- Puts the answer of the backend into the cache. -/
  | keep (caller : Nat)
  | drop (caller : Nat)
  | invalidate
  | wait (ms : Nat)
  | backend (b : Backend)

end Shared

/-- A store that several callers use, with their calls and what happened so far. -/
structure Shared where
  store : Store
  now : Nat
  flights : Nat → Option Shared.Flight
  log : List Shared.Event

namespace Shared

def start (s : Store) (settings : CacheSettings) (now : Nat) : Shared :=
  ⟨s.cached settings, now, fun _ => none, []⟩

/-- Looks for an answer in the cache; a caller has one call at a time. -/
def look (w : Shared) (n : Nat) (q : Query) : Shared :=
  match w.flights n with
  | some _ => w
  | none =>
    match w.store.consult w.now q with
    | (some _, s) => { w with store := s }
    | (none, s) =>
      { w with store := s.asking, flights := Function.update w.flights n (some (.asking q)) }

/-- The backend answers a call, which is over if this is a failure. -/
def receive (w : Shared) (n : Nat) : Shared :=
  match w.flights n with
  | some (.asking q) =>
    match w.store.backend.answer q with
    | .ok answer =>
      { w with
        flights := Function.update w.flights n (some (.holding q answer))
        log := .received n q answer :: w.log }
    | .error _ => { w with flights := Function.update w.flights n none }
  | _ => w

def keep (w : Shared) (n : Nat) : Shared :=
  match w.flights n with
  | some (.holding q answer) =>
    { w with
      store := w.store.remember w.now q answer
      flights := Function.update w.flights n none
      log := .kept n q answer w.now :: w.log }
  | _ => w

/-- Gives a call up. -/
def drop (w : Shared) (n : Nat) : Shared :=
  { w with flights := Function.update w.flights n none, log := .dropped n :: w.log }

def step (w : Shared) : Act → Shared
  | .look n q => w.look n q
  | .receive n => w.receive n
  | .keep n => w.keep n
  | .drop n => w.drop n
  | .invalidate => { w with store := w.store.invalidate, log := .forgotten :: w.log }
  | .wait ms => { w with now := w.now + ms }
  | .backend b => { w with store := { w.store with backend := b } }

def after (w : Shared) (acts : List Act) : Shared := acts.foldl step w

variable {w : Shared} {n : Nat} {q : Query}

/-- What comes of a step. -/
inductive Moved (w : Shared) : Act → Shared → Prop
  | idle {act : Act} : Moved w act w
  | found {n : Nat} {q : Query} {answer : Option String} : w.flights n = none →
      (w.store.consult w.now q).1 = some answer →
      Moved w (.look n q) { w with store := (w.store.consult w.now q).2 }
  | asked {n : Nat} {q : Query} : w.flights n = none → (w.store.consult w.now q).1 = none →
      Moved w (.look n q)
        { w with
          store := (w.store.consult w.now q).2.asking
          flights := Function.update w.flights n (some (.asking q)) }
  | received {n : Nat} {q : Query} {answer : Option String} : w.flights n = some (.asking q) →
      w.store.backend.answer q = .ok answer →
      Moved w (.receive n)
        { w with
          flights := Function.update w.flights n (some (.holding q answer))
          log := .received n q answer :: w.log }
  | failed {n : Nat} {q : Query} {err : StoreError} : w.flights n = some (.asking q) →
      w.store.backend.answer q = .error err →
      Moved w (.receive n) { w with flights := Function.update w.flights n none }
  | kept {n : Nat} {q : Query} {answer : Option String} : w.flights n = some (.holding q answer) →
      Moved w (.keep n)
        { w with
          store := w.store.remember w.now q answer
          flights := Function.update w.flights n none
          log := .kept n q answer w.now :: w.log }
  | dropped {n : Nat} : Moved w (.drop n) (w.drop n)
  | forgotten : Moved w .invalidate
      { w with store := w.store.invalidate, log := .forgotten :: w.log }
  | waited {ms : Nat} : Moved w (.wait ms) { w with now := w.now + ms }
  | changed {b : Backend} : Moved w (.backend b) { w with store := { w.store with backend := b } }

theorem moved_step (w : Shared) (act : Act) : Moved w act (w.step act) := by
  cases act with
  | look n q =>
      rw [step, look]
      cases hflight : w.flights n with
      | some _ => exact .idle
      | none =>
          have hfound := fun answer => @Moved.found w n q answer hflight
          have hasked := @Moved.asked w n q hflight
          cases hconsult : w.store.consult w.now q with
          | mk r s =>
              rw [hconsult] at hfound hasked
              cases r with
              | some answer => exact hfound answer rfl
              | none => exact hasked rfl
  | receive n =>
      rw [step, receive]
      split
      · rename_i q hflight
        split
        · exact .received hflight ‹_›
        · exact .failed hflight ‹_›
      · exact .idle
  | keep n =>
      rw [step, keep]
      split
      · exact .kept ‹_›
      · exact .idle
  | drop n => exact .dropped
  | invalidate => exact .forgotten
  | wait ms => exact .waited
  | backend b => exact .changed

/-! ### A call alone -/

/-- The steps of a call with a limit. -/
def call (w : Shared) (n : Nat) (limit : Option Nat) (q : Query) : List Act :=
  match (w.store.consult w.now q).1 with
  | some _ => [.look n q]
  | none =>
    if Store.inTime w.store.backend.delay limit then
      [.look n q, .wait w.store.backend.delay, .receive n, .keep n]
    else [.look n q, .wait (limit.getD 0), .drop n]

/-- A call that no other step comes between is a query. -/
theorem after_call (h : w.flights n = none) (limit : Option Nat) (q : Query) :
    (w.after (w.call n limit q)).store = (w.store.query limit w.now q).store ∧
      (w.after (w.call n limit q)).now = (w.store.query limit w.now q).now := by
  have hbackend : (w.store.consult w.now q).2.backend = w.store.backend := Store.consult_backend
  rw [call, Store.query]
  cases hconsult : w.store.consult w.now q with
  | mk r s =>
      rw [hconsult] at hbackend
      cases r with
      | some answer => simp [after, step, look, h, hconsult]
      | none =>
          dsimp only at hbackend ⊢
          rw [← hbackend]
          have hlook : w.look n q =
              { w with
                store := s.asking
                flights := Function.update w.flights n (some (.asking q)) } := by
            simp only [look, h, hconsult]
          cases hin : Store.inTime s.backend.delay limit with
          | false =>
              rw [Store.ask_of_late hin]
              simp [after, step, hlook, drop]
          | true =>
              cases hanswer : s.backend.answer q with
              | error err =>
                  rw [Store.ask_of_error hin hanswer]
                  simp [after, step, hlook, receive, keep, Store.asking, hanswer]
              | ok answer =>
                  rw [Store.ask_of_ok hin hanswer]
                  simp [after, step, hlook, receive, keep, Store.asking, hanswer]

/-! ## Where answers come from -/

/-- Whether the calls that hold an answer are those that hold it by the log. -/
def Agree (flights : Nat → Option Flight) (log : List Event) : Prop :=
  ∀ n q answer, flights n = some (.holding q answer) ↔ Held n q answer log

section Agree

variable {flights : Nat → Option Flight} {log : List Event} {e : Event} {f : Option Flight}

/-- A call changes that holds no answer, before or after. -/
theorem Agree.update (h : Agree flights log)
    (hbefore : ∀ q answer, flights n ≠ some (.holding q answer))
    (hafter : ∀ q answer, f ≠ some (.holding q answer)) :
    Agree (Function.update flights n f) log := by
  intro m q answer
  by_cases hm : m = n
  · subst hm
    rw [Function.update_self, ← h m q answer]
    exact ⟨fun hf => absurd hf (hafter q answer), fun hf => absurd hf (hbefore q answer)⟩
  · rw [Function.update_of_ne hm]
    exact h m q answer

/-- What a caller does is in the log. -/
theorem Agree.cons (h : Agree flights log) (hcaller : e.caller? = some n)
    (hf : ∀ q answer, f = some (.holding q answer) ↔ e = .received n q answer) :
    Agree (Function.update flights n f) (e :: log) := by
  intro m q answer
  rw [held_cons_iff]
  by_cases hm : m = n
  · subst hm
    rw [Function.update_self, hf]
    exact ⟨.inl, fun hheld => hheld.resolve_right fun hother => hother.1 hcaller⟩
  · rw [Function.update_of_ne hm, h m q answer]
    have hother : e.caller? ≠ some m := by
      rw [hcaller]
      simpa using Ne.symm hm
    constructor
    · intro hheld
      exact .inr ⟨hother, hheld⟩
    · rintro (rfl | ⟨_, hheld⟩)
      · exact absurd rfl hother
      · exact hheld

theorem Agree.forgotten (h : Agree flights log) : Agree flights (.forgotten :: log) := by
  intro n q answer
  rw [held_cons_iff, h n q answer]
  simp [Event.caller?]

end Agree

/-- Whether it is known of all answers that a store remembers and that callers hold where they come
from. -/
structure Accounted (w : Shared) (settings : CacheSettings) : Prop where
  agree : Agree w.flights w.log
  caches : w.store.Caches settings fun q answer validUntil =>
    ∃ n t, Kept n q answer t w.log ∧ validUntil = t + settings.life answer

variable {settings : CacheSettings}

theorem accounted_start (s : Store) (settings : CacheSettings) (now : Nat) :
    (start s settings now).Accounted settings := by
  refine ⟨fun n q answer => ⟨fun h => ?_, fun h => ?_⟩, s.caches_cached settings _⟩
  · cases h
  · cases h

theorem Accounted.moved {w' : Shared} {act : Act} (h : w.Accounted settings)
    (hmoved : w.Moved act w') : w'.Accounted settings := by
  -- What is remembered stays accounted for as the log grows, unless it is replaced or forgotten.
  have hgrown : ∀ e : Event, (∀ q, e.Spares q) → w.store.Caches settings fun q answer validUntil =>
      ∃ n t, Kept n q answer t (e :: w.log) ∧ validUntil = t + settings.life answer := by
    intro e hspares
    refine h.caches.mono ?_
    rintro q answer validUntil ⟨n, t, hkept, hvalid⟩
    exact ⟨n, t, .other (hspares q) hkept, hvalid⟩
  cases hmoved with
  | idle => exact h
  | found _ _ => exact ⟨h.agree, h.caches.consult _ _⟩
  | asked hflight _ =>
      exact ⟨h.agree.update (by simp [hflight]) (by simp), h.caches.consult _ _⟩
  | received hflight _ =>
      exact ⟨h.agree.cons rfl (by simp), hgrown _ fun _ => trivial⟩
  | failed hflight _ => exact ⟨h.agree.update (by simp [hflight]) (by simp), h.caches⟩
  | @kept n q answer hflight =>
      have hheld : Held n q answer w.log := (h.agree n q answer).mp hflight
      refine ⟨h.agree.cons rfl (by simp), h.caches.remember ⟨n, w.now, .kept hheld, rfl⟩ ?_⟩
      rintro q' answer' validUntil hne ⟨n', t, hkept, hvalid⟩
      exact ⟨n', t, .other (Ne.symm hne) hkept, hvalid⟩
  | dropped => exact ⟨h.agree.cons rfl (by simp), hgrown _ fun _ => trivial⟩
  | forgotten => exact ⟨h.agree.forgotten, h.caches.invalidate⟩
  | waited => exact ⟨h.agree, h.caches⟩
  | changed => exact ⟨h.agree, h.caches⟩

theorem accounted_after (h : w.Accounted settings) (acts : List Act) :
    (w.after acts).Accounted settings := by
  induction acts generalizing w with
  | nil => exact h
  | cons act acts ih => exact ih (h.moved (w.moved_step act))

theorem Moved.log_suffix {w' : Shared} {act : Act} (hmoved : w.Moved act w') :
    w.log <:+ w'.log := by
  cases hmoved with
  | received _ _ => exact List.suffix_cons _ _
  | kept _ => exact List.suffix_cons _ _
  | dropped => exact List.suffix_cons _ _
  | forgotten => exact List.suffix_cons _ _
  | _ => exact List.suffix_refl _

theorem log_suffix_after (w : Shared) (acts : List Act) : w.log <:+ (w.after acts).log := by
  induction acts generalizing w with
  | nil => exact List.suffix_refl _
  | cons act acts ih => exact (w.moved_step act).log_suffix.trans (ih (w.step act))

/-! ## After all answers were forgotten -/

/-- An answer to a query comes from the cache only if it was received after all answers were
forgotten in the state `w`. -/
def Lasts (w w' : Shared) (q : Query) (answer : Option String) : Prop :=
  (w'.store.consult w'.now q).1 = some answer →
    ∃ n recent, w'.log = recent ++ .forgotten :: w.log ∧ .received n q answer ∈ recent

/-- A call is under way when its member is lost. -/
def overtaken : Shared :=
  (start (.ofMemory "domains" (.ofList ["mx"])) ⟨1, 60000, 10000, Nat.one_pos⟩ 0).after
    [.look 0 (.key "mx"), .receive 0, .backend (.ofMemory (.ofList []))]

theorem not_lasts_overtaken :
    ¬ ∀ (s : Store) (settings : CacheSettings) (now : Nat) (before later : List Act) (q : Query)
      (answer : Option String), let w := (start s settings now).after before
      w.Lasts ((w.step .invalidate).after later) q answer := by
  intro h
  have hserved : ((overtaken.after [.invalidate, .keep 0]).store.consult 0 (.key "mx")).1 =
      some (some "mx") := rfl
  obtain ⟨n, recent, hlog, hmem⟩ := h _ _ _ _ [.keep 0] (.key "mx") (some "mx") hserved
  have hrecent : [.kept 0 (.key "mx") (some "mx") 0] = recent := List.append_cancel_right hlog
  simp [← hrecent] at hmem

/-- An answer was put into the cache after all answers were forgotten in the state `w`, and its call
had received it since, or held it then and went on to hold it. -/
def Origin (w w' : Shared) (settings : CacheSettings) (q : Query) (answer : Option String) : Prop :=
  ∃ n t since waiting, w'.log = since ++ .kept n q answer t :: waiting ++ .forgotten :: w.log ∧
    (∀ e ∈ since, e.Spares q) ∧ w'.now ≤ t + settings.life answer ∧
    (Held n q answer waiting ∨
      w.flights n = some (.holding q answer) ∧ ∀ e ∈ waiting, e.caller? ≠ some n)

theorem Accounted.origin (h : w.Accounted settings) (later : List Act) {answer : Option String}
    (hanswer : (((w.step .invalidate).after later).store.consult
      ((w.step .invalidate).after later).now q).1 = some answer) :
    w.Origin ((w.step .invalidate).after later) settings q answer := by
  have haccounted : ((w.step .invalidate).after later).Accounted settings :=
    accounted_after (h.moved (w.moved_step .invalidate)) later
  obtain ⟨_, hle, n, t, hkept, rfl⟩ := haccounted.caches.of_consult hanswer
  obtain ⟨recent, hlog⟩ := (w.step .invalidate).log_suffix_after later
  rw [← hlog] at hkept
  obtain ⟨since, waiting, rfl, hsince, hheld⟩ := hkept.since
  refine ⟨n, t, since, waiting, hlog.symm, hsince, hle, ?_⟩
  rcases hheld.of_append with hwaiting | ⟨hheld, hothers⟩
  · exact .inl hwaiting
  · rcases held_cons_iff.mp hheld with he | ⟨_, hbefore⟩
    · cases he
    · exact .inr ⟨(h.agree n q answer).mpr hbefore, hothers⟩

/-- What becomes of the answers from before, if all answers are forgotten in the state `w`. -/
structure Forgetting (w : Shared) (settings : CacheSettings) : Prop where
  origin : ∀ later q answer, let w' := (w.step .invalidate).after later
    (w'.store.consult w'.now q).1 = some answer → w.Origin w' settings q answer
  /-- An answer that no call holds then does not come back. -/
  lasts : ∀ later q answer, (∀ n, w.flights n ≠ some (.holding q answer)) →
    w.Lasts ((w.step .invalidate).after later) q answer

/-- Whatever the callers of a store do and whatever becomes of its backend, no answer from before
comes back but what a call held when all answers were forgotten. -/
theorem forgetting_after (s : Store) (settings : CacheSettings) (now : Nat) (acts : List Act) :
    ((start s settings now).after acts).Forgetting settings := by
  have haccounted : ((start s settings now).after acts).Accounted settings :=
    accounted_after (accounted_start s settings now) acts
  refine ⟨fun later q answer => haccounted.origin later, ?lasts⟩
  intro later q answer hnone hanswer
  obtain ⟨n, t, since, waiting, hlog, _, _, horigin⟩ := haccounted.origin later hanswer
  rcases horigin with hheld | ⟨hflight, _⟩
  · exact ⟨n, _, hlog, List.mem_append_right _ (List.mem_cons_of_mem _ hheld.mem)⟩
  · exact absurd hflight (hnone n)

/-- The lost member comes back with the call that held it, and the miss of a new call is the
backend's own. -/
theorem forgetting_after_overtaken :
    overtaken.Origin (overtaken.after [.invalidate, .keep 0]) ⟨1, 60000, 10000, Nat.one_pos⟩
        (.key "mx") (some "mx") ∧
      overtaken.Lasts (overtaken.after [.invalidate, .look 1 (.key "mx"), .receive 1, .keep 1])
        (.key "mx") none := by
  have hforgetting := forgetting_after (.ofMemory "domains" (.ofList ["mx"]))
    ⟨1, 60000, 10000, Nat.one_pos⟩ 0
    [.look 0 (.key "mx"), .receive 0, .backend (.ofMemory (.ofList []))]
  have haccounted : overtaken.Accounted ⟨1, 60000, 10000, Nat.one_pos⟩ :=
    accounted_after (accounted_start _ _ 0) _
  have hnone : ∀ n, overtaken.flights n ≠ some (.holding (.key "mx") none) := by
    intro n hflight
    have hheld : Held n (.key "mx") none [.received 0 (.key "mx") (some "mx")] :=
      (haccounted.agree n _ _).mp hflight
    cases hheld with
    | other _ hbefore => cases hbefore
  exact ⟨hforgetting.origin [.keep 0] _ _ rfl,
    hforgetting.lasts [.look 1 (.key "mx"), .receive 1, .keep 1] _ _ hnone⟩

end Shared
end EnvelopeRules
