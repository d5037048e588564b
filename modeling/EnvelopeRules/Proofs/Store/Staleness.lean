import EnvelopeRules.Proofs.Result
import EnvelopeRules.Proofs.Store.Answering
import EnvelopeRules.Proofs.Store.Expiry

/-!
# How stale an answer may be

A store with a cache is used for a while, and its backend changes meanwhile.  Every answer is then
the backend's own of this call, or the latest that the backend gave to the same query, not older
than its life and not forgotten since.
-/

namespace EnvelopeRules

/-! ## What the backend answered -/

/-- An answer of the backend with the time at which it came, or that all answers were forgotten. -/
inductive Mark where
  | answered (q : Query) (answer : Option String) (time : Nat)
  | forgotten
  deriving DecidableEq

/-- The latest answer to a query came at a time, and nothing was forgotten since; the latest mark
comes first. -/
def Latest (log : List Mark) (q : Query) (answer : Option String) (t : Nat) : Prop :=
  ∃ later earlier, log = later ++ .answered q answer t :: earlier ∧
    ∀ m ∈ later, m ≠ .forgotten ∧ ∀ answer' t', m ≠ .answered q answer' t'

theorem latest_head (log : List Mark) (q : Query) (answer : Option String) (t : Nat) :
    Latest (.answered q answer t :: log) q answer t :=
  ⟨[], log, rfl, by simp⟩

theorem Latest.cons {log : List Mark} {q q' : Query} {answer answer' : Option String} {t t' : Nat}
    (h : Latest log q answer t) (hq : q ≠ q') :
    Latest (.answered q' answer' t' :: log) q answer t := by
  obtain ⟨later, earlier, rfl, hlater⟩ := h
  refine ⟨.answered q' answer' t' :: later, earlier, rfl, List.forall_mem_cons.mpr ⟨?_, hlater⟩⟩
  refine ⟨by simp, fun answer'' t'' he => ?_⟩
  injection he with he
  exact hq he.symm

/-! ## Caches -/

theorem Cache.settings_remember (c : Cache) (now : Nat) (q : Query) (answer : Option String) :
    (c.remember now q answer).settings = c.settings := by
  cases answer <;> rfl

/-! ## Calls -/

namespace Store

variable {s : Store} {limit : Option Nat} {now : Nat} {q : Query}

theorem consult_consult (s : Store) {now later : Nat} (hle : now ≤ later) (q q' : Query) :
    ((s.consult now q).2.consult later q').1 = (s.consult later q').1 := by
  rw [consult.eq_def s now q]
  cases hc : s.cache with
  | none => rfl
  | some c => simp only [consult, hc, c.consult_consult hle]

theorem consult_remember {c : Cache} (h : s.cache = some c) (now later : Nat) (q : Query)
    (answer : Option String) :
    ((s.remember now q answer).consult later q).1 =
      if later ≤ now + c.settings.life answer then some answer else none := by
  simp only [consult, remember, h, Option.map_some, Cache.consult_remember]

/-! ## Remembered answers -/

/-- Whether a store has a cache and all that it remembers is as it should be. -/
def Caches (s : Store) (settings : CacheSettings) (p : Query → Option String → Nat → Prop) : Prop :=
  ∃ c, s.cache = some c ∧ c.settings = settings ∧ c.All p

section Caches

variable {settings : CacheSettings} {p p' : Query → Option String → Nat → Prop}
  {answer : Option String}

/-- A cache that remembers nothing is as it should be. -/
theorem caches_cached (s : Store) (settings : CacheSettings)
    (p : Query → Option String → Nat → Prop) : (s.cached settings).Caches settings p :=
  ⟨_, rfl, rfl, Cache.all_empty settings⟩

theorem Caches.mono (h : s.Caches settings p)
    (hp : ∀ q answer validUntil, p q answer validUntil → p' q answer validUntil) :
    s.Caches settings p' := by
  obtain ⟨c, hc, hsettings, hall⟩ := h
  exact ⟨c, hc, hsettings, hall.mono hp⟩

theorem Caches.of_consult (h : s.Caches settings p) (hanswer : (s.consult now q).1 = some answer) :
    ∃ validUntil, now ≤ validUntil ∧ p q answer validUntil := by
  obtain ⟨c, hc, _, hall⟩ := h
  rw [Store.consult, hc] at hanswer
  exact hall.of_consult hanswer

theorem Caches.consult (h : s.Caches settings p) (now : Nat) (q : Query) :
    (s.consult now q).2.Caches settings p := by
  obtain ⟨c, hc, hsettings, hall⟩ := h
  rw [Store.consult, hc]
  exact ⟨_, rfl, (c.consult_eq now q).2.1.trans hsettings, hall.consult now q⟩

/-- The answer that is remembered takes the place of any other one to the query. -/
theorem Caches.remember (h : s.Caches settings p) (hnew : p' q answer (now + settings.life answer))
    (hold : ∀ q' answer' validUntil, q' ≠ q → p q' answer' validUntil → p' q' answer' validUntil) :
    (s.remember now q answer).Caches settings p' := by
  obtain ⟨c, hc, rfl, hall⟩ := h
  refine ⟨c.remember now q answer, ?_, c.settings_remember now q answer, hall.remember hnew hold⟩
  rw [Store.remember, hc]
  rfl

theorem Caches.invalidate (h : s.Caches settings p) : s.invalidate.Caches settings p' := by
  obtain ⟨c, hc, hsettings, _⟩ := h
  refine ⟨c.clear, ?_, hsettings, c.all_clear⟩
  rw [Store.invalidate, hc]
  rfl

end Caches

/-- Whether a store remembers only latest answers, each until its life is over. -/
def Tracks (s : Store) (settings : CacheSettings) (log : List Mark) : Prop :=
  s.Caches settings fun q answer validUntil =>
    ∃ t, Latest log q answer t ∧ validUntil = t + settings.life answer

variable {settings : CacheSettings} {log : List Mark}

theorem Tracks.latest (h : s.Tracks settings log) {answer : Option String}
    (hanswer : (s.consult now q).1 = some answer) :
    ∃ t, Latest log q answer t ∧ now ≤ t + settings.life answer := by
  obtain ⟨_, hle, t, hlatest, rfl⟩ := Caches.of_consult h hanswer
  exact ⟨t, hlatest, hle⟩

theorem Tracks.consult (h : s.Tracks settings log) (now : Nat) (q : Query) :
    (s.consult now q).2.Tracks settings log :=
  Caches.consult h now q

theorem Tracks.remember (h : s.Tracks settings log) (now : Nat) (q : Query)
    (answer : Option String) :
    (s.remember now q answer).Tracks settings (.answered q answer now :: log) := by
  have hnew : Latest (.answered q answer now :: log) q answer now := latest_head log q answer now
  refine Caches.remember h ⟨now, hnew, rfl⟩ ?_
  rintro q' answer' validUntil hq ⟨t, hlatest, hvalid⟩
  exact ⟨t, hlatest.cons hq, hvalid⟩

theorem Tracks.invalidate (h : s.Tracks settings log) (log' : List Mark) :
    s.invalidate.Tracks settings log' :=
  Caches.invalidate h

/-- The log after a call that ended at a time, with what the backend answered to it. -/
def logged (log : List Mark) (q : Query) (time : Nat) :
    Option (Except StoreError (Option String)) → List Mark
  | some (.ok answer) => .answered q answer time :: log
  | _ => log

theorem Called.tracks {r : Reply} {backend : Option (Except StoreError (Option String))}
    (hcall : s.Called limit now q r backend) (h : s.Tracks settings log) :
    r.store.Tracks settings (logged log q r.now backend) := by
  have hconsult := h.consult now q
  cases hcall with
  | remembered _ => exact hconsult
  | answered _ =>
      have hasking : (s.consult now q).2.asking.Tracks settings log := hconsult
      exact hasking.remember _ q _
  | failed _ => exact hconsult
  | late => exact hconsult

variable {r : Reply} {backend : Option (Except StoreError (Option String))}

/-- A call is answered by the backend, or with its latest answer within its life. -/
theorem Called.latest (hcall : s.Called limit now q r backend) (h : s.Tracks settings log)
    {answer : Option String} (hanswer : r.answer? = some (.ok answer)) :
    backend = some (.ok answer) ∨
      ∃ t, Latest log q answer t ∧ r.now ≤ t + settings.life answer := by
  cases hcall with
  | remembered hconsult =>
      cases hanswer
      exact .inr (h.latest hconsult)
  | answered _ =>
      cases hanswer
      exact .inl rfl
  | failed _ => cases hanswer
  | late => cases hanswer

theorem Called.failure (hcall : s.Called limit now q r backend) {err : StoreError}
    (herr : r.answer? = some (.error err)) : backend = some (.error err) := by
  cases hcall with
  | remembered _ => cases herr
  | answered _ => cases herr
  | failed _ =>
      cases herr
      rfl
  | late => cases herr

theorem asking_consult (s : Store) (now : Nat) (q : Query) :
    (s.asking.consult now q).1 = (s.consult now q).1 := by
  rw [consult, consult]
  cases hc : s.cache <;> simp [asking, hc]

/-- A call that gets no answer of the backend leaves what is remembered as it was. -/
theorem Called.unchanged (hcall : s.Called limit now q r backend)
    (hnone : ∀ answer, backend ≠ some (.ok answer)) {later : Nat} (hle : now ≤ later) (q' : Query) :
    (r.store.consult later q').1 = (s.consult later q').1 := by
  have hconsult := s.consult_consult hle q q'
  cases hcall with
  | remembered _ => exact hconsult
  | answered _ => exact absurd rfl (hnone _)
  | failed _ => exact (asking_consult _ later q').trans hconsult
  | late => exact (asking_consult _ later q').trans hconsult

theorem Called.replaced (hcall : s.Called limit now q r backend) (h : s.Tracks settings log)
    {answer : Option String} (hanswer : backend = some (.ok answer)) (later : Nat) :
    (r.store.consult later q).1 =
      if later ≤ r.now + settings.life answer then some answer else none := by
  cases hcall with
  | remembered _ => cases hanswer
  | answered _ =>
      cases hanswer
      have hasking : (s.consult now q).2.asking.Tracks settings log := h.consult now q
      obtain ⟨c, hc, hsame, _⟩ := hasking
      rw [consult_remember hc, hsame]
  | failed _ => cases hanswer
  | late => cases hanswer

end Store

/-! ## Stores in use -/

/-- What may be done with a store: calls, each given up after its limit if it has one, and changes
of its surroundings. -/
inductive Use where
  | query (limit : Option Nat) (q : Query)
  | contains (limit : Option Nat) (key : String)
  | invalidate
  | wait (ms : Nat)
  | backend (b : Backend)

/-- A store in use, with what its backend answered so far. -/
structure Watch where
  store : Store
  now : Nat
  log : List Mark

namespace Watch

def start (s : Store) (settings : CacheSettings) (now : Nat) : Watch := ⟨s.cached settings, now, []⟩

def step (w : Watch) : Use → Watch
  | .query limit q =>
    let r := w.store.query limit w.now q
    ⟨r.store, r.now, Store.logged w.log q r.now (w.store.backendAnswer? limit w.now q)⟩
  | .contains limit key =>
    let r := w.store.contains limit w.now key
    ⟨r.2.1, r.2.2,
      Store.logged w.log (.key key) r.2.2 (w.store.backendAnswer? limit w.now (.key key))⟩
  | .invalidate => ⟨w.store.invalidate, w.now, .forgotten :: w.log⟩
  | .wait ms => { w with now := w.now + ms }
  | .backend b => { w with store := { w.store with backend := b } }

def after (w : Watch) (uses : List Use) : Watch := uses.foldl step w

variable {w : Watch} {settings : CacheSettings}

theorem tracks_start (s : Store) (settings : CacheSettings) (now : Nat) :
    (start s settings now).store.Tracks settings (start s settings now).log :=
  s.caches_cached settings _

theorem tracks_step (h : w.store.Tracks settings w.log) (u : Use) :
    (w.step u).store.Tracks settings (w.step u).log := by
  cases u with
  | query limit q => exact (w.store.called_query limit w.now q).tracks h
  | contains limit key => exact (w.store.called_query limit w.now (.key key)).tracks h
  | invalidate => exact h.invalidate _
  | wait ms => exact h
  | backend b => exact h

theorem tracks_after (h : w.store.Tracks settings w.log) (uses : List Use) :
    (w.after uses).store.Tracks settings (w.after uses).log := by
  induction uses generalizing w with
  | nil => exact h
  | cons u uses ih => exact ih (tracks_step h u)

/-- What a store with a cache guarantees to its next caller. -/
structure Fresh (w : Watch) (settings : CacheSettings) : Prop where
  query_ok : ∀ limit q answer, (w.store.query limit w.now q).answer? = some (.ok answer) →
    w.store.backendAnswer? limit w.now q = some (.ok answer) ∨
      ∃ t, Latest w.log q answer t ∧
        (w.store.query limit w.now q).now ≤ t + settings.life answer
  query_error : ∀ limit q err, (w.store.query limit w.now q).answer? = some (.error err) →
    w.store.backendAnswer? limit w.now q = some (.error err)
  contains_ok : ∀ limit key found, (w.store.contains limit w.now key).1 = some (.ok found) →
    ∃ answer, found = answer.isSome ∧
      (w.store.backendAnswer? limit w.now (.key key) = some (.ok answer) ∨
        ∃ t, Latest w.log (.key key) answer t ∧
          (w.store.contains limit w.now key).2.2 ≤ t + settings.life answer)
  contains_error : ∀ limit key err, (w.store.contains limit w.now key).1 = some (.error err) →
    w.store.backendAnswer? limit w.now (.key key) = some (.error err)
  unchanged : ∀ limit q, (∀ answer, w.store.backendAnswer? limit w.now q ≠ some (.ok answer)) →
    ∀ t q', w.now ≤ t →
      ((w.store.query limit w.now q).store.consult t q').1 = (w.store.consult t q').1
  replaced : ∀ limit q answer, w.store.backendAnswer? limit w.now q = some (.ok answer) →
    ∀ t, ((w.store.query limit w.now q).store.consult t q).1 =
      if t ≤ (w.store.query limit w.now q).now + settings.life answer then some answer else none

theorem fresh_of_tracks (h : w.store.Tracks settings w.log) : w.Fresh settings := by
  have hcall := fun limit q => w.store.called_query limit w.now q
  refine ⟨fun limit q answer => (hcall limit q).latest h,
    fun limit q err => (hcall limit q).failure, fun limit key found hfound => ?_,
    fun limit key err herr => ?_,
    fun limit q hnone t q' hle => (hcall limit q).unchanged hnone hle q',
    fun limit q answer => (hcall limit q).replaced h⟩
  · obtain ⟨reply, hreply, hfound⟩ := Option.map_eq_some_iff.mp hfound
    obtain ⟨answer, rfl, hanswer⟩ := Result.map_eq_ok_iff.mp hfound
    exact ⟨answer, hanswer.symm, (hcall limit (.key key)).latest h hreply⟩
  · obtain ⟨reply, hreply, herr⟩ := Option.map_eq_some_iff.mp herr
    obtain rfl := Result.map_eq_error_iff.mp herr
    exact (hcall limit (.key key)).failure hreply

/-- A store with a cache is never staler than this, whatever it is used for and whatever becomes of
its backend. -/
theorem fresh_after (s : Store) (settings : CacheSettings) (now : Nat) (uses : List Use) :
    ((start s settings now).after uses).Fresh settings :=
  fresh_of_tracks (tracks_after (tracks_start s settings now) uses)

/-- A store of one member, which is lost after it was found. -/
def losing : Watch :=
  (start (.ofMemory "mx" (.ofList ["a.example"])) ⟨1, 5, 5, by decide⟩ 0).after
    [.query none .any, .backend ⟨0, fun _ => .ok none⟩, .wait 5]

/-- The member is answered until its life is over. -/
theorem fresh_after_losing :
    (losing.store.query none losing.now .any).answer? = some (.ok (some "a.example")) ∧
      (∃ t, Latest losing.log .any (some "a.example") t ∧
        (losing.store.query none losing.now .any).now ≤ t + 5) ∧
      ((losing.step (.wait 1)).store.query none 6 .any).answer? = some (.ok none) := by
  have hfresh := fresh_after (.ofMemory "mx" (.ofList ["a.example"])) ⟨1, 5, 5, by decide⟩ 0
    [.query none .any, .backend ⟨0, fun _ => .ok none⟩, .wait 5]
  refine ⟨rfl, ?_, rfl⟩
  rcases hfresh.query_ok none .any (some "a.example") rfl with hbackend | hlatest
  · cases hbackend
  · exact hlatest

end Watch
end EnvelopeRules
