import EnvelopeRules.Proofs.Document.Loaded
import EnvelopeRules.Proofs.Document.Uncached

/-!
# Histories

An engine loads documents, gets envelopes, answers calls and sees time pass, in any order.  What it
answers depends only on the last document that it loaded and on the envelope: a new engine without
caches gives the same answers.
-/

namespace EnvelopeRules

/-- What happens to an engine. -/
inductive Request where
  | load (o : LoadOptions) (text : String)
  | envelope (e : Envelope)
  | call (c : Call)
  | advance (ms : Nat)

/-- An engine and the envelope that its calls are about. -/
structure Session where
  engine : Engine
  envelope : Envelope

namespace Session

/-- A session that has loaded nothing yet. -/
def start (timeout : Nat) : Session := ⟨.ofRules .empty timeout, .empty⟩

def answer (s : Session) (c : Call) : Answer := (s.engine.answer s.envelope c).1

/-- The session after a request.  A load that fails changes nothing. -/
def step (s : Session) : Request → Session
  | .load o text =>
    match RuleDocument.parse o text with
    | .ok d => { s with engine := s.engine.reload d.rules }
    | .error _ => s
  | .envelope e => { s with envelope := e }
  | .call c => { s with engine := (s.engine.answer s.envelope c).2 }
  | .advance ms => { s with engine := s.engine.advance ms }

def after (s : Session) (history : List Request) : Session := history.foldl step s

end Session

/-! ## What is left of a history -/

/-- The last document that was loaded, with its options, and the envelope. -/
structure Standing where
  loaded : Option (LoadOptions × String)
  envelope : Envelope

namespace Standing

def start : Standing := ⟨none, .empty⟩

def step (st : Standing) : Request → Standing
  | .load o text =>
    match RuleDocument.parse o text with
    | .ok _ => { st with loaded := some (o, text) }
    | .error _ => st
  | .envelope e => { st with envelope := e }
  | .call _ => st
  | .advance _ => st

def after (st : Standing) (history : List Request) : Standing := history.foldl step st

/-- The rules of the document when it is loaded again, without caches. -/
def fresh (st : Standing) : Except LoadError RuleSet :=
  match st.loaded with
  | none => .ok .empty
  | some (o, text) => (RuleDocument.parse o.uncached text).map RuleDocument.rules

end Standing

/-- Whether a request neither loads a document nor changes the envelope. -/
def Request.Keeps : Request → Prop
  | .load o text => ∃ e, RuleDocument.parse o text = .error e
  | .envelope _ => False
  | .call _ => True
  | .advance _ => True

theorem Standing.step_of_keeps {r : Request} (h : r.Keeps) (st : Standing) : st.step r = st := by
  cases r with
  | load o text =>
      obtain ⟨e, he⟩ := h
      rw [step, he]
  | envelope e => exact h.elim
  | call c => rfl
  | advance ms => rfl

theorem Standing.after_of_keeps {history : List Request} (h : ∀ r ∈ history, r.Keeps)
    (st : Standing) : st.after history = st := by
  induction history with
  | nil => rfl
  | cons r rest ih =>
      rw [after, List.foldl_cons, step_of_keeps (h r List.mem_cons_self)]
      exact ih fun r hr => h r (List.mem_cons_of_mem _ hr)

/-! ## Sessions and what they stand on -/

namespace Session

/-- Whether the engine of a session serves a rulebook that the new engine would serve as well. -/
structure Stands (s : Session) (st : Standing) : Prop where
  envelope : s.envelope = st.envelope
  serves : ∃ rules b, st.fresh = .ok rules ∧ rules.Serves b ∧ s.engine.rules.Serves b

theorem stands_start (timeout : Nat) : (start timeout).Stands .start :=
  ⟨rfl, _, _, rfl, RuleSet.serves_empty, RuleSet.serves_empty⟩

variable {s : Session} {st : Standing}

theorem Stands.load (h : s.Stands st) (o : LoadOptions) (text : String) :
    (s.step (.load o text)).Stands (st.step (.load o text)) := by
  rw [step, Standing.step]
  cases hd : RuleDocument.parse o text with
  | error e => exact h
  | ok d =>
      obtain ⟨members, hserves⟩ := (RuleDocument.checked_of_parse hd).serves
      -- The engine takes the rules with their caches, the new engine the same ones without.
      refine ⟨h.envelope, d.rules.uncached, _, ?_, hserves.uncached, hserves⟩
      have hfresh : Standing.fresh { st with loaded := some (o, text) } =
          (RuleDocument.parse o.uncached text).map RuleDocument.rules := rfl
      rw [RuleDocument.parse_uncached, hd] at hfresh
      exact hfresh

/-- Every request keeps the engine in step with the new engine. -/
theorem Stands.step (h : s.Stands st) (r : Request) : (s.step r).Stands (st.step r) := by
  obtain ⟨rules, b, hfresh, hrules, hengine⟩ := h.serves
  cases r with
  | load o text => exact h.load o text
  | envelope e => exact ⟨rfl, rules, b, hfresh, hrules, hengine⟩
  | call c =>
      exact ⟨h.envelope, rules, b, hfresh, hrules, (Engine.answer_of_serves hengine _ c).2⟩
  | advance ms => exact ⟨h.envelope, rules, b, hfresh, hrules, hengine⟩

theorem Stands.after (h : s.Stands st) (history : List Request) :
    (s.after history).Stands (st.after history) := by
  induction history generalizing s st with
  | nil => exact h
  | cons r rest ih => exact ih (h.step r)

theorem Stands.answer (h : s.Stands st) (timeout : Nat) :
    ∃ rules, st.fresh = .ok rules ∧
      ∀ c, s.answer c = ((Engine.ofRules rules timeout).answer st.envelope c).1 := by
  obtain ⟨rules, b, hfresh, hrules, hengine⟩ := h.serves
  have hnew : (Engine.ofRules rules timeout).rules.Serves b := hrules
  refine ⟨rules, hfresh, fun c => ?_⟩
  rw [Session.answer, (Engine.answer_of_serves hengine s.envelope c).1,
    (Engine.answer_of_serves hnew st.envelope c).1, h.envelope]

/-- Sessions that stand on the same give the same answers. -/
theorem Stands.answer_eq {s' : Session} (h : s.Stands st) (h' : s'.Stands st) (c : Call) :
    s.answer c = s'.answer c := by
  obtain ⟨rules, hfresh, hanswer⟩ := h.answer 0
  obtain ⟨rules', hfresh', hanswer'⟩ := h'.answer 0
  cases hfresh.symm.trans hfresh'
  rw [hanswer, hanswer']

theorem stands_after (timeout : Nat) (history : List Request) :
    ((start timeout).after history).Stands (Standing.start.after history) :=
  (stands_start timeout).after history

/-- Caches and history are invisible.  After any history an engine answers like a new one that loads
the last document without caches; a call that is repeated is answered alike; and after a load all
that was before it is forgotten, except the envelope. -/
theorem answer_eq_fresh (timeout : Nat) (history : List Request) :
    (∃ rules, (Standing.start.after history).fresh = .ok rules ∧
      ∀ c, ((start timeout).after history).answer c =
        ((Engine.ofRules rules timeout).answer (Standing.start.after history).envelope c).1) ∧
    (∀ rest c, (∀ r ∈ rest, r.Keeps) →
      ((start timeout).after (history ++ rest)).answer c =
        ((start timeout).after history).answer c) ∧
    (∀ o text d rest c, RuleDocument.parse o text = .ok d →
      ((start timeout).after (history ++ .load o text :: rest)).answer c =
        ((start timeout).after (.envelope (Standing.start.after history).envelope ::
          .load o text :: rest)).answer c) := by
  refine ⟨(stands_after timeout history).answer timeout, ?_, ?_⟩
  · intro rest c hrest
    have hafter := stands_after timeout (history ++ rest)
    rw [Standing.after, List.foldl_append] at hafter
    rw [← Standing.after, ← Standing.after, Standing.after_of_keeps hrest] at hafter
    exact hafter.answer_eq (stands_after timeout history) c
  · intro o text d rest c hd
    refine (stands_after timeout _).answer_eq ?_ c
    have hsame : Standing.start.after (history ++ .load o text :: rest) =
        Standing.start.after (.envelope (Standing.start.after history).envelope ::
          .load o text :: rest) := by
      simp [Standing.after, Standing.step, hd]
    rw [hsame]
    exact stands_after timeout _

/-- A store of one member and a rule that asks it for any. -/
def oneMember (member : String) : String :=
  "[store.mx]\ntype = \"memory\"\nformat = \"list\"\nvalues = [\"" ++ member ++
  "\"]\n\n[maybe-eval]\nmx = [\"mx\"]\n"

def longCached : LoadOptions :=
  { LoadOptions.default with cache := some ⟨8, 60000, 60000, by decide⟩ }

/-- The member that was cached is not served after a reload, when it is not in the store anymore. -/
theorem answer_after_reload :
    (∃ d, RuleDocument.parse longCached (oneMember "new") = .ok d) ∧
    ((start 0).after [.load longCached (oneMember "old"), .call (.lookup "mx"),
        .load longCached (oneMember "new")]).answer (.lookup "mx") =
      ((start 0).after [.envelope .empty, .load longCached (oneMember "new")]).answer
        (.lookup "mx") ∧
    (((start 0).after [.load longCached (oneMember "old"), .call (.lookup "mx")]).engine.lookup "mx"
        .empty).1 = .ok (.text "old") ∧
    (((start 0).after [.load longCached (oneMember "old"), .call (.lookup "mx"),
        .load longCached (oneMember "new")]).engine.lookup "mx" .empty).1 = .ok (.text "new") := by
  have hload : ∃ d, RuleDocument.parse longCached (oneMember "new") = .ok d := by
    have hcheck : (RuleDocument.parse longCached (oneMember "new")).isOk = true := by decide +kernel
    cases hd : RuleDocument.parse longCached (oneMember "new") with
    | error err =>
        rw [hd] at hcheck
        cases hcheck
    | ok d => exact ⟨d, rfl⟩
  obtain ⟨d, hd⟩ := hload
  have henvelope : (Standing.start.after [.load longCached (oneMember "old"),
      .call (.lookup "mx")]).envelope = .empty := by
    simp only [Standing.after, List.foldl_cons, List.foldl_nil, Standing.step]
    split <;> rfl
  have hreload := (answer_eq_fresh 0 [.load longCached (oneMember "old"), .call (.lookup "mx")]).2.2
    longCached (oneMember "new") d [] (.lookup "mx") hd
  rw [henvelope] at hreload
  exact ⟨⟨d, hd⟩, hreload, by decide +kernel, by decide +kernel⟩

end Session
end EnvelopeRules
