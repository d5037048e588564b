import EnvelopeRules.Rule
import EnvelopeRules.Store.Registry

/-!
# Lookup rules

A lookup rule names a store, which is asked for a member: the one equal to the rendered key, or any
if the rule has no key.  The answer is the member, or the negative answer if there is none or no
condition held.
-/

namespace EnvelopeRules

/-- A rule that yields the identifier of a store, and the key to look for there. -/
structure LookupRule where
  rule : Rule
  key : Option Template

/-- Stores at a moment. -/
structure StoreState where
  stores : Registry
  now : Nat

namespace LookupRule

/-- The identifiers that the rule yields whatever the envelope, of its templates and its
fallback. -/
def staticStores (r : LookupRule) : List String :=
  r.rule.templates.filterMap Template.staticText? ++ (r.rule.fallback?.bind Value.text?).toList

/-- What the rule asks: which store and for what.  Nothing if no condition holds. -/
def request (r : LookupRule) (e : Envelope) : Eval (Option (String × Query)) :=
  match r.rule.evaluateCaptured e with
  | .error err => .error err
  | .ok (.noMatch, _) => .ok none
  | .ok (.literal (.text id), captures) => ask id captures
  | .ok (.rendered id, captures) => ask id captures
  | .ok (.literal v, _) => .error (.storeNotFound v.shown)
where
  ask (id : String) (captures : Captures) : Eval (Option (String × Query)) :=
    match r.key with
    | none => .ok (some (id, .any))
    | some key =>
      match key.render captures e with
      | .error err => .error err
      | .ok text => .ok (some (id, .key text))

end LookupRule

namespace StoreState

/-- Asks a registered store within a time limit. -/
def query (st : StoreState) (timeout : Nat) (id : String) (q : Query) :
    Eval (Option String) × StoreState :=
  match st.stores.resolve id with
  | none => (.error (.storeNotFound id), st)
  | some s =>
    let r := s.query (some timeout) st.now q
    let answer := match r.answer? with
      | some (.ok member) => .ok member
      | some (.error source) => .error (.store id source)
      | none => .error (.lookupTimeout id timeout)
    (answer, ⟨st.stores.update id r.store, r.now⟩)

/-- The answer that a member or its absence makes. -/
def memberValue : Option String → Value
  | some member => .text member
  | none => .no

/-- Evaluates a lookup rule: at most one store is asked, once. -/
def evaluate (st : StoreState) (timeout : Nat) (r : LookupRule) (e : Envelope) :
    Eval Value × StoreState :=
  match r.request e with
  | .error err => (.error err, st)
  | .ok none => (.ok .no, st)
  | .ok (some (id, q)) =>
    let (answer, st) := st.query timeout id q
    (answer.map memberValue, st)

end StoreState
end EnvelopeRules
