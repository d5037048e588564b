import EnvelopeRules.Proofs.Rule.Asking

/-!
# Ways to name a store

A lookup rule may name its store in a template, with or without references, or in its fallback.
Only the name that comes out counts, and what the key comes to: rules that agree on these are
answered alike and leave the stores alike, however the stores are asked.
-/

namespace EnvelopeRules

namespace Rule

/-- The name that comes out of a rule, with the captures that go to the key: those of the template
that decides, and none with a fallback. -/
inductive Yields (e : Envelope) : Rule → String → Captures → Prop
  | template {r : Rule} {t : Template} {captures : Captures} {id : String} :
      Decides e r t captures → t.render captures e = .ok id → Yields e r id captures
  | fallback {conditions : List Condition} {id : String} : NoneHolds e conditions →
      Yields e (.conditional conditions (some (.text id))) id .none

variable {r : Rule} {e : Envelope} {id : String} {captures : Captures}

theorem yields_iff :
    Yields e r id captures ↔
      ∃ outcome, r.evaluateCaptured e = .ok (outcome, captures) ∧ outcome.storeId? = some id := by
  constructor
  · intro h
    cases h with
    | template hdecides hrender =>
        have hends := evaluateCaptured_of_ends (.decided hdecides)
        rw [hrender] at hends
        exact ⟨.rendered id, hends, rfl⟩
    | @fallback conditions id hnone =>
        have hends : Ends e (.conditional conditions (some (.text id))) _ := .fallback hnone
        exact ⟨.literal (.text id), evaluateCaptured_of_ends hends, rfl⟩
  · rintro ⟨outcome, houtcome, hid⟩
    cases outcome with
    | rendered text =>
        cases hid
        obtain ⟨t, hdecides, hrender⟩ := decides_of_rendered houtcome
        exact .template hdecides hrender
    | literal v =>
        obtain ⟨conditions, rfl, hnone⟩ := fallback_of_literal houtcome
        have hends : Ends e (.conditional conditions (some v)) _ := .fallback hnone
        cases v with
        | text s =>
            cases hid
            cases (evaluateCaptured_of_ends hends).symm.trans houtcome
            exact .fallback hnone
        | integer n => cases hid
        | bool b => cases hid
    | noMatch => cases hid

theorem yields_of_staticText {t : Template} (h : t.staticText? = some id) :
    Yields e (.template t) id .none :=
  .template (.template t) (Template.render_of_staticText h)

end Rule

namespace LookupRule

theorem asks_iff {r : LookupRule} {e : Envelope} {id : String} {q : Query} :
    r.Asks e id q ↔ ∃ captures, r.rule.Yields e id captures ∧ Queries r.key e captures q := by
  constructor
  · rintro ⟨houtcome, hid, hq⟩
    exact ⟨_, Rule.yields_iff.mpr ⟨_, houtcome, hid⟩, hq⟩
  · rintro ⟨captures, hyields, hq⟩
    obtain ⟨outcome, houtcome, hid⟩ := Rule.yields_iff.mp hyields
    exact .intro houtcome hid hq

/-- Carries out what the rule asks, with any way to ask for a member. -/
def carryOut {σ : Type} (ask : String → Query → σ → Eval (Option String) × σ) (s : σ)
    (r : LookupRule) (e : Envelope) : Eval Value × σ :=
  match r.request e with
  | .error err => (.error err, s)
  | .ok none => (.ok .no, s)
  | .ok (some (id, q)) => ((ask id q s).1.map StoreState.memberValue, (ask id q s).2)

theorem evaluate_eq_carryOut (st : StoreState) (timeout : Nat) (r : LookupRule) (e : Envelope) :
    st.evaluate timeout r e = r.carryOut (fun id q st => st.query timeout id q) st e := by
  unfold StoreState.evaluate carryOut
  rfl

/-- Whether two rules, each on an envelope of its own, get the same answers and leave the same
behind. -/
structure Alike (r : LookupRule) (e : Envelope) (r' : LookupRule) (e' : Envelope) : Prop where
  evaluate : ∀ (st : StoreState) (timeout : Nat),
    st.evaluate timeout r e = st.evaluate timeout r' e'
  carryOut : ∀ (σ : Type) (ask : String → Query → σ → Eval (Option String) × σ) (s : σ),
    r.carryOut ask s e = r'.carryOut ask s e'

variable {r r' : LookupRule} {e e' : Envelope} {id : String} {captures captures' : Captures}
  {q : Query}

theorem alike_of_asks (h : r.Asks e id q) (h' : r'.Asks e' id q) : r.Alike e r' e' := by
  have hrequest : r.request e = r'.request e' :=
    (request_eq_iff.mpr (.asks h)).trans (request_eq_iff.mpr (.asks h')).symm
  have hcarry : ∀ (σ : Type) (ask : String → Query → σ → Eval (Option String) × σ) (s : σ),
      r.carryOut ask s e = r'.carryOut ask s e' := by
    intro σ ask s
    rw [carryOut, carryOut, hrequest]
  refine ⟨?_, hcarry⟩
  intro st timeout
  rw [evaluate_eq_carryOut, evaluate_eq_carryOut]
  exact hcarry _ _ _

/-- Two rules that name the same store and whose keys come to the same are alike.  So a name that is
made from captures does what the same name does when a template without references spells it, or a
fallback. -/
theorem alike_of_yields (h : r.rule.Yields e id captures) (hq : Queries r.key e captures q)
    (h' : r'.rule.Yields e' id captures') (hq' : Queries r'.key e' captures' q) :
    r.Alike e r' e' ∧
      ∀ key d, Queries key d .none q →
        (∀ t, t.staticText? = some id → r.Alike e ⟨.template t, key⟩ d) ∧
        ∀ conditions, Rule.NoneHolds d conditions →
          r.Alike e ⟨.conditional conditions (some (.text id)), key⟩ d := by
  have hasks : r.Asks e id q := asks_iff.mpr ⟨captures, h, hq⟩
  have hasks' : r'.Asks e' id q := asks_iff.mpr ⟨captures', h', hq'⟩
  refine ⟨alike_of_asks hasks hasks', ?_⟩
  intro key d hkey
  constructor
  · intro t ht
    apply alike_of_asks hasks
    exact asks_iff.mpr ⟨.none, Rule.yields_of_staticText ht, hkey⟩
  · intro conditions hnone
    apply alike_of_asks hasks
    exact asks_iff.mpr ⟨.none, .fallback hnone, hkey⟩

/-- A store that is named after what its condition captured, which is the key too. -/
def byCapture : LookupRule :=
  ⟨.conditional [⟨.mx, .startsWith "mx", ⟨"list_${0}", [.literal "list_", .capture 0]⟩⟩] none,
    some ⟨"${0}", [.capture 0]⟩⟩

/-- The same store as a fallback, with the sender as the key. -/
def byFallback : LookupRule :=
  ⟨.conditional [⟨.mx, .equals "none", ⟨"", []⟩⟩] (some (.text "list_mx1")),
    some ⟨"${sender}", [.field .sender]⟩⟩

def relayed : Envelope := Envelope.empty.put .mx (.text "mx1")

def sent : Envelope := relayed.put .sender (.text "mx1")

def lists : StoreState :=
  ⟨⟨Table.empty.insert "list_mx1"
    ((Store.ofMemory "list_mx1" (.ofList ["mx1"])).cached ⟨1, 5, 5, Nat.one_pos⟩)⟩, 0⟩

/-- The captured name does what the fallback does, and what its spelling as a template does on an
envelope without any field: all are answered with the member that is equal to the key. -/
theorem alike_of_yields_list :
    byCapture.Alike relayed byFallback sent ∧
      byCapture.Alike relayed
        ⟨.template ⟨"list_mx1", [.literal "list_mx1"]⟩, some ⟨"mx1", [.literal "mx1"]⟩⟩ .empty ∧
      (lists.evaluate 0 byCapture relayed).1 = .ok (.text "mx1") := by
  have hcapture : byCapture.rule.Yields relayed "list_mx1" ⟨[some "mx1"]⟩ :=
    Rule.yields_iff.mpr ⟨.rendered "list_mx1", rfl, rfl⟩
  have hfallback : byFallback.rule.Yields sent "list_mx1" .none :=
    Rule.yields_iff.mpr ⟨.literal (.text "list_mx1"), rfl, rfl⟩
  have hkey : Queries byCapture.key relayed ⟨[some "mx1"]⟩ (.key "mx1") := .key rfl rfl
  have hkey' : Queries byFallback.key sent .none (.key "mx1") := .key rfl rfl
  have hspelled : Queries (some ⟨"mx1", [.literal "mx1"]⟩) .empty .none (.key "mx1") := .key rfl rfl
  obtain ⟨halike, hothers⟩ := alike_of_yields hcapture hkey hfallback hkey'
  exact ⟨halike, (hothers _ _ hspelled).1 _ rfl, by decide +kernel⟩

end LookupRule
end EnvelopeRules
