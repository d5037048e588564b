import EnvelopeRules.Envelope.Basic
import Mathlib.Data.List.Basic

/-!
# Addresses of the parties

An envelope can be given the address of the sender and that of the recipient any number of times.
The address given last stays.  The domain is that of the last address which names one, so after an
address without a domain it is left over from an earlier one.
-/

namespace EnvelopeRules

inductive Party where
  | sender | recipient
  deriving DecidableEq, Repr

namespace Party

def field : Party → Field
  | sender => .sender
  | recipient => .rcpt

def domainField : Party → Field
  | sender => .senderDomain
  | recipient => .rcptDomain

theorem field_ne_domainField (p p' : Party) : p.field ≠ p'.domainField := by
  cases p <;> cases p' <;> decide

theorem field_injective {p p' : Party} (h : p.field = p'.field) : p = p' := by
  cases p <;> cases p' <;> first | rfl | cases h

theorem domainField_injective {p p' : Party} (h : p.domainField = p'.domainField) : p = p' := by
  cases p <;> cases p' <;> first | rfl | cases h

end Party

/-- The domain that an address names: what is behind its last at sign, if anything is. -/
inductive HasDomain : String → String → Prop
  | intro {front part : String} : part ≠ "" → '@' ∉ part.toList →
      HasDomain (front ++ "@" ++ part) (lowercase part)

namespace Envelope

/-! ## Domains -/

theorem afterLastAt_append (front : List Char) {part : List Char} (h : '@' ∉ part) :
    afterLastAt (front ++ '@' :: part) = some part := by
  have hpart : ∀ c ∈ part.reverse, (c != '@') = true := by
    intro c hc
    have hne : c ≠ '@' := by
      rintro rfl
      exact h (List.mem_reverse.mp hc)
    simpa using hne
  have hreverse : (front ++ '@' :: part).reverse = part.reverse ++ '@' :: front.reverse := by simp
  have htake : (part.reverse ++ '@' :: front.reverse).takeWhile (· != '@') = part.reverse := by
    rw [List.takeWhile_append_of_pos hpart, List.takeWhile_cons_of_neg (by simp), List.append_nil]
  have hmem : (front ++ '@' :: part).contains '@' = true := by simp
  rw [afterLastAt, if_pos hmem, hreverse, htake, List.reverse_reverse]

theorem afterLastAt_eq_some_iff {cs part : List Char} :
    afterLastAt cs = some part ↔ ∃ front, cs = front ++ '@' :: part ∧ '@' ∉ part := by
  constructor
  · intro h
    have hmem : '@' ∈ cs.reverse := by
      by_contra hnone
      have hcontains : cs.contains '@' = false := by simpa using hnone
      rw [afterLastAt, hcontains] at h
      cases h
    -- The first at sign from behind is the last one.
    obtain ⟨behind, before, hsplit, hbehind⟩ := List.eq_append_cons_of_mem hmem
    have hcs : cs = before.reverse ++ '@' :: behind.reverse := by
      have hreverse := congrArg List.reverse hsplit
      simpa using hreverse
    have hnotMem : '@' ∉ behind.reverse := by simpa using hbehind
    rw [hcs, afterLastAt_append _ hnotMem] at h
    cases h
    exact ⟨_, hcs, hnotMem⟩
  · rintro ⟨front, rfl, h⟩
    exact afterLastAt_append front h

theorem domain?_eq_some_iff {address d : String} :
    domain? address = some d ↔ HasDomain address d := by
  constructor
  · intro h
    rw [domain?] at h
    split at h
    · rename_i c cs hafter
      cases h
      obtain ⟨front, haddress, hnotMem⟩ := afterLastAt_eq_some_iff.mp hafter
      have hsplit : address = String.ofList front ++ "@" ++ String.ofList (c :: cs) := by
        apply String.toList_injective
        simp [haddress]
      rw [hsplit]
      apply HasDomain.intro
      · intro hempty
        have hnil := congrArg String.toList hempty
        simp at hnil
      · simpa using hnotMem
    · cases h
  · rintro @⟨front, part, hne, hnotMem⟩
    have hafter : afterLastAt (front ++ "@" ++ part).toList = some part.toList := by
      rw [afterLastAt_eq_some_iff]
      exact ⟨front.toList, by simp, hnotMem⟩
    rw [domain?, hafter]
    cases hpart : part.toList with
    | nil => exact absurd (String.toList_eq_nil_iff.mp hpart) hne
    | cons c cs =>
        dsimp only
        rw [← hpart, String.ofList_toList]

theorem hasDomain_unique {address d d' : String} (h : HasDomain address d)
    (h' : HasDomain address d') : d = d' :=
  Option.some.inj ((domain?_eq_some_iff.mpr h).symm.trans (domain?_eq_some_iff.mpr h'))

theorem domain?_eq_none_iff {address : String} :
    domain? address = none ↔ ∀ d, ¬ HasDomain address d := by
  rw [Option.eq_none_iff_forall_ne_some]
  exact forall_congr' fun d => not_congr domain?_eq_some_iff

/-! ## Calls -/

def give (e : Envelope) : Party × String → Envelope
  | (.sender, address) => e.withSender address
  | (.recipient, address) => e.withRecipient address

/-- The envelope that some addresses make, given one after another. -/
def ofAddresses (calls : List (Party × String)) : Envelope := calls.foldl give empty

def addressesOf (p : Party) (calls : List (Party × String)) : List String :=
  (calls.filter fun call => call.1 = p).map Prod.snd

/-- What giving an address writes to a field.  Nothing is ever taken away. -/
def written (f : Field) (call : Party × String) : Option FieldValue :=
  if f = call.1.field then some (.text call.2)
  else if f = call.1.domainField then (domain? call.2).map .text
  else none

theorem get?_putDomain (e : Envelope) (f g : Field) (address : String) :
    (e.putDomain f address).get? g =
      if g = f then ((domain? address).map .text).or (e.get? g) else e.get? g := by
  rw [putDomain]
  cases domain? address with
  | none => simp
  | some d =>
      dsimp only
      rw [get?_put]
      split <;> rfl

theorem get?_give (e : Envelope) (call : Party × String) (f : Field) :
    (e.give call).get? f = (written f call).or (e.get? f) := by
  have hput : (e.give call).get? f =
      if f = call.1.field then some (.text call.2)
      else (e.putDomain call.1.domainField call.2).get? f := by
    obtain ⟨p, address⟩ := call
    cases p <;> rfl
  rw [hput, get?_putDomain, written]
  split
  · rfl
  · split <;> rfl

/-- Of all that is written to a field the last stays. -/
theorem get?_foldl_give (calls : List (Party × String)) (e : Envelope) (f : Field) :
    (calls.foldl give e).get? f = (calls.filterMap (written f)).getLast?.or (e.get? f) := by
  induction calls generalizing e with
  | nil => rfl
  | cons call calls ih =>
      rw [List.foldl_cons, ih, get?_give, List.filterMap_cons]
      cases written f call with
      | none => rfl
      | some v => rw [List.getLast?_cons, ← Option.or_assoc, Option.or_some]

theorem get?_ofAddresses (calls : List (Party × String)) (f : Field) :
    (ofAddresses calls).get? f = (calls.filterMap (written f)).getLast? := by
  rw [ofAddresses, get?_foldl_give, get?_empty, Option.or_none]

theorem filterMap_written_field (p : Party) (calls : List (Party × String)) :
    calls.filterMap (written p.field) = (addressesOf p calls).map .text := by
  induction calls with
  | nil => rfl
  | cons call calls ih =>
      by_cases hp : call.1 = p
      · have hwritten : written p.field call = some (.text call.2) := by simp [written, hp]
        rw [List.filterMap_cons_some hwritten, ih]
        simp [addressesOf, hp]
      · have hfield : p.field ≠ call.1.field := fun h => hp (Party.field_injective h).symm
        have hwritten : written p.field call = none := by
          simp [written, hfield, p.field_ne_domainField]
        rw [List.filterMap_cons_none hwritten, ih]
        simp [addressesOf, hp]

theorem filterMap_written_domainField (p : Party) (calls : List (Party × String)) :
    calls.filterMap (written p.domainField) =
      ((addressesOf p calls).filterMap domain?).map .text := by
  induction calls with
  | nil => rfl
  | cons call calls ih =>
      have hfield : p.domainField ≠ call.1.field := (call.1.field_ne_domainField p).symm
      by_cases hp : call.1 = p
      · have hwritten : written p.domainField call = (domain? call.2).map .text := by
          simp [written, hp, hp ▸ hfield]
        have haddresses : addressesOf p (call :: calls) = call.2 :: addressesOf p calls := by
          simp [addressesOf, hp]
        rw [List.filterMap_cons, hwritten, haddresses, List.filterMap_cons, ih]
        cases domain? call.2 <;> rfl
      · have hdomain : p.domainField ≠ call.1.domainField :=
          fun h => hp (Party.domainField_injective h).symm
        have hwritten : written p.domainField call = none := by simp [written, hfield, hdomain]
        rw [List.filterMap_cons_none hwritten, ih]
        simp [addressesOf, hp]

theorem get?_field (p : Party) (calls : List (Party × String)) :
    (ofAddresses calls).get? p.field = (addressesOf p calls).getLast?.map .text := by
  rw [get?_ofAddresses, filterMap_written_field, List.getLast?_map]

theorem getLast?_filterMap_eq_some_iff {α β : Type} {f : α → Option β} {xs : List α} {b : β} :
    (xs.filterMap f).getLast? = some b ↔
      ∃ before x after, xs = before ++ x :: after ∧ f x = some b ∧ ∀ a ∈ after, f a = none := by
  rw [List.getLast?_filterMap, List.findSome?_eq_some_iff]
  constructor
  · rintro ⟨behind, x, front, hsplit, hx, hbehind⟩
    have hxs : xs = front.reverse ++ x :: behind.reverse := by
      have hreverse := congrArg List.reverse hsplit
      simpa using hreverse
    exact ⟨_, x, _, hxs, hx, fun a ha => hbehind a (List.mem_reverse.mp ha)⟩
  · rintro ⟨before, x, after, hsplit, hx, hafter⟩
    have hxs : xs.reverse = after.reverse ++ x :: before.reverse := by simp [hsplit]
    exact ⟨_, x, _, hxs, hx, fun a ha => hafter a (List.mem_reverse.mp ha)⟩

/-- The domain of a party is that of the last of its addresses that names one. -/
theorem get?_domainField_eq_some_iff {p : Party} {calls : List (Party × String)} {v : FieldValue} :
    (ofAddresses calls).get? p.domainField = some v ↔
      ∃ before address after d, addressesOf p calls = before ++ address :: after ∧
        HasDomain address d ∧ (∀ a ∈ after, ∀ d', ¬ HasDomain a d') ∧ v = .text d := by
  rw [get?_ofAddresses, filterMap_written_domainField, List.getLast?_map, Option.map_eq_some_iff]
  simp only [getLast?_filterMap_eq_some_iff, domain?_eq_some_iff, domain?_eq_none_iff]
  constructor
  · rintro ⟨d, ⟨before, address, after, hsplit, haddress, hafter⟩, rfl⟩
    exact ⟨before, address, after, d, hsplit, haddress, hafter, rfl⟩
  · rintro ⟨before, address, after, d, hsplit, haddress, hafter, rfl⟩
    exact ⟨d, ⟨before, address, after, hsplit, haddress, hafter⟩, rfl⟩

theorem get?_of_no_party {f : Field} (calls : List (Party × String))
    (h : ∀ p : Party, f ≠ p.field ∧ f ≠ p.domainField) : (ofAddresses calls).get? f = none := by
  have hwritten : ∀ call ∈ calls, written f call = none := by
    intro call _
    obtain ⟨hfield, hdomain⟩ := h call.1
    rw [written, if_neg hfield, if_neg hdomain]
  rw [get?_ofAddresses, List.filterMap_eq_nil_iff.mpr hwritten]
  rfl

/-- What is given for one party does not show in the fields of the other. -/
theorem get?_ofAddresses_filter {p : Party} {f : Field} (calls : List (Party × String))
    (h : f = p.field ∨ f = p.domainField) :
    (ofAddresses calls).get? f = (ofAddresses (calls.filter fun call => call.1 = p)).get? f := by
  have haddresses : addressesOf p (calls.filter fun call => call.1 = p) = addressesOf p calls := by
    rw [addressesOf, List.filter_filter]
    simp only [Bool.and_self]
    rfl
  rw [get?_ofAddresses, get?_ofAddresses]
  rcases h with rfl | rfl
  · rw [filterMap_written_field, filterMap_written_field, haddresses]
  · rw [filterMap_written_domainField, filterMap_written_domainField, haddresses]

/-! ## The address given last -/

/-- Whether an envelope shows one address of a party, or none: the address itself, its domain if it
names one, and else no domain. -/
structure Shows (e : Envelope) (p : Party) (last : Option String) : Prop where
  address : e.get? p.field = last.map .text
  domain : ∀ v, e.get? p.domainField = some v ↔
    ∃ address d, last = some address ∧ HasDomain address d ∧ v = .text d

/-- An envelope shows the last address of a party unless that one names no domain and an earlier one
does. -/
theorem shows_iff {p : Party} {calls : List (Party × String)} :
    (ofAddresses calls).Shows p (addressesOf p calls).getLast? ↔
      (∃ address d, (addressesOf p calls).getLast? = some address ∧ HasDomain address d) ∨
        ∀ address ∈ addressesOf p calls, ∀ d, ¬ HasDomain address d := by
  constructor
  · intro h
    cases hv : (ofAddresses calls).get? p.domainField with
    | some v =>
        obtain ⟨address, d, hlast, hd, _⟩ := (h.domain v).mp hv
        exact .inl ⟨address, d, hlast, hd⟩
    | none =>
        refine .inr fun address hmem d hd => ?_
        rw [get?_ofAddresses, filterMap_written_domainField, List.getLast?_eq_none_iff,
          List.map_eq_nil_iff, List.filterMap_eq_nil_iff] at hv
        exact domain?_eq_none_iff.mp (hv address hmem) d hd
  · rintro (⟨last, d, hlast, hd⟩ | hnone)
    · obtain ⟨front, hfront⟩ := List.getLast?_eq_some_iff.mp hlast
      have hdomain : (ofAddresses calls).get? p.domainField = some (.text d) :=
        get?_domainField_eq_some_iff.mpr ⟨front, last, [], d, hfront, hd, by simp, rfl⟩
      refine ⟨get?_field p calls, fun v => ?_⟩
      rw [hdomain]
      constructor
      · rintro ⟨⟩
        exact ⟨last, d, hlast, hd, rfl⟩
      · rintro ⟨address, d', hlast', hd', rfl⟩
        cases hlast.symm.trans hlast'
        rw [hasDomain_unique hd hd']
    · refine ⟨get?_field p calls, fun v => ?_⟩
      rw [get?_domainField_eq_some_iff]
      constructor
      · rintro ⟨before, address, after, d, hsplit, haddress, _⟩
        have hmem : address ∈ addressesOf p calls := by simp [hsplit]
        exact absurd haddress (hnone address hmem d)
      · rintro ⟨address, d, hlast, haddress, _⟩
        exact absurd haddress (hnone address (List.mem_of_getLast? hlast) d)

/-- What an envelope holds after any addresses, and when that is what the last address of each party
says. -/
theorem ofAddresses_shows (calls : List (Party × String)) :
    (∀ p : Party, (ofAddresses calls).Shows p (addressesOf p calls).getLast? ↔
      (∃ address d, (addressesOf p calls).getLast? = some address ∧ HasDomain address d) ∨
        ∀ address ∈ addressesOf p calls, ∀ d, ¬ HasDomain address d) ∧
    (∀ p : Party, (ofAddresses calls).get? p.field = (addressesOf p calls).getLast?.map .text) ∧
    (∀ (p : Party) v, (ofAddresses calls).get? p.domainField = some v ↔
      ∃ before address after d, addressesOf p calls = before ++ address :: after ∧
        HasDomain address d ∧ (∀ a ∈ after, ∀ d', ¬ HasDomain a d') ∧ v = .text d) ∧
    (∀ f, (∀ p : Party, f ≠ p.field ∧ f ≠ p.domainField) → (ofAddresses calls).get? f = none) ∧
    ∀ (p : Party) f, f = p.field ∨ f = p.domainField →
      (ofAddresses calls).get? f = (ofAddresses (calls.filter fun call => call.1 = p)).get? f :=
  ⟨fun _ => shows_iff, fun p => get?_field p calls, fun _ _ => get?_domainField_eq_some_iff,
    fun _ => get?_of_no_party calls, fun _ _ => get?_ofAddresses_filter calls⟩

/-- A sender with a domain, and then the empty one of a bounce. -/
def bounced : List (Party × String) := [(.sender, "bill@Foo.net"), (.sender, "")]

/-- The empty sender is shown with the domain of the one before it. -/
theorem not_shows_bounced :
    (ofAddresses bounced).get? .sender = some (.text "") ∧
      (ofAddresses bounced).get? .senderDomain = some (.text "foo.net") ∧
      (∀ d, ¬ HasDomain "" d) ∧
      ¬ (ofAddresses bounced).Shows .sender (addressesOf .sender bounced).getLast? := by
  have hdomain : (ofAddresses bounced).get? .senderDomain = some (.text "foo.net") := by
    decide +kernel
  have hnone : ∀ d, ¬ HasDomain "" d := domain?_eq_none_iff.mp rfl
  refine ⟨rfl, hdomain, hnone, fun h => ?_⟩
  obtain ⟨address, d, hlast, hd, _⟩ := (h.domain _).mp hdomain
  cases hlast
  exact hnone d hd

end Envelope
end EnvelopeRules
