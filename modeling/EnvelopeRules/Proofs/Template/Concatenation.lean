import EnvelopeRules.Proofs.Template.Substitution

/-!
# Templates one after another

Two templates written one after another are one template, unless a dollar sign at the end of the
first comes to stand before a brace.  It renders to what both render to and refers to what both
refer to.
-/

namespace EnvelopeRules
namespace Template

/-! ## The seam -/

/-- Whether no dollar sign at the end of one text comes to stand before a brace of the next. -/
def Apart (front back : List Char) : Prop :=
  ¬ (front.getLast? = some '$' ∧ back.head? = some '{')

theorem Apart.of_append {xs ys back : List Char} (h : Apart (xs ++ ys) back) : Apart ys back := by
  rintro ⟨hlast, hhead⟩
  apply h
  rw [List.getLast?_append, hlast]
  exact ⟨rfl, hhead⟩

theorem Segment.Proper.append {s : Segment} {after back : List Char} (hs : s.Proper after)
    (h : Apart (s.written ++ after) back) : s.Proper (after ++ back) := by
  -- Only a literal looks at what follows it.
  cases s with
  | literal c =>
      rintro ⟨rfl, hhead⟩
      cases after with
      | nil => exact h ⟨rfl, hhead⟩
      | cons d after => exact hs ⟨rfl, hhead⟩
  | reference name => exact hs
  | escape text => exact hs

theorem Cut.append {rest front back : List Char} {segs segs' : List Segment}
    (hfront : Cut [] front segs) (hback : Cut rest back segs') (h : Apart front back) :
    Cut rest (front ++ back) (segs ++ segs') := by
  induction hfront with
  | nil => exact hback
  | cons hs _ ih =>
      rw [List.append_assoc, List.cons_append]
      exact .cons (hs.append h) (ih h.of_append)

/-! ## Tokens that are not yet joined -/

theorem exists_tokens {source : String} {t : Template} (h : parse source = .ok t)
    (whole : String) :
    ∃ segs toks, Cut [] source.toList segs ∧
      List.Forall₂ (fun s k => s.token whole = .ok k) segs toks ∧ joinLiterals toks = t.tokens := by
  obtain ⟨_, segs, hcut, _, hmerged⟩ := merged_of_parse h
  obtain ⟨toks, hall, htoks⟩ := tokens_of_merged whole hmerged
  exact ⟨segs, toks, hcut, hall, htoks⟩

/-- The tokens of two templates are joined once more where the templates meet. -/
theorem exists_parse_append {a b : String} {t u : Template} (ha : parse a = .ok t)
    (hb : parse b = .ok u) (h : Apart a.toList b.toList) :
    ∃ toks toks', joinLiterals toks = t.tokens ∧ joinLiterals toks' = u.tokens ∧
      parse (a ++ b) = .ok ⟨a ++ b, joinLiterals (toks ++ toks')⟩ := by
  obtain ⟨segs, toks, hcut, hall, htoks⟩ := exists_tokens ha (a ++ b)
  obtain ⟨segs', toks', hcut', hall', htoks'⟩ := exists_tokens hb (a ++ b)
  have hsource : Cut [] (a ++ b).toList (segs ++ segs') := by
    rw [String.toList_append]
    exact hcut.append hcut' h
  have hmerged : Merged (segs ++ segs') (joinLiterals (toks ++ toks')) :=
    merged_of_tokens (List.rel_append hall hall')
  exact ⟨toks, toks', htoks, htoks', parse_of_merged hsource hmerged⟩

/-! ## What joining literals does not change -/

section

variable {m : Type → Type} [Monad m] [LawfulMonad m]

/-- The texts that tokens give, one after another. -/
def joined (f : Token → m String) (ks : List Token) : m String := String.join <$> ks.mapM f

theorem joined_cons (f : Token → m String) (k : Token) (ks : List Token) :
    joined f (k :: ks) = do return (← f k) ++ (← joined f ks) := by
  simp [joined]

theorem joined_append (f : Token → m String) (ks ls : List Token) :
    joined f (ks ++ ls) = do return (← joined f ks) ++ (← joined f ls) := by
  simp [joined]

theorem joined_joinLiterals {f : Token → m String} (hf : ∀ a, f (.literal a) = pure a)
    (ks : List Token) : joined f (joinLiterals ks) = joined f ks := by
  apply apply_joinLiterals
  · intro k ks ks' h
    rw [joined_cons, joined_cons, h]
  · intro a b ks
    have happend : (fun rest => a ++ b ++ rest) = fun rest => a ++ (b ++ rest) :=
      funext fun _ => String.append_assoc
    simp [joined_cons, hf, happend]

end

theorem renderTokens_eq_joined (c : Captures) (e : Envelope) (ks : List Token) :
    renderTokens c e ks = joined (Token.render c e) ks := by
  induction ks with
  | nil => rfl
  | cons k ks ih => rw [renderTokens, joined_cons, ih]

section

variable {t : Template} {ks : List Token}

theorem render_of_tokens (h : joinLiterals ks = t.tokens) (c : Captures) (e : Envelope) :
    t.render c e = joined (Token.render c e) ks := by
  rw [render, ← h, renderTokens_joinLiterals, renderTokens_eq_joined]

theorem fields_of_tokens (h : joinLiterals ks = t.tokens) :
    t.fields = ks.filterMap Token.field? := by
  rw [fields, ← h]
  apply apply_joinLiterals
  · intro k ks ks' h
    rw [List.filterMap_cons, List.filterMap_cons, h]
  · intro a b ks
    rfl

theorem isStatic_of_tokens (h : joinLiterals ks = t.tokens) :
    t.isStatic = ks.all fun k => k.text?.isSome := by
  rw [isStatic, ← h]
  apply apply_joinLiterals (f := fun ks => ks.all fun k => k.text?.isSome)
  · intro k ks ks' h
    rw [List.all_cons, List.all_cons, h]
  · intro a b ks
    rfl

theorem staticText_of_tokens (h : joinLiterals ks = t.tokens) :
    t.staticText? = joined Token.text? ks := by
  have htext : t.staticText? = joined Token.text? t.tokens := rfl
  rw [htext, ← h, joined_joinLiterals fun _ => rfl]

end

/-! ## Joined templates -/

/-- A template that does what two others do, one after the other. -/
structure Joins (front back whole : Template) : Prop where
  source : whole.source = front.source ++ back.source
  render (c : Captures) (e : Envelope) : whole.render c e = do
    return (← front.render c e) ++ (← back.render c e)
  fields : whole.fields = front.fields ++ back.fields
  isStatic : whole.isStatic = (front.isStatic && back.isStatic)
  staticText : whole.staticText? = do return (← front.staticText?) ++ (← back.staticText?)

theorem joins_of_tokens {front back : Template} {ks ls : List Token}
    (hfront : joinLiterals ks = front.tokens) (hback : joinLiterals ls = back.tokens) :
    Joins front back ⟨front.source ++ back.source, joinLiterals (ks ++ ls)⟩ where
  source := rfl
  render c e := by
    rw [render_of_tokens hfront, render_of_tokens hback, render_of_tokens rfl, joined_append]
  fields := by
    rw [fields_of_tokens hfront, fields_of_tokens hback, fields_of_tokens rfl,
      List.filterMap_append]
  isStatic := by
    rw [isStatic_of_tokens hfront, isStatic_of_tokens hback, isStatic_of_tokens rfl,
      List.all_append]
  staticText := by
    rw [staticText_of_tokens hfront, staticText_of_tokens hback, staticText_of_tokens rfl,
      joined_append]

/-- Two templates of which the first does not end with a dollar sign before a brace make one. -/
theorem parse_append {a b : String} {t u : Template} (ha : parse a = .ok t) (hb : parse b = .ok u)
    (h : ¬ (a.toList.getLast? = some '$' ∧ b.toList.head? = some '{')) :
    ∃ v, parse (a ++ b) = .ok v ∧ Joins t u v := by
  obtain ⟨toks, toks', htoks, htoks', hparse⟩ := exists_parse_append ha hb h
  have hjoins := joins_of_tokens htoks htoks'
  rw [(merged_of_parse ha).1, (merged_of_parse hb).1] at hjoins
  exact ⟨_, hparse, hjoins⟩

def endsInDollar : Template := ⟨reference "0" ++ "-$", [.capture 0, .literal "-$"]⟩

def startsEscaped : Template :=
  ⟨escape "0" ++ reference "rcpt", [.literal (reference "0"), .field .rcpt]⟩

/-- A dollar sign stays one before a reference and before an escape, whatever the reference
gives. -/
theorem parse_append_dollar :
    parse endsInDollar.source = .ok endsInDollar ∧
    parse startsEscaped.source = .ok startsEscaped ∧
    ∃ v, parse (endsInDollar.source ++ startsEscaped.source) = .ok v ∧
      Joins endsInDollar startsEscaped v := by
  have hfront : parse endsInDollar.source = .ok endsInDollar := by decide +kernel
  have hback : parse startsEscaped.source = .ok startsEscaped := by decide +kernel
  exact ⟨hfront, hback, parse_append hfront hback (by decide)⟩

/-- Where a dollar sign comes to stand before a brace, plain text turns into a reference. -/
example : parse "$" = .ok ⟨"$", [.literal "$"]⟩ ∧
    parse (braced "0") = .ok ⟨braced "0", [.literal (braced "0")]⟩ ∧
    parse ("$" ++ braced "0") = .ok ⟨reference "0", [.capture 0]⟩ := by
  decide +kernel

end Template
end EnvelopeRules
