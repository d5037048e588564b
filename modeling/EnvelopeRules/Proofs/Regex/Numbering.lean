import EnvelopeRules.Regex.Reader

/-!
# The numbers of groups

The groups of a pattern are numbered from one in the order in which they open.  Reading keeps this
of the tree of all that is read so far, in which every open group ends here.
-/

namespace EnvelopeRules
namespace Regex

mutual

/-- The numbers of the groups, in the order in which they open. -/
def Tree.numbers : Tree → List Nat
  | .repeated _ _ _ body => body.numbers
  | .group _ body => body.numbers
  | .capture index body => index :: body.numbers
  | .alternation branches => treesNumbers branches
  | .concat parts => treesNumbers parts
  | _ => []

def treesNumbers : List Tree → List Nat
  | [] => []
  | t :: rest => t.numbers ++ treesNumbers rest

end

@[simp] theorem treesNumbers_append (ts us : List Tree) :
    treesNumbers (ts ++ us) = treesNumbers ts ++ treesNumbers us := by
  induction ts with
  | nil => rfl
  | cons t ts ih => simp [treesNumbers, ih]

theorem numbers_ofParts : ∀ ts, (Tree.ofParts ts).numbers = treesNumbers ts
  | [] => rfl
  | [t] => (List.append_nil t.numbers).symm
  | _ :: _ :: _ => rfl

theorem numbers_ofBranches : ∀ ts, (Tree.ofBranches ts).numbers = treesNumbers ts
  | [] => rfl
  | [t] => (List.append_nil t.numbers).symm
  | _ :: _ :: _ => rfl

theorem numbers_of_unicodeClass {verbose negated : Bool} {cs rest : List Char} {t : Tree}
    (h : unicodeClass verbose negated cs = some (t, rest)) : t.numbers = [] := by
  unfold unicodeClass at h
  split at h
  · cases h
  · obtain ⟨⟨name, r⟩, _, h⟩ := Option.bind_eq_some_iff.mp h
    cases h
    rfl
  · cases h
  · cases h
    rfl

theorem numbers_of_wordBoundary {verbose : Bool} {cs rest : List Char} {t : Tree}
    (h : wordBoundary verbose cs = some (t, rest)) : t.numbers = [] := by
  unfold wordBoundary at h
  split at h
  · split at h
    · cases h
    · split at h
      · split at h
        · obtain ⟨kind, _, h⟩ := Option.map_eq_some_iff.mp h
          cases h
          rfl
        · cases h
      · cases h
        rfl
  · cases h
    rfl

theorem numbers_of_escape {verbose : Bool} {cs rest : List Char} {t : Tree}
    (h : escape verbose cs = some (t, rest)) : t.numbers = [] := by
  have hletter : ∀ {r : Option (Letter × List Char)},
      r.map (fun r => (Tree.letter r.1, r.2)) = some (t, rest) → t.numbers = [] := by
    intro r h
    obtain ⟨_, _, h⟩ := Option.map_eq_some_iff.mp h
    cases h
    rfl
  unfold escape at h
  split at h
  · cases h
  · dsimp only at h
    split at h
    · cases h
      rfl
    · split at h <;> first
        | exact hletter h
        | exact numbers_of_unicodeClass h
        | exact numbers_of_wordBoundary h
        | (cases h; rfl)
        | cases h

theorem numbers_of_readSet {verbose : Bool} {cur : OpenSet} {outer : List OpenSet}
    {cs rest : List Char} {t : Tree} (h : readSet verbose cur outer cs = some (t, rest)) :
    t.numbers = [] := by
  fun_induction readSet verbose cur outer cs with
  | case1 | case4 | case11 => cases h
  | case5 =>
      cases h
      rfl
  | case2 | case3 | case6 | case7 | case8 | case9 | case10 =>
      -- The set is read on, so the induction hypothesis is about the rest.
      rename_i ih
      obtain ⟨hlt, h⟩ := Option.dite_none_right_eq_some.mp h
      exact ih _ _ _ hlt h

/-! ## Open groups -/

/-- The tree of all that is read so far, as if all open groups ended here. -/
def wholeTree (level : Level) : List Level → Tree
  | [] => level.body
  | parent :: outer => wholeTree (parent.push level.close) outer

theorem numbers_body (l : Level) :
    l.body.numbers = treesNumbers l.branches.reverse ++ treesNumbers l.parts.reverse := by
  rw [Level.body, numbers_ofBranches, List.reverse_cons, treesNumbers_append, treesNumbers,
    treesNumbers, List.append_nil, numbers_ofParts]

theorem numbers_push (l : Level) (t : Tree) :
    (l.push t).body.numbers = l.body.numbers ++ t.numbers := by
  simp [numbers_body, Level.push, treesNumbers]

/-- What is added to the open group is added to the whole tree. -/
theorem numbers_wholeTree {l l' : Level} {ns : List Nat} (hkind : l'.kind = l.kind)
    (hbody : l'.body.numbers = l.body.numbers ++ ns) (outer : List Level) :
    (wholeTree l' outer).numbers = (wholeTree l outer).numbers ++ ns := by
  induction outer generalizing l l' with
  | nil => exact hbody
  | cons parent outer ih =>
      have hclose : l'.close.numbers = l.close.numbers ++ ns := by
        rw [Level.close, Level.close, hkind]
        cases l.kind <;> simp [Tree.numbers, hbody]
      refine ih rfl ?_
      rw [numbers_push, numbers_push, hclose, List.append_assoc]

namespace ReadState

def tree (st : ReadState) : Tree := wholeTree st.level st.outer

/-- Whether the groups so far have the numbers from one on, in the order in which they open. -/
def Numbered (st : ReadState) : Prop :=
  ∃ n, st.nextIndex = n + 1 ∧ st.tree.numbers = List.range' 1 n

variable {st st' : ReadState}

theorem Numbered.of_level {l : Level} (h : st.Numbered) (hkind : l.kind = st.level.kind)
    (hbody : l.body.numbers = st.level.body.numbers) : { st with level := l }.Numbered := by
  obtain ⟨n, hnext, hnumbers⟩ := h
  refine ⟨n, hnext, ?_⟩
  rw [← List.append_nil st.level.body.numbers] at hbody
  have hgrown := numbers_wholeTree hkind hbody st.outer
  exact hgrown.trans ((List.append_nil st.tree.numbers).trans hnumbers)

theorem Numbered.push (h : st.Numbered) {t : Tree} (ht : t.numbers = []) :
    (st.push t).Numbered := by
  refine h.of_level rfl ?_
  rw [numbers_push, ht, List.append_nil]

theorem Numbered.openPlain (h : st.Numbered) (change : FlagChange) (verbose : Bool) :
    (st.openGroup (.plain change) verbose).Numbered :=
  h.push (t := .group change .empty) rfl

theorem Numbered.openCapture (h : st.Numbered) : st.openCapture.Numbered := by
  obtain ⟨n, hnext, hnumbers⟩ := h
  refine ⟨n + 1, congrArg (· + 1) hnext, ?_⟩
  have hkind : (st.level.push (.capture st.nextIndex .empty)).kind = st.level.kind := rfl
  have hbody : (st.level.push (.capture st.nextIndex .empty)).body.numbers =
      st.level.body.numbers ++ [n + 1] := by
    rw [numbers_push, hnext]
    rfl
  rw [List.range'_1_concat, Nat.add_comm 1 n, ← hnumbers]
  exact numbers_wholeTree hkind hbody st.outer

/-- A repetition is of the last part, so the groups stay as they are. -/
theorem Numbered.repeatLast (h : st.Numbered) {low : Nat} {high : Option Nat} {greedy : Bool}
    (hrepeat : repeatLast st low high greedy = some st') : st'.Numbered := by
  unfold Regex.repeatLast at hrepeat
  split at hrepeat
  · cases hrepeat
  · cases hrepeat
  · cases hrepeat
  · rename_i t rest hparts
    cases hrepeat
    refine h.of_level rfl ?_
    simp [numbers_body, hparts, treesNumbers, Tree.numbers]

theorem Numbered.repeatUncounted (h : st.Numbered) {low : Nat} {high : Option Nat}
    {cs rest : List Char} (hrepeat : repeatUncounted st low high cs = some (st', rest)) :
    st'.Numbered := by
  unfold Regex.repeatUncounted at hrepeat
  split at hrepeat
  · obtain ⟨_, hlast, he⟩ := Option.map_eq_some_iff.mp hrepeat
    cases he
    exact h.repeatLast hlast
  · obtain ⟨_, hlast, he⟩ := Option.map_eq_some_iff.mp hrepeat
    cases he
    exact h.repeatLast hlast

theorem Numbered.openGroup (h : st.Numbered) {cs rest : List Char}
    (hopen : Regex.openGroup st cs = some (st', rest)) : st'.Numbered := by
  have hnamed : ∀ {r : Option (List Char × List Char)}, (r.bind fun named =>
      if st.names.contains named.1 then none
      else some ({ st.openCapture with names := named.1 :: st.names }, named.2)) =
        some (st', rest) → st'.Numbered := by
    intro r hr
    obtain ⟨named, _, hr⟩ := Option.bind_eq_some_iff.mp hr
    split at hr
    · cases hr
    · cases hr
      exact h.openCapture
  unfold Regex.openGroup at hopen
  dsimp only at hopen
  split at hopen
  · cases hopen
  · cases hopen
  · cases hopen
  · cases hopen
  · exact hnamed hopen
  · exact hnamed hopen
  · obtain ⟨⟨change, close, r⟩, _, hopen⟩ := Option.bind_eq_some_iff.mp hopen
    dsimp only at hopen
    split at hopen
    · split at hopen
      · cases hopen
      · cases hopen
        exact h.push rfl
    · cases hopen
      exact h.openPlain change _
  · cases hopen
    exact h.openCapture

theorem Numbered.step (h : st.Numbered) {cs rest : List Char}
    (hstep : step st cs = some (st', rest)) : st'.Numbered := by
  unfold Regex.step at hstep
  split at hstep
  · cases hstep
  · exact h.openGroup hstep
  · split at hstep
    · cases hstep
    · rename_i parent outer houter
      cases hstep
      obtain ⟨n, hnext, hnumbers⟩ := h
      refine ⟨n, hnext, ?_⟩
      rw [tree, houter] at hnumbers
      exact hnumbers
  · cases hstep
    refine h.of_level rfl ?_
    simp [numbers_body, numbers_ofParts, treesNumbers]
  · obtain ⟨⟨set, r⟩, _, hstep⟩ := Option.bind_eq_some_iff.mp hstep
    obtain ⟨⟨t, r⟩, hset, hstep⟩ := Option.bind_eq_some_iff.mp hstep
    cases hstep
    exact h.push (numbers_of_readSet hset)
  · exact h.repeatUncounted hstep
  · exact h.repeatUncounted hstep
  · exact h.repeatUncounted hstep
  · obtain ⟨⟨⟨low, high, greedy⟩, r⟩, _, hstep⟩ := Option.bind_eq_some_iff.mp hstep
    obtain ⟨st₁, hrepeat, hstep⟩ := Option.bind_eq_some_iff.mp hstep
    cases hstep
    exact h.repeatLast hrepeat
  · obtain ⟨⟨t, r⟩, hescape, hstep⟩ := Option.map_eq_some_iff.mp hstep
    cases hstep
    exact h.push (numbers_of_escape hescape)
  · cases hstep
    exact h.push rfl
  · cases hstep
    exact h.push rfl
  · cases hstep
    exact h.push rfl
  · cases hstep
    exact h.push rfl

theorem Numbered.readParts (h : st.Numbered) {cs : List Char}
    (hread : readParts st cs = some st') : st'.Numbered ∧ st'.outer = [] := by
  fun_induction Regex.readParts st cs with
  | case1 st cs _ houter =>
      cases hread
      exact ⟨h, List.isEmpty_iff.mp houter⟩
  | case2 | case4 | case5 => cases hread
  | case3 st cs st₁ rest _ _ hstep ih => exact ih (h.step hstep) hread

end ReadState

/-- The groups of a pattern as written have the numbers from one on, in the order in which they
open. -/
theorem numbers_of_read? {cs : List Char} {t : Tree} (h : read? cs = some t) :
    t.numbers = List.range' 1 t.numbers.length := by
  obtain ⟨st, hparts, h⟩ := Option.bind_eq_some_iff.mp h
  have hstart : ReadState.Numbered ⟨false, 1, [], ⟨[], [], .plain [], false⟩, []⟩ := ⟨0, rfl, rfl⟩
  obtain ⟨⟨n, _, hnumbers⟩, houter⟩ := hstart.readParts hparts
  rw [ReadState.tree, houter] at hnumbers
  dsimp only at h
  split at h
  · cases h
    have hn : st.level.body.numbers = List.range' 1 n := hnumbers
    rw [hn, List.length_range']
  · cases h

end Regex
end EnvelopeRules
