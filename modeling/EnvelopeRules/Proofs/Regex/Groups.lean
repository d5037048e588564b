import EnvelopeRules.Condition
import EnvelopeRules.Proofs.Regex.Numbering
import EnvelopeRules.Proofs.Result

/-!
# The groups of a regular expression

A regular expression has the groups of its pattern up to the last one that may take part in a match.
Simplifying the pattern drops only what is repeated no times.
-/

namespace EnvelopeRules
namespace Regex

/-! ## Groups that are kept -/

mutual

/-- The numbers of the groups that are in no part repeated no times. -/
def Tree.kept : Tree → List Nat
  | .repeated min max _ body => if min = 0 ∧ max = some 0 then [] else body.kept
  | .group _ body => body.kept
  | .capture index body => index :: body.kept
  | .alternation branches => treesKept branches
  | .concat parts => treesKept parts
  | _ => []

def treesKept : List Tree → List Nat
  | [] => []
  | t :: rest => t.kept ++ treesKept rest

end

-- The second group of `(x)(y){0}` is repeated no times.
example : (Tree.concat [.capture 1 (.letter ⟨'x', false⟩),
    .repeated 0 (some 0) true (.capture 2 (.letter ⟨'y', false⟩))]).kept = [1] := rfl

/-- The highest of some numbers; zero if there is none. -/
def highest (numbers : List Nat) : Nat := numbers.foldr max 0

@[simp] theorem highest_cons (n : Nat) (ns : List Nat) :
    highest (n :: ns) = max n (highest ns) := rfl

@[simp] theorem highest_append (ms ns : List Nat) :
    highest (ms ++ ns) = max (highest ms) (highest ns) := by
  induction ms with
  | nil => simp [highest]
  | cons m ms ih => simp [ih, Nat.max_assoc]

theorem highest_range (n : Nat) : highest (List.range' 1 n) = n := by
  induction n with
  | zero => rfl
  | succ n ih =>
      rw [List.range'_1_concat, highest_append, ih]
      simp [highest]
      omega

/-! ## Simplifying -/

namespace Pattern

@[simp] theorem groupsOfAll_append (ps qs : List Pattern) :
    groupsOfAll (ps ++ qs) = max (groupsOfAll ps) (groupsOfAll qs) := by
  induction ps with
  | nil => simp [groupsOfAll]
  | cons p ps ih => simp [groupsOfAll, ih, Nat.max_assoc]

theorem groupsOfAll_flatMap {f : Pattern → List Pattern}
    (hf : ∀ p, groupsOfAll (f p) = groups p) (ps : List Pattern) :
    groupsOfAll (ps.flatMap f) = groupsOfAll ps := by
  induction ps with
  | nil => rfl
  | cons p ps ih => rw [List.flatMap_cons, groupsOfAll_append, hf, ih, groupsOfAll]

theorem groupsOfAll_eq_zero {ps : List Pattern} (h : ∀ p ∈ ps, groups p = 0) :
    groupsOfAll ps = 0 := by
  induction ps with
  | nil => rfl
  | cons p ps ih =>
      obtain ⟨hp, hps⟩ := List.forall_mem_cons.mp h
      rw [groupsOfAll, hp, ih hps, Nat.max_self]

mutual

theorem eq_of_same {p q : Pattern} (h : same p q) : p = q := by
  cases p with
  | empty =>
      cases q with
      | empty => rfl
      | _ => cases h
  | literal s =>
      cases q with
      | literal t => rw [eq_of_beq h]
      | _ => cases h
  | set s bytewise =>
      cases q with
      | set t bytewise' =>
          simp only [same, Bool.and_eq_true, beq_iff_eq] at h
          rw [h.1, h.2]
      | _ => cases h
  | look k =>
      cases q with
      | look l => rw [eq_of_beq h]
      | _ => cases h
  | repetition min max greedy p =>
      cases q with
      | repetition min' max' greedy' q =>
          simp only [same, Bool.and_eq_true, beq_iff_eq] at h
          obtain ⟨⟨⟨rfl, rfl⟩, rfl⟩, hbody⟩ := h
          rw [eq_of_same hbody]
      | _ => cases h
  | capture i p =>
      cases q with
      | capture j q =>
          simp only [same, Bool.and_eq_true, beq_iff_eq] at h
          rw [h.1, eq_of_same h.2]
      | _ => cases h
  | concat ps =>
      cases q with
      | concat qs => rw [eq_of_allSame h]
      | _ => cases h
  | alternation ps =>
      cases q with
      | alternation qs => rw [eq_of_allSame h]
      | _ => cases h
termination_by structural p

theorem eq_of_allSame {ps qs : List Pattern} (h : allSame ps qs) : ps = qs := by
  cases ps with
  | nil =>
      cases qs with
      | nil => rfl
      | cons q qs => cases h
  | cons p ps =>
      cases qs with
      | nil => cases h
      | cons q qs =>
          simp only [allSame, Bool.and_eq_true] at h
          rw [eq_of_same h.1, eq_of_allSame h.2]
termination_by structural ps

end

/-- A repetition drops its body if and only if that is repeated no times. -/
theorem groups_ofRepetition (min : Nat) (max : Option Nat) (greedy : Bool) (p : Pattern) :
    groups (ofRepetition min max greedy p) = if min = 0 ∧ max = some 0 then 0 else groups p := by
  have hmade : ∀ low high, groups (if low = 0 ∧ high = some 0 then .empty
      else if low = 1 ∧ high = some 1 then p else .repetition low high greedy p) =
        if low = 0 ∧ high = some 0 then 0 else groups p := by
    intro low high
    split
    · rfl
    · split
      · rfl
      · rw [groups]
  -- A bound of one instead of a higher one makes no difference to what is zero.
  have hone : ∀ n, Nat.min n 1 = 0 ↔ n = 0 := by
    intro n
    change Min.min n 1 = 0 ↔ n = 0
    omega
  rw [ofRepetition, hmade]
  cases hblank : p.maxLength? == some 0 <;> cases max <;> simp [hone]

theorem groupsOfAll_partsOf (p : Pattern) : groupsOfAll (partsOf p) = groups p := by
  cases p <;> simp [partsOf, groups, groupsOfAll]

theorem groupsOfAll_branchesOf (p : Pattern) : groupsOfAll (branchesOf p) = groups p := by
  cases p <;> simp [branchesOf, groups, groupsOfAll]

theorem groupsOfAll_joinLiterals (ps : List Pattern) :
    groupsOfAll (joinLiterals ps) = groupsOfAll ps := by
  induction ps with
  | nil => rfl
  | cons p ps ih =>
      have hmore : groupsOfAll (p :: ps) = groupsOfAll (p :: joinLiterals ps) := by
        rw [groupsOfAll, groupsOfAll, ih]
      rw [hmore, joinLiterals.eq_def (p :: ps)]
      dsimp only
      split
      · rename_i s t rest hrest
        simp [hrest, groupsOfAll, groups]
      · rfl

theorem groups_ofConcat (ps : List Pattern) : groups (ofConcat ps) = groupsOfAll ps := by
  have hparts : groupsOfAll (joinLiterals (ps.flatMap partsOf)) = groupsOfAll ps :=
    (groupsOfAll_joinLiterals _).trans (groupsOfAll_flatMap groupsOfAll_partsOf ps)
  rw [← hparts, ofConcat]
  split
  · rename_i hnil
    simp [hnil, groups, groupsOfAll]
  · rename_i p hp
    simp [hp, groupsOfAll]
  · rw [groups]

theorem groups_ofSet (s : CharSet) (bytewise : Bool) : groups (ofSet s bytewise) = 0 := by
  rw [ofSet]
  split <;> rfl

theorem groups_of_letter? {p : Pattern} {c : Char} (h : letter? p = some c) : groups p = 0 := by
  cases p with
  | literal text => rfl
  | _ => cases h

theorem groups_of_members? {p : Pattern} {s : CharSet} (h : members? p = some s) :
    groups p = 0 := by
  cases p with
  | set s bytewise => rfl
  | _ => cases h

/-- Branches that make one set have no groups. -/
theorem groups_ofBranches (ps : List Pattern) : groups (ofBranches ps) = groupsOfAll ps := by
  rw [← groupsOfAll_flatMap groupsOfAll_branchesOf ps, ofBranches]
  split
  · rename_i hnil
    rw [hnil]
    rfl
  · rename_i p hp
    simp [hp, groupsOfAll]
  · split
    · rename_i cs hcs
      rw [groups_ofSet, groupsOfAll_eq_zero]
      intro p hp
      obtain ⟨c, hc⟩ := Result.exists_of_mapM_eq_some hcs hp
      exact groups_of_letter? hc
    · split
      · rename_i sets hsets
        rw [groups_ofSet, groupsOfAll_eq_zero]
        intro p hp
        obtain ⟨s, hs⟩ := Result.exists_of_mapM_eq_some hsets hp
        exact groups_of_members? hs
      · rw [groups]

/-- Sequences have as many parts in common as are told. -/
theorem take_eq_take {ps qs : List Pattern} {n : Nat} (h : n ≤ commonLength ps qs) :
    ps.take n = qs.take n := by
  induction ps generalizing qs n with
  | nil =>
      obtain rfl : n = 0 := by simpa [commonLength] using h
      rfl
  | cons p ps ih =>
      cases qs with
      | nil =>
          obtain rfl : n = 0 := by simpa [commonLength] using h
          rfl
      | cons q qs =>
          cases n with
          | zero => rfl
          | succ n =>
              rw [commonLength, List.zip_cons_cons, List.takeWhile_cons] at h
              split at h
              · rename_i hsame
                have hhead : p = q := eq_of_same hsame
                have hrest : n ≤ commonLength ps qs := Nat.le_of_succ_le_succ h
                rw [List.take_succ_cons, List.take_succ_cons, hhead, ih hrest]
              · cases h

theorem eq_map_of_sequences {ps : List Pattern} {ss : List (List Pattern)}
    (h : ps.mapM sequence? = some ss) : ps = ss.map .concat := by
  induction ps generalizing ss with
  | nil =>
      cases h
      rfl
  | cons p ps ih =>
      rw [List.mapM_cons] at h
      obtain ⟨s, hs, h⟩ := Option.bind_eq_some_iff.mp h
      obtain ⟨rest, hrest, h⟩ := Option.bind_eq_some_iff.mp h
      cases h
      cases p with
      | concat qs =>
          cases hs
          rw [List.map_cons, ← ih hrest]
      | _ => cases hs

theorem foldl_min_le {α : Type} (f : α → Nat) (xs : List α) (n : Nat) :
    xs.foldl (fun m x => min m (f x)) n ≤ n ∧
      ∀ x ∈ xs, xs.foldl (fun m x => min m (f x)) n ≤ f x := by
  induction xs generalizing n with
  | nil => simp
  | cons x xs ih =>
      obtain ⟨hle, hall⟩ := ih (min n (f x))
      refine ⟨Nat.le_trans hle (Nat.min_le_left _ _), List.forall_mem_cons.mpr ⟨?_, hall⟩⟩
      exact Nat.le_trans hle (Nat.min_le_right _ _)

/-- Sequences that begin alike lose no group if what they share is written once. -/
theorem groupsOfAll_shared {first : List Pattern} {n : Nat} {ss : List (List Pattern)}
    (h : ∀ s ∈ ss, first.take n = s.take n) :
    max (groupsOfAll (first.take n)) (groupsOfAll (ss.map fun s => ofConcat (s.drop n))) =
      max (groupsOfAll (first.take n)) (groupsOfAll (ss.map .concat)) := by
  induction ss with
  | nil => rfl
  | cons s ss ih =>
      obtain ⟨hs, hss⟩ := List.forall_mem_cons.mp h
      have hsplit : groupsOfAll s = max (groupsOfAll (first.take n)) (groupsOfAll (s.drop n)) := by
        rw [hs, ← groupsOfAll_append, List.take_append_drop]
      have hrest := ih hss
      simp only [List.map_cons, groupsOfAll, groups, groups_ofConcat, hsplit]
      omega

theorem groups_ofAlternation (ps : List Pattern) :
    groups (ofAlternation ps) = groupsOfAll ps := by
  rw [← groups_ofBranches ps, ofAlternation]
  cases hbranches : ofBranches ps with
  | alternation qs =>
      dsimp only
      split
      · rename_i first others hsequences
        split
        · rfl
        · obtain ⟨_, hothers⟩ :=
            foldl_min_le (fun s => commonLength first s) others first.length
          generalize others.foldl (fun n s => min n (commonLength first s)) first.length = n at *
          have hshared : ∀ s ∈ first :: others, first.take n = s.take n :=
            List.forall_mem_cons.mpr ⟨rfl, fun s hs => take_eq_take (hothers s hs)⟩
          have hsplit : groupsOfAll first =
              max (groupsOfAll (first.take n)) (groupsOfAll (first.drop n)) := by
            rw [← groupsOfAll_append, List.take_append_drop]
          have hsame := groupsOfAll_shared hshared
          rw [groups_ofConcat, groupsOfAll_append, groups, eq_map_of_sequences hsequences]
          rw [groupsOfAll, groupsOfAll, Nat.max_zero, groups_ofBranches, hsame, List.map_cons,
            groupsOfAll, groups]
          omega
      · rfl
  | _ => rfl

end Pattern

/-! ## Meaning -/

theorem groups_of_letterMeaning? {f : Flags} {l : Letter} {p : Pattern}
    (h : letterMeaning? f l = some p) : p.groups = 0 := by
  have hbothCases : ∀ (cased : Bool) (s : CharSet) (bytewise : Bool),
      (if cased then Pattern.ofSet s bytewise else .literal [l.char]).groups = 0 := by
    intro cased s bytewise
    cases cased with
    | false => rfl
    | true => exact Pattern.groups_ofSet s bytewise
  unfold letterMeaning? at h
  split at h
  · cases h
  · split at h
    · cases h
      rfl
    · split at h
      · cases h
        exact hbothCases _ _ _
      · cases h
        exact hbothCases _ _ _

theorem groups_of_dotMeaning? {f : Flags} {p : Pattern} (h : dotMeaning? f = some p) :
    p.groups = 0 := by
  unfold dotMeaning? at h
  split at h
  · cases h
  · split at h
    · cases h
      exact Pattern.groups_ofSet _ _
    · split at h <;> cases h <;> exact Pattern.groups_ofSet _ _

mutual

/-- What a tree means has the groups that the tree keeps. -/
theorem groups_of_meaning? {f g : Flags} {t : Tree} {p : Pattern}
    (h : meaning? f t = some (p, g)) : p.groups = highest t.kept := by
  cases t with
  | empty =>
      cases h
      rfl
  | flags change =>
      cases h
      rfl
  | letter l =>
      obtain ⟨q, hq, h⟩ := Option.bind_eq_some_iff.mp h
      cases h
      exact groups_of_letterMeaning? hq
  | dot =>
      obtain ⟨q, hq, h⟩ := Option.bind_eq_some_iff.mp h
      cases h
      exact groups_of_dotMeaning? hq
  | assertion kind =>
      cases h
      rfl
  | unicode query negated =>
      obtain ⟨s, _, h⟩ := Option.bind_eq_some_iff.mp h
      cases h
      exact Pattern.groups_ofSet _ _
  | shorthand kind negated =>
      obtain ⟨s, _, h⟩ := Option.bind_eq_some_iff.mp h
      cases h
      exact Pattern.groups_ofSet _ _
  | set negated inner =>
      obtain ⟨s, _, h⟩ := Option.bind_eq_some_iff.mp h
      obtain ⟨s', _, h⟩ := Option.bind_eq_some_iff.mp h
      cases h
      exact Pattern.groups_ofSet _ _
  | repeated min max greedy body =>
      obtain ⟨⟨q, g'⟩, hbody, h⟩ := Option.bind_eq_some_iff.mp h
      cases h
      rw [Pattern.groups_ofRepetition, groups_of_meaning? hbody, Tree.kept]
      split <;> rfl
  | group change body =>
      obtain ⟨⟨q, g'⟩, hbody, h⟩ := Option.bind_eq_some_iff.mp h
      cases h
      rw [groups_of_meaning? hbody, Tree.kept]
  | capture index body =>
      obtain ⟨⟨q, g'⟩, hbody, h⟩ := Option.bind_eq_some_iff.mp h
      cases h
      rw [Pattern.groups, groups_of_meaning? hbody, Tree.kept, highest_cons]
  | alternation branches =>
      obtain ⟨⟨qs, g'⟩, hbranches, h⟩ := Option.bind_eq_some_iff.mp h
      cases h
      rw [Pattern.groups_ofAlternation, groups_of_meanings? hbranches, Tree.kept]
  | concat parts =>
      obtain ⟨⟨qs, g'⟩, hparts, h⟩ := Option.bind_eq_some_iff.mp h
      cases h
      rw [Pattern.groups_ofConcat, groups_of_meanings? hparts, Tree.kept]
termination_by structural t

theorem groups_of_meanings? {f g : Flags} {ts : List Tree} {ps : List Pattern}
    (h : meanings? f ts = some (ps, g)) : Pattern.groupsOfAll ps = highest (treesKept ts) := by
  cases ts with
  | nil =>
      cases h
      rfl
  | cons t rest =>
      obtain ⟨⟨p, g'⟩, ht, h⟩ := Option.bind_eq_some_iff.mp h
      obtain ⟨⟨ps', g''⟩, hrest, h⟩ := Option.bind_eq_some_iff.mp h
      cases h
      rw [Pattern.groupsOfAll, groups_of_meaning? ht, groups_of_meanings? hrest, treesKept,
        highest_append]
termination_by structural ts

end

/-! ## Compiling -/

/-- The groups of a regular expression are those up to the last one of its pattern that is in no
part repeated no times. -/
theorem groups_of_compile {source : String} {limit : Nat} {r : Regex}
    (h : compile source limit = .ok r) :
    ∃ t, read? source.toList = some t ∧ t.numbers = List.range' 1 t.numbers.length ∧
      r.groups = highest t.kept := by
  unfold compile at h
  split at h
  · cases h
  · rename_i t ht
    split at h
    · cases h
    · rename_i p hp
      split at h
      · cases h
      · cases h
        obtain ⟨⟨q, g⟩, hmeaning, rfl⟩ := Option.map_eq_some_iff.mp hp
        exact ⟨t, ht, numbers_of_read? ht, groups_of_meaning? hmeaning⟩

/-- If all groups are kept, their count is that of the pattern as written. -/
theorem groups_of_kept {source : String} {limit : Nat} {r : Regex} {t : Tree}
    (h : compile source limit = .ok r) (ht : read? source.toList = some t)
    (hkept : t.kept = t.numbers) : r.groups = t.numbers.length := by
  obtain ⟨t', ht', hnumbers, hgroups⟩ := groups_of_compile h
  cases ht.symm.trans ht'
  rw [hgroups, hkept, hnumbers, highest_range, List.length_range']

/-- How many captures a text gives that matches is read off the pattern as written: the whole match
and the groups up to the last one that is kept. -/
theorem size_captures_of_compile {source : String} {limit : Nat} {r : Regex}
    (h : compile source limit = .ok r) :
    ∃ t, read? source.toList = some t ∧ ∀ text c, (Operator.pattern r).captures? text = some c →
      c.size = highest t.kept + 1 := by
  obtain ⟨t, ht, _, hgroups⟩ := groups_of_compile h
  refine ⟨t, ht, fun text c hc => ?_⟩
  have hsize : c.size = r.groups + 1 := Operator.size_captures hc
  rw [hsize, hgroups]

end Regex
end EnvelopeRules
