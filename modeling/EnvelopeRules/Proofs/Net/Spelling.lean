import EnvelopeRules.Net.Address
import EnvelopeRules.Proofs.Result
import EnvelopeRules.Proofs.Text.Numerals

/-!
# Spelling of addresses

An address is read back from its written form, also where this leaves out a run of zero groups or
spells the last two groups as octets.
-/

namespace EnvelopeRules
namespace Address

/-! ## Pieces -/

section Pieces

variable {sep : Char} {piece : List Char}

theorem cut_of_notMem (h : sep ∉ piece) : cut sep piece = [piece] := by
  induction piece with
  | nil => rfl
  | cons c cs ih =>
      obtain ⟨hc, hcs⟩ := not_or.mp (mt List.mem_cons.mpr h)
      rw [cut, if_neg (Ne.symm hc), ih hcs]

theorem cut_append (h : sep ∉ piece) (rest : List Char) :
    cut sep (piece ++ sep :: rest) = piece :: cut sep rest := by
  induction piece with
  | nil => simp [cut]
  | cons c cs ih =>
      obtain ⟨hc, hcs⟩ := not_or.mp (mt List.mem_cons.mpr h)
      rw [List.cons_append, cut, if_neg (Ne.symm hc), ih hcs]

theorem cut_join {pieces : List (List Char)} (hne : pieces ≠ []) (h : ∀ p ∈ pieces, sep ∉ p) :
    cut sep (join sep pieces) = pieces := by
  induction pieces with
  | nil => exact absurd rfl hne
  | cons p rest ih =>
      obtain ⟨hp, hrest⟩ := List.forall_mem_cons.mp h
      cases rest with
      | nil => exact cut_of_notMem hp
      | cons q rest =>
          rw [join, cut_append hp, ih (List.cons_ne_nil _ _) hrest]
          exact List.cons_ne_nil _ _

theorem mem_cut (sep : Char) {c : Char} {cs : List Char} (h : c ∈ cs) :
    c = sep ∨ ∃ p ∈ cut sep cs, c ∈ p := by
  induction cs with
  | nil => cases h
  | cons d cs ih =>
      rw [cut]
      split
      · rename_i hd
        rcases List.mem_cons.mp h with rfl | h
        · exact .inl hd
        · obtain hc | ⟨p, hp, hcp⟩ := ih h
          · exact .inl hc
          · exact .inr ⟨p, List.mem_cons_of_mem _ hp, hcp⟩
      · split
        · rename_i hcut
          rcases List.mem_cons.mp h with rfl | h
          · exact .inr ⟨_, List.mem_singleton_self _, List.mem_singleton_self _⟩
          · obtain hc | ⟨p, hp, _⟩ := ih h
            · exact .inl hc
            · rw [hcut] at hp
              cases hp
        · rename_i q rest hcut
          rcases List.mem_cons.mp h with rfl | h
          · exact .inr ⟨_, List.mem_cons_self, List.mem_cons_self⟩
          · obtain hc | ⟨p, hp, hcp⟩ := ih h
            · exact .inl hc
            · rw [hcut] at hp
              rcases List.mem_cons.mp hp with rfl | hp
              · exact .inr ⟨_, List.mem_cons_self, List.mem_cons_of_mem _ hcp⟩
              · exact .inr ⟨p, List.mem_cons_of_mem _ hp, hcp⟩

end Pieces

/-! ## Octets -/

theorem octet?_octetText (n : UInt8) : octet? (octetText n) = some n := by
  have hdigits : (octetText n).all Char.isDigit := Decimal.all_isDigit_toDigits n.toNat
  have hvalue : Nat.ofDigitChars 10 (octetText n) 0 = n.toNat := Nat.ofDigitChars_ten_toDigits
  have hbound : n.toNat ≤ 255 := Nat.le_of_lt_succ n.toNat_lt
  have hlong : 1 ≤ (octetText n).length := Nat.length_toDigits_pos
  have hshort : (octetText n).length ≤ 3 :=
    (Nat.length_toDigits_le_iff (by decide) (by decide)).mpr (by omega)
  have hzero : (octetText n).head? = some '0' → (octetText n).length = 1 := by
    intro hhead
    have hn : n.toNat = 0 := Decimal.eq_zero_of_head?_toDigits hhead
    rw [octetText, hn]
    rfl
  rw [octet?, hvalue, if_pos ⟨hdigits, hlong, hshort, hzero, hbound⟩, UInt8.ofNat_toNat]

theorem isDigit_of_octet? {cs : List Char} {n : UInt8} (h : octet? cs = some n) {c : Char}
    (hc : c ∈ cs) : c.isDigit := by
  rw [octet?] at h
  split at h
  · rename_i hcs
    exact List.all_eq_true.mp hcs.1 c hc
  · cases h

theorem toList_octets (o : Vector UInt8 4) : o.toList = [o.get 0, o.get 1, o.get 2, o.get 3] := by
  obtain ⟨⟨l⟩, hl⟩ := o
  match l, hl with
  | [_, _, _, _], _ => rfl

theorem octets?_octetsText (o : Vector UInt8 4) : octets? (octetsText o) = some o := by
  have hpoint : ∀ p ∈ o.toList.map octetText, '.' ∉ p := by
    intro p hp hmem
    obtain ⟨n, _, rfl⟩ := List.mem_map.mp hp
    have hdigit := isDigit_of_octet? (octet?_octetText n) hmem
    revert hdigit
    decide
  have hne : o.toList.map octetText ≠ [] := by simp [toList_octets]
  have hread : (o.toList.map octetText).mapM octet? = some o.toList :=
    Result.mapM_map_of_inverse fun n _ => octet?_octetText n
  rw [octets?, octetsText, cut_join hne hpoint, hread, toList_octets]
  apply congrArg some
  apply Vector.toList_inj.mp
  exact (toList_octets o).symm

theorem isDigit_of_octets? {cs : List Char} {o : Vector UInt8 4} (h : octets? cs = some o)
    {c : Char} (hc : c ∈ cs) : c = '.' ∨ c.isDigit := by
  obtain hpoint | ⟨p, hp, hcp⟩ := mem_cut '.' hc
  · exact .inl hpoint
  · rw [octets?] at h
    cases hread : (cut '.' cs).mapM octet? with
    | none =>
        rw [hread] at h
        cases h
    | some l =>
        obtain ⟨n, hn⟩ := Result.exists_of_mapM_eq_some hread hp
        exact .inr (isDigit_of_octet? hn hcp)

/-- An address with a colon is not written as four octets. -/
theorem octets?_of_colon {cs : List Char} (h : ':' ∈ cs) : octets? cs = none := by
  rw [Option.eq_none_iff_forall_ne_some]
  intro o ho
  have hchar := isDigit_of_octets? ho h
  revert hchar
  decide

/-! ## Groups -/

theorem hexDigit_of_mem_groupText {n : UInt16} {c : Char} (h : c ∈ groupText n) :
    (CharSet.hexDigit? c).isSome :=
  CharSet.hexDigit?_of_mem_toDigits h

theorem colon_notMem_groupText (n : UInt16) : ':' ∉ groupText n := by
  intro h
  have hdigit := hexDigit_of_mem_groupText h
  revert hdigit
  decide

theorem point_notMem_groupText (n : UInt16) : '.' ∉ groupText n := by
  intro h
  have hdigit := hexDigit_of_mem_groupText h
  revert hdigit
  decide

theorem group?_groupText (n : UInt16) : group? (groupText n) = some n := by
  have hdigits : (groupText n).all fun c => (CharSet.hexDigit? c).isSome := by
    rw [List.all_eq_true]
    intro c hc
    exact hexDigit_of_mem_groupText hc
  have hlong : 1 ≤ (groupText n).length := Nat.length_toDigits_pos
  have hshort : (groupText n).length ≤ 4 :=
    (Nat.length_toDigits_le_iff (by decide) (by decide)).mpr n.toNat_lt
  have hvalue : CharSet.ofHex (groupText n) = n.toNat := CharSet.ofHex_toDigits n.toNat
  rw [group?, if_pos ⟨hdigits, hlong, hshort⟩, hvalue, UInt16.ofNat_toNat]

theorem octets?_groupText (n : UInt16) : octets? (groupText n) = none := by
  rw [octets?, cut_of_notMem (point_notMem_groupText n)]
  cases h : octet? (groupText n) <;> simp [h]

theorem groups?_cons_cons (p q : List Char) (rest : List (List Char)) :
    groups? (p :: q :: rest) =
      (group? p).bind fun g => (groups? (q :: rest)).map fun gs => g :: gs := by
  rw [groups?]
  · cases group? p with
    | none => rfl
    | some g => cases groups? (q :: rest) <;> rfl
  · simp

theorem groups?_texts (groups : List UInt16) : groups? (groups.map groupText) = some groups := by
  induction groups with
  | nil => rfl
  | cons g rest ih =>
      cases rest with
      | nil =>
          rw [List.map_singleton, groups?, octets?_groupText]
          simp [group?_groupText]
      | cons g' rest =>
          rw [List.map_cons, List.map_cons, groups?_cons_cons, ← List.map_cons, ih,
            group?_groupText]
          rfl

theorem groupsText_cons_cons (g g' : UInt16) (rest : List UInt16) :
    groupsText (g :: g' :: rest) = groupText g ++ ':' :: groupsText (g' :: rest) := rfl

/-- The text of some groups begins with a digit. -/
theorem exists_groupsText_cons (g : UInt16) (rest : List UInt16) :
    ∃ c cs, groupsText (g :: rest) = c :: cs ∧ c ≠ ':' := by
  obtain ⟨c, cs, hg⟩ := List.exists_cons_of_ne_nil (l := groupText g) Nat.toDigits_ne_nil
  have hc : c ≠ ':' := by
    rintro rfl
    exact colon_notMem_groupText g (hg ▸ List.mem_cons_self)
  cases rest with
  | nil => exact ⟨c, cs, hg, hc⟩
  | cons g' rest =>
      rw [groupsText_cons_cons, hg]
      exact ⟨c, _, rfl, hc⟩

theorem pieces_groupsText (groups : List UInt16) :
    pieces (groupsText groups) = groups.map groupText := by
  cases groups with
  | nil => rfl
  | cons g rest =>
      obtain ⟨c, cs, htext, _⟩ := exists_groupsText_cons g rest
      have hcolon : ∀ p ∈ (g :: rest).map groupText, ':' ∉ p := by
        intro p hp
        obtain ⟨n, _, rfl⟩ := List.mem_map.mp hp
        exact colon_notMem_groupText n
      have hcut := cut_join (by simp) hcolon
      rw [pieces, htext, List.isEmpty_cons, if_neg (by decide), ← htext]
      exact hcut

/-! ## Double colons -/

theorem cutDouble_append {piece : List Char} (h : ':' ∉ piece) (rest : List Char) :
    cutDouble (piece ++ rest) = (cutDouble rest).map fun r => (piece ++ r.1, r.2) := by
  induction piece with
  | nil => simp
  | cons c cs ih =>
      obtain ⟨hc, hcs⟩ := not_or.mp (mt List.mem_cons.mpr h)
      rw [List.cons_append, cutDouble, ih hcs, Option.map_map]
      · rfl
      · intro rest' hcolon
        exact absurd hcolon.symm hc

theorem cutDouble_colon {c : Char} (h : c ≠ ':') (cs : List Char) :
    cutDouble (':' :: c :: cs) = (cutDouble (c :: cs)).map fun r => (':' :: r.1, r.2) := by
  rw [cutDouble]
  intro rest _ hrest
  exact h (List.cons.inj hrest).1

/-- A text of groups has no double colon, and none begins where it ends. -/
theorem cutDouble_groupsText_append (groups : List UInt16) (rest : List Char) :
    cutDouble (groupsText groups ++ rest) =
      (cutDouble rest).map fun r => (groupsText groups ++ r.1, r.2) := by
  induction groups with
  | nil => simp [groupsText, join]
  | cons g gs ih =>
      cases gs with
      | nil => exact cutDouble_append (colon_notMem_groupText g) rest
      | cons g' gs =>
          obtain ⟨c, cs, htext, hc⟩ := exists_groupsText_cons g' gs
          rw [htext] at ih
          rw [groupsText_cons_cons, List.append_assoc, cutDouble_append (colon_notMem_groupText g),
            htext, List.cons_append, List.cons_append, cutDouble_colon hc, ← List.cons_append, ih]
          cases cutDouble rest <;> simp

theorem cutDouble_groupsText (groups : List UInt16) : cutDouble (groupsText groups) = none := by
  have h := cutDouble_groupsText_append groups []
  simpa [cutDouble] using h

theorem cutDouble_shortened (groups : List UInt16) (rest : List Char) :
    cutDouble (groupsText groups ++ "::".toList ++ rest) = some (groupsText groups, rest) := by
  rw [List.append_assoc, cutDouble_groupsText_append]
  simp [cutDouble]

/-! ## Runs of zeros -/

theorem takeWhile_zero (groups : List UInt16) :
    List.replicate (zeroRun groups) 0 ++ groups.drop (zeroRun groups) = groups := by
  induction groups with
  | nil => rfl
  | cons g rest ih =>
      by_cases hg : g = 0
      · subst hg
        have hrun : zeroRun (0 :: rest) = zeroRun rest + 1 := by simp [zeroRun]
        rw [hrun, List.replicate_succ, List.drop_succ_cons, List.cons_append, ih]
      · have hrun : zeroRun (g :: rest) = 0 := by simp [zeroRun, hg]
        rw [hrun]
        rfl

/-- What the written form leaves out are zeros. -/
theorem longestZeroRun_split (groups : List UInt16) :
    groups.take (longestZeroRun groups).1 ++ List.replicate (longestZeroRun groups).2 0 ++
      groups.drop ((longestZeroRun groups).1 + (longestZeroRun groups).2) = groups := by
  induction groups with
  | nil => rfl
  | cons g rest ih =>
      rw [longestZeroRun]
      split
      · have hzeros := takeWhile_zero (g :: rest)
        simpa using hzeros
      · rw [Nat.add_right_comm, List.take_succ_cons, List.drop_succ_cons, List.cons_append,
          List.cons_append, ih]

/-! ## Whole addresses -/

theorem ofGroups?_toList (groups : Vector UInt16 8) : ofGroups? groups.toList = some groups := by
  rw [ofGroups?, dif_pos groups.length_toList]
  rfl

theorem v6?_groupsText (groups : Vector UInt16 8) :
    v6? (groupsText groups.toList) = some groups := by
  rw [v6?, cutDouble_groupsText]
  dsimp only
  rw [pieces_groupsText, groups?_texts]
  exact ofGroups?_toList groups

/-- What stands on both sides of a double colon is filled up with zeros. -/
theorem v6?_of_cutDouble {cs before after : List Char} {front back : List UInt16} {zeros : Nat}
    {groups : Vector UInt16 8} (hcut : cutDouble cs = some (before, after))
    (hfront : (pieces before).mapM group? = some front) (hback : groups? (pieces after) = some back)
    (hsplit : front ++ List.replicate zeros 0 ++ back = groups.toList) (hzeros : 1 ≤ zeros) :
    v6? cs = some groups := by
  have hlength : front.length + zeros + back.length = 8 := by
    have h := congrArg List.length hsplit
    simpa only [List.length_append, List.length_replicate, groups.length_toList] using h
  have hcount : 8 - front.length - back.length = zeros := by omega
  have hroom : front.length + back.length ≤ 7 := by omega
  rw [v6?, hcut]
  simp only [hfront, hback, Option.bind_eq_bind, Option.bind_some, if_pos hroom, hcount, hsplit]
  exact ofGroups?_toList groups

theorem v6?_v6Text (groups : Vector UInt16 8) : v6? (v6Text groups.toList) = some groups := by
  rw [v6Text]
  split
  · exact v6?_groupsText groups
  · have hfront (front : List UInt16) : (pieces (groupsText front)).mapM group? = some front := by
      rw [pieces_groupsText]
      exact Result.mapM_map_of_inverse fun n _ => group?_groupText n
    have hback (back : List UInt16) : groups? (pieces (groupsText back)) = some back := by
      rw [pieces_groupsText, groups?_texts]
    have hsplit := longestZeroRun_split groups.toList
    exact v6?_of_cutDouble (cutDouble_shortened _ _) (hfront _) (hback _) hsplit (by omega)

theorem colon_mem_v6Text (groups : Vector UInt16 8) : ':' ∈ v6Text groups.toList := by
  rw [v6Text]
  split
  · obtain ⟨⟨l⟩, hl⟩ := groups
    match l, hl with
    | g :: g' :: rest, _ => simp [groupsText_cons_cons]
  · simp

theorem pair_bytes (n : UInt16) : pair (highByte n) (lowByte n) = n := by
  have hn := n.toNat_lt
  have hvalue : n.toNat / 256 % 256 * 256 + n.toNat % 256 = n.toNat := by omega
  rw [pair, highByte, lowByte, UInt8.toNat_ofNat', UInt8.toNat_ofNat']
  rw [hvalue, UInt16.ofNat_toNat]

theorem toList_of_mapped? {groups : Vector UInt16 8} {o : Vector UInt8 4}
    (h : mapped? groups = some o) :
    List.replicate 5 0 ++ 0xFFFF :: groupsOfOctets o = groups.toList := by
  rw [mapped?] at h
  split at h
  · rename_i a b hgroups
    cases h
    rw [hgroups]
    simp [groupsOfOctets, pair_bytes]
  · cases h

theorem colon_notMem_octetsText (o : Vector UInt8 4) : ':' ∉ octetsText o := by
  intro h
  have hchar := isDigit_of_octets? (octets?_octetsText o) h
  revert hchar
  decide

theorem v6?_mapped {groups : Vector UInt16 8} {o : Vector UInt8 4} (h : mapped? groups = some o) :
    v6? ("::ffff:".toList ++ octetsText o) = some groups := by
  have hcut : cutDouble ("::ffff:".toList ++ octetsText o) =
      some ([], "ffff".toList ++ ':' :: octetsText o) := by
    simp [cutDouble]
  have hpieces : pieces ("ffff".toList ++ ':' :: octetsText o) = ["ffff".toList, octetsText o] := by
    have hcolon : ':' ∉ "ffff".toList := by decide
    have hfront := cut_append hcolon (octetsText o)
    rw [cut_of_notMem (colon_notMem_octetsText o)] at hfront
    exact hfront
  have hback : groups? (pieces ("ffff".toList ++ ':' :: octetsText o)) =
      some (0xFFFF :: groupsOfOctets o) := by
    have hffff : group? "ffff".toList = some 0xFFFF := by decide
    rw [hpieces, groups?_cons_cons, hffff, groups?, octets?_octetsText]
    rfl
  have hfront : (pieces []).mapM group? = some [] := rfl
  have hsplit : [] ++ List.replicate 5 0 ++ 0xFFFF :: groupsOfOctets o = groups.toList :=
    toList_of_mapped? h
  exact v6?_of_cutDouble hcut hfront hback hsplit (by decide)

/-- The written form of an address is read as this address. -/
theorem parse?_text (a : Address) : parse? a.text = some a := by
  cases a with
  | v4 o =>
      rw [parse?, text, String.toList_ofList, octets?_octetsText]
  | v6 groups =>
      rw [text]
      split
      · rename_i o ho
        have hcolon : ':' ∈ "::ffff:".toList ++ octetsText o := by simp
        rw [parse?, String.toList_ofList, octets?_of_colon hcolon, v6?_mapped ho]
        rfl
      · rw [parse?, String.toList_ofList, octets?_of_colon (colon_mem_v6Text groups), v6?_v6Text]
        rfl

end Address
end EnvelopeRules
