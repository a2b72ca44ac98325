import Mathlib.Data.List.DropRight
import Capstk.Lib.Sha256
import Capstk.Services
import Capstk.Webhook

/-!
# Names of targets

`targetName` makes a label of a machine name: dots become dashes, an overlong name is cut, and the
digest of the original is appended. The result always has the form the load balancer API asks for.
It does not always tell two machines apart: a machine may have the name that the digest gives
another one, and seven digits can coincide.
-/

namespace Capstk

open NameRules

variable {s x y : List Char} {c sep : Char} {sha256Hex : String → String} {name : String}

/-! ### Machine names -/

/-- The letters and digits of a name. -/
def isNameChar (c : Char) : Bool := c.isLower || c.isDigit

theorem isAlphanum_of_isNameChar (h : isNameChar c = true) : c.isAlphanum = true := by
  show ((c.isUpper || c.isLower) || c.isDigit) = true
  rcases Bool.or_eq_true_iff.1 h with h | h
  · rw [h, Bool.or_true, Bool.true_or]
  · rw [h, Bool.or_true]

theorem ne_dash_of_isNameChar (h : isNameChar c = true) : c ≠ '-' := by
  rintro rfl
  exact absurd h (by decide)

theorem ne_dot_of_isNameChar (h : isNameChar c = true) : c ≠ '.' := by
  rintro rfl
  exact absurd h (by decide)

/-- What of an RFC 1123 subdomain its target name depends on. -/
structure Subdomain (s : List Char) : Prop where
  chars : ∀ c ∈ s, isNameChar c = true ∨ c = '-' ∨ c = '.'
  head : ∃ c rest, s = c :: rest ∧ isNameChar c = true
  last : ∃ init c, s = init ++ [c] ∧ isNameChar c = true

theorem mem_splitAt (hc : c ∈ s) : c = sep ∨ ∃ part ∈ splitAt sep s, c ∈ part := by
  induction s with
  | nil => cases hc
  | cons d s ih =>
    unfold splitAt
    rcases List.mem_cons.1 hc with rfl | hc
    · split
      · exact .inr ⟨[c], by simp, by simp⟩
      · by_cases hsep : c = sep
        · exact .inl hsep
        · exact .inr (by simp [hsep])
    · rcases ih hc with hsep | ⟨part, hpart, hmem⟩
      · exact .inl hsep
      · refine .inr ?_
        split
        · simp_all
        · rename_i p ps heq
          rw [heq] at hpart
          by_cases hd : d = sep
          · exact ⟨part, by simp_all, hmem⟩
          · rcases List.mem_cons.1 hpart with rfl | hpart
            · exact ⟨d :: part, by simp [hd], by simp [hmem]⟩
            · exact ⟨part, by simp [hd, hpart], hmem⟩

theorem splitAt_cons (sep d : Char) (s : List Char) :
    ∃ part parts, splitAt sep (d :: s) = part :: parts ∧
    (part = [] ∨ ∃ rest, part = d :: rest) := by
  unfold splitAt
  split
  · exact ⟨[d], [], rfl, .inr ⟨[], rfl⟩⟩
  · rename_i p ps _
    by_cases hd : d = sep
    · exact ⟨[], p :: ps, by simp [hd], .inl rfl⟩
    · exact ⟨d :: p, ps, by simp [hd], .inr ⟨p, rfl⟩⟩

theorem splitAt_last (sep : Char) (s : List Char) :
    ∃ parts last init, splitAt sep s = parts ++ [last] ∧ s = init ++ last ∧
    (parts = [] → init = []) := by
  induction s with
  | nil => exact ⟨[], [], [], rfl, rfl, fun _ => rfl⟩
  | cons d s ih =>
    obtain ⟨parts, last, init, heq, rfl, hinit⟩ := ih
    unfold splitAt
    cases parts with
    | nil =>
      obtain rfl := hinit rfl
      rw [heq]
      by_cases hd : d = sep
      · exact ⟨[[]], last, [d], by simp [hd], by simp, by simp⟩
      · exact ⟨[], d :: last, [], by simp [hd], by simp, by simp⟩
    | cons p ps =>
      rw [heq]
      by_cases hd : d = sep
      · exact ⟨[] :: p :: ps, last, d :: init, by simp [hd], by simp, by simp⟩
      · exact ⟨(d :: p) :: ps, last, d :: init, by simp [hd], by simp, by simp⟩

theorem dns1123LabelFmt_iff : dns1123LabelFmt s = true ↔
    (∃ c, s.head? = some c ∧ isNameChar c = true) ∧
    (∃ c, s.getLast? = some c ∧ isNameChar c = true) ∧
      ∀ c ∈ s, isNameChar c = true ∨ c = '-' := by
  simp [dns1123LabelFmt, isNameChar, Option.any_eq_true, and_assoc]

theorem subdomain_of_valid (h : kubernetes.isDNS1123Subdomain name = []) :
    Subdomain name.toList := by
  have hparts : ∀ part ∈ splitAt '.' name.toList, dns1123LabelFmt part = true := by
    have h' := (List.append_eq_nil_iff.1 h).2
    by_contra hnone
    rw [if_neg (by rwa [List.all_eq_true])] at h'
    cases h'
  generalize name.toList = s at hparts
  refine ⟨fun c hc => ?chars, ?head, ?last⟩
  case chars =>
    rcases mem_splitAt hc with hdot | ⟨part, hpart, hmem⟩
    · exact .inr (.inr hdot)
    · exact ((dns1123LabelFmt_iff.1 (hparts part hpart)).2.2 c hmem).imp_right .inl
  case last =>
    obtain ⟨parts, last, init, heq, rfl, -⟩ := splitAt_last '.' s
    obtain ⟨-, ⟨c, hc, hchar⟩, -⟩ := dns1123LabelFmt_iff.1 (hparts last (by simp [heq]))
    obtain ⟨start, rfl⟩ := List.getLast?_eq_some_iff.1 hc
    exact ⟨init ++ start, c, by simp, hchar⟩
  case head =>
    cases s with
    | nil => exact absurd (hparts [] (by simp [splitAt])) (by decide)
    | cons d s =>
      obtain ⟨part, parts, heq, hpart⟩ := splitAt_cons '.' d s
      obtain ⟨⟨c, hc, hchar⟩, -⟩ := dns1123LabelFmt_iff.1 (hparts part (by simp [heq]))
      rcases hpart with rfl | ⟨rest, rfl⟩
      · cases hc
      · cases hc
        exact ⟨d, s, rfl, hchar⟩

/-! ### The name before its digest -/

/-- The digest has at least seven lowercase hexadecimal digits. -/
structure HexDigest (sha256Hex : String → String) : Prop where
  length (s : String) : 7 ≤ (sha256Hex s).toList.length
  digits (s : String) : ∀ c ∈ (sha256Hex s).toList, c ∈ Sha256.hexDigits

theorem hexDigest_sha256 : HexDigest Sha256.hex where
  length s := by rw [Sha256.length_hex]; decide
  digits _ _ := Sha256.mem_hexDigits_of_mem_hex

/-- The digits of the digest that the target name carries. -/
def shortDigest (sha256Hex : String → String) (name : String) : List Char :=
  (sha256Hex name).toList.take 7

theorem HexDigest.length_shortDigest (h : HexDigest sha256Hex) (name : String) :
    (shortDigest sha256Hex name).length = 7 := by
  have := h.length name
  rw [shortDigest, List.length_take]
  omega

theorem HexDigest.isNameChar (h : HexDigest sha256Hex) (hc : c ∈ shortDigest sha256Hex name) :
    isNameChar c = true := by
  have hdigits : Sha256.hexDigits.all Capstk.isNameChar = true := by decide
  exact List.all_eq_true.1 hdigits c (h.digits name c (List.mem_of_mem_take hc))

/-- A name that is a label already. -/
def IsLabel (name : String) : Prop := name.toList.length ≤ 63 ∧ '.' ∉ name.toList

def dashed (c : Char) : Char := if c = '.' then '-' else c

/-- The part of the target name before the digest. -/
def stem (s : List Char) : List Char :=
  if 55 < s.length then trimRightDashes ((s.map dashed).take 55) else s.map dashed

theorem targetName_of_isLabel (h : IsLabel name) : targetName sha256Hex name = name := if_pos h

theorem targetName_of_not_isLabel (hhex : HexDigest sha256Hex) (h : ¬ IsLabel name) :
    (targetName sha256Hex name).toList = stem name.toList ++ '-' :: shortDigest sha256Hex name := by
  have hlength : ('-' :: (sha256Hex name).toList.take 7).length = 8 :=
    congrArg Nat.succ (hhex.length_shortDigest name)
  unfold IsLabel at h
  rw [targetName, if_neg h]
  simp only [hlength, List.length_map, String.toList_ofList]
  rfl

theorem trimRightDashes_eq (s : List Char) : trimRightDashes s = s.rdropWhile (· = '-') := rfl

theorem dashed_of_isNameChar (h : isNameChar c = true) : dashed c = c :=
  if_neg (ne_dot_of_isNameChar h)

theorem isNameChar_or_dash (h : Subdomain s) :
    ∀ c ∈ s.map dashed, isNameChar c = true ∨ c = '-' := by
  intro c hc
  obtain ⟨d, hd, rfl⟩ := List.mem_map.1 hc
  rcases h.chars d hd with hchar | rfl | rfl
  · exact .inl (by rwa [dashed_of_isNameChar hchar])
  · exact .inr rfl
  · exact .inr rfl

theorem length_stem_le (s : List Char) : (stem s).length ≤ 55 := by
  unfold stem
  split
  · have hle := (List.rdropWhile_prefix (fun c => c = '-') ((s.map dashed).take 55)).length_le
    rw [← trimRightDashes_eq] at hle
    exact hle.trans (List.length_take_le _ _)
  · rw [List.length_map]
    omega

theorem mem_stem (hc : c ∈ stem s) : c ∈ s.map dashed := by
  unfold stem at hc
  split at hc
  · exact List.mem_of_mem_take ((List.rdropWhile_prefix _ _).subset hc)
  · exact hc

theorem head_stem (h : Subdomain s) : ∃ c rest, stem s = c :: rest ∧ isNameChar c = true := by
  obtain ⟨c, rest, rfl, hc⟩ := h.head
  unfold stem
  split
  · have hmap : ((c :: rest).map dashed).take 55 = c :: (rest.map dashed).take 54 := by
      rw [List.map_cons, dashed_of_isNameChar hc]
      rfl
    rw [hmap, trimRightDashes_eq]
    cases htrim : (c :: (rest.map dashed).take 54).rdropWhile (· = '-') with
    | nil =>
      have hall := List.rdropWhile_eq_nil_iff.1 htrim c List.mem_cons_self
      exact absurd (of_decide_eq_true hall) (ne_dash_of_isNameChar hc)
    | cons d ds =>
      obtain ⟨tail, heq⟩ :=
        htrim ▸ List.rdropWhile_prefix (· = '-') (c :: (rest.map dashed).take 54)
      obtain rfl : d = c := (List.cons.inj heq).1
      exact ⟨d, ds, rfl, hc⟩
  · exact ⟨c, rest.map dashed, by rw [List.map_cons, dashed_of_isNameChar hc], hc⟩

/-! ### The form of a target name -/

/-- The pattern `^[0-9a-zA-Z]((?:[0-9a-zA-Z]|-){0,61}[0-9a-zA-Z])?$` of the load balancer API. -/
def TargetNamePattern (s : List Char) : Prop :=
  ∃ c rest, s = c :: rest ∧ c.isAlphanum = true ∧
    (rest = [] ∨ ∃ middle d, rest = middle ++ [d] ∧ (∀ m ∈ middle, m.isAlphanum = true ∨ m = '-') ∧
      middle.length ≤ 61 ∧ d.isAlphanum = true)

theorem targetNamePattern_of (hhead : ∃ c rest, s = c :: rest ∧ isNameChar c = true)
    (hlast : ∃ init d, s = init ++ [d] ∧ isNameChar d = true)
    (hchars : ∀ c ∈ s, isNameChar c = true ∨ c = '-') (hlength : s.length ≤ 63) :
    TargetNamePattern s := by
  obtain ⟨c, rest, rfl, hc⟩ := hhead
  obtain ⟨init, d, heq, hd⟩ := hlast
  refine ⟨c, rest, rfl, isAlphanum_of_isNameChar hc, ?_⟩
  cases init with
  | nil => exact .inl (List.cons.inj heq).2
  | cons e middle =>
    obtain rfl : rest = middle ++ [d] := (List.cons.inj heq).2
    refine .inr ⟨middle, d, rfl, fun m hm => ?_, ?_, isAlphanum_of_isNameChar hd⟩
    · exact (hchars m (by simp [hm])).imp_left isAlphanum_of_isNameChar
    · simp only [List.length_cons, List.length_append, List.length_nil] at hlength
      omega

theorem TargetNamePattern.isLabel (h : TargetNamePattern name.toList) : IsLabel name := by
  have halnum : ∀ c : Char, c.isAlphanum = true → '.' ≠ c := by
    rintro c hc rfl
    exact absurd hc (by decide)
  obtain ⟨c, rest, heq, hc, hrest⟩ := h
  unfold IsLabel
  rw [heq]
  rcases hrest with rfl | ⟨middle, d, rfl, hmiddle, hlength, hd⟩
  · exact ⟨by simp, by simp [halnum c hc]⟩
  · refine ⟨by simp; omega, ?_⟩
    have hdot : '.' ∉ middle := fun hmem => by
      rcases hmiddle _ hmem with hm | hm
      · exact halnum _ hm rfl
      · cases hm
    simp [halnum c hc, halnum d hd, hdot]

theorem pattern_of_isLabel (hsub : Subdomain s) (hlength : s.length ≤ 63) (hdot : '.' ∉ s) :
    TargetNamePattern s := by
  refine targetNamePattern_of hsub.head hsub.last (fun c hc => ?_) hlength
  rcases hsub.chars c hc with hchar | hdash | rfl
  · exact .inl hchar
  · exact .inr hdash
  · exact absurd hc hdot

theorem pattern_of_digest (hhex : HexDigest sha256Hex) (hsub : Subdomain s) :
    TargetNamePattern (stem s ++ '-' :: shortDigest sha256Hex name) := by
  have hlength := hhex.length_shortDigest name
  have hstem := length_stem_le s
  obtain ⟨c, rest, hhead, hc⟩ := head_stem hsub
  refine targetNamePattern_of ⟨c, rest ++ '-' :: shortDigest sha256Hex name, by rw [hhead]; rfl, hc⟩
    ?last ?chars ?length
  case last =>
    rcases List.eq_nil_or_concat (shortDigest sha256Hex name) with hnil | ⟨init, d, hdigest⟩
    · rw [hnil] at hlength
      cases hlength
    · have hmem : d ∈ shortDigest sha256Hex name := by simp [hdigest]
      exact ⟨stem s ++ '-' :: init, d, by simp [hdigest], hhex.isNameChar hmem⟩
  case chars =>
    intro d hd
    rcases List.mem_append.1 hd with hd | hd
    · exact isNameChar_or_dash hsub d (mem_stem hd)
    · rcases List.mem_cons.1 hd with rfl | hd
      · exact .inr rfl
      · exact .inl (hhex.isNameChar hd)
  case length =>
    rw [List.length_append, List.length_cons, hlength]
    omega

/-- Every target name has the form the load balancer API asks for, and a machine name of that form
is kept. -/
theorem targetName_acceptable (sha256Hex : String → String) (hhex : HexDigest sha256Hex)
    (name : String) (hname : kubernetes.isDNS1123Subdomain name = []) :
    (targetName sha256Hex name).length ≤ 63 ∧ TargetNamePattern (targetName sha256Hex name).toList ∧
      (TargetNamePattern name.toList → targetName sha256Hex name = name) := by
  have hsub := subdomain_of_valid hname
  have hpattern : TargetNamePattern (targetName sha256Hex name).toList := by
    by_cases hlabel : IsLabel name
    · rw [targetName_of_isLabel hlabel]
      exact pattern_of_isLabel hsub hlabel.1 hlabel.2
    · rw [targetName_of_not_isLabel hhex hlabel]
      exact pattern_of_digest hhex hsub
  refine ⟨?_, hpattern, fun h => targetName_of_isLabel h.isLabel⟩
  rw [← String.length_toList]
  exact hpattern.isLabel.1

/-- The cut of an overlong name falls behind dashes, which go with it. -/
theorem targetName_acceptable_cut :
    let name := "control-plane-of-a-cluster-with-a-rather-long-name.in---eu01.example.org"
    targetName Sha256.hex name = "control-plane-of-a-cluster-with-a-rather-long-name-in-0939206" ∧
      TargetNamePattern (targetName Sha256.hex name).toList := by
  intro name
  refine ⟨by decide +kernel, ?_⟩
  exact (targetName_acceptable Sha256.hex hexDigest_sha256 name (by decide +kernel)).2.1

/-! ### Names that clash -/

/-- The character at a position, where a dot is a dash and the name goes on with dashes. -/
def readAt (s : List Char) (i : Nat) : Char := dashed (s.getD i '-')

/-- The names read alike up to where an overlong one is cut. -/
def ReadAlike (x y : List Char) : Prop := ∀ i < 55, readAt x i = readAt y i

/-- The label `a` is what the digest makes of `b`: a name that reads like `b`, a dash and the digest
of `b`. -/
def Imitates (sha256Hex : String → String) (a b : String) : Prop :=
  IsLabel a ∧ ¬ IsLabel b ∧ ∃ x, a.toList = x ++ '-' :: shortDigest sha256Hex b ∧
    x.getLast? ≠ some '-' ∧
    ReadAlike x b.toList

/-- One of the names imitates the other, or both need a digest and nothing that is left of them
differs. -/
def Clash (sha256Hex : String → String) (a b : String) : Prop :=
  Imitates sha256Hex a b ∨ Imitates sha256Hex b a ∨
    ¬ IsLabel a ∧ ¬ IsLabel b ∧ shortDigest sha256Hex a = shortDigest sha256Hex b ∧
    ReadAlike a.toList b.toList

theorem getD_trimRightDashes (s : List Char) (i : Nat) :
    (trimRightDashes s).getD i '-' = s.getD i '-' := by
  induction s using List.reverseRecOn with
  | nil => rfl
  | append_singleton s c ih =>
    rw [trimRightDashes_eq] at ih ⊢
    by_cases hc : c = '-'
    · rw [List.rdropWhile_concat_pos _ _ _ (by simpa using hc), ih, hc]
      rcases Nat.lt_or_ge i s.length with hi | hi
      · rw [List.getD_append _ _ _ _ hi]
      · rw [List.getD_append_right _ _ _ _ hi, List.getD_eq_default _ _ hi]
        cases i - s.length <;> rfl
    · rw [List.rdropWhile_concat_neg _ _ _ (by simpa using hc)]

theorem getD_map_dashed (s : List Char) (i : Nat) : (s.map dashed).getD i '-' = readAt s i :=
  List.getD_map s '-' dashed

/-- Lists that do not end in a dash are determined by their reading. -/
theorem eq_of_getD_eq (hx : x.getLast? ≠ some '-') (hy : y.getLast? ≠ some '-')
    (h : ∀ i, x.getD i '-' = y.getD i '-') : x = y := by
  have hle : ∀ {x y : List Char}, y.getLast? ≠ some '-' → (∀ i, x.getD i '-' = y.getD i '-') →
      y.length ≤ x.length := by
    intro x y hy h
    by_contra hlt
    have hlast := h (y.length - 1)
    rw [List.getD_eq_default _ _ (by omega), List.getD_eq_getElem _ _ (by omega)] at hlast
    refine hy ?_
    rw [List.getLast?_eq_getElem?, List.getElem?_eq_getElem (by omega), ← hlast]
  refine List.ext_getElem (Nat.le_antisymm (hle hx fun i => (h i).symm) (hle hy h)) fun i hi hi' =>
    ?_
  rw [← List.getD_eq_getElem _ '-' hi, ← List.getD_eq_getElem _ '-' hi']
  exact h i

theorem getLast_stem (h : Subdomain s) : (stem s).getLast? ≠ some '-' := by
  unfold stem
  split
  · intro hlast
    obtain ⟨init, heq⟩ := List.getLast?_eq_some_iff.1 hlast
    rw [trimRightDashes_eq] at heq
    have hne : ((s.map dashed).take 55).rdropWhile (· = '-') ≠ [] := by simp [heq]
    refine List.rdropWhile_last_not _ _ hne ?_
    simp [heq]
  · obtain ⟨init, c, rfl, hc⟩ := h.last
    simpa [dashed_of_isNameChar hc] using ne_dash_of_isNameChar hc

theorem getD_stem (s : List Char) (i : Nat) :
    (stem s).getD i '-' = if i < 55 then readAt s i else '-' := by
  unfold stem
  split
  · rw [getD_trimRightDashes, ← getD_map_dashed]
    split
    · simp [List.getD_eq_getElem?_getD, List.getElem?_take_of_lt ‹i < 55›]
    · exact List.getD_eq_default _ _ (by rw [List.length_take]; omega)
  · rw [getD_map_dashed]
    split
    · rfl
    · rw [readAt, List.getD_eq_default _ _ (by omega)]
      rfl

/-- What is left of two names is the same if they read alike. -/
theorem stem_eq_iff (hx : Subdomain x) (hy : Subdomain y) : stem x = stem y ↔ ReadAlike x y := by
  constructor
  · intro h i hi
    have hx := getD_stem x i
    have hy := getD_stem y i
    rw [if_pos hi] at hx hy
    rw [← hx, ← hy, h]
  · intro h
    refine eq_of_getD_eq (getLast_stem hx) (getLast_stem hy) fun i => ?_
    rw [getD_stem, getD_stem]
    split
    · exact h i ‹_›
    · rfl

theorem eq_stem_iff (hdot : '.' ∉ x) (hlength : x.length ≤ 55) (hy : Subdomain y) :
    x = stem y ↔ x.getLast? ≠ some '-' ∧ ReadAlike x y := by
  have hread : ∀ i, x.getD i '-' = readAt x i := by
    intro i
    rw [readAt, dashed, if_neg]
    intro heq
    rcases Nat.lt_or_ge i x.length with hi | hi
    · rw [List.getD_eq_getElem _ _ hi] at heq
      exact hdot (heq ▸ List.getElem_mem hi)
    · rw [List.getD_eq_default _ _ hi] at heq
      cases heq
  constructor
  · rintro rfl
    refine ⟨getLast_stem hy, fun i hi => ?_⟩
    rw [← hread, getD_stem, if_pos hi]
  · rintro ⟨hlast, halike⟩
    refine eq_of_getD_eq hlast (getLast_stem hy) fun i => ?_
    rw [getD_stem]
    split
    · rw [hread, halike i ‹_›]
    · exact List.getD_eq_default _ _ (by omega)

theorem targetName_eq_iff_imitates (hhex : HexDigest sha256Hex) {a b : String} (ha : IsLabel a)
    (hb : ¬ IsLabel b) (hsub : Subdomain b.toList) :
    targetName sha256Hex a = targetName sha256Hex b ↔ Imitates sha256Hex a b := by
  have hlength := hhex.length_shortDigest b
  rw [targetName_of_isLabel ha, ← String.toList_inj, targetName_of_not_isLabel hhex hb]
  constructor
  · intro heq
    have hdot := ha.2
    rw [heq] at hdot
    have hstem : '.' ∉ stem b.toList := fun h => hdot (List.mem_append_left _ h)
    obtain ⟨hlast, halike⟩ := (eq_stem_iff hstem (length_stem_le _) hsub).1 rfl
    exact ⟨ha, hb, stem b.toList, heq, hlast, halike⟩
  · rintro ⟨⟨hle, hdot⟩, -, x, heq, hlast, halike⟩
    rw [heq] at hle hdot ⊢
    rw [List.length_append, List.length_cons, hlength] at hle
    rw [(eq_stem_iff (fun h => hdot (List.mem_append_left _ h)) (by omega) hsub).2 ⟨hlast, halike⟩]

/-- Target names tell two machines apart exactly if their names do not clash. -/
theorem targetName_distinct_iff (sha256Hex : String → String) (hhex : HexDigest sha256Hex)
    (a b : String) (ha : kubernetes.isDNS1123Subdomain a = [])
    (hb : kubernetes.isDNS1123Subdomain b = []) (hne : a ≠ b) :
    targetName sha256Hex a ≠ targetName sha256Hex b ↔ ¬ Clash sha256Hex a b := by
  have hsa := subdomain_of_valid ha
  have hsb := subdomain_of_valid hb
  refine not_congr ?_
  unfold Clash
  by_cases hla : IsLabel a
  · by_cases hlb : IsLabel b
    · rw [targetName_of_isLabel hla, targetName_of_isLabel hlb]
      simp [hne, Imitates, hla, hlb]
    · rw [targetName_eq_iff_imitates hhex hla hlb hsb]
      simp [Imitates, hla, hlb]
  · by_cases hlb : IsLabel b
    · rw [eq_comm, targetName_eq_iff_imitates hhex hlb hla hsa]
      simp [Imitates, hla, hlb]
    · rw [← String.toList_inj, targetName_of_not_isLabel hhex hla,
        targetName_of_not_isLabel hhex hlb]
      have hsplit : stem a.toList ++ '-' :: shortDigest sha256Hex a = stem b.toList ++ '-' ::
          shortDigest sha256Hex b ↔
            stem a.toList = stem b.toList ∧ shortDigest sha256Hex a = shortDigest sha256Hex b := by
        constructor
        · intro heq
          obtain ⟨hstem, hdigest⟩ := List.append_inj' heq (by simp [hhex.length_shortDigest])
          exact ⟨hstem, (List.cons.inj hdigest).2⟩
        · rintro ⟨hstem, hdigest⟩
          rw [hstem, hdigest]
      rw [hsplit, stem_eq_iff hsa hsb]
      simp [Imitates, hla, hlb, and_comm]

/-- A machine with a dot in its name, and one whose name is the target name of the first. -/
theorem targetName_clash :
    kubernetes.isDNS1123Subdomain "a.b" = [] ∧ kubernetes.isDNS1123Subdomain "a-b-2e7336d" = [] ∧
      "a.b" ≠ "a-b-2e7336d" ∧ targetName Sha256.hex "a.b" = targetName Sha256.hex "a-b-2e7336d" :=
  by
  decide +kernel

/-- The names differ in a dot only, and one of them is a label. -/
theorem targetName_distinct_dot :
    targetName Sha256.hex "foo.bar-a" ≠ targetName Sha256.hex "foo-bar-a" := by
  refine (targetName_distinct_iff Sha256.hex hexDigest_sha256 "foo.bar-a" "foo-bar-a"
    (by decide +kernel)
    (by decide +kernel) (by decide)).2 ?_
  have hfirst : ¬ IsLabel "foo.bar-a" := by unfold IsLabel; decide
  have hsecond : IsLabel "foo-bar-a" := by unfold IsLabel; decide
  rintro (⟨hlabel, -⟩ | ⟨-, -, x, heq, -⟩ | ⟨-, hlabel, -⟩)
  · exact hfirst hlabel
  · -- the label does not end as the digest does
    have hdigest : shortDigest Sha256.hex "foo.bar-a" = "1ae3cf1".toList := by decide +kernel
    rw [hdigest] at heq
    have hend := congrArg List.getLast? heq
    simp at hend
  · exact hlabel hsecond

end Capstk
